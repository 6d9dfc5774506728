import ContestUploads.Lookup.Basic

/-!
# Tables of the upload catalog

Five tables: three of lookups, one of uploads, one of submissions.  A row is found by its id,
which is one more than the largest present when the row is added.  Moments are kept without an
offset, and what is kept is read as UTC.

* `Timestamp.read_ofMoment`: a moment in UTC is read back as it was stored;
* `inOrder_eq_self`: rows that stand in the order of their ids are not moved.
-/

namespace ContestUploads.Sql

/-- The tables. -/
inductive Table
  | upload
  | submission
  | uploadStatus
  | uploadType
  | submissionStatus
  deriving DecidableEq, Repr, Inhabited

/-- What the cells of a column hold. -/
inductive ColumnKind
  | integer
  | text
  | moment
  deriving DecidableEq, Repr

/-- A column of a table. -/
structure Column where
  name : String
  kind : ColumnKind
  deriving DecidableEq, Repr

namespace Table

/-- The name of a table. -/
def name : Table → String
  | .upload => "upload"
  | .submission => "submission"
  | .uploadStatus => "upload_status_lu"
  | .uploadType => "upload_type_lu"
  | .submissionStatus => "submission_status_lu"

/-- The word for the rows of a table. -/
def rowName : Table → String
  | .upload => "UploadRecord"
  | .submission => "SubmissionRecord"
  | .uploadStatus => "UploadStatusLookup"
  | .uploadType => "UploadTypeLookup"
  | .submissionStatus => "SubmissionStatusLookup"

/-- The columns of a table. -/
def columns : Table → List Column
  | .upload =>
      [⟨"id", .integer⟩, ⟨"project_id", .integer⟩, ⟨"owner", .integer⟩,
       ⟨"upload_type_id", .integer⟩, ⟨"upload_status_id", .integer⟩, ⟨"parameter", .text⟩,
       ⟨"create_user", .text⟩, ⟨"create_date", .moment⟩, ⟨"modify_user", .text⟩,
       ⟨"modify_date", .moment⟩]
  | .submission =>
      [⟨"id", .integer⟩, ⟨"upload_id", .integer⟩, ⟨"resource_id", .integer⟩,
       ⟨"submission_status_id", .integer⟩, ⟨"create_user", .text⟩, ⟨"create_date", .moment⟩,
       ⟨"modify_user", .text⟩, ⟨"modify_date", .moment⟩]
  | .uploadStatus | .uploadType | .submissionStatus =>
      [⟨"id", .integer⟩, ⟨"name", .text⟩, ⟨"description", .text⟩]

/-- The column with a name. -/
def column? (t : Table) (name : String) : Option Column :=
  t.columns.find? (·.name == name)

end Table

/-- The content of one cell. -/
inductive Cell
  | null
  | integer (n : Int)
  | real (x : Binary64)
  | text (s : String)
  deriving DecidableEq, Repr, Inhabited

/-- The content of a cell as a value. -/
def Cell.value : Cell → Value
  | .null => .null
  | .integer n => .int n
  | .real x => .float x
  | .text s => .text s

/-- A moment as tables keep it, without an offset. -/
structure Timestamp where
  moment : Moment
  naive : moment.offset = none
  deriving DecidableEq, Repr

namespace Timestamp

/-- A moment as it is stored; its offset is dropped. -/
def ofMoment (m : Moment) : Timestamp :=
  ⟨{ m with offset := none }, rfl⟩

instance : Inhabited Timestamp := ⟨ofMoment default⟩

/-- What is kept as a moment in UTC. -/
def read (t : Timestamp) : Moment :=
  t.moment.toUtc?.get (by simp [Moment.toUtc?, t.naive])

theorem read_ofMoment {m : Moment} (h : m.offset = some 0) : (ofMoment m).read = m := by
  cases m
  cases h
  rfl

end Timestamp

/-- A row of lookups. -/
structure LookupRow where
  id : Int
  name : String
  description : String := ""
  deriving DecidableEq, Repr, Inhabited

/-- The lookup that a row stands for. -/
def LookupRow.lookup (r : LookupRow) : Lookup :=
  { id := .int r.id, name := .text r.name, description := .text r.description }

/-- A row of uploads. -/
structure UploadRow where
  id : Int
  projectId : Cell
  owner : Cell
  typeId : Cell
  statusId : Cell
  parameter : String
  createUser : String
  createDate : Timestamp
  modifyUser : String
  modifyDate : Timestamp
  deriving DecidableEq, Repr, Inhabited

/-- A row of submissions. -/
structure SubmissionRow where
  id : Int
  uploadId : Cell
  resourceId : Cell
  statusId : Cell
  createUser : String
  createDate : Timestamp
  modifyUser : String
  modifyDate : Timestamp
  deriving DecidableEq, Repr, Inhabited

/-- The cell of a row of uploads in a column. -/
def UploadRow.cell (r : UploadRow) (column : String) : Cell :=
  match column with
  | "id" => .integer r.id
  | "project_id" => r.projectId
  | "owner" => r.owner
  | "upload_type_id" => r.typeId
  | "upload_status_id" => r.statusId
  | "parameter" => .text r.parameter
  | "create_user" => .text r.createUser
  | "create_date" => .text r.createDate.moment.tableText
  | "modify_user" => .text r.modifyUser
  | "modify_date" => .text r.modifyDate.moment.tableText
  | _ => .null

namespace SubmissionRow

/-- The cell in a column. -/
def cell (r : SubmissionRow) (column : String) : Cell :=
  match column with
  | "id" => .integer r.id
  | "upload_id" => r.uploadId
  | "resource_id" => r.resourceId
  | "submission_status_id" => r.statusId
  | "create_user" => .text r.createUser
  | "create_date" => .text r.createDate.moment.tableText
  | "modify_user" => .text r.modifyUser
  | "modify_date" => .text r.modifyDate.moment.tableText
  | _ => .null

end SubmissionRow

section Order

variable {α : Type} (id : α → Int)

/-- Put a row before those with ids that are not smaller. -/
def insertRow (row : α) : List α → List α
  | [] => [row]
  | first :: rest =>
      if id row ≤ id first then row :: first :: rest else first :: insertRow row rest

/-- Rows in the order of their ids. -/
def inOrder (rows : List α) : List α :=
  rows.foldr (insertRow id) []

theorem insertRow_of_lt {row : α} {rows : List α} (h : ∀ x ∈ rows, id row < id x) :
    insertRow id row rows = row :: rows := by
  cases rows with
  | nil => rfl
  | cons first rest => exact if_pos (Int.le_of_lt (h first List.mem_cons_self))

theorem inOrder_eq_self {rows : List α} (h : (rows.map id).Pairwise (· < ·)) :
    inOrder id rows = rows := by
  induction rows with
  | nil => rfl
  | cons row rest ih =>
      rw [List.map_cons, List.pairwise_cons, List.forall_mem_map] at h
      show insertRow id row (inOrder id rest) = row :: rest
      rw [ih h.2, insertRow_of_lt id h.1]

theorem perm_insertRow (row : α) (rows : List α) :
    (insertRow id row rows).Perm (row :: rows) := by
  induction rows with
  | nil => exact .refl _
  | cons first rest ih =>
      unfold insertRow
      split
      · exact .refl _
      · exact (ih.cons first).trans (.swap row first rest)

/-- Ordering rows neither drops nor adds one. -/
theorem perm_inOrder (rows : List α) : (inOrder id rows).Perm rows := by
  induction rows with
  | nil => exact .refl _
  | cons row rest ih => exact (perm_insertRow id row _).trans (ih.cons row)

theorem pairwise_insertRow (row : α) {rows : List α} (h : (rows.map id).Pairwise (· ≤ ·)) :
    ((insertRow id row rows).map id).Pairwise (· ≤ ·) := by
  induction rows with
  | nil => exact List.pairwise_singleton _ _
  | cons first rest ih =>
      have hrest := List.pairwise_cons.1 h
      rw [List.forall_mem_map] at hrest
      unfold insertRow
      split
      · rename_i hle
        refine List.pairwise_cons.2 ⟨?_, h⟩
        rw [List.forall_mem_map]
        intro x hx
        rcases List.mem_cons.1 hx with rfl | hx
        · exact hle
        · exact Int.le_trans hle (hrest.1 x hx)
      · rename_i hlt
        refine List.pairwise_cons.2 ⟨?_, ih hrest.2⟩
        rw [List.forall_mem_map]
        intro x hx
        rcases List.mem_cons.1 ((perm_insertRow id row rest).mem_iff.1 hx) with rfl | hx
        · omega
        · exact hrest.1 x hx

/-- The rows stand in the order of their ids afterwards. -/
theorem pairwise_inOrder (rows : List α) : ((inOrder id rows).map id).Pairwise (· ≤ ·) := by
  induction rows with
  | nil => exact .nil
  | cons row rest ih => exact pairwise_insertRow id row ih

end Order

/-- The content of all tables. -/
structure Database where
  uploadStatuses : List LookupRow := []
  uploadTypes : List LookupRow := []
  submissionStatuses : List LookupRow := []
  uploads : List UploadRow := []
  submissions : List SubmissionRow := []
  deriving DecidableEq, Repr, Inhabited

namespace Database

/-- Lookups with the given names, numbered from one. -/
def numbered (names : List String) : List LookupRow :=
  names.mapIdx fun i name => { id := i + 1, name }

/-- The id for a new row. -/
def nextId (ids : List Int) : Int :=
  match ids.max? with
  | none => 1
  | some n => n + 1

/-- The submission with an id. -/
def submission? (d : Database) (id : Int) : Option SubmissionRow :=
  d.submissions.find? (·.id == id)

/-- Whether all names of a lookup table are different, as they have to be. -/
def distinctNames (rows : List LookupRow) : Bool :=
  decide (rows.map LookupRow.name).Nodup

end Database

end ContestUploads.Sql
