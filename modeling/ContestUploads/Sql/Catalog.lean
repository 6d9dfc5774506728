import ContestUploads.Sql.Session

/-!
# The catalog of uploads over tables

Every call is a query or a write of a session; a write draws its stamp before it is carried out.

Integers have to fit into 64 bits with sign; a larger one is a foreign problem, which the catalog
hands on as it is, while problems of the database become problems of the store.

* `find_int`: the row of a submission, asked for by its id.
-/

namespace ContestUploads.Sql

namespace Session

/-- The status of a row, null if the lookup table has none with its id. -/
def statusOf (statuses : List LookupRow) (r : SubmissionRow) : Value :=
  match statuses.find? fun status => Value.equals (.int status.id) r.statusId.value with
  | some status => status.lookup.value
  | none => .null

/-- The submission that a row stands for. -/
def submissionOf (statuses : List LookupRow) (r : SubmissionRow) : Submission :=
  { id := .int r.id
    status := statusOf statuses r
    uploadId := r.uploadId.value
    resourceId := r.resourceId.value
    createdBy := .text r.createUser
    createdAt := .moment r.createDate.read
    modifiedBy := .text r.modifyUser
    modifiedAt := .moment r.modifyDate.read }

/-- A problem of the store that comes from itself. -/
def refused (summary : String) (details : Fields) : Failure :=
  .store (.persistence (.text summary) (.dict details))

/-- A submission needs a status. -/
def needsStatus (details : Fields) : Failure :=
  refused "Submission needs a status" details

/-- What a row of uploads is made from, as it is handed in. -/
structure UploadDraft where
  projectId : Value
  owner : Value
  typeId : Value
  statusId : Value
  parameter : Value

/-- What a row of submissions is made from, as it is handed in. -/
structure SubmissionDraft where
  uploadId : Value
  resourceId : Value
  statusId : Value

/-- Read what is to be stored of an upload, whose type and status have been looked at. -/
def UploadDraft.of (u type status : Value) : Except Failure UploadDraft := do
  let projectId ← u.read "project_id"
  let owner ← u.read "owner"
  let typeId ← type.read "id"
  let statusId ← status.read "id"
  let parameter ← u.read "parameter"
  return { projectId, owner, typeId, statusId, parameter }

/-- Read what is to be stored of a submission. -/
def SubmissionDraft.of (x status : Value) : Except Failure SubmissionDraft := do
  let uploadId ← x.read "upload_id"
  let resourceId ← x.read "resource_id"
  let statusId ← status.read "id"
  return { uploadId, resourceId, statusId }

/-- Read what is to be changed of a submission, its status first. -/
def SubmissionDraft.ofChange (x status : Value) : Except Failure SubmissionDraft := do
  let _ ← status.read "id"
  SubmissionDraft.of x status

/-- Add a row for a new upload. -/
def insertUpload (u : UploadDraft) (operator : Value) (now : Moment) (d : Database) :
    Except Failure (Int × Database) := do
  let projectId ← ColumnKind.integer.stored u.projectId
  let owner ← ColumnKind.integer.stored u.owner
  let typeId ← ColumnKind.integer.stored u.typeId
  let statusId ← ColumnKind.integer.stored u.statusId
  let parameter ← ColumnKind.text.stored u.parameter
  let user ← ColumnKind.text.stored operator
  let projectId ← required projectId
  let owner ← required owner
  let typeId ← required typeId
  let statusId ← required statusId
  let parameter ← requiredText parameter
  let user ← requiredText user
  let id := Database.nextId (d.uploads.map UploadRow.id)
  let row : UploadRow :=
    { id, projectId, owner, typeId, statusId, parameter
      createUser := user, createDate := .ofMoment now
      modifyUser := user, modifyDate := .ofMoment now }
  return (id, { d with uploads := d.uploads ++ [row] })

/-- Add a row for a new submission. -/
def insertSubmission (x : SubmissionDraft) (operator : Value) (now : Moment) (d : Database) :
    Except Failure (Int × Database) := do
  let uploadId ← ColumnKind.integer.stored x.uploadId
  let resourceId ← ColumnKind.integer.stored x.resourceId
  let statusId ← ColumnKind.integer.stored x.statusId
  let user ← ColumnKind.text.stored operator
  let statusId ← required statusId
  let user ← requiredText user
  let id := Database.nextId (d.submissions.map SubmissionRow.id)
  let row : SubmissionRow :=
    { id, statusId, uploadId, resourceId
      createUser := user, createDate := .ofMoment now
      modifyUser := user, modifyDate := .ofMoment now }
  return (id, { d with submissions := d.submissions ++ [row] })

/-- Change the row of a submission; its creation stamp stays. -/
def changeSubmission (id : Int) (x : SubmissionDraft) (operator : Value) (now : Moment)
    (d : Database) : Except Failure (Unit × Database) := do
  let uploadId ← ColumnKind.integer.stored x.uploadId
  let resourceId ← ColumnKind.integer.stored x.resourceId
  let statusId ← ColumnKind.integer.stored x.statusId
  let user ← ColumnKind.text.stored operator
  let statusId ← required statusId
  let user ← requiredText user
  let change (r : SubmissionRow) : SubmissionRow :=
    if r.id = id then
      { r with
        statusId, uploadId, resourceId
        modifyUser := user, modifyDate := .ofMoment now }
    else r
  return ((), { d with submissions := d.submissions.map change })

/-- Write a draft, if it could be read, and stamp the record that it was read from. -/
def writeDraft {δ α : Type} (s : Session) (clock : Clock) (draft : Except Failure δ)
    (write : δ → Database → Except Failure (α × Database))
    (stamp : α → Except Failure Value) : Outcome :=
  match draft with
  | .error e => ⟨.error e, s, clock⟩
  | .ok draft =>
      let (result, session) := s.flush (write draft)
      ⟨result.bind stamp, session, clock⟩

/-- The type and the status of an upload, of which neither may be null. -/
def typeAndStatus (u : Value) : Except Failure (Value × Value) := do
  let type ← u.read "upload_type"
  let status ← if type.isNull then .ok .null else u.read "status"
  if status.isNull then
    .error (refused "Upload needs a type and a status" [("project_id", ← u.read "project_id")])
  else return (type, status)

/-- Store a new upload. -/
def createUpload (s : Session) (clock : Clock) (u operator : Value) : Outcome :=
  match typeAndStatus u with
  | .error e => ⟨.error e, s, clock⟩
  | .ok (type, status) =>
      let (now, clock) := clock.tick
      s.writeDraft clock (UploadDraft.of u type status)
        (fun draft => insertUpload draft operator now)
        fun id => do (← u.write "upload_id" (.int id)).created operator now

/-- The status of a submission, which must not be null. -/
def statusToStore (x : Value) (details : Fields) : Except Failure Value := do
  let status ← x.read "status"
  if status.isNull then .error (needsStatus details) else return status

/-- Store a new submission. -/
def createSubmission (s : Session) (clock : Clock) (x operator : Value) : Outcome :=
  match statusToStore x [] with
  | .error e => ⟨.error e, s, clock⟩
  | .ok status =>
      let (now, clock) := clock.tick
      s.writeDraft clock (SubmissionDraft.of x status)
        (fun draft => insertSubmission draft operator now)
        fun id => do (← x.write "submission_id" (.int id)).created operator now

/-- The key that a value stands for: itself, or the only part of a collection. -/
def key : Value → Except Failure Value
  | .list [v] => fixed v
  | .dict [("id", v)] => fixed v
  | .list _ | .dict _ => .error (.database .invalidRequest)
  | v => fixed v
where
  /-- A part of a collection that can be a key. -/
  fixed (v : Value) : Except Failure Value := do
    v.demandFixed
    return v

/-- The row of the submission whose id a value equals.  No row is found for no id, but it is looked
for. -/
def find (s : Session) (id : Value) : Except Failure (Option SubmissionRow) :=
  match id with
  | .null => s.query [] fun _ => none
  | id => do
      let k ← key id
      s.query [(.integer, k)] fun d => d.submissions.find? fun r =>
        Clause.compare (.integer r.id) .integer k == some true

theorem find_int (s : Session) (id : Int) :
    s.find (.int id) = s.query [(.integer, .int id)] (·.submission? id) := by
  have same (m : Int) :
      (Clause.compare (.integer m) .integer (.int id) == some true) = (m == id) := by
    show (some (m == id) == some true) = (m == id)
    cases m == id <;> rfl
  show s.query [(.integer, .int id)] (fun d => d.submissions.find? fun r =>
    Clause.compare (.integer r.id) .integer (.int id) == some true) = _
  simp only [same]
  rfl

/-- The row of a submission that is to be changed, and its status. -/
def changing (s : Session) (x : Value) : Except Failure (SubmissionRow × Value) := do
  let id ← x.read "submission_id"
  match ← s.find id with
  | none =>
      .error (.mentioning id
        (refused ("Submission " ++ id.display ++ " does not exist") [("submission_id", id)]))
  | some row => return (row, ← statusToStore x [("submission_id", id)])

/-- Store a submission over the row with its id. -/
def updateSubmission (s : Session) (clock : Clock) (x operator : Value) : Outcome :=
  match s.changing x with
  | .error e => ⟨.error e, s, clock⟩
  | .ok (row, status) =>
      let (now, clock) := clock.tick
      s.writeDraft clock (SubmissionDraft.ofChange x status)
        (fun draft => changeSubmission row.id draft operator now)
        fun _ => x.stamped operator now

/-- The submission with an id, null if there is none. -/
def getSubmission (s : Session) (id : Value) : Except Failure Value := do
  match ← s.find id with
  | none => return .null
  | some row => return (submissionOf s.working.submissionStatuses row).value

/-- The clause of what a search is asked with, which may be no filter. -/
def soughtClause (sought : Value) : Except Failure Clause :=
  match sought with
  | .filter f => clause .submission f
  | v => .error (v.lacking "to_clause")

/-- The submissions of which the clause of a filter is true, in the order of their ids. -/
def search (s : Session) (sought : Value) : Except Failure Value := do
  let c ← soughtClause sought
  let rows ← s.query c.compared fun d =>
    inOrder SubmissionRow.id (d.submissions.filter fun r => c.eval r.cell == some true)
  return .list (rows.map fun r => (submissionOf s.working.submissionStatuses r).value)

/-- The lookups of a table, in the order of their ids. -/
def lookups (s : Session) (table : Database → List LookupRow) : Except Failure Value :=
  s.query [] fun d => .list ((inOrder LookupRow.id (table d)).map fun r => r.lookup.value)

/-- Carry out a call. -/
def perform (call : CatalogCall) (s : Session) (clock : Clock) : Outcome :=
  match call with
  | .uploadStatuses => ⟨s.lookups (·.uploadStatuses), s, clock⟩
  | .uploadTypes => ⟨s.lookups (·.uploadTypes), s, clock⟩
  | .submissionStatuses => ⟨s.lookups (·.submissionStatuses), s, clock⟩
  | .createUpload u operator => s.createUpload clock u operator
  | .createSubmission x operator => s.createSubmission clock x operator
  | .updateSubmission x operator => s.updateSubmission clock x operator
  | .getSubmission id => ⟨s.getSubmission id, s, clock⟩
  | .searchSubmissions sought => ⟨s.search sought, s, clock⟩

/-- Make a problem of the database one of the store, with an entry about it. -/
def wrap (operation : String) (f : Failure) : Failure × List LogEntry :=
  match f.problem with
  | .database p =>
      (.raisedFrom
        (.store (.persistence (.text ("Upload catalog " ++ operation ++ " failed"))
          (.dict [("error_type", .text p.kind)]))) f,
        [{ level := .error
           event := .text "catalog_query_failed"
           fields := [("operation", .text operation), ("error_type", .text p.kind)] }])
  | _ => (f, [])

/-- What is told of what a call came to. -/
def told (call : CatalogCall) (o : Outcome) : Answer (Session × Clock) :=
  match o.result with
  | .ok reply => ⟨.ok reply, (o.session, o.clock), []⟩
  | .error f =>
      let (f, entries) := wrap (Call.catalog call).method.name f
      ⟨.error f, (o.session, o.clock), entries⟩

/-- Answer a call. -/
def answer (call : CatalogCall) (state : Session × Clock) : Answer (Session × Clock) :=
  told call (perform call state.1 state.2)

end Session

instance : UploadCatalog Session where
  word := "SqlUploadCatalog"
  answer := Session.answer

end ContestUploads.Sql
