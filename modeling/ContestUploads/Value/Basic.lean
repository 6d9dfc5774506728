import ContestUploads.Calendar.Moment
import ContestUploads.Category
import ContestUploads.Number.Binary64
import ContestUploads.Phase.Status
import ContestUploads.Record.Kind

/-!
# Values

Project properties, search values, log fields, replies of collaborators and arguments that have
not been checked yet can be of any kind; `Value` is the type of all of them.  A dictionary is a
list of entries with distinct names, and so are the fields of a record: those of its kind come
first, and others may have been added later.

A search is asked for with a filter, which is a value too: a tree of conditions on a record.
-/

namespace ContestUploads

mutual

/-- A value of any kind. -/
inductive Value
  | null
  | bool (b : Bool)
  | int (n : Int)
  | float (x : Binary64)
  | text (s : String)
  | list (items : List Value)
  | dict (entries : List (String × Value))
  | category (c : Category)
  | phaseStatus (s : PhaseStatus)
  | moment (m : Moment)
  | record (kind : RecordKind) (fields : List (String × Value))
  | filter (f : Filter)

/-- A condition on a record.  What stands for a name may be any value until the filter is used. -/
inductive Filter
  /-- The attribute equals the value. -/
  | equal (field value : Value)
  /-- Every part holds. -/
  | all (parts : List Filter)
  /-- Some part holds. -/
  | any (parts : List Filter)
  /-- There is an extension property with the name. -/
  | hasProperty (name : Value)
  /-- The extension property with the name equals the value. -/
  | propertyIs (name value : Value)

end

deriving instance Repr for Value, Filter
deriving instance Inhabited for Value, Filter

/-- Named values, such as the fields of a log entry. -/
abbrev Fields := List (String × Value)

namespace Value

mutual

/-- Deciding whether two values are the same, kind and content. -/
def decEq : (a b : Value) → Decidable (a = b)
  | .null, b => by
      cases b with
      | null => exact isTrue rfl
      | _ => exact isFalse (by simp)
  | .bool x, b => by
      cases b with
      | bool y => exact decidable_of_iff (x = y) (by simp)
      | _ => exact isFalse (by simp)
  | .int x, b => by
      cases b with
      | int y => exact decidable_of_iff (x = y) (by simp)
      | _ => exact isFalse (by simp)
  | .float x, b => by
      cases b with
      | float y => exact decidable_of_iff (x = y) (by simp)
      | _ => exact isFalse (by simp)
  | .text x, b => by
      cases b with
      | text y => exact decidable_of_iff (x = y) (by simp)
      | _ => exact isFalse (by simp)
  | .list x, b => by
      cases b with
      | list y =>
          exact match decEqList x y with
            | isTrue h => isTrue (by rw [h])
            | isFalse h => isFalse (by simpa using h)
      | _ => exact isFalse (by simp)
  | .dict x, b => by
      cases b with
      | dict y =>
          exact match decEqEntries x y with
            | isTrue h => isTrue (by rw [h])
            | isFalse h => isFalse (by simpa using h)
      | _ => exact isFalse (by simp)
  | .category x, b => by
      cases b with
      | category y => exact decidable_of_iff (x = y) (by simp)
      | _ => exact isFalse (by simp)
  | .phaseStatus x, b => by
      cases b with
      | phaseStatus y => exact decidable_of_iff (x = y) (by simp)
      | _ => exact isFalse (by simp)
  | .moment x, b => by
      cases b with
      | moment y => exact decidable_of_iff (x = y) (by simp)
      | _ => exact isFalse (by simp)
  | .record k x, b => by
      cases b with
      | record l y =>
          exact if kind : k = l then
            match decEqEntries x y with
              | isTrue h => isTrue (by rw [kind, h])
              | isFalse h => isFalse (by simp [h])
          else isFalse (by simp [kind])
      | _ => exact isFalse (by simp)
  | .filter x, b => by
      cases b with
      | filter y =>
          exact match decEqFilter x y with
            | isTrue h => isTrue (by rw [h])
            | isFalse h => isFalse (by simpa using h)
      | _ => exact isFalse (by simp)

/-- `decEq` for lists of values. -/
def decEqList : (a b : List Value) → Decidable (a = b)
  | [], [] => isTrue rfl
  | [], _ :: _ => isFalse (by simp)
  | _ :: _, [] => isFalse (by simp)
  | x :: xs, y :: ys =>
      match decEq x y, decEqList xs ys with
      | isTrue h, isTrue t => isTrue (by rw [h, t])
      | isFalse h, _ => isFalse (by simp [h])
      | _, isFalse t => isFalse (by simp [t])

/-- `decEq` for the entries of dictionaries and the fields of records. -/
def decEqEntries : (a b : List (String × Value)) → Decidable (a = b)
  | [], [] => isTrue rfl
  | [], _ :: _ => isFalse (by simp)
  | _ :: _, [] => isFalse (by simp)
  | (j, x) :: xs, (k, y) :: ys =>
      if name : j = k then
        match decEq x y, decEqEntries xs ys with
        | isTrue h, isTrue t => isTrue (by rw [name, h, t])
        | isFalse h, _ => isFalse (by simp [h])
        | _, isFalse t => isFalse (by simp [t])
      else isFalse (by simp [name])

/-- Deciding whether two filters are the same. -/
def decEqFilter : (a b : Filter) → Decidable (a = b)
  | .equal f v, b => by
      cases b with
      | equal g w =>
          exact match decEq f g, decEq v w with
            | isTrue h, isTrue t => isTrue (by rw [h, t])
            | isFalse h, _ => isFalse (by simp [h])
            | _, isFalse t => isFalse (by simp [t])
      | _ => exact isFalse (by simp)
  | .all x, b => by
      cases b with
      | all y =>
          exact match decEqFilters x y with
            | isTrue h => isTrue (by rw [h])
            | isFalse h => isFalse (by simpa using h)
      | _ => exact isFalse (by simp)
  | .any x, b => by
      cases b with
      | any y =>
          exact match decEqFilters x y with
            | isTrue h => isTrue (by rw [h])
            | isFalse h => isFalse (by simpa using h)
      | _ => exact isFalse (by simp)
  | .hasProperty n, b => by
      cases b with
      | hasProperty m =>
          exact match decEq n m with
            | isTrue h => isTrue (by rw [h])
            | isFalse h => isFalse (by simpa using h)
      | _ => exact isFalse (by simp)
  | .propertyIs n v, b => by
      cases b with
      | propertyIs m w =>
          exact match decEq n m, decEq v w with
            | isTrue h, isTrue t => isTrue (by rw [h, t])
            | isFalse h, _ => isFalse (by simp [h])
            | _, isFalse t => isFalse (by simp [t])
      | _ => exact isFalse (by simp)

/-- `decEqFilter` for lists of filters. -/
def decEqFilters : (a b : List Filter) → Decidable (a = b)
  | [], [] => isTrue rfl
  | [], _ :: _ => isFalse (by simp)
  | _ :: _, [] => isFalse (by simp)
  | x :: xs, y :: ys =>
      match decEqFilter x y, decEqFilters xs ys with
      | isTrue h, isTrue t => isTrue (by rw [h, t])
      | isFalse h, _ => isFalse (by simp [h])
      | _, isFalse t => isFalse (by simp [t])

end

instance : DecidableEq Value := decEq

/-- The value of an optional text. -/
def ofText? : Option String → Value
  | none => .null
  | some s => .text s

/-- The value of a list of texts. -/
def ofTexts (names : List String) : Value :=
  .list (names.map .text)

/-- Whether a value is null. -/
def isNull : Value → Bool
  | .null => true
  | _ => false

theorem isNull_iff {v : Value} : v.isNull = true ↔ v = .null := by
  cases v <;> simp [isNull]

end Value

instance : DecidableEq Filter := Value.decEqFilter

end ContestUploads
