import ContestUploads.Calendar.Clock
import ContestUploads.Filter.Matching
import ContestUploads.Lookup.Search
import ContestUploads.Memory.Register
import ContestUploads.Program.Call
import ContestUploads.Record.Making

/-!
# The catalog of uploads in memory

Uploads and submissions lie in registers.  Ids are drawn from two counters, one for each kind of
record.  Creating a submission skips ids that are in use; a submission that is put in from
outside keeps the id it brings, or takes the next one of the counter without looking.

Every write goes into the audit log and takes one stamp of the clock.  An update stores the
submission as the caller has it, with a new modification stamp.
-/

namespace ContestUploads

/-- One completed write: what was done, to which record, by whom. -/
structure AuditEntry where
  action : String
  id : Value
  operator : Value
  deriving DecidableEq, Repr

namespace Memory

/-- Uploads, submissions and their lookup catalogs. -/
structure Catalog where
  uploadStatuses : List Value
  uploadTypes : List Value
  submissionStatuses : List Value
  uploads : Register Value := {}
  submissions : Register Value := {}
  audit : List AuditEntry := []
  nextUpload : Int := 1
  nextSubmission : Int := 1
  deriving DecidableEq, Repr

namespace Catalog

/-- An empty catalog with the default lookups. -/
def fresh : Catalog :=
  { uploadStatuses := Lookup.catalog Defaults.uploadStatuses
    uploadTypes := Lookup.catalog Defaults.uploadTypes
    submissionStatuses := Lookup.catalog Defaults.submissionStatuses }

instance : Inhabited Catalog := ⟨fresh⟩

/-- The first submission status with a name. -/
def status (c : Catalog) (name : Value) : Except Failure Value :=
  Lookup.known c.submissionStatuses name

/-- Put in a submission from outside; nothing is stamped or audited. -/
def addSubmission (c : Catalog) (s : Value) : Except Failure (Value × Catalog) := do
  let id ← s.read "submission_id"
  if id.isNull then
    let drawn : Value := .int c.nextSubmission
    let stored ← s.write "submission_id" drawn
    return (stored,
      { c with
        submissions := c.submissions.put drawn stored
        nextSubmission := c.nextSubmission + 1 })
  else
    let submissions ← c.submissions.store id s
    return (s, { c with submissions })

/-- Store a record that was given an id, with both stamps. -/
def createUpload (c : Catalog) (u : Value) (id : Int) (operator : Value) (now : Moment) :
    Except Failure (Value × Catalog) := do
  let stored ← u.created operator now
  return (stored,
    { c with
      uploads := c.uploads.put (.int id) stored
      audit := c.audit ++ [⟨Method.createUpload.name, .int id, operator⟩] })

/-- Store a submission that was given an id, with both stamps. -/
def createSubmission (c : Catalog) (s : Value) (id : Int) (operator : Value) (now : Moment) :
    Except Failure (Value × Catalog) := do
  let stored ← s.created operator now
  return (stored,
    { c with
      submissions := c.submissions.put (.int id) stored
      audit := c.audit ++ [⟨Method.createSubmission.name, .int id, operator⟩] })

/-- A submission that should be stored is not. -/
def unknown (id : Value) : Failure :=
  Failure.mentioning id <| .store <|
    .persistence (.text ("Submission " ++ id.display ++ " does not exist"))
      (.dict [("submission_id", id)])

/-- The id of a submission, which must be stored. -/
def storedId (c : Catalog) (s : Value) : Except Failure Value := do
  let id ← s.read "submission_id"
  id.demandFixed
  if c.submissions.uses id then return id else .error (unknown id)

/-- Store a submission over the one with its id. -/
def updateSubmission (c : Catalog) (s id operator : Value) (now : Moment) :
    Except Failure (Value × Catalog) := do
  let stored ← s.stamped operator now
  return (stored,
    { c with
      submissions := c.submissions.put id stored
      audit := c.audit ++ [⟨Method.updateSubmission.name, id, operator⟩] })

/-- The answer to a write that has taken its stamp: the record as its owner has it afterwards. -/
def written (c : Catalog) (clock : Clock) (result : Except Failure (Value × Catalog)) :
    Answer (Catalog × Clock) :=
  match result with
  | .ok (stored, c) => ⟨.ok stored, (c, clock), []⟩
  | .error e => ⟨.error e, (c, clock), []⟩

/-- Answer a call.  Each write takes one stamp of the clock; creating draws an id before that. -/
def answer : CatalogCall → Catalog × Clock → Answer (Catalog × Clock)
  | .uploadStatuses, (c, clock) => ⟨.ok (.list c.uploadStatuses), (c, clock), []⟩
  | .uploadTypes, (c, clock) => ⟨.ok (.list c.uploadTypes), (c, clock), []⟩
  | .submissionStatuses, (c, clock) => ⟨.ok (.list c.submissionStatuses), (c, clock), []⟩
  | .createUpload u operator, (c, clock) =>
      let id := c.nextUpload
      let c := { c with nextUpload := id + 1 }
      match u.write "upload_id" (.int id) with
      | .error e => ⟨.error e, (c, clock), []⟩
      | .ok u => c.written clock.tick.2 (c.createUpload u id operator clock.tick.1)
  | .createSubmission s operator, (c, clock) =>
      match s.write "submission_id" (.int c.nextSubmission) with
      | .error e =>
          ⟨.error e, ({ c with nextSubmission := c.nextSubmission + 1 }, clock), []⟩
      | .ok s =>
          let id := Register.firstFree c.submissions.numbers c.nextSubmission
          let c := { c with nextSubmission := id + 1 }
          c.written clock.tick.2 do
            c.createSubmission (← s.write "submission_id" (.int id)) id operator clock.tick.1
  | .updateSubmission s operator, (c, clock) =>
      match c.storedId s with
      | .error e => ⟨.error e, (c, clock), []⟩
      | .ok id => c.written clock.tick.2 (c.updateSubmission s id operator clock.tick.1)
  | .getSubmission id, (c, clock) =>
      ⟨(c.submissions.find id).map (·.getD .null), (c, clock), []⟩
  | .searchSubmissions filter, (c, clock) =>
      ⟨(Filter.select filter c.submissions.records).map .list, (c, clock), []⟩

end Catalog

end Memory

end ContestUploads
