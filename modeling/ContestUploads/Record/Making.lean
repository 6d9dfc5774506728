import ContestUploads.Lookup.Basic
import ContestUploads.Phase.Basic
import ContestUploads.Project
import ContestUploads.Resource
import ContestUploads.Upload

/-!
# Making and stamping records

A record of a kind is made from fields by name.  Those that have no default must be given, and no
others than those of its kind may be.

A catalog stamps the records that it stores: with their id and both stamps when it creates them,
with the stamp of the change when it updates them.

* `created_submission`, `stamped_submission`: the stamps of a submission.
-/

namespace ContestUploads

namespace RecordKind

/-- A record of a kind with every field at its default; those that have none are null. -/
def blank : RecordKind → Value
  | .lookup => Lookup.value { id := .null, name := .null }
  | .project => Project.value { id := .null }
  | .phase => Phase.value { id := .null, projectId := .null }
  | .resource => Resource.value { id := .null, projectId := .null, roleId := .null }
  | .upload => Upload.value {}
  | .submission => Submission.value {}

/-- The fields of a kind that have no default. -/
def required : RecordKind → List String
  | .lookup => ["id", "name"]
  | .project => ["project_id"]
  | .phase => ["phase_id", "project_id"]
  | .resource => ["resource_id", "project_id", "role_id"]
  | .upload | .submission => []

/-- A record of a kind with the given fields. -/
def make (k : RecordKind) (given : Fields) : Except Failure Value :=
  let operation := k.name ++ ".__init__"
  match given.find? fun field => !k.fieldNames.contains field.1 with
  | some (name, _) => .error (.foreign (.unexpected operation name))
  | none =>
      match k.required.filter fun name => (given.lookup name).isNone, k.blank with
      | [], .record k fields => .ok (.record k (Fields.merge fields given))
      | names, _ => .error (.foreign (.missing operation names))

/-- A lookup with its parts in order. -/
def makeLookup (parts : List Value) : Except Failure Value :=
  match (Signature.mk "LookupValue.__init__" ["id", "name"] 1 1).obstacle? parts.length, parts with
  | some obstacle, _ => .error (.foreign obstacle)
  | none, [id, name, description] => .ok (Lookup.value { id, name, description })
  | none, parts =>
      .ok (Lookup.value { id := parts.getD 0 .null, name := parts.getD 1 .null })

end RecordKind

namespace Value

/-- A record as changed by an operator at a moment. -/
def stamped (record operator : Value) (now : Moment) : Except Failure Value :=
  record.writeAll [("modified_by", operator), ("modified_at", .moment now)]

/-- A record as created by an operator at a moment. -/
def created (record operator : Value) (now : Moment) : Except Failure Value :=
  record.writeAll
    [("created_by", operator), ("modified_by", operator), ("created_at", .moment now),
     ("modified_at", .moment now)]

end Value

theorem created_upload (u : Upload) (operator : Value) (now : Moment) :
    u.value.created operator now =
      .ok { u with
        createdBy := operator
        modifiedBy := operator
        createdAt := .moment now
        modifiedAt := .moment now }.value := rfl

theorem created_submission (s : Submission) (operator : Value) (now : Moment) :
    s.value.created operator now =
      .ok { s with
        createdBy := operator
        modifiedBy := operator
        createdAt := .moment now
        modifiedAt := .moment now }.value := rfl

theorem stamped_submission (s : Submission) (operator : Value) (now : Moment) :
    s.value.stamped operator now =
      .ok { s with modifiedBy := operator, modifiedAt := .moment now }.value := rfl

theorem stamped_resource (r : Resource) (operator : Value) (now : Moment) :
    r.value.stamped operator now =
      .ok { r with modifiedBy := operator, modifiedAt := .moment now }.value := rfl

end ContestUploads
