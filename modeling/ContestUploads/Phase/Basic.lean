import ContestUploads.Record.Access

/-!
# Phases of a project

A phase has a type, which is a name for what happens in it, and a status.

* `read_isOpen`: whether a phase is open is read like one of its fields.
-/

namespace ContestUploads

/-- A stage of a project. -/
structure Phase where
  id : Value
  projectId : Value
  /-- What kind of stage it is, null if that is not known. -/
  type : Value := .null
  status : Value := .phaseStatus .scheduled
  deriving DecidableEq, Repr, Inhabited

namespace Phase

/-- A phase as a value. -/
def value (p : Phase) : Value :=
  .record .phase
    [("phase_id", p.id), ("project_id", p.projectId), ("phase_type", p.type),
     ("status", p.status)]

/-- Whether uploads that a phase gates may come in. -/
def isOpen (p : Phase) : Bool :=
  p.status.equals (.phaseStatus .opened)

@[simp] theorem read_id (p : Phase) : p.value.read "phase_id" = .ok p.id := rfl

@[simp] theorem read_projectId (p : Phase) : p.value.read "project_id" = .ok p.projectId := rfl

@[simp] theorem read_type (p : Phase) : p.value.read "phase_type" = .ok p.type := rfl

@[simp] theorem read_status (p : Phase) : p.value.read "status" = .ok p.status := rfl

@[simp] theorem read_isOpen (p : Phase) : p.value.read "is_open" = .ok (.bool p.isOpen) := rfl

end Phase

end ContestUploads
