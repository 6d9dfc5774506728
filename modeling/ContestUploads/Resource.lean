import ContestUploads.Record.Operation

/-!
# Resources: the roles of users within projects

A resource has no field for the user who holds it.  The user id stands, as text, in one of the
extension properties.

* `link_value`: linking a submission, carried out by name.
-/

namespace ContestUploads

/-- A user's role in a project, with the submissions made through it. -/
structure Resource where
  id : Value
  projectId : Value
  roleId : Value
  extensionProperties : Fields := []
  submissions : List Value := []
  modifiedBy : Value := .null
  modifiedAt : Value := .null
  deriving DecidableEq, Repr, Inhabited

namespace Resource

/-- A resource as a value. -/
def value (r : Resource) : Value :=
  .record .resource
    [("resource_id", r.id), ("project_id", r.projectId), ("role_id", r.roleId),
     ("extension_properties", .dict r.extensionProperties), ("submissions", .list r.submissions),
     ("modified_by", r.modifiedBy), ("modified_at", r.modifiedAt)]

/-- The extension property with a name; a missing one reads as null. -/
def extensionProperty (r : Resource) (name : String) : Value :=
  (r.extensionProperties.lookup name).getD .null

/-- The resource with a submission linked, once. -/
def link (r : Resource) (submission : Value) : Resource :=
  if Value.contains r.submissions submission then r
  else { r with submissions := r.submissions ++ [submission] }

@[simp] theorem read_id (r : Resource) : r.value.read "resource_id" = .ok r.id := rfl

@[simp] theorem read_projectId (r : Resource) : r.value.read "project_id" = .ok r.projectId := rfl

@[simp] theorem read_roleId (r : Resource) : r.value.read "role_id" = .ok r.roleId := rfl

@[simp] theorem read_extensionProperties (r : Resource) :
    r.value.read "extension_properties" = .ok (.dict r.extensionProperties) := rfl

@[simp] theorem read_submissions (r : Resource) :
    r.value.read "submissions" = .ok (.list r.submissions) := rfl

theorem link_value (r : Resource) (submission : Value) :
    r.value.carryOut "add_submission" [submission] = .ok (.null, (r.link submission).value) := by
  have step : r.value.carryOut "add_submission" [submission] =
    Value.perform .resource r.value "add_submission" submission := rfl
  rw [step]
  simp only [Value.perform, Value.link, read_submissions, bind, Except.bind, Value.holds_list,
    Value.appended, link]
  split <;> rfl

theorem contains_link {r : Resource} {n : Int} :
    Value.contains (r.link (.int n)).submissions (.int n) = true := by
  unfold link
  split
  · assumption
  · simp [Value.contains]

end Resource

end ContestUploads
