import ContestUploads.Record.Operation

/-!
# Projects and their properties

* `property_value`, `flag_value`: the operations of a project, carried out by name.
-/

namespace ContestUploads

/-- A competition project with its named properties. -/
structure Project where
  id : Value
  properties : Fields := []
  deriving DecidableEq, Repr, Inhabited

namespace Project

/-- A project as a value. -/
def value (p : Project) : Value :=
  .record .project [("project_id", p.id), ("properties", .dict p.properties)]

/-- The value of a property; a missing one reads as null. -/
def property (p : Project) (name : String) : Value :=
  (p.properties.lookup name).getD .null

@[simp] theorem read_id (p : Project) : p.value.read "project_id" = .ok p.id := rfl

@[simp] theorem read_properties (p : Project) :
    p.value.read "properties" = .ok (.dict p.properties) := rfl

theorem property_value (p : Project) (name : String) :
    p.value.carryOut "get_property" [.text name] = .ok (p.property name, p.value) := by
  have step : p.value.carryOut "get_property" [.text name] =
    Value.perform .project p.value "get_property" (.text name) := rfl
  simp [step, Value.perform, Value.property, Value.entry_text, property, bind, Except.bind,
    Except.map]

theorem flag_value (p : Project) (name : String) :
    p.value.carryOut "flag" [.text name] = .ok (.bool (p.property name).saysYes, p.value) := by
  have step : p.value.carryOut "flag" [.text name] =
    Value.perform .project p.value "flag" (.text name) := rfl
  simp [step, Value.perform, Value.flag, Value.property, Value.entry_text, property, bind,
    Except.bind, Except.map, pure, Except.pure]

end Project

end ContestUploads
