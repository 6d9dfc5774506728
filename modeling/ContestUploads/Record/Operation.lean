import ContestUploads.Record.Access
import ContestUploads.Text.Blank

/-!
# What records can do

A project reads its properties, a resource its extension properties; a resource links submissions,
each once.  Uploads, submissions and lookups have a summary, in which a lookup stands by its name
and a moment is written out.  An operation is carried out by its name, with all the arguments that
it takes, and answers with a value; the record may have changed afterwards.

* `carryOut_record`: carrying out an operation of a record that has not been given a value of that
  name.
-/

namespace ContestUploads

namespace Value

/-- The value that a property gives: the value true, or the text "true" in any case and with blanks
around it, says yes.  Everything else says no. -/
def saysYes : Value → Bool
  | .bool b => b
  | v => v.textual?.any fun s => (Text.trimmed s).toLower == "true"

/-- A property of a project; a missing one reads as null. -/
def property (project name : Value) : Except Failure Value := do
  (← project.read "properties").entry name

/-- A property of a project read as a yes-or-no answer. -/
def flag (project name : Value) : Except Failure Value := do
  return .bool (← project.property name).saysYes

/-- An extension property of a resource; a missing one reads as null. -/
def extensionProperty (resource name : Value) : Except Failure Value := do
  (← resource.read "extension_properties").entry name

/-- A list with one more item at its end. -/
def appended (v item : Value) : Except Failure Value :=
  match v with
  | .list items => .ok (.list (items ++ [item]))
  | v => .error (.foreign (.noAttribute v.kindName "append"))

/-- A resource with a submission linked, once. -/
def link (resource submission : Value) : Except Failure Value := do
  let submissions ← resource.read "submissions"
  if ← submissions.holds submission then return resource
  resource.write "submissions" (← submissions.appended submission)

/-- The name of what a field refers to, null if that is absent. -/
def referredName (v : Value) : Except Failure Value :=
  if v.truthy then v.read "name" else .ok .null

/-- A moment written out, null if it is absent. -/
def writtenMoment (v : Value) : Except Failure Value :=
  match v with
  | .moment m => .ok (.text m.isoText)
  | v => if v.truthy then .error (.foreign (.noAttribute v.kindName "isoformat")) else .ok .null

/-- A field as it stands in a summary. -/
def summarized (record : Value) (field : String) : Except Failure (String × Value) := do
  let v ← record.read field
  let shown ←
    if ["upload_type", "status"].contains field then v.referredName
    else if ["created_at", "modified_at"].contains field then v.writtenMoment
    else .ok v
  return (field, shown)

/-- The summary of a record of a kind. -/
def summary (k : RecordKind) (record : Value) : Except Failure Value := do
  return .dict (← k.fieldNames.mapM record.summarized)

/-- What an operation answers, and the record afterwards. -/
def perform (k : RecordKind) (record : Value) (operation : String) (argument : Value) :
    Except Failure (Value × Value) :=
  match operation with
  | "get_property" => (record.property argument).map (·, record)
  | "flag" => (record.flag argument).map (·, record)
  | "get_extension_property" => (record.extensionProperty argument).map (·, record)
  | "add_submission" => (record.link argument).map (.null, ·)
  | _ => (summary k record).map (·, record)

/-- A value has no operation of a name. -/
def lacking (v : Value) (operation : String) : Failure :=
  match v.look operation with
  | .value x => .foreign (.notCallable x)
  | _ => .foreign (.noAttribute v.kindName operation)

/-- Carry out an operation by its name. -/
def carryOut (v : Value) (operation : String) (arguments : List Value) :
    Except Failure (Value × Value) :=
  match v.look operation, v with
  | .other, .record k fields =>
      match k.operations.lookup operation with
      | none => .error (v.lacking operation)
      | some names =>
          let signature : Signature := { operation := k.name ++ "." ++ operation, names }
          match signature.obstacle? arguments.length with
          | some obstacle => .error (.foreign obstacle)
          | none => perform k (.record k fields) operation (arguments.headD .null)
  | _, v => .error (v.lacking operation)

theorem carryOut_record {k : RecordKind} {fields : Fields} {operation : String}
    {names : List String} {arguments : List Value}
    (shown : (Value.record k fields).look operation = .other)
    (known : k.operations.lookup operation = some names) (all : arguments.length = names.length) :
    (Value.record k fields).carryOut operation arguments =
      perform k (.record k fields) operation (arguments.headD .null) := by
  simp [carryOut, shown, known, Signature.obstacle?, all]

end Value

end ContestUploads
