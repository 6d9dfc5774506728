import ContestUploads.Filter.Matching

/-!
# Consulting values

Whatever a value offers is reached by a name: an attribute is read, and an operation is carried out
with its arguments.  Every value tells its texts, a filter can be tried on a record, and records
have the operations of their kind.

* `consult_of_value`: a name that shows a value is read, whatever the arguments are.
-/

namespace ContestUploads.Value

/-- The texts that a value tells if it can be written out, by the names of the operations that ask
for them. -/
def tellings (v : Value) : List (String × String) :=
  [("__repr__", v.literal), ("__str__", v.display)]

/-- Try a filter on the record that is the only argument. -/
def tried (f : Filter) (arguments : List Value) : Except Failure Value :=
  let signature : Signature := { operation := f.kind ++ ".matches", names := ["entity"] }
  match signature.obstacle? arguments.length with
  | some obstacle => .error (.foreign obstacle)
  | none => (f.holds (arguments.headD .null)).map .bool

/-- Carry out an operation.  It answers with a value, and the value that was asked may have changed
afterwards. -/
def ask (v : Value) (operation : String) (arguments : List Value) :
    Except Failure (Value × Value) :=
  match v, operation, v.tellings.lookup operation, arguments with
  | v, _, some told, [] => v.asText.map fun _ => (.text told, v)
  | .filter f, "matches", _, arguments => (tried f arguments).map (·, .filter f)
  | v, operation, _, arguments => v.carryOut operation arguments

/-- Carry out an operation, or read an attribute if the name stands for one. -/
def consult (v : Value) (name : String) (arguments : List Value) :
    Except Failure (Value × Value) :=
  match v.look name with
  | .value x => .ok (x, v)
  | _ => v.ask name arguments

theorem consult_of_value {v x : Value} {name : String} (shown : v.look name = .value x)
    (arguments : List Value) : v.consult name arguments = .ok (x, v) := by
  rw [consult, shown]

end ContestUploads.Value
