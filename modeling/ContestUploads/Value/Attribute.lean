import ContestUploads.Value.Collection

/-!
# Attributes

Under a name, a value may show another value, something that is no value, such as an operation, or
nothing.  A record shows its fields first, and a phase also whether it is open; numbers and moments
show what they consist of, named members their name and their text, and filters their parts.

* `look_record_field`: a record shows a field that it has.
-/

namespace ContestUploads

/-- What a value shows under a name. -/
inductive Sight
  | nothing
  | value (v : Value)
  /-- Something that is no value, such as an operation. -/
  | other
  deriving DecidableEq, Repr, Inhabited

namespace Value

/-- What a named member shows. -/
def memberParts (name text : String) : Fields :=
  [("name", .text name), ("value", .text text)]

/-- What an integer shows. -/
def integerParts (n : Int) : Fields :=
  [("real", .int n), ("imag", .int 0), ("numerator", .int n), ("denominator", .int 1)]

/-- What a moment shows; its zone only if it has none. -/
def momentParts (m : Moment) : Fields :=
  [("year", .int m.year), ("month", .int m.month), ("day", .int m.day), ("hour", .int m.hour),
   ("minute", .int m.minute), ("second", .int m.second), ("microsecond", .int m.microsecond),
   ("fold", .int 0)] ++
    if m.offset.isNone then [("tzinfo", .null)] else []

/-- What a filter shows. -/
def filterParts : Filter → Fields
  | .equal field value => [("attribute", field), ("value", value)]
  | .all parts | .any parts => [("filters", .list (parts.map .filter))]
  | .hasProperty name => [("name", name)]
  | .propertyIs name value => [("name", name), ("value", value)]

/-- Whether the status among the fields of a phase lets uploads in. -/
def showsOpen (fields : Fields) : Bool :=
  ((fields.lookup "status").getD .null).equals (.phaseStatus .opened)

/-- What all records of a kind show beside their fields. -/
def kindParts (k : RecordKind) (fields : Fields) : Fields :=
  (if k = .phase then [("is_open", .bool (showsOpen fields))] else []) ++
    [("__doc__", .text k.description), ("__module__", .text "review_platform.uploads.base"),
     ("__dict__", .dict fields)] ++
    if k.isFixed then [] else [("__hash__", .null)]

/-- The values that a value shows, by name. -/
def parts : Value → Fields
  | .bool b => integerParts (if b then 1 else 0)
  | .int n => integerParts n
  | .float x => [("real", .float x), ("imag", .float (.signedZero false))]
  | .list _ | .dict _ => [("__hash__", .null)]
  | .category c => memberParts c.memberName c.text
  | .phaseStatus s => memberParts s.memberName s.text
  | .moment m => momentParts m
  | .record k fields => fields ++ kindParts k fields
  | .filter f => filterParts f
  | .null | .text _ => []

/-- The names under which everything shows something that is no value. -/
def commonOthers : List String :=
  ["__class__", "__delattr__", "__dir__", "__doc__", "__eq__", "__format__", "__ge__",
   "__getattribute__", "__getstate__", "__gt__", "__hash__", "__init__", "__init_subclass__",
   "__le__", "__lt__", "__ne__", "__new__", "__reduce__", "__reduce_ex__", "__repr__",
   "__setattr__", "__sizeof__", "__str__", "__subclasshook__"]

/-- The names under which records show something that is no value. -/
def recordOthers : List String :=
  ["__annotations__", "__dataclass_fields__", "__dataclass_params__", "__match_args__"]

/-- The names under which a value shows something that is no value. -/
def others : Value → List String
  | .record k _ => commonOthers ++ recordOthers ++ k.operations.map Prod.fst
  | .filter _ => commonOthers ++ ["matches", "to_clause"]
  | _ => commonOthers

/-- What a value shows under a name. -/
def look (v : Value) (name : String) : Sight :=
  match v.parts.lookup name with
  | some x => .value x
  | none => if v.others.contains name then .other else .nothing

/-- The value that a value shows under a name, if it shows one. -/
def part? (v : Value) (name : String) : Option Value :=
  match v.look name with
  | .value x => some x
  | _ => none

/-- What a value shows as its value, if anything, or else itself. -/
def label (v : Value) : Value :=
  (v.part? "value").getD v

theorem look_record_field {k : RecordKind} {fields : Fields} {name : String} {v : Value}
    (h : fields.lookup name = some v) : (Value.record k fields).look name = .value v := by
  have found : (fields ++ kindParts k fields).lookup name = some v := by
    rw [List.lookup_append, h]
    rfl
  simp only [look, parts, found]

end Value

end ContestUploads
