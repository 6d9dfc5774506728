import ContestUploads.Problem.Basic
import ContestUploads.Value.Attribute
import ContestUploads.Value.Fields

/-!
# Reading and changing records

An attribute is read by its name and given a value by its name.  Nothing is asked of the value that
it is read from beforehand: whatever shows no value under the name is a failure when it is read.
The fields of a record take any value, and so does a name that is no field, which is then added to
the record; a lookup takes none, and whether a phase is open follows from its status.  A filter can
be given other names and another value to compare with.

* `read_field`: reading a field that a record has;
* `write_record`: changing one;
* `read_write`: what is read after a change.
-/

namespace ContestUploads.Value

/-- The value of an attribute. -/
def read (v : Value) (name : String) : Except Failure Value :=
  match v.look name with
  | .value x => .ok x
  | _ => .error (.foreign (.noAttribute v.kindName name))

/-- The names of attributes that every object of some kind keeps for itself and that take no value,
with the words that say so. -/
def ownName? (kind name : String) (v : Value) : Option ForeignProblem :=
  match name, v with
  | "__class__", v =>
      some (.misuse ("__class__ must be set to a class, not '" ++ v.kindName ++ "' object"))
  | "__dict__", .dict _ => none
  | "__dict__", v =>
      some (.misuse ("__dict__ must be set to a dictionary, not a '" ++ v.kindName ++ "'"))
  | "__weakref__", _ =>
      some (.notWritable ("attribute '__weakref__' of '" ++ kind ++ "' objects is not writable"))
  | _, _ => none

/-- The names of attributes that belong to the kind of a record and take no value, with the words
that say so. -/
def reserved? (k : RecordKind) (name : String) (v : Value) : Option ForeignProblem :=
  match k, name with
  | .phase, "is_open" =>
      some (.notWritable "property 'is_open' of 'Phase' object has no setter")
  | k, name => ownName? k.name name v

/-- Refuse a name that a named member shows itself; others do it no harm. -/
def demandFree (v : Value) (name : String) : Except Failure Value :=
  if (v.part? name).isSome then
    .error (.foreign (.notWritable
      ("<enum '" ++ v.kindName ++ "'> cannot set attribute '" ++ name ++ "'")))
  else .ok v

/-- A filter with another value for one of its names or for what it compares with.  Other names do
it no harm. -/
def changedFilter (f : Filter) (name : String) (x : Value) : Filter :=
  match f, name with
  | .equal _ value, "attribute" => .equal x value
  | .equal field _, "value" => .equal field x
  | .hasProperty _, "name" => .hasProperty x
  | .propertyIs _ value, "name" => .propertyIs x value
  | .propertyIs name _, "value" => .propertyIs name x
  | f, _ => f

/-- A value with an attribute given another value. -/
def write (v : Value) (name : String) (x : Value) : Except Failure Value :=
  match v with
  | .record k fields =>
      if k.isFixed then .error (.foreign (.frozen name))
      else
        match reserved? k name x with
        | some obstacle => .error (.foreign obstacle)
        | none => .ok (.record k (Fields.set fields name x))
  | .category _ | .phaseStatus _ => v.demandFree name
  | .filter f => .ok (.filter (changedFilter f name x))
  | v =>
      if (v.part? name).isSome then
        .error (.foreign (.notWritable
          ("attribute '" ++ name ++ "' of '" ++ v.kindName ++ "' objects is not writable")))
      else .error (.foreign (.noAttribute v.kindName name))

/-- A value with several attributes given other values, one after the other. -/
def writeAll (v : Value) (changes : Fields) : Except Failure Value :=
  changes.foldlM (fun v change => v.write change.1 change.2) v

theorem read_field {k : RecordKind} {fields : Fields} {name : String} {v : Value}
    (h : fields.lookup name = some v) : (Value.record k fields).read name = .ok v := by
  rw [read, look_record_field h]

theorem write_record {k : RecordKind} {fields : Fields} {name : String} {x : Value}
    (changing : k.isFixed = false) (free : reserved? k name x = none) :
    (Value.record k fields).write name x = .ok (.record k (Fields.set fields name x)) := by
  simp [write, changing, free]

theorem read_write {k : RecordKind} {fields : Fields} {name : String} {x r : Value}
    (h : (Value.record k fields).write name x = .ok r) : r.read name = .ok x := by
  unfold write at h
  split at h
  all_goals simp_all
  next kind =>
    split at h
    · simp at h
    · split at h
      · simp at h
      · simp only [Except.ok.injEq] at h
        rw [← h]
        exact read_field (by rw [Fields.lookup_set]; simp)

end ContestUploads.Value
