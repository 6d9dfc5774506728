import ContestUploads.Value.Equality
import ContestUploads.Value.Text

/-!
# Values as collections

A text is a collection of its characters, a list of its items and a dictionary of its names.
Where a collection of names is expected, any of these may come, and so may a value that is no
collection at all.  What is looked for in a set, or kept under, must be fixed: lists, dictionaries
and most records can change.

* `members?_ofTexts`: a list of texts has these as its members;
* `joined_ofTexts`: joining such a list.
-/

namespace ContestUploads.Value

/-- The word for the kind of a value. -/
def kindName : Value → String
  | .null => "NoneType"
  | .bool _ => "bool"
  | .int _ => "int"
  | .float _ => "float"
  | .text _ => "str"
  | .list _ => "list"
  | .dict _ => "dict"
  | .category _ => "SubmissionCategory"
  | .phaseStatus _ => "PhaseStatus"
  | .moment _ => "datetime.datetime"
  | .record k _ => k.name
  | .filter f => f.kind

/-- The members of a collection. -/
def members? (v : Value) : Option (List Value) :=
  match v, v.textual? with
  | _, some s => some (s.toList.map fun c => .text (String.singleton c))
  | .list items, _ => some items
  | .dict entries, _ => some (entries.map fun e => .text e.1)
  | _, none => none

mutual

/-- The first part of a value, or the value itself, that can change. -/
def changeable? : Value → Option Value
  | .list items => some (.list items)
  | .dict entries => some (.dict entries)
  | .record k fields =>
      if k.isFixed then changeableField? fields else some (.record k fields)
  | _ => none

/-- The first part that can change of the fields of a record. -/
def changeableField? : List (String × Value) → Option Value
  | [] => none
  | (_, v) :: rest =>
      match changeable? v with
      | some part => some part
      | none => changeableField? rest

end

/-- Whether a value can be looked for among the members of a set. -/
def isFixed (v : Value) : Bool :=
  v.changeable?.isNone

@[simp] theorem isFixed_text (s : String) : isFixed (.text s) = true := by
  simp [isFixed, changeable?]

@[simp] theorem isFixed_int (n : Int) : isFixed (.int n) = true := by
  simp [isFixed, changeable?]

/-- The texts of a collection with a separator between them; members that are no texts are left
out. -/
def joined (separator : String) (v : Value) : String :=
  separator.intercalate ((v.members?.getD []).filterMap textual?)

theorem members?_ofTexts (names : List String) :
    (ofTexts names).members? = some (names.map .text) := rfl

theorem joined_ofTexts (separator : String) (names : List String) :
    (ofTexts names).joined separator = separator.intercalate names := by
  simp [joined, members?_ofTexts, List.filterMap_map, textual?, Function.comp_def]

end ContestUploads.Value
