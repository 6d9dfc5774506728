import ContestUploads.Number.Shortest
import ContestUploads.Text.IntegerLiteral
import ContestUploads.Text.Listing
import ContestUploads.Text.Quoted
import ContestUploads.Value.Basic

/-!
# Values as text

A value has two texts.  `literal` shows its kind: texts are quoted, lists and dictionaries are
written with their brackets, records with the fields of their kind, and named members appear with
their names.  `display` is the plain text: a text stands for itself, and only what a value contains
is written as a literal.

These are the texts that values would have if integers could be of any length.  One with too many
digits cannot be written, nor can anything that contains it: whoever asks for a text of a value has
to ask first whether it is `writable`.
-/

namespace ContestUploads

/-- The word for the kind of a filter. -/
def Filter.kind : Filter → String
  | .equal .. => "EqualToFilter"
  | .all _ => "AndFilter"
  | .any _ => "OrFilter"
  | .hasProperty _ => "ExtensionPropertyNameFilter"
  | .propertyIs .. => "ExtensionPropertyValueFilter"

/-- A named member of a kind, written out with its text. -/
def memberLiteral (kind name text : String) : String :=
  "<" ++ kind ++ "." ++ name ++ ": " ++ Text.quoted text ++ ">"

namespace Value

mutual

/-- The text of a `writable` value that shows its kind. -/
def literal : Value → String
  | .null => "None"
  | .bool b => if b then "True" else "False"
  | .int n => toString n
  | .float x => x.text
  | .text s => Text.quoted s
  | .list items => Text.bracketed (literals items)
  | .dict entries => "\x7b" ++ Text.listed (entryLiterals entries) ++ "\x7d"
  | .category c => memberLiteral "SubmissionCategory" c.memberName c.text
  | .phaseStatus s => memberLiteral "PhaseStatus" s.memberName s.text
  | .moment m => m.literal
  | .record k fields => Text.composed k.name (fieldLiterals k fields)
  | .filter f => filterLiteral f

/-- The literals of the items of a list. -/
def literals : List Value → List String
  | [] => []
  | x :: xs => literal x :: literals xs

/-- The literals of the entries of a dictionary. -/
def entryLiterals : List (String × Value) → List String
  | [] => []
  | (name, x) :: xs => (Text.quoted name ++ ": " ++ literal x) :: entryLiterals xs

/-- The literals of the fields of a record; what was added to it later is left out. -/
def fieldLiterals (k : RecordKind) : List (String × Value) → List String
  | [] => []
  | (name, x) :: xs =>
      if k.fieldNames.contains name then (name ++ "=" ++ literal x) :: fieldLiterals k xs
      else fieldLiterals k xs

/-- A filter written out. -/
def filterLiteral : Filter → String
  | .equal field value => Text.composed "EqualToFilter" [literal field, literal value]
  | .all parts => Text.composed "AndFilter" [Text.bracketed (filterLiterals parts)]
  | .any parts => Text.composed "OrFilter" [Text.bracketed (filterLiterals parts)]
  | .hasProperty name => Text.composed "ExtensionPropertyNameFilter" [literal name]
  | .propertyIs name value =>
      Text.composed "ExtensionPropertyValueFilter" [literal name, literal value]

/-- The parts of a composite filter written out. -/
def filterLiterals : List Filter → List String
  | [] => []
  | f :: fs => filterLiteral f :: filterLiterals fs

end

/-- The plain text of a value for which that is not its literal. -/
def plain? : Value → Option String
  | .text s => some s
  | .category c => some ("SubmissionCategory." ++ c.memberName)
  | .phaseStatus s => some ("PhaseStatus." ++ s.memberName)
  | .moment m => some (m.textWith " ")
  | _ => none

/-- The plain text of a `writable` value. -/
def display (v : Value) : String :=
  v.plain?.getD v.literal

mutual

/-- Whether a value can be written out, as a literal or plainly: so must each integer in it. -/
def writable : Value → Bool
  | .int n => Text.writable n
  | .list items => allWritable items
  | .dict entries => entriesWritable entries
  | .record k fields => fieldsWritable k fields
  | .filter f => filterWritable f
  | _ => true

/-- `writable` for lists of values. -/
def allWritable : List Value → Bool
  | [] => true
  | x :: xs => writable x && allWritable xs

/-- `writable` for the entries of dictionaries. -/
def entriesWritable : List (String × Value) → Bool
  | [] => true
  | (_, x) :: xs => writable x && entriesWritable xs

/-- `writable` for the fields of records; what was added to one later is not written. -/
def fieldsWritable (k : RecordKind) : List (String × Value) → Bool
  | [] => true
  | (name, x) :: xs => (!k.fieldNames.contains name || writable x) && fieldsWritable k xs

/-- `writable` for filters. -/
def filterWritable : Filter → Bool
  | .equal field value => writable field && writable value
  | .all parts => allFiltersWritable parts
  | .any parts => allFiltersWritable parts
  | .hasProperty name => writable name
  | .propertyIs name value => writable name && writable value

/-- `writable` for lists of filters. -/
def allFiltersWritable : List Filter → Bool
  | [] => true
  | f :: fs => filterWritable f && allFiltersWritable fs

end

@[simp] theorem display_text (s : String) : display (.text s) = s := rfl

@[simp] theorem display_int (n : Int) : display (.int n) = toString n := by
  simp [display, plain?, literal]

@[simp] theorem writable_int (n : Int) : writable (.int n) = Text.writable n := by
  simp [writable]

@[simp] theorem writable_text (s : String) : writable (.text s) = true := by
  simp [writable]

@[simp] theorem writable_null : writable .null = true := by
  simp [writable]

@[simp] theorem writable_list (items : List Value) :
    writable (.list items) = allWritable items := by
  simp [writable]

@[simp] theorem allWritable_nil : allWritable [] = true := by
  simp [allWritable]

@[simp] theorem allWritable_cons (v : Value) (rest : List Value) :
    allWritable (v :: rest) = (v.writable && allWritable rest) := by
  simp [allWritable]

theorem allWritable_iff {values : List Value} :
    allWritable values = true ↔ ∀ v ∈ values, v.writable = true := by
  induction values with
  | nil => simp
  | cons v rest ih => simp [ih]

@[simp] theorem writable_ofTexts (names : List String) : writable (ofTexts names) = true := by
  rw [ofTexts, writable_list]
  induction names with
  | nil => simp
  | cons name rest ih => simpa using ih

end Value

end ContestUploads
