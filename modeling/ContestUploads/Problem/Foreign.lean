import ContestUploads.Value.Collection

/-!
# Foreign problems

Whatever else a collaborator stands on may raise problems of its own.  Such a problem has a word
for its kind and arguments, from which its message is made.  The functions below make those that
arise when values are used as what they are not.

A value is written out for a message or as a name.  If it contains an integer with too many digits,
this is a problem of its own, and what the text was for does not come about.

* `ofJoining?_ofTexts`: a list of texts can be joined;
* `unwritable?_eq_none_iff`: which values can be written out.
-/

namespace ContestUploads

/-- A problem of a kind that the services know nothing about. -/
structure ForeignProblem where
  kind : String
  arguments : List Value := []
  deriving DecidableEq, Repr, Inhabited

namespace ForeignProblem

/-- The kinds of problem that the system reports with a code. -/
def systemKinds : List String := ["ConnectionError", "TimeoutError"]

/-- A place that a problem is about, after the word that leads to it; an absent one is left out. -/
def place (lead : String) : Option Value → String
  | none => ""
  | some .null => ""
  | some v => lead ++ v.literal

/-- The words of a problem of the system: its code, its words, and the one or two places that it
is about. -/
def systemMessage (code words : Value) (places : List Value) : String :=
  let there := place ": " places[0]?
  "[Errno " ++ code.display ++ "] " ++ words.display ++ there ++
    (if there.isEmpty then "" else place " -> " places[2]?)

/-- The words of a foreign problem: its only argument, quoted if the problem is a missing key.
Several arguments are listed, unless they are those of a problem of the system. -/
def message (p : ForeignProblem) : String :=
  match p.arguments with
  | [] => ""
  | [v] => if p.kind == "KeyError" then v.literal else v.display
  | code :: words :: places =>
      if systemKinds.contains p.kind && places.length ≤ 3 then systemMessage code words places
      else Text.composed "" (Value.literals p.arguments)

/-- The arguments that the words of a foreign problem write out. -/
def shown (p : ForeignProblem) : List Value :=
  match p.arguments with
  | code :: words :: places =>
      if systemKinds.contains p.kind && places.length ≤ 3 then
        let there := places.getD 0 .null
        [code, words] ++ if there.isNull then [] else [there, places.getD 2 .null]
      else p.arguments
  | arguments => arguments

/-- An integer does not fit into a column of the database. -/
def integerTooLarge : ForeignProblem :=
  ⟨"OverflowError", [.text "Python int too large to convert to SQLite INTEGER"]⟩

/-- An instant lies outside the years of the calendar. -/
def dateOutOfRange : ForeignProblem :=
  ⟨"OverflowError", [.text "date value out of range"]⟩

/-- A sequence has no element of the wanted kind. -/
def exhausted : ForeignProblem :=
  ⟨"StopIteration", []⟩

/-- Something has no entry under a name. -/
def noKey (name : String) : ForeignProblem :=
  ⟨"KeyError", [.text name]⟩

/-- A value is of the wrong kind for what is done with it. -/
def misuse (words : String) : ForeignProblem :=
  ⟨"TypeError", [.text words]⟩

/-- A value that is no collection is taken as one. -/
def notIterable (v : Value) : ForeignProblem :=
  misuse ("'" ++ v.kindName ++ "' object is not iterable")

/-- A member is looked for in a value that is no collection. -/
def notSearchable (v : Value) : ForeignProblem :=
  misuse ("argument of type '" ++ v.kindName ++ "' is not iterable")

/-- A value that has no length is asked for one. -/
def noLength (v : Value) : ForeignProblem :=
  misuse ("object of type '" ++ v.kindName ++ "' has no len()")

/-- A value that can change, or a part of one, is looked for in a set. -/
def unhashable (part : Value) : ForeignProblem :=
  misuse ("unhashable type: '" ++ part.kindName ++ "'")

/-- A value that is no operation is carried out. -/
def notCallable (v : Value) : ForeignProblem :=
  misuse ("'" ++ v.kindName ++ "' object is not callable")

/-- A value that is no text is used as the name of an attribute. -/
def misnamed (name : Value) : ForeignProblem :=
  misuse ("attribute name must be string, not '" ++ name.kindName ++ "'")

/-- A value is out of the range of what it stands for. -/
def badValue (words : String) : ForeignProblem :=
  ⟨"ValueError", [.text words]⟩

/-- An integer has more digits than can be written. -/
def tooManyDigits : ForeignProblem :=
  badValue ("Exceeds the limit (4300 digits) for integer string conversion; " ++
    "use sys.set_int_max_str_digits() to increase the limit")

/-- An operation is given the same argument twice. -/
def repeatedArgument (operation name : String) : ForeignProblem :=
  misuse (operation ++ "() got multiple values for argument '" ++ name ++ "'")

/-- The ending of a word for a number of things. -/
def plural (n : Nat) : String :=
  if n = 1 then "" else "s"

/-- An operation is not given all the arguments that it needs. -/
def missing (operation : String) (names : List String) : ForeignProblem :=
  misuse (operation ++ s!"() missing {names.length} required positional argument" ++
    plural names.length ++ ": " ++ Text.enumerated (names.map Text.quoted))

/-- An operation is given an argument of a name that it does not know. -/
def unexpected (operation name : String) : ForeignProblem :=
  misuse (operation ++ "() got an unexpected keyword argument " ++ Text.quoted name)

/-- An operation is given more arguments than it takes. -/
def tooMany (operation : String) (least most given : Nat) : ForeignProblem :=
  let taken := if least = most then s!"{most}" else s!"from {least} to {most}"
  misuse (operation ++ "() takes " ++ taken ++ " positional argument" ++ plural most ++
    s!" but {given} were given")

/-- Something lacks an attribute; `owner` is the word for its kind. -/
def noAttribute (owner name : String) : ForeignProblem :=
  ⟨"AttributeError", [.text ("'" ++ owner ++ "' object has no attribute '" ++ name ++ "'")]⟩

/-- An attribute cannot be given another value. -/
def notWritable (words : String) : ForeignProblem :=
  ⟨"AttributeError", [.text words]⟩

/-- A field of something that is fixed is given another value. -/
def frozen (field : String) : ForeignProblem :=
  ⟨"FrozenInstanceError", [.text ("cannot assign to field " ++ Text.quoted field)]⟩

/-- What keeps a value from being joined as a collection of texts, if there is anything. -/
def ofJoining? (v : Value) : Option ForeignProblem :=
  match v.members? with
  | none => some (misuse "can only join an iterable")
  | some items =>
      (items.zipIdx.find? fun e => e.1.textual?.isNone).map fun e =>
        misuse (s!"sequence item {e.2}: expected str instance, " ++ e.1.kindName ++ " found")

theorem ofJoining?_ofTexts (names : List String) : ofJoining? (.ofTexts names) = none := by
  rw [ofJoining?, Value.members?_ofTexts]
  simp only [Option.map_eq_none_iff, List.find?_eq_none]
  intro e he
  obtain ⟨name, _, same⟩ := List.mem_map.1 (List.fst_mem_of_mem_zipIdx he)
  simp [← same, Value.textual?]

/-- The words of a foreign problem, if they can be written. -/
def told (p : ForeignProblem) : Except ForeignProblem Value :=
  if Value.allWritable p.shown then .ok (.text p.message) else .error tooManyDigits

end ForeignProblem

namespace Value

/-- What keeps some values from being written out, if there is anything. -/
def unwritable? (values : List Value) : Option ForeignProblem :=
  if allWritable values then none else some .tooManyDigits

@[simp] theorem unwritable?_eq_none_iff {values : List Value} :
    unwritable? values = none ↔ ∀ v ∈ values, v.writable = true := by
  simp [unwritable?, allWritable_iff]

end Value

end ContestUploads
