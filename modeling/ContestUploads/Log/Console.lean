import ContestUploads.Log.Basic
import ContestUploads.Text.LineBreak

/-!
# Entries for people

In the form for people an entry is one line: its event, then its fields as names and values.  A
text with a blank, a mark of equality, a quote or a line break in it is quoted, so it does not
break the line, but the event, the names of fields and texts that stand unquoted may.  The fields
`stack` and `exception` come last, each on lines of its own, and have to be texts.

Colours set every piece apart from the next, so the breaks of an entry are those of its pieces.
-/

namespace ContestUploads.Log.Sink

open Text

/-- Whether a text value is quoted. -/
def quotes (s : String) : Bool :=
  s.toList.any fun c =>
    [' ', '\t', '=', '\r', '\n', doubleQuote, singleQuote].contains c

/-- The fields whose value is shown as it is. -/
def plainFields : List String := ["logger", "logger_name"]

/-- The fields that come last, on lines of their own, and the one that the time takes. -/
def apartFields : List String := ["stack", "exception", "timestamp"]

/-- How many lines end within the value of a field. -/
def valueBreaks (name : String) (v : Value) : Nat :=
  if plainFields.contains name then breaks v.display.toList
  else
    match v with
    | .text s => if quotes s then 0 else breaks s.toList
    | _ => 0

/-- How many lines end within a field and its name. -/
def fieldBreaks (field : String × Value) : Nat :=
  if plainFields.contains field.1 then valueBreaks field.1 field.2
  else breaks field.1.toList + valueBreaks field.1 field.2

/-- The rule between the place of an entry and the failure behind it. -/
def divider : List Char :=
  ['\n', '\n'] ++ List.replicate 79 '=' ++ ['\n']

/-- A field that comes on lines of its own; one that is null is left out. -/
def apart (fields : Fields) (name : String) : Except ForeignProblem (Option (List Char)) :=
  match fields.lookup name with
  | none | some .null => .ok none
  | some v =>
      match v.textual? with
      | some s => .ok (some ('\n' :: s.toList))
      | none => .error (.misuse ("can only concatenate str (not \"" ++ v.kindName ++ "\") to str"))

/-- What comes after the line of an entry. -/
def tail (fields : Fields) : Except ForeignProblem (List Char) := do
  let stack ← apart fields "stack"
  let exception ← apart fields "exception"
  let asked := ((fields.lookup "exc_info").getD .null).truthy
  let rule := if stack.isSome && (asked || exception.isSome) then divider else []
  return stack.getD [] ++ rule ++ exception.getD []

/-- How many lines an entry takes up. -/
def entryHeight (e : LogEntry) : Except ForeignProblem Nat := do
  let last ← tail e.fields
  let pieces := e.fields.filter fun field => isWritten field && !apartFields.contains field.1
  let inner := (pieces.map fieldBreaks).foldr (· + ·) 0
  return breaks e.event.display.toList + inner + breaks (last ++ ['\n'])

/-- What keeps an entry from being written, if there is anything: a value that cannot be written
out or, in the form for people, a field that has no form there. -/
def unwritable? (s : Sink) (e : LogEntry) : Option ForeignProblem :=
  if !s.accepts e then none
  else if !(e.event.writable && Value.entriesWritable (e.fields.filter isWritten)) then
    some .tooManyDigits
  else if s.named then none
  else
    match entryHeight e with
    | .ok _ => none
    | .error obstacle => some obstacle

/-- How many lines the entries that are written take up. -/
def height (s : Sink) (entries : List LogEntry) : Nat :=
  ((entries.filter s.accepts).map fun e => (entryHeight e).toOption.getD 0).foldr (· + ·) 0

example : (entryHeight ⟨.info, .text "started", [("file", .text "a\nb")]⟩).toOption = some 1 := by
  decide +kernel

example : (entryHeight ⟨.info, .text "a\r\nb", [("stack", .text "one\ntwo")]⟩).toOption =
    some 4 := by
  decide +kernel

end ContestUploads.Log.Sink
