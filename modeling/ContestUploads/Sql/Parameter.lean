import ContestUploads.Number.Reading
import ContestUploads.Number.Rounded
import ContestUploads.Problem.Basic
import ContestUploads.Sql.Table

/-!
# Values compared with cells

A value that a column is compared with can be written into the text of a clause, or handed over
as a parameter.  Which values can be depends on the kind of the column.

A column of integers takes a text as a number if it reads as one; a column of texts takes a number
as its text.  A NaN is handed over as null, of which nothing is known.

* `cellEquals_integer`: an integer cell equals an integer exactly if they are the same;
* `stored_int`, `stored_text`: what fits into a column is stored as it is.
-/

namespace ContestUploads.Sql

/-- A text as a literal; a quote inside is written twice. -/
def quotedText (s : String) : String :=
  let quote := Text.singleQuote
  String.ofList <|
    quote :: s.toList.flatMap (fun c => if c = quote then [quote, quote] else [c]) ++ [quote]

/-- A value as a literal in a clause on a column of a kind, if it has one there. -/
def ColumnKind.literal? (kind : ColumnKind) : Value → Option String
  | .bool b => some (if b then "1" else "0")
  | .int n => if Text.writable n then some (toString n) else none
  | .float x => some x.text
  | .text s => some (quotedText s)
  | .moment m => some (quotedText m.tableText)
  | .category c => if kind = .text then some (quotedText c.text) else none
  | _ => none

/-- A value as it is handed over for a column of a kind.  A column of moments takes no value but
these and plain numbers and texts, and the database none that is neither a number nor a text. -/
def ColumnKind.parameter (kind : ColumnKind) : Value → Except DatabaseProblem Cell
  | .null => .ok .null
  | .bool b => .ok (.integer (if b then 1 else 0))
  | .int n => .ok (.integer n)
  | .float (.nan _) => .ok .null
  | .float x => .ok (.real x)
  | .text s => .ok (.text s)
  | .moment m => .ok (.text m.tableText)
  | .category c => if kind = .moment then .error .statement else .ok (.text c.text)
  | _ => .error (if kind = .moment then .statement else .programming)

/-- Whether an integer fits into a column. -/
def fits (n : Int) : Bool :=
  -Int.pow 2 63 ≤ n && n < Int.pow 2 63

/-- A text without the blanks around it. -/
def numberText (s : String) : List Char :=
  let blank (c : Char) : Bool := c = ' ' || (9 ≤ c.toNat && c.toNat ≤ 13)
  ((s.toList.dropWhile blank).reverse.dropWhile blank).reverse

/-- The integer that a text of digits, with or without a sign, stands for. -/
def integerText? (s : String) : Option Int :=
  let natural? (ds : List Char) : Option Nat :=
    if ds.isEmpty || !ds.all Char.isDigit then none else some (Binary64.asciiNumeral ds)
  match numberText s with
  | '-' :: ds => (natural? ds).map fun n => -(n : Int)
  | '+' :: ds => (natural? ds).map Int.ofNat
  | ds => (natural? ds).map Int.ofNat

/-- The number that a text stands for. -/
def numericText? (s : String) : Option Binary64 :=
  let core := numberText s
  if core.any Char.isDigit && core.all fun c => c.isDigit || ['+', '-', '.', 'e', 'E'].contains c
  then Binary64.read? (String.ofList core)
  else none

/-- A number that is an integer, and so far from the ends of 64 bits that no rounding can have
brought it there. -/
def wholeFloat? (x : Binary64) : Option Int :=
  x.toInt?.filter fun n => fits (n - 1) && fits (n + 1)

/-- A number in a column of integers. -/
def ofFloat (x : Binary64) : Cell :=
  match wholeFloat? x with
  | some n => .integer n
  | none => .real x

/-- What a column of a kind makes of a cell that is stored in it. -/
def ColumnKind.affine (kind : ColumnKind) (c : Cell) : Cell :=
  match kind, c with
  | .integer, .real x => ofFloat x
  | .integer, .text s =>
      match (integerText? s).filter fits, numericText? s with
      | some n, _ => .integer n
      | none, some x => ofFloat x
      | none, none => .text s
  | .text, .integer n => .text (toString n)
  | .text, .real x => (x.tableText?.map Cell.text).getD .null
  | _, c => c

/-- Hand over a parameter: an integer has to fit. -/
def handOver : Except DatabaseProblem Cell → Except Failure Cell
  | .ok (.integer n) => if fits n then .ok (.integer n) else .error (.foreign .integerTooLarge)
  | .ok c => .ok c
  | .error p => .error (.database p)

/-- The cell in which a column of a kind keeps a value.  A moment is kept as its text. -/
def ColumnKind.stored (kind : ColumnKind) (v : Value) : Except Failure Cell :=
  let given : Value :=
    match v with
    | .moment m => .text (m.textWith " ")
    | v => v
  (handOver (kind.parameter given)).map kind.affine

/-- Whether an integer equals the number that a text stands for.  An integer that fits is compared
exactly, any other number as a float. -/
def equalsText (m : Int) (s : String) : Bool :=
  match (integerText? s).filter fits with
  | some n => m == n
  | none => (numericText? s).any fun x => x.equalsInt m

/-- Whether a cell equals a parameter, unknown if one of them is null. -/
def cellEquals : Cell → Cell → Option Bool
  | .null, _ => none
  | _, .null => none
  | .integer m, .integer n => some (m == n)
  | .integer m, .real x => some (x.equalsInt m)
  | .integer m, .text s => some (equalsText m s)
  | .real x, .integer n => some (x.equalsInt n)
  | .real x, .real y => some (x.equals y)
  | .real x, .text s => some ((numericText? s).any x.equals)
  | .text s, .text t => some (s == t)
  | .text s, .integer n => some (s == toString n)
  | .text s, .real x => some (x.tableText? == some s)

theorem cellEquals_integer (m n : Int) :
    cellEquals (.integer m) (.integer n) = some (decide (m = n)) := rfl

theorem stored_int {n : Int} (h : fits n = true) :
    ColumnKind.integer.stored (.int n) = .ok (.integer n) := by
  simp [ColumnKind.stored, ColumnKind.parameter, handOver, h, Except.map, ColumnKind.affine]

theorem stored_text (s : String) : ColumnKind.text.stored (.text s) = .ok (.text s) := rfl

end ContestUploads.Sql
