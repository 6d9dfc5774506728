import ContestUploads.Text.Blank
import ContestUploads.Text.DecimalDigit

/-!
# Integers written as text

An integer literal is, after trimming, an optional sign and then decimal digits of any script.
Single underscores may stand between digits.  At most `digitLimit` digits are read; leading
zeros count towards the limit, underscores do not.

The limit holds for writing too: an integer with more digits has no text.
-/

namespace ContestUploads.Text

/-- The largest number of digits an integer literal may have. -/
def digitLimit : Nat := 4300

/-- Whether an integer can be written out: its digits must not be more than the limit. -/
def writable (n : Int) : Bool :=
  (Nat.toDigits 10 n.natAbs).length ≤ digitLimit

/-- The digit values of a run of digits with single underscores between them, at least one. -/
def digits? : List Char → Option (List Nat)
  | [] => none
  | [c] => (digitValue? c).map ([·])
  | c :: '_' :: rest => do
      let d ← digitValue? c
      let ds ← digits? rest
      return d :: ds
  | c :: rest => do
      let d ← digitValue? c
      let ds ← digits? rest
      return d :: ds

/-- The number written by digit values, most significant first. -/
def numeral (ds : List Nat) : Nat :=
  ds.foldl (fun n d => 10 * n + d) 0

/-- A number without sign. -/
def natural? (cs : List Char) : Option Nat :=
  match digits? cs with
  | some ds => if ds.length ≤ digitLimit then some (numeral ds) else none
  | none => none

/-- The integer that a literal denotes. -/
def integer? (s : String) : Option Int :=
  match trim s.toList with
  | '+' :: cs => (natural? cs).map Int.ofNat
  | '-' :: cs => (natural? cs).map fun n => -Int.ofNat n
  | cs => (natural? cs).map Int.ofNat

end ContestUploads.Text
