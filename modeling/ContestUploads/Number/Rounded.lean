import ContestUploads.Number.Shortest

/-!
# Numbers in fifteen digits

A column of texts that is compared with a number compares its text, and tables write a number
with at most fifteen digits.  A number between two such decimals goes to the closer one, and one
that is exactly between them to the larger.  Zero has no sign.
-/

namespace ContestUploads.Binary64

/-- The decimal of at most `count` digits next to a positive finite number. -/
def rounded (count mantissa : Nat) (exponent : Int) : Digits :=
  let num := mantissa * Nat.pow 2 exponent.toNat
  let den := Nat.pow 2 (-exponent).toNat
  let p : Int := decimalOrder num den - (count - 1 : Nat)
  let step := den * Nat.pow 10 p.toNat
  let size := num * Nat.pow 10 (-p).toNat
  ⟨(2 * size + step) / (2 * step), p⟩

/-- How many digits a number has in a table. -/
def tableDigits : Nat := 15

/-- Positional from one ten-thousandth up to below ten to the fifteenth. -/
def Layout.table : Layout := ⟨15, -3, 2, true⟩

/-- The text of a number in a table, none for a NaN. -/
def tableText? : Binary64 → Option String
  | .nan _ => none
  | .infinity false => some "Inf"
  | .infinity true => some "-Inf"
  | .finite negative m e =>
      if m = 0 then some "0.0"
      else
        let sign := if negative then ['-'] else []
        some (String.ofList (sign ++ (rounded tableDigits m e).text .table))

example : tableText? (nearest false 1 10) = some "0.1" := by decide +kernel
example : tableText? (nearest true 2 3) = some "-0.666666666666667" := by decide +kernel
example : tableText? (nearest false (10 ^ 22) 1) = some "1.0e+22" := by decide +kernel

end ContestUploads.Binary64
