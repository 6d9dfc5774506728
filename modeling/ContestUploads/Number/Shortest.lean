import ContestUploads.Number.Binary64

/-!
# The shortest decimal that reads back

`shortest` gives the fewest decimal digits whose nearest binary64 number is the given one, and
among those the digits closest to its value; a tie goes to the even last digit.  `text` writes
them: positionally when the decimal point falls within sixteen digits and at most four places
before the first digit, otherwise with an exponent of at least two digits.
-/

namespace ContestUploads.Binary64

/-- The number of decimal digits of a natural number. -/
def decimalWidth (n : Nat) : Nat :=
  (Nat.toDigits 10 n).length

/-- The `k` with `10 ^ k ≤ num / den < 10 ^ (k + 1)`, for a positive fraction. -/
def decimalOrder (num den : Nat) : Int :=
  if den ≤ num then (decimalWidth (num / den) : Int) - 1
  else
    let t := decimalWidth den - decimalWidth num
    if den ≤ num * Nat.pow 10 t then -(t : Int) else -(t : Int) - 1

/-- Digits `c` stand for `c * 10 ^ exponent`. -/
structure Digits where
  coefficient : Nat
  exponent : Int
  deriving DecidableEq, Repr

/-- The fraction that digits stand for. -/
def Digits.fraction (d : Digits) : Nat × Nat :=
  (d.coefficient * Nat.pow 10 d.exponent.toNat, Nat.pow 10 (-d.exponent).toNat)

/-- Whether digits read back as the positive number `x`. -/
def Digits.readsAs (d : Digits) (x : Binary64) : Bool :=
  nearest false d.fraction.1 d.fraction.2 == x

/-- The closer of the two `count`-digit neighbours of `num / den` that read back as `x`. -/
def neighbour? (x : Binary64) (num den count : Nat) : Option Digits :=
  let p : Int := decimalOrder num den - (count - 1 : Nat)
  let step := den * Nat.pow 10 p.toNat
  let size := num * Nat.pow 10 (-p).toNat
  let below : Digits := ⟨size / step, p⟩
  let above : Digits := ⟨size / step + 1, p⟩
  let r := size % step
  match below.readsAs x, above.readsAs x with
  | true, true =>
      if 2 * r < step then some below
      else if step < 2 * r then some above
      else if below.coefficient % 2 = 0 then some below else some above
  | true, false => some below
  | false, true => some above
  | false, false => none

/-- The shortest digits of a positive finite number. -/
def shortest (mantissa : Nat) (exponent : Int) : Digits :=
  let num := mantissa * Nat.pow 2 exponent.toNat
  let den := Nat.pow 2 (-exponent).toNat
  let counts := (List.range 17).map (· + 1)
  (counts.findSome? (neighbour? (.finite false mantissa exponent) num den)).getD ⟨mantissa, 0⟩

/-- How a number is written: the largest and smallest position of the decimal point that is
still written positionally, the least number of digits of an exponent, and whether a sole digit
in front of an exponent is followed by a point and a zero. -/
structure Layout where
  lastPosition : Int
  firstPosition : Int
  exponentWidth : Nat
  pointAlways : Bool

namespace Layout

/-- Positional from one ten-thousandth up to below ten to the sixteenth. -/
def plain : Layout := ⟨16, -3, 2, false⟩

/-- The text of an exponent with its sign. -/
def exponentText (l : Layout) (e : Int) : List Char :=
  let ds := Nat.toDigits 10 e.natAbs
  let sign := if e < 0 then '-' else '+'
  ['e', sign] ++ List.replicate (l.exponentWidth - ds.length) '0' ++ ds

/-- Digits as text; `point` is the position of the decimal point relative to the first digit. -/
def digitsText (l : Layout) (ds : List Char) (point : Int) : List Char :=
  if l.firstPosition ≤ point ∧ point ≤ l.lastPosition then
    if point ≤ 0 then ['0', '.'] ++ List.replicate (-point).toNat '0' ++ ds
    else if (ds.length : Int) ≤ point then
      ds ++ List.replicate (point.toNat - ds.length) '0' ++ ['.', '0']
    else ds.take point.toNat ++ ['.'] ++ ds.drop point.toNat
  else
    match ds with
    | [] => l.exponentText (point - 1)
    | [d] => d :: (if l.pointAlways then ['.', '0'] else []) ++ l.exponentText (point - 1)
    | d :: rest => d :: '.' :: rest ++ l.exponentText (point - 1)

end Layout

/-- Digits without trailing zeros, as characters. -/
def significant (c : Nat) : List Char :=
  ((Nat.toDigits 10 c).reverse.dropWhile (· == '0')).reverse

/-- Digits as text, without trailing zeros. -/
def Digits.text (d : Digits) (l : Layout) : List Char :=
  l.digitsText (significant d.coefficient) ((decimalWidth d.coefficient : Int) + d.exponent)

/-- The text of a number. -/
def text : Binary64 → String
  | .nan _ => "nan"
  | .infinity false => "inf"
  | .infinity true => "-inf"
  | .finite negative m e =>
      let sign := if negative then ['-'] else []
      if m = 0 then String.ofList (sign ++ ['0', '.', '0'])
      else String.ofList (sign ++ (shortest m e).text .plain)

end ContestUploads.Binary64
