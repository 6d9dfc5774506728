import ContestUploads.Number.Binary64
import ContestUploads.Text.Blank
import ContestUploads.Text.DecimalDigit

/-!
# Reading a binary64 number from decimal text

The text is `nan`, `inf` or `infinity` in any case, or decimal digits with an optional decimal
point and an optional exponent; a sign may stand in front.  Digits may be of any script, single
underscores may stand between them, and blanks around the whole are ignored.  The result is the
number next to the exact decimal value.
-/

namespace ContestUploads.Binary64

/-- The value of a run of ASCII digits. -/
def asciiNumeral (cs : List Char) : Nat :=
  cs.foldl (fun n c => 10 * n + (c.toNat - 48)) 0

/-- The exponent after the mark, `some 0` when there is none. -/
def readExponent? : List Char → Option Int
  | [] => some 0
  | mark :: rest =>
      if mark.toLower ≠ 'e' then none
      else
        let (negative, ds) :=
          match rest with
          | '-' :: ds => (true, ds)
          | '+' :: ds => (false, ds)
          | ds => (false, ds)
        if ds.isEmpty || !ds.all Char.isDigit then none
        else some (if negative then -(asciiNumeral ds : Int) else asciiNumeral ds)

/-- The number next to `coefficient * 10 ^ exponent`.  Exponents far outside the range are
answered without building the power. -/
def ofDecimal (negative : Bool) (coefficient : Nat) (exponent : Int) : Binary64 :=
  if coefficient = 0 then signedZero negative
  else
    let order : Int := (Nat.toDigits 10 coefficient).length + exponent
    if 400 < order then .infinity negative
    else if order < -400 then signedZero negative
    else nearest negative (coefficient * Nat.pow 10 exponent.toNat) (Nat.pow 10 (-exponent).toNat)

/-- A number without sign. -/
def readUnsigned? (negative : Bool) (cs : List Char) : Option Binary64 :=
  let lower := cs.map Char.toLower
  if lower = ['n', 'a', 'n'] then some (.nan 0)
  else if lower = ['i', 'n', 'f'] ∨ lower = ['i', 'n', 'f', 'i', 'n', 'i', 't', 'y'] then
    some (.infinity negative)
  else
    let whole := cs.takeWhile Char.isDigit
    let rest := cs.dropWhile Char.isDigit
    let (places, rest) :=
      match rest with
      | '.' :: more => (more.takeWhile Char.isDigit, more.dropWhile Char.isDigit)
      | more => ([], more)
    if whole.isEmpty && places.isEmpty then none
    else
      (readExponent? rest).map fun e =>
        ofDecimal negative (asciiNumeral (whole ++ places)) (e - places.length)

/-- A digit of any script as the digit of the same value between zero and nine. -/
def plainDigit (c : Char) : Char :=
  match Text.digitValue? c with
  | some d => Char.ofNat (48 + d)
  | none => c

/-- Drop the underscores that stand between two digits; the others stay. -/
def joinDigits : List Char → List Char
  | a :: '_' :: b :: rest =>
      if a.isDigit && b.isDigit then a :: joinDigits (b :: rest)
      else a :: '_' :: joinDigits (b :: rest)
  | c :: rest => c :: joinDigits rest
  | [] => []

/-- The number that a text denotes. -/
def read? (s : String) : Option Binary64 :=
  match joinDigits ((Text.trim s.toList).map plainDigit) with
  | '-' :: cs => readUnsigned? true cs
  | '+' :: cs => readUnsigned? false cs
  | cs => readUnsigned? false cs

end ContestUploads.Binary64
