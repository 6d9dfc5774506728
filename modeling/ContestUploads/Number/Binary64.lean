/-!
# Binary floating point numbers, exactly

A finite number is a sign, a mantissa below `2 ^ 53` and an exponent of at least `-1074`; its
value is the mantissa times two to the exponent.  Every operation is exact arithmetic on `Nat`
and `Int`, so a number can be compared with an integer of any size without rounding.

* `nearest`: the number next to a fraction, a half going to the even mantissa;
* `units`: the value in multiples of `2 ^ (-1074)`, which every finite number is;
* `equals`, `equalsInt`: comparison by value, where a NaN equals nothing;
* `toInt?_eq_some_iff`: the integer that a number is, if it is one.
-/

namespace ContestUploads

/-- A binary64 number.  A NaN carries a label, by which one NaN is told from another. -/
inductive Binary64
  | nan (label : Nat)
  | infinity (negative : Bool)
  | finite (negative : Bool) (mantissa : Nat) (exponent : Int)
  deriving DecidableEq, Repr, Inhabited

namespace Binary64

/-- Zero with a sign. -/
def signedZero (negative : Bool) : Binary64 :=
  .finite negative 0 (-1074)

/-- The integer next to a fraction; a half goes to the even neighbour. -/
def roundHalfEven (num den : Nat) : Nat :=
  let q := num / den
  let r := num % den
  if 2 * r < den then q
  else if den < 2 * r then q + 1
  else if q % 2 = 0 then q else q + 1

/-- The exponent of the grid on which a positive fraction is rounded. -/
def gridExponent (num den : Nat) : Int :=
  let k : Int := (num.log2 : Int) - den.log2 - 52
  let k :=
    if num * Nat.pow 2 (-k).toNat < Nat.pow 2 52 * (den * Nat.pow 2 k.toNat) then k - 1 else k
  max k (-1074)

/-- The number next to a fraction. -/
def nearest (negative : Bool) (num den : Nat) : Binary64 :=
  if num = 0 then signedZero negative
  else
    let e := gridExponent num den
    let m := roundHalfEven (num * Nat.pow 2 (-e).toNat) (den * Nat.pow 2 e.toNat)
    if m = Nat.pow 2 53 then
      if 970 < e then .infinity negative else .finite negative (Nat.pow 2 52) (e + 1)
    else if 971 < e then .infinity negative
    else .finite negative m e

/-- The value in multiples of the smallest positive number. -/
def units : Binary64 → Option Int
  | .nan _ => none
  | .infinity _ => none
  | .finite negative m e =>
      let size : Int := m * Int.pow 2 (e + 1074).toNat
      some (if negative then -size else size)

/-- Equality of values: the two zeros are equal and a NaN equals nothing, whatever its label. -/
def equals : Binary64 → Binary64 → Bool
  | .infinity a, .infinity b => a == b
  | x, y =>
      match x.units, y.units with
      | some a, some b => a == b
      | _, _ => false

/-- How many of the smallest positive numbers make up one. -/
def unitsPerOne : Int :=
  Int.pow 2 1074

theorem unitsPerOne_pos : 0 < unitsPerOne :=
  Int.pow_pos (by decide)

/-- Whether a number has exactly the value of an integer. -/
def equalsInt (x : Binary64) (n : Int) : Bool :=
  x.units == some (n * unitsPerOne)

/-- Whether a number is one of the two zeros. -/
def isZero (x : Binary64) : Bool :=
  x.equalsInt 0

theorem equalsInt_iff {x : Binary64} {n : Int} :
    x.equalsInt n = true ↔ x.units = some (n * unitsPerOne) := by
  simp [equalsInt]

/-- A number has the value of at most one integer. -/
theorem equalsInt_unique {x : Binary64} {m n : Int}
    (hm : x.equalsInt m = true) (hn : x.equalsInt n = true) : m = n := by
  rw [equalsInt_iff] at hm hn
  have same : m * unitsPerOne = n * unitsPerOne := Option.some.inj (hm.symm.trans hn)
  exact Int.eq_of_mul_eq_mul_right (Int.ne_of_gt unitsPerOne_pos) same

/-- The integer that a number is, if it is one. -/
def toInt? (x : Binary64) : Option Int :=
  match x.units with
  | none => none
  | some u => if u % unitsPerOne = 0 then some (u / unitsPerOne) else none

theorem toInt?_eq_some_iff {x : Binary64} {n : Int} :
    x.toInt? = some n ↔ x.equalsInt n = true := by
  rw [equalsInt_iff, toInt?]
  have positive := unitsPerOne_pos
  cases x.units with
  | none => simp
  | some u =>
      simp only [Option.some.injEq]
      split
      · next whole =>
          have back : u / unitsPerOne * unitsPerOne = u :=
            Int.ediv_mul_cancel (Int.dvd_of_emod_eq_zero whole)
          constructor
          · intro same
            rw [← Option.some.inj same, back]
          · intro same
            rw [same, Int.mul_ediv_cancel n (Int.ne_of_gt positive)]
      · next broken =>
          simp only [reduceCtorEq, false_iff]
          intro same
          exact broken (by rw [same, Int.mul_emod_left])

end Binary64

end ContestUploads
