import ContestUploads.Problem.Basic

/-!
# Moments from their parts

A moment is made from seven integers and an offset in seconds, or none.  The offset is looked at
first; then every part must be an integer of an ordinary size, and last each must be in its range.
A day has to exist in its month.

* `inRange_eq_ok_iff`: which parts are taken.
-/

namespace ContestUploads

namespace ForeignProblem

/-- A value that is no integer is used as one. -/
def notInteger (v : Value) : ForeignProblem :=
  misuse ("'" ++ v.kindName ++ "' object cannot be interpreted as an integer")

/-- An integer is too large or too small. -/
def overflow (words : String) : ForeignProblem :=
  ⟨"OverflowError", [.text words]⟩

end ForeignProblem

namespace Moment

open Calendar

/-- The integer that a part stands for. -/
def part (v : Value) : Except ForeignProblem Int :=
  match v.integral? with
  | none => .error (.notInteger v)
  | some n =>
      if n < -Int.pow 2 63 || Int.pow 2 63 ≤ n then
        .error (.overflow "Python int too large to convert to C long")
      else if Int.pow 2 31 ≤ n then .error (.overflow "signed integer is greater than maximum")
      else if n < -Int.pow 2 31 then .error (.overflow "signed integer is less than minimum")
      else .ok n

/-- A period that is too long to be written in days. -/
def tooLong? (seconds : Int) : Option ForeignProblem :=
  let days := seconds.fdiv daySeconds
  if days < -Int.pow 2 31 || Int.pow 2 31 ≤ days then
    some (.overflow "Python int too large to convert to C int")
  else if 999999999 < days.natAbs then
    some (.overflow s!"days={days}; must have magnitude <= 999999999")
  else none

/-- An offset has to be shorter than a day. -/
def offsetOf (v : Value) : Except ForeignProblem (Option Int) :=
  match v, v.integral? with
  | .null, _ => .ok none
  | _, none =>
      .error (.misuse
        ("unsupported type for timedelta seconds component: " ++ v.kindName))
  | _, some n =>
      if n.natAbs < daySeconds then .ok (some n)
      else
        match tooLong? n with
        | some obstacle => .error obstacle
        | none => .error (.badValue
            ("offset must be a timedelta strictly between -timedelta(hours=24) and " ++
              "timedelta(hours=24), not " ++ periodLiteral n ++ "."))

/-- A part has to lie between two bounds. -/
def inRange (words : String) (low high n : Int) : Except ForeignProblem Nat :=
  if low ≤ n && n ≤ high then .ok n.toNat else .error (.badValue words)

/-- The length of a month. -/
def monthLength (year month : Nat) : Nat :=
  (monthLengths (isLeap year)).getD (month - 1) 0

/-- The moment of seven integers and an offset. -/
def ofIntegers (year month day hour minute second microsecond : Int) (offset : Option Int) :
    Except ForeignProblem Moment := do
  let y ← inRange s!"year {year} is out of range" 1 9999 year
  let mo ← inRange "month must be in 1..12" 1 12 month
  let d ← inRange "day is out of range for month" 1 (monthLength y mo) day
  let h ← inRange "hour must be in 0..23" 0 23 hour
  let mi ← inRange "minute must be in 0..59" 0 59 minute
  let s ← inRange "second must be in 0..59" 0 59 second
  let us ← inRange "microsecond must be in 0..999999" 0 999999 microsecond
  return ⟨y, mo, d, h, mi, s, us, offset⟩

/-- The moment of some parts, the last of which is the offset. -/
def ofParts (parts : List Value) : Except ForeignProblem Moment := do
  let part (i : Nat) : Except ForeignProblem Int := part (parts.getD i .null)
  let offset ← offsetOf (parts.getD 7 .null)
  let year ← part 0
  let month ← part 1
  let day ← part 2
  let hour ← part 3
  let minute ← part 4
  let second ← part 5
  let microsecond ← part 6
  ofIntegers year month day hour minute second microsecond offset

/-- The moment in UTC, if that lies within the calendar. -/
def inUtc (m : Moment) : Except ForeignProblem Moment :=
  match m.toUtc? with
  | some utc => .ok utc
  | none => .error .dateOutOfRange

theorem inRange_eq_ok_iff {words : String} {low high n : Int} {k : Nat} (positive : 0 ≤ low) :
    inRange words low high n = .ok k ↔ (low ≤ n ∧ n ≤ high) ∧ n = k := by
  unfold inRange
  split
  next h =>
    simp only [Bool.and_eq_true, decide_eq_true_eq] at h
    simp only [Except.ok.injEq]
    omega
  next h =>
    simp only [Bool.and_eq_true, decide_eq_true_eq] at h
    simp [h]

end Moment

end ContestUploads
