/-!
# Days of the Gregorian calendar

Days are numbered from 1, the first of January of the year 1.  `dayNumber` counts, and
`dateOfDay` finds the date again: four hundred years have 146097 days, a century 36524 (the
fourth one 36525), four years 1461 (the last group of a century 1460) and a year 365.

* `dayNumber_dateOfDay`: the date of a day has the number of the day.
-/

namespace ContestUploads.Calendar

/-- Whether a year has a 29th of February. -/
def isLeap (year : Nat) : Bool :=
  year % 4 == 0 && (year % 100 != 0 || year % 400 == 0)

/-- The lengths of the months, January first. -/
def monthLengths (leap : Bool) : List Nat :=
  [31, if leap then 29 else 28, 31, 30, 31, 30, 31, 31, 30, 31, 30, 31]

/-- The number of days before the first of January. -/
def daysBeforeYear (year : Nat) : Nat :=
  let y := year - 1
  365 * y + y / 4 - y / 100 + y / 400

/-- The number of days of the year before the first of the month. -/
def daysBeforeMonth (year month : Nat) : Nat :=
  ((monthLengths (isLeap year)).take (month - 1)).foldr (· + ·) 0

/-- The number of a day. -/
def dayNumber (year month day : Nat) : Nat :=
  daysBeforeYear year + daysBeforeMonth year month + day

/-- The month and the day within it of the day with index `n`, counted from zero, in months of
the given lengths; `month` is the number of the first of them. -/
def monthOfIndex (month : Nat) : List Nat → Nat → Nat × Nat
  | [], n => (month, n + 1)
  | length :: rest, n =>
      if n < length then (month, n + 1) else monthOfIndex (month + 1) rest (n - length)

/-- The year of a day number and the index of the day within that year. -/
def yearOfDay (number : Nat) : Nat × Nat :=
  let n := number - 1
  let n400 := n / 146097
  let r := n % 146097
  let n100 := min (r / 36524) 3
  let r := r - 36524 * n100
  let n4 := r / 1461
  let r := r % 1461
  let n1 := min (r / 365) 3
  (400 * n400 + 100 * n100 + 4 * n4 + n1 + 1, r - 365 * n1)

/-- Year, month and day of a day number. -/
def dateOfDay (number : Nat) : Nat × Nat × Nat :=
  let (year, index) := yearOfDay number
  let (month, day) := monthOfIndex 1 (monthLengths (isLeap year)) index
  (year, month, day)

/-- The days before a year, by the periods that it is in. -/
theorem daysBeforeYear_periods {n400 n100 n4 n1 : Nat} (h100 : n100 ≤ 3) (h4 : n4 ≤ 24)
    (h1 : n1 ≤ 3) :
    daysBeforeYear (400 * n400 + 100 * n100 + 4 * n4 + n1 + 1) =
      146097 * n400 + 36524 * n100 + 1461 * n4 + 365 * n1 := by
  unfold daysBeforeYear
  dsimp only
  omega

/-- The periods of a day number and the index of the day within its year, which has a day with this
index. -/
theorem yearOfDay_periods (number : Nat) :
    ∃ n400 n100 n4 n1 index, n100 ≤ 3 ∧ n4 ≤ 24 ∧ n1 ≤ 3 ∧
      yearOfDay number = (400 * n400 + 100 * n100 + 4 * n4 + n1 + 1, index) ∧
      number - 1 = 146097 * n400 + 36524 * n100 + 1461 * n4 + 365 * n1 + index ∧
      (index < 365 ∨ index = 365 ∧ n1 = 3 ∧ (n4 = 24 → n100 = 3)) := by
  unfold yearOfDay
  exact ⟨_, _, _, _, _, by omega, by omega, by omega, rfl, by omega, by omega⟩

/-- The days before a year and the index within it make up the number of a day. -/
theorem daysBeforeYear_yearOfDay {number : Nat} (h : 1 ≤ number) :
    daysBeforeYear (yearOfDay number).1 + (yearOfDay number).2 + 1 = number := by
  obtain ⟨n400, n100, n4, n1, index, h100, h4, h1, hyear, hnumber, -⟩ := yearOfDay_periods number
  rw [hyear, daysBeforeYear_periods h100 h4 h1]
  omega

/-- The days of the months before the one that is found, and the day within it, make up the
index. -/
theorem take_monthOfIndex (month : Nat) (lengths : List Nat) (n : Nat) :
    month ≤ (monthOfIndex month lengths n).1 ∧
      (lengths.take ((monthOfIndex month lengths n).1 - month)).foldr (· + ·) 0 +
        (monthOfIndex month lengths n).2 = n + 1 := by
  induction lengths generalizing month n with
  | nil => simp [monthOfIndex]
  | cons length rest ih =>
      rw [monthOfIndex]
      split
      · simp
      · rename_i hlater
        obtain ⟨hmonth, hdays⟩ := ih (month + 1) (n - length)
        refine ⟨by omega, ?_⟩
        have hnext : (monthOfIndex (month + 1) rest (n - length)).1 - month =
            (monthOfIndex (month + 1) rest (n - length)).1 - (month + 1) + 1 := by
          omega
        rw [hnext, List.take_succ_cons, List.foldr_cons]
        omega

/-- The date of a day has the number of the day. -/
theorem dayNumber_dateOfDay {number : Nat} (h : 1 ≤ number) :
    dayNumber (dateOfDay number).1 (dateOfDay number).2.1 (dateOfDay number).2.2 = number := by
  have hyear := daysBeforeYear_yearOfDay h
  have hmonth := (take_monthOfIndex 1 (monthLengths (isLeap (yearOfDay number).1))
    (yearOfDay number).2).2
  unfold dayNumber daysBeforeMonth dateOfDay
  dsimp only
  omega

/-- The last day of the year 9999. -/
def lastDay : Nat := 3652059

example : dayNumber 9999 12 31 = lastDay := by decide
example : dateOfDay lastDay = (9999, 12, 31) := by decide
example : dateOfDay (dayNumber 2024 2 29) = (2024, 2, 29) := by decide

end ContestUploads.Calendar
