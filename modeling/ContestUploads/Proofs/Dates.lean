import ContestUploads.Calendar.Parts

/-!
# Days and their dates

A date is one of the calendar if its month exists and its day exists in that month
(`Calendar.IsDate`).  Counting goes forth: the days before a year and those of the year make up the
days before the next one, and so it is with months (`Calendar.daysBeforeYear_succ`,
`Calendar.daysBeforeMonth_succ`).  So the next day has the next number
(`Calendar.dayNumber_nextDate`), and any later date has a greater one (`Calendar.dayNumber_lt`).

It also goes back.  A day number is taken apart into periods of four hundred years, centuries,
groups of four years and years, and what is left is looked for among the months.  What is found is a
date of the calendar (`Calendar.isDate_dateOfDay`), it has this number
(`Calendar.dayNumber_dateOfDay`), and no other date has (`Calendar.dateOfDay_dayNumber`).
-/

namespace ContestUploads

namespace Calendar

/-- A date of the calendar. -/
structure IsDate (year month day : Nat) : Prop where
  year_pos : 1 ≤ year
  month_pos : 1 ≤ month
  month_le : month ≤ 12
  day_pos : 1 ≤ day
  day_le : day ≤ Moment.monthLength year month

/-- The number of days of a year. -/
def yearLength (year : Nat) : Nat :=
  if isLeap year then 366 else 365

/-! ## Counting forth -/

/-- Every year has its place in a period of four hundred. -/
theorem exists_periods {year : Nat} (h : 1 ≤ year) :
    ∃ n400 n100 n4 n1, n100 ≤ 3 ∧ n4 ≤ 24 ∧ n1 ≤ 3 ∧
      year = 400 * n400 + 100 * n100 + 4 * n4 + n1 + 1 :=
  ⟨(year - 1) / 400, (year - 1) % 400 / 100, (year - 1) % 100 / 4, (year - 1) % 4,
    by omega, by omega, by omega, by omega⟩

/-- The last year of a group of four is a leap year, unless it ends a century that is not the
fourth. -/
theorem isLeap_periods (n400 : Nat) {n100 n4 n1 : Nat} (h100 : n100 ≤ 3) (h4 : n4 ≤ 24)
    (h1 : n1 ≤ 3) :
    isLeap (400 * n400 + 100 * n100 + 4 * n4 + n1 + 1) = true ↔
      n1 = 3 ∧ (n4 = 24 → n100 = 3) := by
  simp only [isLeap, Bool.and_eq_true, Bool.or_eq_true, beq_iff_eq, bne_iff_ne]
  omega

/-- The days before a year and those of the year are the days before the next one. -/
theorem daysBeforeYear_succ {year : Nat} (h : 1 ≤ year) :
    daysBeforeYear (year + 1) = daysBeforeYear year + yearLength year := by
  obtain ⟨n400, n100, n4, n1, h100, h4, h1, rfl⟩ := exists_periods h
  have hleap := isLeap_periods n400 h100 h4 h1
  rw [daysBeforeYear_periods h100 h4 h1]
  -- In terms of periods the quotients in the count differ by what a leap year adds.
  unfold daysBeforeYear yearLength
  dsimp only
  split
  · rename_i hyear
    have hlast := hleap.1 hyear
    omega
  · rename_i hyear
    have hother := mt hleap.2 hyear
    omega

theorem daysBeforeYear_le {year later : Nat} (hyear : 1 ≤ year) (h : year ≤ later) :
    daysBeforeYear year ≤ daysBeforeYear later := by
  induction h with
  | refl => exact Nat.le_refl _
  | step h ih =>
      rw [daysBeforeYear_succ (Nat.le_trans hyear h)]
      exact Nat.le_trans ih (Nat.le_add_right _ _)

/-- The days before a month and those of the month are the days before the next one. -/
theorem daysBeforeMonth_succ (year : Nat) {month : Nat} (h : 1 ≤ month) :
    daysBeforeMonth year (month + 1) =
      daysBeforeMonth year month + Moment.monthLength year month := by
  have htake (lengths : List Nat) (n : Nat) : (lengths.take (n + 1)).foldr (· + ·) 0 =
      (lengths.take n).foldr (· + ·) 0 + lengths.getD n 0 := by
    induction lengths generalizing n with
    | nil => simp
    | cons length rest ih =>
        cases n with
        | zero => simp
        | succ n =>
            simp only [List.take_succ_cons, List.foldr_cons, List.getD_cons_succ, ih n]
            omega
  obtain ⟨n, rfl⟩ : ∃ n, month = n + 1 := ⟨month - 1, by omega⟩
  exact htake _ n

theorem daysBeforeMonth_le (year : Nat) {month later : Nat} (hmonth : 1 ≤ month)
    (h : month ≤ later) : daysBeforeMonth year month ≤ daysBeforeMonth year later := by
  induction h with
  | refl => exact Nat.le_refl _
  | step h ih =>
      rw [daysBeforeMonth_succ year (Nat.le_trans hmonth h)]
      exact Nat.le_trans ih (Nat.le_add_right _ _)

/-- Twelve months make up a year. -/
theorem daysBeforeMonth_last (year : Nat) : daysBeforeMonth year 13 = yearLength year := by
  unfold daysBeforeMonth yearLength
  cases isLeap year <;> rfl

/-- The date of the day after a date. -/
def nextDate (year month day : Nat) : Nat × Nat × Nat :=
  if day < Moment.monthLength year month then (year, month, day + 1)
  else if month < 12 then (year, month + 1, 1)
  else (year + 1, 1, 1)

section Later

variable {year month day : Nat}

/-- The day after a date has the next number, also where a month or a year ends in between. -/
theorem dayNumber_nextDate (h : IsDate year month day) :
    dayNumber (nextDate year month day).1 (nextDate year month day).2.1
        (nextDate year month day).2.2 =
      dayNumber year month day + 1 := by
  have hday := h.day_le
  have hmonths := daysBeforeMonth_succ year h.month_pos
  unfold nextDate
  split
  · rfl
  · split
    · unfold dayNumber
      dsimp only
      omega
    · have hmonth : month = 12 := by
        have hlast := h.month_le
        omega
      subst hmonth
      have hyear : daysBeforeMonth year (12 + 1) = yearLength year := daysBeforeMonth_last year
      have hfirst : daysBeforeMonth (year + 1) 1 = 0 := rfl
      have hyears := daysBeforeYear_succ h.year_pos
      unfold dayNumber
      dsimp only
      omega

/-- A date lies before the next month. -/
theorem IsDate.lt_nextMonth (h : IsDate year month day) :
    daysBeforeMonth year month + day < daysBeforeMonth year (month + 1) + 1 := by
  have hday := h.day_le
  rw [daysBeforeMonth_succ year h.month_pos]
  omega

/-- A date lies before the next year. -/
theorem IsDate.lt_nextYear (h : IsDate year month day) :
    dayNumber year month day < daysBeforeYear (year + 1) + 1 := by
  have hnext := h.lt_nextMonth
  have hlast : daysBeforeMonth year (month + 1) ≤ daysBeforeMonth year 13 :=
    daysBeforeMonth_le year (by omega) (Nat.succ_le_succ h.month_le)
  rw [daysBeforeMonth_last] at hlast
  rw [daysBeforeYear_succ h.year_pos]
  unfold dayNumber
  omega

/-- A later date has a greater number. -/
theorem dayNumber_lt {year' month' day' : Nat} (h : IsDate year month day)
    (h' : IsDate year' month' day')
    (hlater : year < year' ∨ year = year' ∧ (month < month' ∨ month = month' ∧ day < day')) :
    dayNumber year month day < dayNumber year' month' day' := by
  have hday := h'.day_pos
  rcases hlater with hyear | ⟨rfl, hmonth | ⟨rfl, hless⟩⟩
  · have hbefore := h.lt_nextYear
    have hyears : daysBeforeYear (year + 1) ≤ daysBeforeYear year' :=
      daysBeforeYear_le (by omega) hyear
    unfold dayNumber at hbefore ⊢
    omega
  · have hbefore := h.lt_nextMonth
    have hmonths : daysBeforeMonth year (month + 1) ≤ daysBeforeMonth year month' :=
      daysBeforeMonth_le year (by omega) hmonth
    unfold dayNumber
    omega
  · unfold dayNumber
    omega

end Later

/-! ## Counting back -/

/-- The index of a day is one of its year. -/
theorem yearOfDay_lt (number : Nat) : (yearOfDay number).2 < yearLength (yearOfDay number).1 := by
  obtain ⟨n400, n100, n4, n1, index, h100, h4, h1, hyear, -, hindex⟩ := yearOfDay_periods number
  have hleap := isLeap_periods n400 h100 h4 h1
  rw [hyear]
  unfold yearLength
  split
  · omega
  · rename_i hother
    have hcommon := mt hleap.2 hother
    omega

/-- The day that is found exists in the month that is found. -/
theorem monthOfIndex_within (month : Nat) (lengths : List Nat) {n : Nat}
    (h : n < lengths.foldr (· + ·) 0) :
    (monthOfIndex month lengths n).1 < month + lengths.length ∧
      1 ≤ (monthOfIndex month lengths n).2 ∧
      (monthOfIndex month lengths n).2 ≤
        lengths.getD ((monthOfIndex month lengths n).1 - month) 0 := by
  induction lengths generalizing month n with
  | nil => cases h
  | cons length rest ih =>
      rw [monthOfIndex]
      split
      · simp
        omega
      · rename_i hlater
        rw [List.foldr_cons] at h
        obtain ⟨hmonth, hday, hlength⟩ := ih (month + 1) (n := n - length) (by omega)
        have hfound := (take_monthOfIndex (month + 1) rest (n - length)).1
        have hnext : (monthOfIndex (month + 1) rest (n - length)).1 - month =
            (monthOfIndex (month + 1) rest (n - length)).1 - (month + 1) + 1 := by
          omega
        rw [hnext, List.getD_cons_succ, List.length_cons]
        exact ⟨by omega, hday, hlength⟩

/-- Every day has a date of the calendar. -/
theorem isDate_dateOfDay (number : Nat) :
    IsDate (dateOfDay number).1 (dateOfDay number).2.1 (dateOfDay number).2.2 := by
  have hlength : (monthLengths (isLeap (yearOfDay number).1)).foldr (· + ·) 0 =
      yearLength (yearOfDay number).1 :=
    daysBeforeMonth_last _
  have hindex := yearOfDay_lt number
  rw [← hlength] at hindex
  obtain ⟨hmonth, hday, hfits⟩ := monthOfIndex_within 1 _ hindex
  obtain ⟨n400, n100, n4, n1, index, -, -, -, hyear, -⟩ := yearOfDay_periods number
  exact {
    year_pos := by
      show 1 ≤ (yearOfDay number).1
      rw [hyear]
      omega
    month_pos := (take_monthOfIndex 1 (monthLengths (isLeap (yearOfDay number).1)) _).1
    month_le := Nat.le_of_lt_succ hmonth
    day_pos := hday
    day_le := hfits }

/-- A date is found again from its number. -/
theorem dateOfDay_dayNumber {year month day : Nat} (h : IsDate year month day) :
    dateOfDay (dayNumber year month day) = (year, month, day) := by
  have hpos : 1 ≤ dayNumber year month day :=
    Nat.le_trans h.day_pos (Nat.le_add_left _ _)
  have hsame := dayNumber_dateOfDay hpos
  have hfound := isDate_dateOfDay (dayNumber year month day)
  generalize dateOfDay (dayNumber year month day) = found at hsame hfound
  obtain ⟨y, m, d⟩ := found
  -- Of two dates with one number, neither is the later one.
  have hnotLater := mt (dayNumber_lt h hfound) (by rw [hsame]; exact Nat.lt_irrefl _)
  have hnotEarlier := mt (dayNumber_lt hfound h) (by rw [hsame]; exact Nat.lt_irrefl _)
  dsimp only at hnotLater hnotEarlier
  simp only [Prod.mk.injEq]
  omega

/-- The dates up to the end of the year 9999 are those of the days up to the last one. -/
theorem IsDate.year_le_iff {year month day : Nat} (h : IsDate year month day) :
    year ≤ 9999 ↔ dayNumber year month day ≤ lastDay := by
  have hend : daysBeforeYear 10000 = lastDay := by decide
  have hday := h.day_pos
  constructor
  · intro hyear
    have hbefore := h.lt_nextYear
    have hyears : daysBeforeYear (year + 1) ≤ daysBeforeYear 10000 :=
      daysBeforeYear_le (by omega) (by omega)
    omega
  · intro hnumber
    refine Nat.le_of_not_lt fun hyear => ?_
    have hyears : daysBeforeYear 10000 ≤ daysBeforeYear year :=
      daysBeforeYear_le (by decide) hyear
    unfold dayNumber at hnumber
    omega

end Calendar

end ContestUploads
