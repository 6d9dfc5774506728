import ContestUploads.Proofs.Dates
import ContestUploads.Proofs.Requests
import Mathlib.Data.List.Lex

/-!
# Moments and the instants they denote

A moment is valid if it is a date of the calendar, up to the year 9999, with a time of day and an
offset shorter than a day.  These are just the moments that can be made of parts
(`Moment.valid_iff_ofParts`).

The instant of a moment is counted in microseconds (`Moment.ticks`); the days in it are counted one
by one (`Calendar.dayNumber_nextDate`).  Among moments with the same offset, whoever shows less
denotes the earlier instant (`Moment.shown_lt_iff`), so an instant has one moment in UTC at most
(`Moment.eq_iff_ticks`).  Moving to UTC finds it, if it lies within the calendar.
-/

namespace ContestUploads

namespace Moment

open Calendar

/-- A date of the calendar up to the year 9999, a time of day, and an offset shorter than a day, if
there is one. -/
structure Valid (m : Moment) : Prop where
  date : IsDate m.year m.month m.day
  year_le : m.year ≤ 9999
  hour_le : m.hour ≤ 23
  minute_le : m.minute ≤ 59
  second_le : m.second ≤ 59
  microsecond_le : m.microsecond ≤ 999999
  offset_lt : ∀ s, m.offset = some s → -86400 < s ∧ s < 86400

section Parts

variable {m : Moment}

theorem part_int {n : Nat} (h : n ≤ 999999) : part (.int n) = .ok (n : Int) := by
  have hlong : Int.pow 2 63 = 9223372036854775808 := by decide
  have hshort : Int.pow 2 31 = 2147483648 := by decide
  show (if (n < -Int.pow 2 63 || Int.pow 2 63 ≤ (n : Int)) = true then _
    else if Int.pow 2 31 ≤ (n : Int) then _ else if (n : Int) < -Int.pow 2 31 then _ else _) = _
  rw [hlong, hshort, if_neg (by simp; omega), if_neg (by omega), if_neg (by omega)]

/-- The offsets that are taken are those shorter than a day. -/
theorem offsetOf_ok {v : Value} {offset : Option Int} (h : offsetOf v = .ok offset) :
    ∀ s, offset = some s → -86400 < s ∧ s < 86400 := by
  rintro s rfl
  unfold offsetOf at h
  split at h
  · cases h
  · cases h
  · split at h
    · rename_i n hshort
      obtain rfl := Option.some.inj (Except.ok.inj h)
      unfold daySeconds at hshort
      omega
    · split at h <;> cases h

theorem offsetOf_option {offset : Option Int}
    (h : ∀ s, offset = some s → -86400 < s ∧ s < 86400) :
    offsetOf ((offset.map .int).getD .null) = .ok offset := by
  cases offset with
  | none => rfl
  | some s =>
      have hshort : s.natAbs < daySeconds := by
        obtain ⟨hlow, hhigh⟩ := h s rfl
        unfold daySeconds
        omega
      show (if s.natAbs < daySeconds then _ else _) = _
      rw [if_pos hshort]

/-- What integers make a moment: each is in its range, and they are its parts. -/
theorem ofIntegers_eq_ok_iff {offset : Option Int}
    {year month day hour minute second microsecond : Int} :
    ofIntegers year month day hour minute second microsecond offset = .ok m ↔
      (1 ≤ m.year ∧ m.year ≤ 9999) ∧ (1 ≤ m.month ∧ m.month ≤ 12) ∧
        (1 ≤ m.day ∧ m.day ≤ monthLength m.year m.month) ∧ m.hour ≤ 23 ∧ m.minute ≤ 59 ∧
        m.second ≤ 59 ∧ m.microsecond ≤ 999999 ∧
        year = m.year ∧ month = m.month ∧ day = m.day ∧ hour = m.hour ∧ minute = m.minute ∧
        second = m.second ∧ microsecond = m.microsecond ∧ offset = m.offset := by
  obtain ⟨y, mo, d, h, mi, s, us, o⟩ := m
  have hlow : (0 : Int) ≤ 0 ∧ (0 : Int) ≤ 1 := by decide
  simp only [ofIntegers, bind_eq_ok_iff, inRange_eq_ok_iff hlow.1, inRange_eq_ok_iff hlow.2,
    Pure.pure, Except.pure, Except.ok.injEq, Moment.mk.injEq]
  constructor
  · rintro ⟨_, ⟨hyear, rfl⟩, _, ⟨hmonth, rfl⟩, _, ⟨hday, rfl⟩, _, ⟨hhour, rfl⟩, _, ⟨hminute, rfl⟩,
      _, ⟨hsecond, rfl⟩, _, ⟨hmicrosecond, rfl⟩, rfl, rfl, rfl, rfl, rfl, rfl, rfl, rfl⟩
    refine ⟨?_, ?_, ?_, ?_, ?_, ?_, ?_, rfl, rfl, rfl, rfl, rfl, rfl, rfl, rfl⟩ <;> omega
  · rintro ⟨hyear, hmonth, hday, hhour, hminute, hsecond, hmicrosecond, rfl, rfl, rfl, rfl, rfl,
      rfl, rfl, rfl⟩
    refine ⟨y, ⟨?_, rfl⟩, mo, ⟨?_, rfl⟩, d, ⟨?_, rfl⟩, h, ⟨?_, rfl⟩, mi, ⟨?_, rfl⟩, s, ⟨?_, rfl⟩,
      us, ⟨?_, rfl⟩, rfl, rfl, rfl, rfl, rfl, rfl, rfl, rfl⟩ <;> omega

/-- The moments that can be made of parts are the valid ones. -/
theorem valid_iff_ofParts (m : Moment) : m.Valid ↔ ∃ parts, ofParts parts = .ok m := by
  constructor
  · intro h
    refine ⟨[.int m.year, .int m.month, .int m.day, .int m.hour, .int m.minute, .int m.second,
      .int m.microsecond, (m.offset.map .int).getD .null], ?_⟩
    simp only [ofParts, bind_eq_ok_iff, ofIntegers_eq_ok_iff]
    have hyear := h.year_le
    have hmonth := h.date.month_le
    have hhour := h.hour_le
    have hminute := h.minute_le
    have hsecond := h.second_le
    have hday : m.day ≤ 366 := by
      have hbefore := h.date.lt_nextYear
      rw [daysBeforeYear_succ h.date.year_pos] at hbefore
      unfold dayNumber yearLength at hbefore
      split at hbefore <;> omega
    exact ⟨m.offset, offsetOf_option h.offset_lt, m.year, part_int (by omega), m.month,
      part_int (by omega), m.day, part_int (by omega), m.hour, part_int (by omega), m.minute,
      part_int (by omega), m.second, part_int (by omega), m.microsecond,
      part_int h.microsecond_le, ⟨h.date.year_pos, h.year_le⟩,
      ⟨h.date.month_pos, h.date.month_le⟩, ⟨h.date.day_pos, h.date.day_le⟩, h.hour_le,
      h.minute_le, h.second_le, h.microsecond_le, rfl, rfl, rfl, rfl, rfl, rfl, rfl, rfl⟩
  · rintro ⟨parts, h⟩
    simp only [ofParts, bind_eq_ok_iff, ofIntegers_eq_ok_iff] at h
    obtain ⟨offset, hoffset, -, -, -, -, -, -, -, -, -, -, -, -, -, -, hyear, hmonth, hday, hhour,
      hminute, hsecond, hmicrosecond, -, -, -, -, -, -, -, rfl⟩ := h
    exact ⟨⟨hyear.1, hmonth.1, hmonth.2, hday.1, hday.2⟩, hyear.2, hhour, hminute, hsecond,
      hmicrosecond, offsetOf_ok hoffset⟩

end Parts

/-- The instant of a moment, in microseconds. -/
def ticks (m : Moment) : Int :=
  1000000 * m.instant + m.microsecond

/-- What calendar and clock show, from the year down to the microsecond. -/
def shown (m : Moment) : List Nat :=
  [m.year, m.month, m.day, m.hour, m.minute, m.second, m.microsecond]

/-- The first moment of the calendar. -/
def earliest : Moment := ⟨1, 1, 1, 0, 0, 0, 0, some 0⟩

/-- The last moment of the year 9999. -/
def latest : Moment := ⟨9999, 12, 31, 23, 59, 59, 999999, some 0⟩

/-- The instant of a moment lies in the years 1 to 9999 in UTC. -/
def InCalendar (m : Moment) : Prop :=
  earliest.ticks ≤ m.ticks ∧ m.ticks ≤ latest.ticks

section Order

variable {u v : Moment}

/-- Of two moments with the same offset, the one that shows less denotes the earlier instant. -/
theorem ticks_lt_of_shown_lt (hu : u.Valid) (hv : v.Valid) (hoffset : u.offset = v.offset)
    (h : u.shown < v.shown) : u.ticks < v.ticks := by
  have hminute := hu.minute_le
  have hhour := hu.hour_le
  have hsecond := hu.second_le
  have hmicrosecond := hu.microsecond_le
  have hdate := dayNumber_lt hu.date hv.date
  simp only [shown, List.cons_lt_cons_iff, List.not_lt_nil, and_false, or_false] at h
  unfold ticks instant localSeconds daySeconds
  rw [hoffset]
  -- A later date outweighs any time of day, since a clock shows less than a day.
  by_cases hsame : u.year = v.year ∧ u.month = v.month ∧ u.day = v.day
  · obtain ⟨hyear, hmonth, hday⟩ := hsame
    rw [hyear, hmonth, hday]
    omega
  · have hearlier := hdate (by omega)
    omega

theorem eq_of_shown_eq (hoffset : u.offset = v.offset) (h : u.shown = v.shown) : u = v := by
  cases u
  cases v
  simp_all [shown]

/-- Moments with the same offset are in the order of their instants. -/
theorem shown_lt_iff (hu : u.Valid) (hv : v.Valid) (hoffset : u.offset = v.offset) :
    u.shown < v.shown ↔ u.ticks < v.ticks := by
  refine ⟨ticks_lt_of_shown_lt hu hv hoffset, fun h => ?_⟩
  rcases lt_trichotomy u.shown v.shown with hless | hsame | hgreater
  · exact hless
  · rw [eq_of_shown_eq hoffset hsame] at h
    exact absurd h (Int.lt_irrefl _)
  · exact absurd (ticks_lt_of_shown_lt hv hu hoffset.symm hgreater) (Int.lt_asymm h)

/-- A moment is determined by its offset and its instant. -/
theorem eq_iff_ticks (hu : u.Valid) (hv : v.Valid) (hoffset : u.offset = v.offset) :
    u = v ↔ u.ticks = v.ticks := by
  refine ⟨fun h => h ▸ rfl, fun h => ?_⟩
  rcases lt_trichotomy u.shown v.shown with hless | hsame | hgreater
  · exact absurd h (Int.ne_of_lt (ticks_lt_of_shown_lt hu hv hoffset hless))
  · exact eq_of_shown_eq hoffset hsame
  · exact absurd h (Int.ne_of_gt (ticks_lt_of_shown_lt hv hu hoffset.symm hgreater))

end Order

section Utc

variable {m u : Moment}

theorem zero_lt_day (s : Int) (h : some 0 = some s) : -86400 < s ∧ s < 86400 := by
  obtain rfl := Option.some.inj h
  decide

/-- A clock shows a second of a day of the calendar. -/
theorem Valid.localSeconds_within (h : m.Valid) :
    daySeconds ≤ m.localSeconds ∧ m.localSeconds < daySeconds * (lastDay + 1) := by
  have hnumber := h.date.year_le_iff.1 h.year_le
  have hday := h.date.day_pos
  have hhour := h.hour_le
  have hminute := h.minute_le
  have hsecond := h.second_le
  unfold localSeconds daySeconds
  unfold dayNumber at hnumber ⊢
  omega

/-- The seconds of the calendar are those of valid moments. -/
theorem valid_ofSeconds {seconds microsecond : Nat} (hlow : daySeconds ≤ seconds)
    (hhigh : seconds < daySeconds * (lastDay + 1)) (hmicrosecond : microsecond ≤ 999999) :
    (ofSeconds seconds microsecond).Valid := by
  have hdate := isDate_dateOfDay (seconds / daySeconds)
  have hday : 1 ≤ seconds / daySeconds := (Nat.one_le_div_iff (by decide)).2 hlow
  have hnumber : dayNumber (dateOfDay (seconds / daySeconds)).1
      (dateOfDay (seconds / daySeconds)).2.1 (dateOfDay (seconds / daySeconds)).2.2 ≤ lastDay := by
    rw [dayNumber_dateOfDay hday]
    exact Nat.le_of_lt_succ (Nat.div_lt_of_lt_mul hhigh)
  have htime : seconds % daySeconds < 86400 := Nat.mod_lt _ (by decide)
  exact {
    date := hdate
    year_le := hdate.year_le_iff.2 hnumber
    hour_le := by
      show seconds % daySeconds / 3600 ≤ 23
      omega
    minute_le := by
      show seconds % daySeconds / 60 % 60 ≤ 59
      omega
    second_le := by
      show seconds % daySeconds % 60 ≤ 59
      omega
    microsecond_le := hmicrosecond
    offset_lt := zero_lt_day }

theorem Valid.inCalendar_iff (h : m.Valid) :
    m.InCalendar ↔ daySeconds ≤ m.instant ∧ m.instant < daySeconds * (lastDay + 1) := by
  have hfirst : earliest.ticks = 86400000000 := by decide
  have hlast : latest.ticks = 315537983999999999 := by decide
  have hmicrosecond := h.microsecond_le
  unfold InCalendar
  rw [hfirst, hlast]
  unfold ticks daySeconds lastDay
  omega

/-- Within the calendar, the moment in UTC is a valid one of the same instant. -/
theorem Valid.exists_inUtc (h : m.Valid) (hwithin : m.InCalendar) :
    ∃ u, m.inUtc = .ok u ∧ u.Valid ∧ u.offset = some 0 ∧ u.ticks = m.ticks := by
  obtain ⟨hlow, hhigh⟩ := h.inCalendar_iff.1 hwithin
  rcases hoffset : m.offset with _ | s
  · have hutc : m.inUtc = .ok { m with offset := some 0 } := by
      rw [inUtc, toUtc?, hoffset]
    have hvalid : Valid { m with offset := some 0 } :=
      ⟨h.date, h.year_le, h.hour_le, h.minute_le, h.second_le, h.microsecond_le, zero_lt_day⟩
    refine ⟨_, hutc, hvalid, rfl, ?_⟩
    unfold ticks instant
    rw [hoffset]
    rfl
  · have hseconds : (m.instant.toNat : Int) = m.instant :=
      Int.toNat_of_nonneg (Int.le_trans (Int.natCast_nonneg daySeconds) hlow)
    rw [← hseconds] at hlow hhigh
    have hutc : m.inUtc = .ok (ofSeconds m.instant.toNat m.microsecond) := by
      rw [inUtc, toUtc?, hoffset, ← hseconds]
      dsimp only
      rw [if_pos ⟨hlow, hhigh⟩, Int.toNat_natCast]
    refine ⟨_, hutc, valid_ofSeconds (Int.ofNat_le.1 hlow) (by exact_mod_cast hhigh)
      h.microsecond_le, rfl, ?_⟩
    unfold ticks
    rw [instant_ofSeconds (Int.ofNat_le.1 hlow), hseconds]
    rfl

/-- Outside of the calendar there is no moment in UTC.  A moment without an offset is never
outside. -/
theorem Valid.inUtc_outside (h : m.Valid) (hwithin : ¬m.InCalendar) :
    m.inUtc = .error .dateOutOfRange := by
  rw [h.inCalendar_iff] at hwithin
  rcases hoffset : m.offset with _ | s
  · obtain ⟨hlow, hhigh⟩ := h.localSeconds_within
    have hinstant : m.instant = m.localSeconds := by
      unfold instant
      rw [hoffset]
      exact Int.sub_zero _
    rw [hinstant] at hwithin
    exact absurd ⟨Int.ofNat_le.2 hlow, by exact_mod_cast hhigh⟩ hwithin
  · rw [inUtc, toUtc?, hoffset]
    dsimp only
    rw [if_neg hwithin]

theorem Valid.of_inUtc (h : m.Valid) (hutc : m.inUtc = .ok u) :
    u.Valid ∧ u.offset = some 0 ∧ u.ticks = m.ticks := by
  by_cases hwithin : m.InCalendar
  · obtain ⟨u', hutc', hu'⟩ := h.exists_inUtc hwithin
    obtain rfl := Except.ok.inj (hutc.symm.trans hutc')
    exact hu'
  · rw [h.inUtc_outside hwithin] at hutc
    cases hutc

/-- A moment in UTC stays as it is. -/
theorem Valid.inUtc_self (h : m.Valid) (hoffset : m.offset = some 0) (hwithin : m.InCalendar) :
    m.inUtc = .ok m := by
  obtain ⟨u, hutc, hu, hzero, hticks⟩ := h.exists_inUtc hwithin
  rw [hutc, (eq_iff_ticks hu h (hzero.trans hoffset.symm)).2 hticks]

end Utc

end Moment

/-- **Moving to UTC keeps the instant.**  A valid moment whose instant lies in the years 1 to 9999
has a moment in UTC: a valid one with offset zero, of the same instant, which is left as it is when
it is moved to UTC again.  Any other moment is refused as out of range.  Two moments come to the
same one exactly if they denote the same instant, and what calendar and clock show in UTC is in the
order of the instants. -/
theorem utc_keeps_instants {m n : Moment} (hm : m.Valid) (hn : n.Valid) :
    (m.InCalendar → ∃ u, m.inUtc = .ok u ∧ u.Valid ∧ u.offset = some 0 ∧ u.ticks = m.ticks ∧
        u.inUtc = .ok u) ∧
      (¬m.InCalendar → m.inUtc = .error .dateOutOfRange) ∧
      ∀ u v, m.inUtc = .ok u → n.inUtc = .ok v →
        (u = v ↔ m.ticks = n.ticks) ∧ (u.shown < v.shown ↔ m.ticks < n.ticks) := by
  refine ⟨fun hwithin => ?_, hm.inUtc_outside, fun u v hu hv => ?_⟩
  · obtain ⟨u, hutc, hvalid, hoffset, hticks⟩ := hm.exists_inUtc hwithin
    have hstays : u.InCalendar := by
      unfold Moment.InCalendar
      rwa [hticks]
    exact ⟨u, hutc, hvalid, hoffset, hticks, hvalid.inUtc_self hoffset hstays⟩
  · obtain ⟨huvalid, huoffset, huticks⟩ := hm.of_inUtc hu
    obtain ⟨hvvalid, hvoffset, hvticks⟩ := hn.of_inUtc hv
    have hoffset : u.offset = v.offset := huoffset.trans hvoffset.symm
    rw [← huticks, ← hvticks]
    exact ⟨Moment.eq_iff_ticks huvalid hvvalid hoffset,
      Moment.shown_lt_iff huvalid hvvalid hoffset⟩

/-- Half an hour before the end of a leap day, an hour west of Greenwich, it is the first of March
in UTC, and a clock without an offset that shows this time shows the same instant. -/
theorem utc_keeps_instants_leapDay :
    let m : Moment := ⟨2024, 2, 29, 23, 30, 0, 500000, some (-3600)⟩
    let n : Moment := ⟨2024, 3, 1, 0, 30, 0, 500000, none⟩
    let u : Moment := ⟨2024, 3, 1, 0, 30, 0, 500000, some 0⟩
    m.Valid ∧ n.Valid ∧ m.InCalendar ∧ m.inUtc = .ok u ∧ n.inUtc = .ok u ∧ u.inUtc = .ok u ∧
      m.ticks = n.ticks := by
  intro m n u
  have hm : m.Valid :=
    ⟨⟨by decide, by decide, by decide, by decide, by decide⟩, by decide, by decide, by decide,
      by decide, by decide, by rintro s ⟨⟩; decide⟩
  have hn : n.Valid :=
    ⟨⟨by decide, by decide, by decide, by decide, by decide⟩, by decide, by decide, by decide,
      by decide, by decide, nofun⟩
  have hwithin : m.InCalendar := by
    unfold Moment.InCalendar
    decide
  have hmutc : m.inUtc = .ok u := by decide
  have hnutc : n.inUtc = .ok u := by decide
  obtain ⟨hinside, -, hpair⟩ := utc_keeps_instants hm hn
  obtain ⟨u', hu', -, -, -, hagain⟩ := hinside hwithin
  obtain rfl : u = u' := Except.ok.inj (hmutc.symm.trans hu')
  exact ⟨hm, hn, hwithin, hmutc, hnutc, hagain, (hpair u u hmutc hnutc).1.1 rfl⟩

end ContestUploads
