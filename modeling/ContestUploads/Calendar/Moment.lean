import ContestUploads.Calendar.Day
import ContestUploads.Text.Listing

/-!
# Moments

A moment is a date and a time of day, together with an offset in seconds east of Greenwich.
A moment without an offset is read as UTC.  `toUtc?` moves a moment to offset zero; it has no
answer exactly when the instant lies outside the years 1 to 9999.

* `Moment.instant_ofSeconds`: a moment that is made from seconds denotes these seconds.
-/

namespace ContestUploads

open Calendar

/-- A date and time, with an offset in seconds or none. -/
structure Moment where
  year : Nat
  month : Nat
  day : Nat
  hour : Nat
  minute : Nat
  second : Nat
  microsecond : Nat
  offset : Option Int
  deriving DecidableEq, Repr, Inhabited

namespace Moment

/-- The seconds of a day. -/
def daySeconds : Nat := 86400

/-- The seconds shown by the clock, counted from the start of day number zero. -/
def localSeconds (m : Moment) : Nat :=
  daySeconds * dayNumber m.year m.month m.day + 3600 * m.hour + 60 * m.minute + m.second

/-- The seconds of the instant that a moment denotes; no offset means UTC. -/
def instant (m : Moment) : Int :=
  m.localSeconds - m.offset.getD 0

/-- The moment in UTC at a number of seconds. -/
def ofSeconds (seconds microsecond : Nat) : Moment :=
  let (year, month, day) := dateOfDay (seconds / daySeconds)
  let time := seconds % daySeconds
  ⟨year, month, day, time / 3600, time / 60 % 60, time % 60, microsecond, some 0⟩

/-- The same instant in UTC, if it lies in the years 1 to 9999. -/
def toUtc? (m : Moment) : Option Moment :=
  match m.offset with
  | none => some { m with offset := some 0 }
  | some _ =>
      if daySeconds ≤ m.instant ∧ m.instant < daySeconds * (lastDay + 1) then
        some (ofSeconds m.instant.toNat m.microsecond)
      else none

/-- A moment that is made from seconds denotes these seconds. -/
theorem instant_ofSeconds {seconds : Nat} (h : daySeconds ≤ seconds) (microsecond : Nat) :
    (ofSeconds seconds microsecond).instant = seconds := by
  have hday : 1 ≤ seconds / daySeconds :=
    (Nat.one_le_div_iff (by decide)).2 h
  have hnumber := dayNumber_dateOfDay hday
  have hlocal : (ofSeconds seconds microsecond).localSeconds = seconds := by
    unfold ofSeconds localSeconds
    dsimp only
    rw [hnumber]
    unfold daySeconds
    omega
  rw [instant, hlocal]
  simp [ofSeconds]

/-- Equality of moments: by instant when both have an offset, by what the clock shows when
neither has one, never otherwise. -/
def equals (a b : Moment) : Bool :=
  match a.offset, b.offset with
  | some _, some _ => a.instant == b.instant && a.microsecond == b.microsecond
  | none, none => a == b
  | _, _ => false

/-- A number padded with zeros. -/
def padded (width n : Nat) : String :=
  let ds := Nat.toDigits 10 n
  String.ofList (List.replicate (width - ds.length) '0' ++ ds)

/-- The offset as `+hh:mm`, with seconds when they are not zero. -/
def offsetText (offset : Int) : String :=
  let size := offset.natAbs
  let sign := if offset < 0 then "-" else "+"
  let seconds := if size % 60 = 0 then "" else ":" ++ padded 2 (size % 60)
  sign ++ padded 2 (size / 3600) ++ ":" ++ padded 2 (size / 60 % 60) ++ seconds

/-- The date as `yyyy-mm-dd`. -/
def dateText (m : Moment) : String :=
  padded 4 m.year ++ "-" ++ padded 2 m.month ++ "-" ++ padded 2 m.day

/-- The time of day as `hh:mm:ss`. -/
def timeText (m : Moment) : String :=
  padded 2 m.hour ++ ":" ++ padded 2 m.minute ++ ":" ++ padded 2 m.second

/-- Date and time with `separator` between them; microseconds only when they are not zero. -/
def textWith (separator : String) (m : Moment) : String :=
  let fraction := if m.microsecond = 0 then "" else "." ++ padded 6 m.microsecond
  m.dateText ++ separator ++ m.timeText ++ fraction ++ (m.offset.map offsetText).getD ""

/-- The interchange format, with a `T` between date and time. -/
def isoText (m : Moment) : String :=
  m.textWith "T"

/-- The form in which tables keep a moment: no offset, microseconds always. -/
def tableText (m : Moment) : String :=
  m.dateText ++ " " ++ m.timeText ++ "." ++ padded 6 m.microsecond

/-- How a period of `seconds` is written: in days, which may be negative, and in seconds of a day;
what is zero is left out. -/
def periodLiteral (seconds : Int) : String :=
  let parts := [("days", seconds.fdiv daySeconds), ("seconds", seconds.fmod daySeconds)]
  let shown := (parts.filter fun p => p.2 != 0).map fun p => p.1 ++ "=" ++ toString p.2
  Text.composed "datetime.timedelta" (if shown.isEmpty then ["0"] else shown)

example : periodLiteral (-3600) = "datetime.timedelta(days=-1, seconds=82800)" := by decide +kernel

/-- A moment written out by its parts; zero seconds and microseconds at the end are left out. -/
def literal (m : Moment) : String :=
  let parts := [m.year, m.month, m.day, m.hour, m.minute] ++
    (if m.second = 0 ∧ m.microsecond = 0 then [] else [m.second]) ++
    (if m.microsecond = 0 then [] else [m.microsecond])
  let zone :=
    match m.offset with
    | none => []
    | some 0 => ["tzinfo=datetime.timezone.utc"]
    | some s => ["tzinfo=" ++ Text.composed "datetime.timezone" [periodLiteral s]]
  Text.composed "datetime.datetime" (parts.map toString ++ zone)

end Moment

end ContestUploads
