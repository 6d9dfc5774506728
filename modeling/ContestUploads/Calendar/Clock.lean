import ContestUploads.Calendar.Moment

/-!
# Clocks

A clock gives stamps, one after the other.  Which moments these are is left open: a `Timeline` is
any course of moments in UTC of which each denotes a later instant than the one before.  Unless
another one is given, a clock moves on by one second with every stamp.

* `Timeline.instant_lt`: a later stamp denotes a later instant;
* `Clock.latest_lt_tick`: a stamp denotes a later instant than all those given before.
-/

namespace ContestUploads

/-- The stamps that a clock gives, in order: all of them are in UTC, and each denotes a later
instant than the one before. -/
structure Timeline where
  stamp : Nat → Moment
  utc : ∀ n, (stamp n).offset = some 0
  increasing : ∀ n, (stamp n).instant < (stamp (n + 1)).instant

namespace Timeline

/-- A later stamp denotes a later instant. -/
theorem instant_lt (t : Timeline) {m n : Nat} (h : m < n) :
    (t.stamp m).instant < (t.stamp n).instant := by
  induction h with
  | refl => exact t.increasing m
  | step _ ih => exact Int.lt_trans ih (t.increasing _)

/-- The moment `n` seconds after the start of the year 2024. -/
def second (n : Nat) : Moment :=
  .ofSeconds (Moment.daySeconds * Calendar.dayNumber 2024 1 1 + n) 0

theorem instant_second (n : Nat) :
    (second n).instant = ↑(Moment.daySeconds * Calendar.dayNumber 2024 1 1 + n) :=
  Moment.instant_ofSeconds (Nat.le_trans (by decide) (Nat.le_add_right _ n)) 0

/-- One stamp every second, from the start of the year 2024. -/
def everySecond : Timeline where
  stamp := second
  utc _ := rfl
  increasing n := by
    rw [instant_second, instant_second]
    omega

end Timeline

/-- A clock with the stamps that it gives; `given` counts those it has given already. -/
structure Clock where
  timeline : Timeline := .everySecond
  given : Nat := 0

namespace Clock

instance : Inhabited Clock := ⟨{}⟩

instance : Repr Clock := ⟨fun c => reprPrec c.given⟩

/-- The `n`-th stamp of a clock. -/
def stamp (c : Clock) (n : Nat) : Moment :=
  c.timeline.stamp n

/-- A clock after giving some more stamps. -/
def after (c : Clock) (stamps : Nat) : Clock :=
  { c with given := c.given + stamps }

/-- The next stamp and the clock after giving it. -/
def tick (c : Clock) : Moment × Clock :=
  (c.stamp (c.given + 1), c.after 1)

/-- The instant of the stamp that a clock has given last. -/
def latest (c : Clock) : Int :=
  (c.stamp c.given).instant

/-- A stamp denotes a later instant than all those given before. -/
theorem latest_lt_tick (c : Clock) : c.latest < c.tick.1.instant :=
  c.timeline.increasing c.given

theorem latest_tick (c : Clock) : c.tick.2.latest = c.tick.1.instant := rfl

@[simp] theorem offset_stamp (c : Clock) (n : Nat) : (c.stamp n).offset = some 0 :=
  c.timeline.utc n

@[simp] theorem after_zero (c : Clock) : c.after 0 = c := rfl

@[simp] theorem after_after (c : Clock) (m n : Nat) : (c.after m).after n = c.after (m + n) := by
  simp [after, Nat.add_assoc]

@[simp] theorem given_after (c : Clock) (n : Nat) : (c.after n).given = c.given + n := rfl

@[simp] theorem stamp_after (c : Clock) (m n : Nat) : (c.after m).stamp n = c.stamp n := rfl

example : (tick {}).1 = ⟨2024, 1, 1, 0, 0, 1, 0, some 0⟩ := by decide

end Clock

end ContestUploads
