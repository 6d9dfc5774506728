import ContestUploads.Program.Basic
import ContestUploads.Project
import ContestUploads.Proofs.Literals
import ContestUploads.Reception.Winner
import Mathlib.Algebra.Field.Rat

/-!
# Who is let through as the winner

The property that names the winner holds any value at all.  `Value.Denotes` says which user a value
stands for without saying how that is found out: a number stands for the user with that exact id,
and anything else but a boolean and a missing value for the user whose id its text spells.

`names_iff_denotes` compares this with the check, kind by kind.  For a float it rests on the exact
value (`equalsInt_iff_rational?`), which is a rational number and never rounded; for a text on the
grammar of integer literals.
-/

namespace ContestUploads

namespace Binary64

/-- The exact value of a finite number. -/
def rational? (x : Binary64) : Option ℚ :=
  x.units.map fun u : Int => (u : ℚ) / 2 ^ 1074

/-- A power of two among the units is that power of two. -/
theorem cast_pow_two (k : Nat) : ((Int.pow 2 k : Int) : ℚ) = 2 ^ k :=
  Int.cast_pow 2 k

/-- A finite number is its mantissa, with its sign, times two to its exponent. -/
theorem rational?_finite (negative : Bool) (m : Nat) {e : Int} (he : -1074 ≤ e) :
    (finite negative m e).rational? = some ((if negative then -(m : ℚ) else m) * 2 ^ e) := by
  have hscale : (2 : ℚ) ^ (e + 1074).toNat / 2 ^ 1074 = 2 ^ e := by
    rw [div_eq_iff (pow_ne_zero _ two_ne_zero), ← zpow_natCast, ← zpow_natCast,
      ← zpow_add₀ two_ne_zero, Int.toNat_of_nonneg (by omega), Nat.cast_ofNat]
  cases negative with
  | false =>
      simp only [rational?, units, Option.map_some, Bool.false_eq_true, if_false, Int.cast_mul,
        Int.cast_natCast, cast_pow_two, mul_div_assoc, hscale]
  | true =>
      simp only [rational?, units, Option.map_some, if_true, Int.cast_neg, Int.cast_mul,
        Int.cast_natCast, cast_pow_two, neg_div, mul_div_assoc, hscale, neg_mul]

/-- Comparing a number with an integer compares exact values. -/
theorem equalsInt_iff_rational? {x : Binary64} {n : Int} :
    x.equalsInt n = true ↔ x.rational? = some (n : ℚ) := by
  have hone : (unitsPerOne : ℚ) = 2 ^ 1074 := cast_pow_two 1074
  have hne : (2 : ℚ) ^ 1074 ≠ 0 := pow_ne_zero _ two_ne_zero
  rw [equalsInt_iff, rational?]
  cases x.units with
  | none => simp only [Option.map_none, reduceCtorEq]
  | some u =>
      rw [Option.map_some, Option.some.injEq, Option.some.injEq, div_eq_iff hne, ← hone,
        ← Int.cast_mul, Int.cast_inj]

end Binary64

namespace Value

/-- What integer a value stands for where a user is named: a number for its exact value, a text or a
collection for what its text spells, if it can be written out; a boolean and a missing value stand
for none. -/
def Denotes : Value → Int → Prop
  | .null, _ => False
  | .bool _, _ => False
  | .int m, n => m = n
  | .float x, n => x.rational? = some (n : ℚ)
  | v, n => v.writable = true ∧ Text.Spells v.display n

/-- The check finds out what a value stands for. -/
theorem names_iff_denotes {v : Value} {n : Int} : v.names n = true ↔ v.Denotes n := by
  cases v with
  | null => simp [names, Denotes]
  | bool b => simp [names, Denotes]
  | int m => simp [names, Denotes]
  | float x => simp only [names, Denotes, Binary64.equalsInt_iff_rational?]
  | _ => simp only [names, Denotes, Bool.and_eq_true, beq_iff_eq, Text.integer?_eq_some_iff]

instance (v : Value) (n : Int) : Decidable (v.Denotes n) :=
  decidable_of_iff _ names_iff_denotes

/-- A value stands for one integer at most. -/
theorem Denotes.unique {v : Value} {m n : Int} (hm : v.Denotes m) (hn : v.Denotes n) : m = n := by
  cases v with
  | null => cases hm
  | bool b => cases hm
  | int k => exact hm.symm.trans hn
  | float x =>
      exact Binary64.equalsInt_unique (Binary64.equalsInt_iff_rational?.2 hm)
        (Binary64.equalsInt_iff_rational?.2 hn)
  | _ => exact Text.Spells.unique hm.2 hn.2

end Value

namespace Reception

open Program

variable {σ : Type}

/-- The entry about a user whom a project does not name. -/
def notWinnerEntry (projectId : Value) (userId : Int) : LogEntry :=
  { level := .error, event := .text "user_not_winner"
    fields := [("project_id", projectId), ("user_id", .int userId)] }

/-- The check asks nobody: it passes in silence, or writes one entry and refuses. -/
theorem requireWinner_eq (settings : Settings) (p : Project) (userId : Int) :
    requireWinner settings p.value userId =
      if (p.property settings.winner).Denotes userId then .done ()
      else .log (notWinnerEntry p.id userId) (reject (.notWinner (.int userId) p.id)) := by
  rw [requireWinner, Project.property_value, Project.read_id]
  show (if (p.property settings.winner).names userId = true then _ else _) = _
  by_cases hnamed : (p.property settings.winner).Denotes userId
  · rw [if_pos hnamed, if_pos (Value.names_iff_denotes.2 hnamed)]
    rfl
  · rw [if_neg hnamed, if_neg (mt Value.names_iff_denotes.1 hnamed)]
    rfl

/-- **The winner check.**  Whatever the property of a project holds, a user passes exactly if the
property stands for that user's id.  Anybody else is refused as not the winner of this project, with
one entry in the log and nothing else; only if one of the two ids has more digits than can be
written, this is what is raised instead.  So one user passes at most, and the user whose number is
written in the property passes however it is spelled: between any blanks, with or without a plus,
and behind any zeros within the limit. -/
theorem passes_iff_denotes (settings : Settings) (p : Project) (team : Collaborators σ)
    (t : Trail σ) :
    let check (userId : Int) := (requireWinner settings p.value userId).run team t
    let winner := p.property settings.winner
    (∀ userId, winner.Denotes userId → check userId = (.ok (), t)) ∧
    (∀ userId, ¬ winner.Denotes userId → check userId =
      (.error (if Text.writable userId && p.id.writable then .service (.notWinner (.int userId) p.id)
        else .foreign .tooManyDigits), t.noted (notWinnerEntry p.id userId))) ∧
    (∀ a b, (check a).1 = .ok () → (check b).1 = .ok () → a = b) ∧
    (∀ (userId zeros : Nat) (left sign right : List Char), left.all Text.isBlank = true →
      right.all Text.isBlank = true → sign = [] ∨ sign = ['+'] →
      zeros + (toString userId).length ≤ 4300 →
      winner = .text (String.ofList
        (left ++ (sign ++ (List.replicate zeros '0' ++ (toString userId).toList)) ++ right)) →
      check userId = (.ok (), t)) := by
  intro check winner
  have hcheck (userId : Int) : check userId =
      if winner.Denotes userId then (.ok (), t)
      else (.error (ServiceProblem.notWinner (.int userId) p.id).failure,
        t.noted (notWinnerEntry p.id userId)) := by
    show (requireWinner settings p.value userId).run team t = _
    rw [requireWinner_eq, apply_ite (Program.run team · t)]
    rfl
  have hpasses {userId : Int} (h : (check userId).1 = .ok ()) : winner.Denotes userId := by
    by_contra hnot
    rw [hcheck, if_neg hnot] at h
    cases h
  refine ⟨fun userId h => (hcheck userId).trans (if_pos h), fun userId h => ?_,
    fun a b ha hb => (hpasses ha).unique (hpasses hb), ?_⟩
  · rw [hcheck, if_neg h, ServiceProblem.failure_of_mentions _ rfl]
    simp
  intro userId zeros left sign right hleft hright hsign hshort hwinner
  have hplain : Text.Sign sign 1 := by
    rcases hsign with rfl | rfl
    · exact .absent
    · exact .plus
  have hdigits : (toString userId).toList = Nat.toDigits 10 userId := Nat.toList_repr
  have hspells := Text.spells_padded zeros userId hleft hright hplain
    (by rwa [← hdigits, String.length_toList])
  have hdenotes : winner.Denotes userId := by
    rw [hwinner, hdigits]
    exact ⟨Value.writable_text _, hspells⟩
  exact (hcheck userId).trans (if_pos hdenotes)

/-- A project that names user 42 in an unusual spelling. -/
theorem passes_iff_denotes_padded :
    let p : Project :=
      { id := .int 1, properties := [("Winner External Reference ID", .text "\t+0042 ")] }
    let team : Collaborators Unit := fun _ s => { reply := .ok .null, state := s }
    let check (userId : Int) := (requireWinner {} p.value userId).run team { state := () }
    check 42 = (.ok (), { state := () }) ∧
      (check 43).1 = .error (.service (.notWinner (.int 43) (.int 1))) := by
  intro p team check
  obtain ⟨hpassed, hrefused, hunique, hspelled⟩ :=
    passes_iff_denotes {} p team { state := () }
  have hpasses : check 42 = (.ok (), { state := () }) :=
    hspelled 42 2 ['\t'] ['+'] [' '] (by decide) (by decide) (.inr rfl) (by decide +kernel)
      (by decide +kernel)
  have hother : ¬ (p.property ({} : Settings).winner).Denotes 43 := by
    intro hdenotes
    have hboth := hunique 43 42 (congrArg Prod.fst (hpassed 43 hdenotes))
      (congrArg Prod.fst hpasses)
    exact absurd hboth (by decide)
  exact ⟨hpasses, congrArg Prod.fst (hrefused 43 hother)⟩

end Reception

end ContestUploads
