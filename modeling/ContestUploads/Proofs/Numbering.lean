import ContestUploads.Proofs.Filing
import ContestUploads.Proofs.Writing

/-!
# The numbers that a catalog in memory gives

A submission comes into the catalog in one of two ways: it is put in from outside, with an id of its
own or without one, or it is created.  Where the catalog chooses the number, it draws it from one
counter; only creating looks whether the number is in use.

What one deposit does to the register and to the counter is said once (`answer_automatic`,
`answer_brought`), and from it follows what a sequence of deposits can have used up: a number in use
is one that the counter has passed or one that was brought along (`uses_deposited`).  So the number
that comes next is in use exactly if it was brought along, and then a submission put in without an
id takes the place of the one that brought it.
-/

namespace ContestUploads

namespace Value

/-- The integer that the key of a value stands for is the one that the value stands for. -/
theorem whole?_key (v : Value) : v.key.whole? = v.whole? := by
  cases v with
  | float x => cases h : x.toInt? <;> simp [key, whole?, integral?, h]
  | moment m => cases h : m.offset <;> simp [key, whole?, integral?, h]
  | _ => simp [key, whole?, integral?]

/-- What equals an integer can be an id. -/
theorem demandFixed_of_equals_int {v : Value} {n : Int} (h : v.equals (.int n) = true) :
    v.demandFixed = .ok () := by
  have hwhole := equals_int_iff.1 h
  cases v with
  | bool b => simp [demandFixed, changeable?]
  | int m => simp [demandFixed, changeable?]
  | float x => simp [demandFixed, changeable?]
  | _ => simp [whole?, integral?] at hwhole

end Value

namespace Register

variable {α : Type} (r : Register α)

/-- The numbers of a register are the integers in use. -/
theorem uses_int_iff {n : Int} : r.uses (.int n) = true ↔ n ∈ r.numbers := by
  simp only [uses, keys, numbers, Value.key_int, List.contains_iff_mem, List.mem_map,
    List.mem_filterMap, exists_exists_and_eq_and, Value.whole?_key]
  constructor
  · rintro ⟨e, he, hkey⟩
    exact ⟨e, he, Value.equals_int_iff.1 (Value.key_eq_int_iff.1 hkey)⟩
  · rintro ⟨e, he, hwhole⟩
    exact ⟨e, he, Value.key_eq_int_iff.2 (Value.equals_int_iff.2 hwhole)⟩

/-- After storing, the ids in use are those that were and the new one. -/
theorem uses_put {id other : Value} (record : α) :
    (r.put id record).uses other = true ↔ r.uses other = true ∨ other.key = id.key := by
  simp only [uses, keys_put, List.contains_iff_mem]
  by_cases hknown : id.key ∈ r.keys
  · rw [if_pos hknown]
    constructor
    · exact .inl
    · rintro (h | h)
      · exact h
      · rwa [h]
  · rw [if_neg hknown, List.mem_append, List.mem_singleton]

/-- Storing under an id that is not in use appends. -/
theorem entries_put_of_not_uses {id : Value} (record : α) (h : ¬ r.uses id = true) :
    (r.put id record).entries = r.entries ++ [(id, record)] := by
  obtain ⟨entries⟩ := r
  simp only [uses, keys, List.contains_iff_mem, List.mem_map, not_exists, not_and] at h
  simp only [put]
  induction entries with
  | nil => rfl
  | cons e rest ih =>
      rw [putEntry, if_neg (h e List.mem_cons_self), List.cons_append,
        ih fun e' he' => h e' (List.mem_cons_of_mem _ he')]

/-- Storing under an id that is in use makes the register no longer. -/
theorem length_put_of_uses {id : Value} (record : α) (h : r.uses id = true) :
    (r.put id record).entries.length = r.entries.length := by
  have hknown : id.key ∈ r.keys := by simpa [uses] using h
  have hkeys : (r.put id record).keys = r.keys := by rw [keys_put, if_pos hknown]
  simpa [keys] using congrArg List.length hkeys

/-- Everything that the first free number skips is in use. -/
theorem mem_of_lt_firstFree {ids : List Int} {start m : Int} (hstart : start ≤ m)
    (hm : m < firstFree ids start) : m ∈ ids := by
  simp only [firstFree, List.find?_map] at hm
  rcases hfound : (List.range (ids.length + 1)).find?
      ((fun id => !ids.contains id) ∘ fun i => start + Int.ofNat i) with _ | i
  · rw [hfound, Option.map_none, Option.getD_none] at hm
    omega
  · obtain ⟨-, -, hskipped⟩ := List.find?_range_eq_some.1 hfound
    rw [hfound, Option.map_some, Option.getD_some, Int.ofNat_eq_natCast] at hm
    have hbefore := hskipped (m - start).toNat (by omega)
    have hback : start + Int.ofNat (m - start).toNat = m := by
      rw [Int.ofNat_eq_natCast]
      omega
    simpa only [Function.comp_apply, hback, Bool.not_not, List.contains_iff_mem] using hbefore

end Register

namespace Memory

/-- A submission that comes into the catalog: put in from outside, or created by an operator. -/
inductive Deposit
  | add (s : Submission)
  | create (s : Submission) (operator : Value)

namespace Deposit

/-- Whether it is left to the catalog to choose the number. -/
def automatic : Deposit → Bool
  | .add s => s.id.isNull
  | .create _ _ => true

/-- What the catalog makes of a deposit. -/
def answer : Deposit → Catalog × Clock → Answer (Catalog × Clock)
  | .add s, (c, clock) => c.written clock (c.addSubmission s.value)
  | .create s operator, state => Catalog.answer (.createSubmission s.value operator) state

/-- The catalog after a sequence of deposits. -/
def deposited (ds : List Deposit) (s : Catalog × Clock) : Catalog × Clock :=
  ds.foldl (fun s d => (d.answer s).state) s

/-- The ids that the catalog chose in a sequence of deposits, as it handed them out. -/
def chosen : List Deposit → Catalog × Clock → List Value
  | [], _ => []
  | d :: rest, s =>
      let answer := d.answer s
      let here := (answer.reply >>= (·.read "submission_id")).toOption.toList
      (if d.automatic then here else []) ++ chosen rest answer.state

/-- Whether one of the deposits brought a number along. -/
def Brought (ds : List Deposit) (n : Int) : Prop :=
  ∃ s, .add s ∈ ds ∧ s.id.equals (.int n) = true

/-- The number that a deposit without an id gets. -/
def nextNumber (c : Catalog) : Deposit → Int
  | .add _ => c.nextSubmission
  | .create _ _ => Register.firstFree c.submissions.numbers c.nextSubmission

/-- A deposit that the catalog numbers is stored under the next number, and the counter goes on from
there. -/
theorem answer_automatic {d : Deposit} (hd : d.automatic = true) (c : Catalog) (clock : Clock) :
    ∃ s : Submission, s.id = .int (d.nextNumber c) ∧
      (d.answer (c, clock)).reply = .ok s.value ∧
      (d.answer (c, clock)).state.1.submissions =
        c.submissions.put (.int (d.nextNumber c)) s.value ∧
      (d.answer (c, clock)).state.1.nextSubmission = d.nextNumber c + 1 := by
  cases d with
  | add s =>
      have hadd : c.addSubmission s.value = .ok ({ s with id := .int c.nextSubmission }.value,
          { c with
            submissions :=
              c.submissions.put (.int c.nextSubmission) { s with id := .int c.nextSubmission }.value
            nextSubmission := c.nextSubmission + 1 }) := by
        have hnull : s.id.isNull = true := hd
        simp [Catalog.addSubmission, hnull, bind, Except.bind, pure, Except.pure]
      refine ⟨{ s with id := .int c.nextSubmission }, rfl, ?_, ?_, ?_⟩ <;>
        simp [answer, Catalog.written, hadd, nextNumber]
  | create s operator =>
      rw [answer, Catalog.answer_createSubmission]
      exact ⟨_, rfl, rfl, rfl, rfl⟩

/-- A deposit that brings an id is stored under it, or refused without a trace. -/
theorem answer_brought {d : Deposit} (hd : d.automatic = false) (c : Catalog) (clock : Clock) :
    ∃ s, d = .add s ∧
      (d.answer (c, clock)).state.1.nextSubmission = c.nextSubmission ∧
      ((d.answer (c, clock)).state.1.submissions = c.submissions.put s.id s.value ∨
        s.id.demandFixed ≠ .ok () ∧ (d.answer (c, clock)).state.1 = c) := by
  cases d with
  | create s operator => cases hd
  | add s =>
      have hnull : s.id.isNull = false := hd
      refine ⟨s, rfl, ?_⟩
      rcases hfixed : s.id.demandFixed with e | ⟨⟩
      · have hadd : c.addSubmission s.value = .error e := by
          simp [Catalog.addSubmission, hnull, Register.store, hfixed, bind, Except.bind]
        simp [answer, Catalog.written, hadd]
      · have hadd : c.addSubmission s.value =
            .ok (s.value, { c with submissions := c.submissions.put s.id s.value }) := by
          simp [Catalog.addSubmission, hnull, Register.store, hfixed, bind, Except.bind, pure,
            Except.pure]
        simp [answer, Catalog.written, hadd]

/-! ## Sequences of deposits -/

/-- The number that a deposit gets is not before the counter. -/
theorem le_nextNumber (c : Catalog) (d : Deposit) : c.nextSubmission ≤ d.nextNumber c := by
  cases d with
  | add s => exact Int.le_refl _
  | create s operator => exact Register.le_firstFree _ _

/-- The counter never goes back. -/
theorem counter_le_answer (d : Deposit) (s : Catalog × Clock) :
    s.1.nextSubmission ≤ (d.answer s).state.1.nextSubmission := by
  obtain ⟨c, clock⟩ := s
  rcases hd : d.automatic with _ | _
  · obtain ⟨_, -, hcounter, -⟩ := answer_brought hd c clock
    exact Int.le_of_eq hcounter.symm
  · obtain ⟨_, -, -, -, hcounter⟩ := answer_automatic hd c clock
    have hle := le_nextNumber c d
    rw [hcounter]
    show c.nextSubmission ≤ _
    omega

theorem counter_le_deposited (ds : List Deposit) (s : Catalog × Clock) :
    s.1.nextSubmission ≤ (deposited ds s).1.nextSubmission := by
  induction ds generalizing s with
  | nil => exact Int.le_refl _
  | cons d rest ih => exact Int.le_trans (counter_le_answer d s) (ih _)

/-- One deposit makes at most its own number used: one that the counter has passed now, or one that
it brought along. -/
theorem uses_answer {d : Deposit} {s : Catalog × Clock} {n : Int}
    (h : (d.answer s).state.1.submissions.uses (.int n) = true) :
    s.1.submissions.uses (.int n) = true ∨ n < (d.answer s).state.1.nextSubmission ∨
      Brought [d] n := by
  obtain ⟨c, clock⟩ := s
  rcases hd : d.automatic with _ | _
  · obtain ⟨x, rfl, -, hput | ⟨-, hsame⟩⟩ := answer_brought hd c clock
    · rw [hput, Register.uses_put] at h
      exact h.imp_right fun hkey =>
        .inr ⟨x, List.mem_cons_self, Value.key_eq_int_iff.1 hkey.symm⟩
    · rw [hsame] at h
      exact .inl h
  · obtain ⟨x, -, -, hput, hcounter⟩ := answer_automatic hd c clock
    rw [hput, Register.uses_put] at h
    refine h.imp_right fun hkey => .inl ?_
    rw [hcounter, Value.int.inj hkey]
    omega

/-- What a sequence of deposits uses up: numbers that the counter has passed, and those that were
brought along. -/
theorem uses_deposited {ds : List Deposit} {s : Catalog × Clock} {n : Int}
    (h : (deposited ds s).1.submissions.uses (.int n) = true) :
    s.1.submissions.uses (.int n) = true ∨ n < (deposited ds s).1.nextSubmission ∨
      Brought ds n := by
  induction ds generalizing s with
  | nil => exact .inl h
  | cons d rest ih =>
      rcases ih h with hstep | hpassed | ⟨x, hx, hid⟩
      · rcases uses_answer hstep with hbefore | hpassed | ⟨x, hx, hid⟩
        · exact .inl hbefore
        · exact .inr (.inl (Int.lt_of_lt_of_le hpassed (counter_le_deposited rest _)))
        · obtain rfl := List.mem_singleton.1 hx
          exact .inr (.inr ⟨x, List.mem_cons_self, hid⟩)
      · exact .inr (.inl hpassed)
      · exact .inr (.inr ⟨x, List.mem_cons_of_mem _ hx, hid⟩)

/-- A number in use stays in use. -/
theorem uses_answer_of_uses (d : Deposit) {s : Catalog × Clock} {id : Value}
    (h : s.1.submissions.uses id = true) : (d.answer s).state.1.submissions.uses id = true := by
  obtain ⟨c, clock⟩ := s
  rcases hd : d.automatic with _ | _
  · obtain ⟨x, rfl, -, hput | ⟨-, hsame⟩⟩ := answer_brought hd c clock
    · rw [hput, Register.uses_put]
      exact .inl h
    · rwa [hsame]
  · obtain ⟨x, -, -, hput, -⟩ := answer_automatic hd c clock
    rw [hput, Register.uses_put]
    exact .inl h

theorem uses_deposited_of_uses (ds : List Deposit) {s : Catalog × Clock} {id : Value}
    (h : s.1.submissions.uses id = true) : (deposited ds s).1.submissions.uses id = true := by
  induction ds generalizing s with
  | nil => exact h
  | cons d rest ih => exact ih (uses_answer_of_uses d h)

/-- A number that was brought along is in use from then on. -/
theorem uses_of_brought {ds : List Deposit} {n : Int} (h : Brought ds n) (s : Catalog × Clock) :
    (deposited ds s).1.submissions.uses (.int n) = true := by
  obtain ⟨x, hx, hid⟩ := h
  obtain ⟨before, rest, rfl⟩ := List.append_of_mem hx
  have hsplit : deposited (before ++ .add x :: rest) s =
      deposited rest (answer (.add x) (deposited before s)).state := by
    simp [deposited, List.foldl_append]
  rw [hsplit]
  refine uses_deposited_of_uses rest ?_
  have hbrings : (Deposit.add x).automatic = false := by
    rcases hnull : x.id.isNull with _ | _
    · exact hnull
    · rw [Value.isNull_iff.1 hnull] at hid
      cases hid
  obtain ⟨_, heq, -, hput | ⟨hnot, -⟩⟩ :=
    answer_brought hbrings (deposited before s).1 (deposited before s).2
  · obtain rfl := Deposit.add.inj heq
    rw [hput, Register.uses_put]
    exact .inr (Value.key_eq_int_iff.2 hid).symm
  · obtain rfl := Deposit.add.inj heq
    exact absurd (Value.demandFixed_of_equals_int hid) hnot

/-- The ids that the catalog chooses are numbers from the counter on, each greater than those
before. -/
theorem exists_chosen (ds : List Deposit) (s : Catalog × Clock) :
    ∃ ns : List Int, chosen ds s = ns.map .int ∧ (∀ n ∈ ns, s.1.nextSubmission ≤ n) ∧
      ns.Pairwise (· < ·) := by
  induction ds generalizing s with
  | nil => exact ⟨[], rfl, by simp, by simp⟩
  | cons d rest ih =>
      obtain ⟨ns, hns, hfrom, hlt⟩ := ih (d.answer s).state
      have hlater : ∀ n ∈ ns, s.1.nextSubmission ≤ n := fun n hn =>
        Int.le_trans (counter_le_answer d s) (hfrom n hn)
      rcases hd : d.automatic with _ | _
      · exact ⟨ns, by simp [chosen, hd, hns], hlater, hlt⟩
      · obtain ⟨x, hid, hreply, -, hcounter⟩ := answer_automatic hd s.1 s.2
        have hread : ((d.answer s).reply >>= (·.read "submission_id")) =
            .ok (.int (d.nextNumber s.1)) := by
          show ((d.answer (s.1, s.2)).reply >>= _) = _
          rw [hreply, ← hid]
          rfl
        refine ⟨d.nextNumber s.1 :: ns, ?_, ?_, List.pairwise_cons.2 ⟨fun n hn => ?_, hlt⟩⟩
        · simp [chosen, hd, hns, hread, Except.toOption]
        · intro n hn
          rcases List.mem_cons.1 hn with rfl | hn
          · exact le_nextNumber s.1 d
          · exact hlater n hn
        · have hnext := hfrom n hn
          rw [show (d.answer s).state.1.nextSubmission = _ from hcounter] at hnext
          omega

end Deposit

open Deposit

/-- **The numbers that the catalog chooses.**  Take any deposits into an empty catalog.  A further
one whose number is left to the catalog is always stored, under a number that the counter has not
passed, behind numbers that are all in use, and no other record changes.  It makes the register one
record longer unless its number is in use, and then it takes the place of the record that has the
number.  That never happens to a submission that is created; it happens to one that is put in
without an id exactly if an earlier one was put in with this number as its id.  The numbers that the
catalog chooses grow from each to the next, so none is given out twice. -/
theorem automatic_deposits (uploadStatuses uploadTypes submissionStatuses : List Value)
    (clock : Clock) :
    let start : Catalog × Clock := ({ uploadStatuses, uploadTypes, submissionStatuses }, clock)
    (∀ (done : List Deposit) (d : Deposit), d.automatic = true →
      let before := (deposited done start).1
      let answer := d.answer (deposited done start)
      let after := answer.state.1
      ∃ (n : Int) (s : Submission), s.id = .int n ∧ answer.reply = .ok s.value ∧
        before.nextSubmission ≤ n ∧ after.nextSubmission = n + 1 ∧
        (∀ m, before.nextSubmission ≤ m → m < n → before.submissions.uses (.int m) = true) ∧
        after.submissions.get? (.int n) = some s.value ∧
        (∀ id : Value, id.key ≠ .int n →
          after.submissions.get? id = before.submissions.get? id) ∧
        (before.submissions.uses (.int n) = false →
          after.submissions.entries = before.submissions.entries ++ [(.int n, s.value)]) ∧
        (before.submissions.uses (.int n) = true →
          after.submissions.entries.length = before.submissions.entries.length) ∧
        (before.submissions.uses (.int n) = true ↔ (∃ x, d = .add x) ∧ Brought done n)) ∧
    (∀ ds : List Deposit, ∃ ns : List Int, chosen ds start = ns.map .int ∧
      ns.Pairwise (· < ·)) := by
  intro start
  constructor
  · intro done d hd before answer after
    obtain ⟨s, hid, hreply, hput, hcounter⟩ :=
      answer_automatic hd before (deposited done start).2
    have hregister : after.submissions =
        before.submissions.put (.int (d.nextNumber before)) s.value :=
      hput
    refine ⟨d.nextNumber before, s, hid, hreply, le_nextNumber before d, hcounter, ?_, ?_, ?_, ?_,
      ?_, ?_, ?_⟩
    · intro m hle hlt
      cases d with
      | add x => exact absurd (show m < before.nextSubmission from hlt) (by omega)
      | create x operator =>
          exact (Register.uses_int_iff _).2 (Register.mem_of_lt_firstFree hle hlt)
    · rw [hregister, Register.get?_put_self]
    · intro id hother
      rw [hregister, Register.get?_put_of_ne _ _ hother]
    · intro hfree
      rw [hregister, Register.entries_put_of_not_uses _ _ (by simp [hfree])]
    · intro huses
      rw [hregister, Register.length_put_of_uses _ _ huses]
    · intro huses
      cases d with
      | create x operator =>
          exact absurd ((Register.uses_int_iff _).1 huses) (Register.firstFree_notMem _ _)
      | add x =>
          refine ⟨⟨x, rfl⟩, ?_⟩
          rcases uses_deposited huses with hstart | hpassed | hbrought
          · cases hstart
          · exact absurd hpassed (Int.lt_irrefl _)
          · exact hbrought
    · rintro ⟨-, hbrought⟩
      exact uses_of_brought hbrought start
  · intro ds
    obtain ⟨ns, hns, -, hlt⟩ := exists_chosen ds start
    exact ⟨ns, hns, hlt⟩

/-- One submission was put in without an id and got the number 1, another one brought the number 2:
the next that is created gets the number 3, and both stay. -/
theorem automatic_deposits_skipping :
    let done : List Deposit := [.add {}, .add { id := .int 2 }]
    let d := Deposit.create {} (.text "10")
    let before := deposited done (.fresh, {})
    let answer := d.answer before
    d.automatic = true ∧ ∃ s : Submission, s.id = .int 3 ∧ answer.reply = .ok s.value ∧
      answer.state.1.submissions.entries = before.1.submissions.entries ++ [(.int 3, s.value)] := by
  intro done d before answer
  obtain ⟨hstored, -⟩ := automatic_deposits Catalog.fresh.uploadStatuses Catalog.fresh.uploadTypes
    Catalog.fresh.submissionStatuses {}
  obtain ⟨n, s, hid, hreply, -, hcounter, -, -, -, hfree, -⟩ := hstored done d rfl
  have hn : n = 3 := by
    have hafter : answer.state.1.nextSubmission = 4 := by decide +kernel
    have hnext := hafter.symm.trans hcounter
    omega
  subst hn
  exact ⟨rfl, s, hid, hreply, hfree (by decide +kernel)⟩

/-- A submission that was put in with the id 1 is lost when another one is put in without an id:
that one gets the number 1 as well, and of the two one record is left. -/
theorem deposit_lost :
    let start : Catalog × Clock := (.fresh, {})
    let first : Submission := { id := .int 1, uploadId := .int 7 }
    let before := deposited [.add first] start
    let answer := (Deposit.add {}).answer before
    (Deposit.add {}).automatic = true ∧
      before.1.submissions.get? (.int 1) = some first.value ∧
      answer.reply = .ok { id := .int 1 : Submission }.value ∧
      answer.state.1.submissions.entries.length = before.1.submissions.entries.length ∧
      answer.state.1.submissions.get? (.int 1) ≠ some first.value := by
  decide +kernel

end Memory

end ContestUploads
