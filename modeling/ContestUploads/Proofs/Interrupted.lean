import ContestUploads.Proofs.Failing
import ContestUploads.Proofs.Warranted

/-!
# Retirements that are interrupted

A retirement finds the submissions of a resource and stores each of them twice, but for those that
are spared.  Collaborators may fail at any call, before it has taken effect or after it.

A program that surfaces failures leaves the world after the first of its writes
(`World.Makes.left_of_fails`), so it is enough to look at the writes of a retirement, of which any
number may have been made (`World.retires_after`).  A submission that was stored once is retired
already: the second time it is stored as it is, with another stamp.  So whatever the number, the
first of the submissions that were found are retired and the others are as they were.
-/

namespace ContestUploads

open Program World

/-- Of some submissions those that were taken are retired, and the others are as they were.  What a
retirement sets is the status, who changed the submission last, and when. -/
def RetiredIn (taken : List StoredSubmission) (deleted : StoredLookup) (operator : String) :
    List StoredSubmission → List StoredSubmission → Prop :=
  List.Forall₂ fun s t =>
    (s ∈ taken → ∃ now, t = (s.withStatus deleted).stamped operator now) ∧ (s ∉ taken → t = s)

namespace RetiredIn

variable {taken taken' : List StoredSubmission} {deleted : StoredLookup} {operator : String}
  {s : StoredSubmission} {xs ys : List StoredSubmission}

theorem of_none (h : ∀ s ∈ xs, s ∉ taken) : RetiredIn taken deleted operator xs xs := by
  induction xs with
  | nil => exact .nil
  | cons s rest ih =>
      have hs := h s List.mem_cons_self
      exact .cons ⟨fun htaken => absurd htaken hs, fun _ => rfl⟩
        (ih fun x hx => h x (List.mem_cons_of_mem s hx))

/-- Only the submissions that are there count among those taken. -/
theorem congr (h : RetiredIn taken deleted operator xs ys)
    (hsame : ∀ s ∈ xs, s ∈ taken' ↔ s ∈ taken) : RetiredIn taken' deleted operator xs ys := by
  induction h with
  | nil => exact .nil
  | @cons s t xs ys hst _ ih =>
      have hs := hsame s List.mem_cons_self
      refine .cons ⟨fun htaken => hst.1 (hs.1 htaken), fun hnot => hst.2 fun h => hnot (hs.2 h)⟩ ?_
      exact ih fun x hx => hsame x (List.mem_cons_of_mem s hx)

theorem other (hs : s ∉ taken) (h : RetiredIn taken deleted operator xs ys) :
    RetiredIn taken deleted operator (s :: xs) (s :: ys) :=
  .cons ⟨fun htaken => absurd htaken hs, fun _ => rfl⟩ h

/-- One more is taken, which does not come again. -/
theorem take (hs : s ∈ xs → s ∈ taken) (h : RetiredIn taken deleted operator xs ys)
    (now : Moment) :
    RetiredIn (s :: taken) deleted operator (s :: xs)
      ((s.withStatus deleted).stamped operator now :: ys) := by
  refine .cons ⟨fun _ => ⟨now, rfl⟩, fun hnot => absurd List.mem_cons_self hnot⟩ (h.congr ?_)
  intro x hx
  rw [List.mem_cons]
  refine ⟨?_, .inr⟩
  rintro (rfl | htaken)
  · exact hs hx
  · exact htaken

end RetiredIn

/-- What retiring all chosen submissions makes of them. -/
theorem retiredIn_retireFrom (chosen : StoredSubmission → Bool) (deleted : StoredLookup)
    (operator : String) (clock : Clock) (xs : List StoredSubmission) :
    RetiredIn (xs.filter chosen) deleted operator xs
      (retireFrom chosen deleted operator clock xs) := by
  induction xs generalizing clock with
  | nil => exact .nil
  | cons s rest ih =>
      rw [retireFrom]
      by_cases hs : chosen s
      · rw [if_pos hs, List.filter_cons_of_pos hs]
        exact (ih _).take (fun hmem => List.mem_filter.2 ⟨hmem, hs⟩) _
      · rw [if_neg hs, List.filter_cons_of_neg hs]
        exact (ih clock).other fun hmem => hs (List.mem_filter.1 hmem).2

namespace World

variable {w u : World}

/-- Two worlds differ in nothing but their submissions, the record of what was done to them, and
the time. -/
def SameElse (w u : World) : Prop :=
  u = { w with submissions := u.submissions, catalogAudit := u.catalogAudit, clock := u.clock }

theorem SameElse.trans {v : World} (h : SameElse w u) (h' : SameElse u v) : SameElse w v := by
  calc v = { u with
        submissions := v.submissions, catalogAudit := v.catalogAudit, clock := v.clock } := h'
    _ = { w with
        submissions := v.submissions, catalogAudit := v.catalogAudit, clock := v.clock } := by
      rw [h]

/-- The two writes of retiring one submission. -/
theorem onto_twice {s : StoredSubmission} (hs : s ∈ w.submissions) (deleted : StoredLookup)
    (operator : String) :
    (Write.again ((s.withStatus deleted).stamped operator w.now) operator).onto
        ((Write.again (s.withStatus deleted) operator).onto w) =
      w.retireOne s deleted operator := by
  have hagain : ((s.withStatus deleted).stamped operator w.now).id ∈
      (w.putSubmission (s.withStatus deleted) operator).submissions.map StoredSubmission.id :=
    List.mem_map.2 ⟨_, List.mem_map.2 ⟨s, hs, if_pos rfl⟩, rfl⟩
  rw [onto_again hs]
  exact if_pos hagain

/-- Between two worlds, of the submissions `rest`, which come after `done`, the first of those listed
were retired, and nothing else was touched. -/
def Retires (w u : World) (deleted : StoredLookup) (operator : String)
    (done rest listed : List StoredSubmission) : Prop :=
  SameElse w u ∧ ∃ k ≤ listed.length, ∃ rest', u.submissions = done ++ rest' ∧
    RetiredIn (listed.take k) deleted operator rest rest'

section Along

variable {deleted : StoredLookup} {operator : String} {done rest listed : List StoredSubmission}
  {s : StoredSubmission}

/-- Before the first write. -/
theorem retires_none (hsplit : w.submissions = done ++ rest) :
    w.Retires w deleted operator done rest listed :=
  ⟨rfl, 0, Nat.zero_le _, rest, hsplit, .of_none fun _ _ => List.not_mem_nil⟩

/-- A submission that is not listed is left behind. -/
theorem Retires.skip (h : w.Retires u deleted operator (done ++ [s]) rest listed)
    (hs : s ∉ listed) : w.Retires u deleted operator done (s :: rest) listed := by
  obtain ⟨helse, k, hk, rest', hsubmissions, hretired⟩ := h
  refine ⟨helse, k, hk, s :: rest', ?_, hretired.other fun htaken => ?_⟩
  · rw [hsubmissions, List.append_assoc]
    rfl
  · exact hs (List.mem_of_mem_take htaken)

/-- The submissions that come after a stored one are others. -/
theorem Coherent.notMem_rest (h : w.Coherent) (hsplit : w.submissions = done ++ s :: rest) :
    s ∉ rest := by
  have hdistinct := h.submissions
  rw [hsplit, List.map_append, List.map_cons, List.nodup_append, List.nodup_cons] at hdistinct
  exact fun hagain => hdistinct.2.1.1 (List.mem_map.2 ⟨s, hagain, rfl⟩)

/-- After the first write of a submission, that one is retired. -/
theorem retires_once (h : w.Coherent) (hsplit : w.submissions = done ++ s :: rest) :
    w.Retires (w.putSubmission (s.withStatus deleted) operator) deleted operator done (s :: rest)
      (s :: listed) := by
  have hstored := submissions_putSubmission h (s := s.withStatus deleted) hsplit rfl operator
  have hnone : RetiredIn [] deleted operator rest rest := .of_none fun _ _ => List.not_mem_nil
  refine ⟨rfl, 1, Nat.succ_pos _, _, hstored, hnone.take (fun hagain => ?_) _⟩
  exact absurd hagain (h.notMem_rest hsplit)

/-- After both writes of a submission, the others go on. -/
theorem Retires.after_one (h : w.Coherent) (hsplit : w.submissions = done ++ s :: rest)
    (hrest : (w.retireOne s deleted operator).Retires u deleted operator
      (done ++ [(s.withStatus deleted).stamped operator w.clock.tick.2.tick.1]) rest listed) :
    w.Retires u deleted operator done (s :: rest) (s :: listed) := by
  obtain ⟨helse, k, hk, rest', hsubmissions, hretired⟩ := hrest
  have hone : SameElse w (w.retireOne s deleted operator) := rfl
  refine ⟨hone.trans helse, k + 1, Nat.succ_le_succ hk, _,
    hsubmissions.trans (List.append_assoc _ _ _), hretired.take (fun hagain => ?_) _⟩
  exact absurd hagain (h.notMem_rest hsplit)

variable (settings : Settings) {spared : List Int} {chosen : StoredSubmission → Bool}

/-- The writes of a change of status hang on the move alone. -/
theorem changeStatusWrites_of_mem (h : w.Coherent) {s : StoredSubmission}
    (hs : s ∈ w.submissions) (hstatuses : Numbered w.submissionStatuses)
    (hdeleted : deleted ∈ w.submissionStatuses) (hsid : 0 ≤ s.id) (userId : Int) :
    w.changeStatusWrites settings (.int s.id) (.int deleted.id) (.text (toString userId)) =
      match s.checkMove settings deleted with
      | .error _ => []
      | .ok () => [.again (s.withStatus deleted) (toString userId)] := by
  have hrequest := StatusRequest.ofFields_of_ints hsid (hstatuses.nonneg deleted hdeleted) userId
  have hfound := submission?_of_mem h hs
  have hstatus := hstatuses.withId?_of_mem hdeleted
  cases hmove : s.checkMove settings deleted <;>
    simp only [changeStatusWrites, hrequest, hfound, hstatus, hmove]

/-- The writes of retiring one submission, of which nothing is known but that it is stored and not
spared, and of the rest. -/
theorem retireEachWrites_cons (h : w.Coherent) {s : StoredSubmission} (hs : s ∈ w.submissions)
    (hstatuses : Numbered w.submissionStatuses) (hdeleted : deleted ∈ w.submissionStatuses)
    (hsid : 0 ≤ s.id) (hspared : s.id ∉ spared) (userId : Int) (listed : List StoredSubmission) :
    retireEachWrites settings deleted (toString userId) spared (s :: listed) w =
      match s.checkMove settings deleted with
      | .error _ => []
      | .ok () =>
          .again (s.withStatus deleted) (toString userId) ::
            .again ((s.withStatus deleted).stamped (toString userId) w.now) (toString userId) ::
            retireEachWrites settings deleted (toString userId) spared listed
              (w.retireOne s deleted (toString userId)) := by
  rw [retireEachWrites, if_neg hspared,
    changeStatusWrites_of_mem settings h hs hstatuses hdeleted hsid,
    changeStatus_of_mem settings h hs hstatuses hdeleted hsid]
  rcases s.checkMove settings deleted with e | ⟨⟩ <;> rfl

/-- **Any number of the writes of a retirement.**  The submissions `done` are behind, those of
`rest` are still to come, and the chosen ones among these are listed. -/
theorem retires_after (h : w.Coherent) (hstatuses : Numbered w.submissionStatuses)
    (hdeleted : deleted ∈ w.submissionStatuses) (userId : Int)
    (hsplit : w.submissions = done ++ rest)
    (hchosen : ∀ s ∈ rest, chosen s → s.id ∉ spared ∧ 0 ≤ s.id) (j : Nat) :
    w.Retires (w.after ((retireEachWrites settings deleted (toString userId) spared
      (rest.filter chosen) w).take j)) deleted (toString userId) done rest
      (rest.filter chosen) := by
  induction rest generalizing done w j with
  | nil =>
      rw [List.filter_nil, retireEachWrites, List.take_nil]
      exact retires_none hsplit
  | cons s rest ih =>
      have hlater := fun x hx => hchosen x (List.mem_cons_of_mem s hx)
      by_cases hs : chosen s
      · obtain ⟨hspared, hsid⟩ := hchosen s List.mem_cons_self hs
        have hmem : s ∈ w.submissions := by simp [hsplit]
        rw [List.filter_cons_of_pos hs,
          retireEachWrites_cons settings h hmem hstatuses hdeleted hsid hspared]
        rcases s.checkMove settings deleted with e | ⟨⟩
        · rw [List.take_nil]
          exact retires_none hsplit
        · dsimp only
          -- none of the two writes of this submission was made, or one, or both
          rcases j with _ | _ | j
          · exact retires_none hsplit
          · have hone : w.after [.again (s.withStatus deleted) (toString userId)] =
                w.putSubmission (s.withStatus deleted) (toString userId) :=
              onto_again hmem deleted _
            rw [List.take_succ_cons, List.take_zero, hone]
            exact retires_once h hsplit
          · show w.Retires (World.after (Write.onto _ (Write.onto _ w)) _) _ _ _ _ _
            rw [onto_twice hmem]
            exact .after_one h hsplit (ih (h.retireOne s deleted _) hstatuses hdeleted
              (submissions_retireOne h hsplit deleted _) hlater j)
      · have hmoved : w.submissions = (done ++ [s]) ++ rest := by simp [hsplit]
        rw [List.filter_cons_of_neg hs]
        refine (ih h hstatuses hdeleted hmoved hlater j).skip fun hlisted => hs ?_
        exact (List.mem_filter.1 hlisted).2

end Along

section Failing

variable (settings : Settings) {σ : Type} {view : σ → Platform Memory.Catalog}
  {faulty : Collaborators σ}

/-- With failures, a program that surfaces them leaves the world after the first of its writes. -/
theorem Makes.left_of_fails {α : Type} {p : Program α} {writes : List Write}
    {shown : Call → Failure → Failure} (hmakes : Makes p w writes) (hcoherent : w.Coherent)
    (hp : p.Surfaces shown) (hfaulty : Collaborators.Fails Platform.answer view faulty) {s : σ}
    (hs : view s = w.platform) :
    ∃ j, view (p.outcome faulty s).2 = (w.after (writes.take j)).platform := by
  obtain ⟨k, hk, -⟩ := hp.point_of_fails hfaulty s ((p.asked faulty s).map Prod.fst).length
  obtain ⟨j, hj⟩ := after_calls_take hcoherent (hmakes hcoherent) k
  refine ⟨j, ?_⟩
  rw [Program.point, List.take_length, ← outcome_state, hs] at hk
  exact hk.trans hj

/-- The program of a retirement, with the statuses of the store. -/
def retirement (w : World) (settings : Settings) (userId : Int) (r : StoredResource)
    (spared : List Int) : Program (List Value) :=
  Reception.retireSuperseded settings (.int userId) r.value
    (.list (w.submissionStatuses.map StoredLookup.value)) (.list (spared.map .int))

variable (userId : Int) (r : StoredResource) (spared : List Int)

/-- What a retirement comes to, undisturbed. -/
theorem outcome_retirement (h : w.Coherent) :
    (w.retirement settings userId r spared).outcome Platform.answer w.platform =
      ((w.retireSuperseded settings userId r.id spared).1.map (List.map Value.int),
        (w.retireSuperseded settings userId r.id spared).2.platform) :=
  (does_retireSuperseded (k := .memory) settings userId (r := r) trivial spared h).1

theorem surfaces_retirement :
    (w.retirement settings userId r spared).Surfaces fun c e => e.wrapped c.method.action :=
  Reception.surfaces_retireSuperseded (fun _ _ _ => rfl) settings _ _ _ _

/-- Undisturbed, a retirement returns if it can write out the user and may delete all the submissions
that it finds. -/
theorem retirement_returns_iff (h : w.Coherent) (hstatuses : Numbered w.submissionStatuses)
    (hids : ∀ s ∈ w.submissions, 0 ≤ s.id) :
    (∃ ids, ((w.retirement settings userId r spared).outcome Platform.answer w.platform).1 =
        .ok ids) ↔
      Text.writable userId ∧ ∃ deleted ∈ named? w.submissionStatuses settings.deletedStatus,
        ∀ s ∈ w.submissions.filter (supersededBy r.id spared),
          s.checkMove settings deleted = .ok () := by
  have hdone := retireSuperseded_eq_ok_iff settings h hstatuses hids userId r.id spared
  rw [outcome_retirement settings userId r spared h]
  constructor
  · rintro ⟨ids, hok⟩
    rcases hresult : w.retireSuperseded settings userId r.id spared with ⟨e | numbers, u⟩
    · rw [hresult] at hok
      cases hok
    · obtain ⟨huser, deleted, hnamed, hmoves, -⟩ := (hdone numbers u).1 hresult
      refine ⟨huser, deleted, hnamed, fun s hs => ?_⟩
      exact hmoves s (List.mem_filter.1 hs).1 (List.mem_filter.1 hs).2
  · rintro ⟨huser, deleted, hnamed, hmoves⟩
    have hresult := (hdone _ _).2 ⟨huser, deleted, hnamed,
      fun s hs hchosen => hmoves s (List.mem_filter.2 ⟨hs, hchosen⟩), rfl, rfl⟩
    rw [hresult]
    exact ⟨_, rfl⟩

/-- However a retirement ends, the first of the submissions that were found are retired. -/
theorem retiredIn_of_fails (h : w.Coherent) (hstatuses : Numbered w.submissionStatuses)
    (hids : ∀ s ∈ w.submissions, 0 ≤ s.id)
    (hfaulty : Collaborators.Fails Platform.answer view faulty) {s : σ}
    (hs : view s = w.platform) :
    ∃ u : World,
      view ((w.retirement settings userId r spared).outcome faulty s).2 = u.platform ∧
      SameElse w u ∧ (u = w ∨
        ∃ deleted ∈ named? w.submissionStatuses settings.deletedStatus,
          ∃ k ≤ (w.submissions.filter (supersededBy r.id spared)).length,
            RetiredIn ((w.submissions.filter (supersededBy r.id spared)).take k) deleted
              (toString userId) w.submissions u.submissions) := by
  obtain ⟨j, hj⟩ := (makes_retireSuperseded settings userId r spared).left_of_fails h
    (surfaces_retirement settings userId r spared) hfaulty hs
  refine ⟨_, hj, ?_⟩
  rcases hasked : w.demandDeleted settings userId with e | deleted
  · have hnone : w.retireSupersededWrites settings userId r.id spared = [] := by
      rw [retireSupersededWrites, hasked]
    rw [hnone, List.take_nil]
    exact ⟨rfl, .inl rfl⟩
  · have hnamed := known_eq_ok_iff.1 ((demandDeleted_eq_ok_iff settings).1 hasked).2
    have hchosen : ∀ s ∈ w.submissions, supersededBy r.id spared s → s.id ∉ spared ∧ 0 ≤ s.id :=
      fun s hs hchosen => ⟨(supersededBy_iff.1 hchosen).2, hids s hs⟩
    obtain ⟨helse, k, hk, after, hafter, hretired⟩ := retires_after settings h hstatuses
      (mem_of_named? hnamed).1 userId (List.nil_append _).symm hchosen j
    have hwrites : w.retireSupersededWrites settings userId r.id spared =
        retireEachWrites settings deleted (toString userId) spared
          (w.submissions.filter (supersededBy r.id spared)) w := by
      rw [retireSupersededWrites, hasked]
      dsimp only
      rw [retireEachWrites_filter, filter_ofResource]
    rw [hwrites, hafter, List.nil_append]
    exact ⟨helse, .inr ⟨deleted, hnamed, k, hk, hretired⟩⟩

end Failing

end World

/-- **A retirement is complete, or it stops cleanly.**  In every state that the stores can be
brought to, with submissions and statuses whose numbers are not negative, let `listed` be the
submissions of a resource that are not spared, in the order of the store.

* Undisturbed, a retirement returns if and only if the number of the user can be written out, there
  is a deleted status and every submission that is listed may take it.
* Collaborators may fail at any of its calls, before the call has taken effect or after it.  If the
  retirement returns all the same, it returns the numbers of those listed, in order, and all of them
  are retired.
* If it fails, some first part of those listed is retired.  That holds of the last of these also
  where it was stored once only.

The submissions that are not retired are exactly as they were, and of those that are nothing is
changed but the status and the stamp; no other part of the stores is changed. -/
theorem retirement_completes_or_stops {σ : Type} {w : World}
    {view : σ → Platform Memory.Catalog} {faulty : Collaborators σ} (hreached : Reached w.platform)
    (hstatuses : Numbered w.submissionStatuses) (hids : ∀ s ∈ w.submissions, 0 ≤ s.id)
    (hfaulty : Collaborators.Fails Platform.answer view faulty) (settings : Settings)
    (userId : Int) (r : StoredResource) (spared : List Int) {t : Trail σ}
    (ht : view t.state = w.platform) :
    let program := w.retirement settings userId r spared
    let listed := w.submissions.filter (supersededBy r.id spared)
    let deleted? := named? w.submissionStatuses settings.deletedStatus
    let run := program.run faulty t
    ((∃ ids, (program.run Platform.answer { state := w.platform }).1 = .ok ids) ↔
      Text.writable userId ∧
        ∃ deleted ∈ deleted?, ∀ s ∈ listed, s.checkMove settings deleted = .ok ()) ∧
    ∃ u : World, view run.2.state = u.platform ∧ SameElse w u ∧
      match run.1 with
      | .ok ids => ids = listed.map (fun s => .int s.id) ∧ ∃ deleted ∈ deleted?,
          RetiredIn listed deleted (toString userId) w.submissions u.submissions
      | .error _ => u = w ∨ ∃ deleted ∈ deleted?, ∃ k ≤ listed.length,
          RetiredIn (listed.take k) deleted (toString userId) w.submissions u.submissions := by
  intro program listed deleted? run
  have hw := hreached.coherent
  refine ⟨?_, ?_⟩
  · rw [run_result]
    exact retirement_returns_iff settings userId r spared hw hstatuses hids
  · rw [run_state, run_result]
    rcases hrun : (program.outcome faulty t.state).1 with e | ids
    · exact retiredIn_of_fails settings userId r spared hw hstatuses hids hfaulty ht
    · have hundisturbed := (surfaces_retirement settings userId r spared).outcome_of_ok hfaulty hrun
      rw [ht, outcome_retirement settings userId r spared hw] at hundisturbed
      obtain ⟨hanswer, hstate⟩ := Prod.mk.inj hundisturbed
      rcases hresult : w.retireSuperseded settings userId r.id spared with ⟨e | numbers, u⟩
      · rw [hresult] at hanswer
        cases hanswer
      · rw [hresult] at hanswer hstate
        obtain ⟨-, deleted, hnamed, -, rfl, rfl⟩ :=
          (retireSuperseded_eq_ok_iff settings hw hstatuses hids userId r.id spared _ _).1 hresult
        refine ⟨_, hstate.symm, rfl, ?_, deleted, hnamed, ?_⟩
        · rw [← Except.ok.inj hanswer, List.map_map]
          rfl
        · exact retiredIn_retireFrom _ deleted _ w.clock w.submissions

/-- An open contest with an active submission of one resource and three of another. -/
def World.busyContest : World :=
  let active (id resourceId : Int) : StoredSubmission :=
    { id, status := some { id := 1, name := "Active" }, resourceId := some resourceId }
  ((((openContest []).withSubmission (active 7 2)).withSubmission (active 8 1)).withSubmission
    (active 9 1)).withSubmission (active 10 1)

theorem World.reached_busyContest : Reached World.busyContest.platform :=
  ((((reached_openContest []).withSubmission _).withSubmission _).withSubmission _).withSubmission _

/-- Of three submissions one is spared.  The reply to the third write is lost: the first of the two
others was stored twice by then, the second once. -/
theorem retirement_completes_or_stops_busyContest :
    let w := World.busyContest
    let lost : Fault :=
      { method := .updateSubmission, nth := 3, effect := .loseReply (.plain (.cancelled [])) }
    let faulty := Rehearsal.following [lost] Platform.answer
    let program := w.retirement { enforceMoves := true } 10 { id := 1, projectId := 1, roleId := 1 }
      [9]
    let run := program.run faulty { state := { state := w.platform } }
    (∃ ids, (program.run Platform.answer { state := w.platform }).1 = .ok ids) ∧
      run.2.state.state.catalog.audit.length = 3 ∧
      ∃ u : World, run.2.state.state = u.platform ∧ SameElse w u ∧
        ∃ deleted k, deleted.name = "Deleted" ∧
          RetiredIn ((w.submissions.filter (supersededBy 1 [9])).take k) deleted "10"
            w.submissions u.submissions := by
  intro w lost faulty program run
  have hfails : ∀ f ∈ [lost], ∃ e, f.effect = .refuse e ∨ f.effect = .loseReply e := by
    intro f hf
    obtain rfl := List.mem_singleton.1 hf
    exact ⟨_, .inr rfl⟩
  have hids : ∀ s ∈ w.submissions, 0 ≤ s.id := by decide
  obtain ⟨hreturns, u, hu, helse, hstopped⟩ := retirement_completes_or_stops
    World.reached_busyContest (numbered_catalog Defaults.submissionStatuses) hids
    (Rehearsal.following_fails Platform.answer hfails) { enforceMoves := true } 10
    { id := 1, projectId := 1, roleId := 1 } [9] (t := { state := { state := w.platform } }) rfl
  have hwritten : run.2.state.state.catalog.audit.length = 3 := by decide +kernel
  have hfailed : run.1.toOption = none := by decide +kernel
  refine ⟨hreturns.2 ⟨by decide, { id := 5, name := "Deleted" }, by decide, by decide⟩, hwritten, u,
    hu, helse, ?_⟩
  have hstart : u ≠ w := by
    rintro rfl
    rw [show run.2.state.state = World.busyContest.platform from hu] at hwritten
    cases hwritten
  rcases hresult : run.1 with e | ids
  · rw [hresult] at hstopped
    rcases hstopped with hnone | ⟨deleted, hnamed, k, -, hretired⟩
    · exact absurd hnone hstart
    · exact ⟨deleted, k, (mem_of_named? hnamed).2, hretired⟩
  · rw [hresult] at hfailed
    cases hfailed

end ContestUploads
