import ContestUploads.Proofs.Moving
import ContestUploads.Proofs.Requests

/-!
# What a retirement leaves behind

A retirement that no move of the table stands against goes through, and what it leaves is plain:
`World.retired`.  Every chosen submission has the deleted status and was changed last by the user,
at the second of the two stamps that it took; every other submission is as it was.

The proofs go along the submissions of the store, not along those that were found, and keep apart
the submissions that are done and those that are still to come.  `retireEach_cons` is the step: what
retiring one submission comes to.
-/

namespace ContestUploads

/-- Submissions of which those chosen were retired, beginning at a state of the clock.  Each takes
two stamps and keeps the second. -/
def retireFrom (chosen : StoredSubmission → Bool) (deleted : StoredLookup) (operator : String) :
    Clock → List StoredSubmission → List StoredSubmission
  | _, [] => []
  | clock, s :: rest =>
      if chosen s then
        (s.withStatus deleted).stamped operator clock.tick.2.tick.1 ::
          retireFrom chosen deleted operator clock.tick.2.tick.2 rest
      else s :: retireFrom chosen deleted operator clock rest

theorem retireFrom_congr {chosen chosen' : StoredSubmission → Bool} {xs : List StoredSubmission}
    (h : ∀ s ∈ xs, chosen s = chosen' s) (deleted : StoredLookup) (operator : String)
    (clock : Clock) :
    retireFrom chosen deleted operator clock xs = retireFrom chosen' deleted operator clock xs := by
  induction xs generalizing clock with
  | nil => rfl
  | cons s rest ih =>
      have hrest := fun x hx => h x (List.mem_cons_of_mem s hx)
      simp only [retireFrom, h s List.mem_cons_self, ih hrest]

/-- Submissions of which none is chosen stay as they are. -/
theorem retireFrom_of_none {chosen : StoredSubmission → Bool} {xs : List StoredSubmission}
    (hxs : ∀ s ∈ xs, chosen s = false) (deleted : StoredLookup) (operator : String)
    (clock : Clock) : retireFrom chosen deleted operator clock xs = xs := by
  induction xs with
  | nil => rfl
  | cons s rest ih =>
      have hs : ¬chosen s = true := by simp [hxs s List.mem_cons_self]
      rw [retireFrom, if_neg hs, ih fun x hx => hxs x (List.mem_cons_of_mem s hx)]

theorem retireFrom_append {chosen : StoredSubmission → Bool} (xs : List StoredSubmission)
    {ys : List StoredSubmission} (hys : ∀ s ∈ ys, chosen s = false) (deleted : StoredLookup)
    (operator : String) (clock : Clock) :
    retireFrom chosen deleted operator clock (xs ++ ys) =
      retireFrom chosen deleted operator clock xs ++ ys := by
  induction xs generalizing clock with
  | nil => exact retireFrom_of_none hys deleted operator clock
  | cons s rest ih =>
      simp only [List.cons_append, retireFrom, ih]
      split <;> rfl

namespace World

/-- The world in which the chosen submissions were retired. -/
def retired (w : World) (chosen : StoredSubmission → Bool) (deleted : StoredLookup)
    (operator : String) : World :=
  { w with
    submissions := retireFrom chosen deleted operator w.clock w.submissions
    catalogAudit := w.catalogAudit ++ (w.submissions.filter chosen).flatMap fun s =>
      List.replicate 2 ⟨Method.updateSubmission.name, .int s.id, .text operator⟩
    clock := w.clock.after (2 * (w.submissions.filter chosen).length) }

/-- Storing a submission over the one with its number leaves those around it as they are. -/
theorem submissions_putSubmission {w : World} (h : w.Coherent) {s x : StoredSubmission}
    {done rest : List StoredSubmission} (hsplit : w.submissions = done ++ x :: rest)
    (hid : x.id = s.id) (operator : String) :
    (w.putSubmission s operator).submissions = done ++ s.stamped operator w.now :: rest := by
  have hdistinct := h.submissions
  rw [hsplit, List.map_append, List.map_cons, List.nodup_append, List.nodup_cons] at hdistinct
  obtain ⟨-, ⟨hrest, -⟩, hapart⟩ := hdistinct
  have hkept (ys : List StoredSubmission) (hys : ∀ y ∈ ys, y.id ≠ s.id) :
      (ys.map fun y => if y.id = s.id then s.stamped operator w.now else y) = ys := by
    conv_rhs => rw [← List.map_id ys]
    exact List.map_congr_left fun y hy => if_neg (hys y hy)
  have hdone : ∀ y ∈ done, y.id ≠ s.id := by
    intro y hy hsame
    exact hapart y.id (List.mem_map.2 ⟨y, hy, rfl⟩) x.id (by simp) (hsame.trans hid.symm)
  have hlater : ∀ y ∈ rest, y.id ≠ s.id := by
    intro y hy hsame
    exact hrest (List.mem_map.2 ⟨y, hy, hsame.trans hid.symm⟩)
  simp only [putSubmission, hsplit, List.map_append, List.map_cons, hid, if_true]
  rw [hkept done hdone, hkept rest hlater]

variable {w : World} (settings : Settings)

/-- A change of status of a stored submission hangs on the move alone. -/
theorem changeStatus_of_mem (h : w.Coherent) {s : StoredSubmission} (hs : s ∈ w.submissions)
    {l : StoredLookup} (hstatuses : Numbered w.submissionStatuses)
    (hl : l ∈ w.submissionStatuses) (hsid : 0 ≤ s.id) (userId : Int) :
    w.changeStatus settings (.int s.id) (.int l.id) (.text (toString userId)) =
      match s.checkMove settings l with
      | .error e => (.error e, w)
      | .ok () =>
          (.ok ((s.withStatus l).stamped (toString userId) w.now),
            w.putSubmission (s.withStatus l) (toString userId)) := by
  have hrequest := StatusRequest.ofFields_of_ints hsid (hstatuses.nonneg l hl) userId
  have hfound := submission?_of_mem h hs
  have hstatus := hstatuses.withId?_of_mem hl
  cases hmove : s.checkMove settings l <;>
    simp only [changeStatus, hrequest, hfound, hstatus, hmove]

/-- The world in which one submission was retired: it was stored twice. -/
def retireOne (w : World) (s : StoredSubmission) (deleted : StoredLookup) (operator : String) :
    World :=
  (w.putSubmission (s.withStatus deleted) operator).putSubmission
    ((s.withStatus deleted).stamped operator w.now) operator

theorem Coherent.retireOne (h : w.Coherent) (s : StoredSubmission) (deleted : StoredLookup)
    (operator : String) : (w.retireOne s deleted operator).Coherent :=
  (h.putSubmission _ _).putSubmission _ _

theorem submissions_retireOne (h : w.Coherent) {s : StoredSubmission}
    {done rest : List StoredSubmission} (hsplit : w.submissions = done ++ s :: rest)
    (deleted : StoredLookup) (operator : String) :
    (w.retireOne s deleted operator).submissions =
      (done ++ [(s.withStatus deleted).stamped operator w.clock.tick.2.tick.1]) ++ rest := by
  have honce : (w.putSubmission (s.withStatus deleted) operator).submissions =
      done ++ (s.withStatus deleted).stamped operator w.now :: rest :=
    submissions_putSubmission h (s := s.withStatus deleted) hsplit rfl operator
  rw [retireOne, submissions_putSubmission (h.putSubmission _ _) honce rfl, List.append_assoc]
  rfl

/-- Retiring one submission, of which nothing is known but that it is stored and not spared. -/
theorem retireEach_cons (h : w.Coherent) {s : StoredSubmission} (hs : s ∈ w.submissions)
    {deleted : StoredLookup} (hstatuses : Numbered w.submissionStatuses)
    (hdeleted : deleted ∈ w.submissionStatuses) (hsid : 0 ≤ s.id) {spared : List Int}
    (hspared : s.id ∉ spared) (userId : Int) (listed : List StoredSubmission) :
    retireEach settings deleted (toString userId) spared (s :: listed) w =
      match s.checkMove settings deleted with
      | .error e => (.error e, w)
      | .ok () =>
          match retireEach settings deleted (toString userId) spared listed
            (w.retireOne s deleted (toString userId)) with
          | (.error e, v) => (.error e, v)
          | (.ok later, v) => (.ok (s.id :: later), v) := by
  rw [retireEach, if_neg hspared, changeStatus_of_mem settings h hs hstatuses hdeleted hsid]
  rcases s.checkMove settings deleted with e | ⟨⟩ <;> rfl

/-- Spared submissions might as well not be listed. -/
theorem retireEach_filter (deleted : StoredLookup) (operator : String) (spared : List Int)
    (listed : List StoredSubmission) :
    retireEach settings deleted operator spared listed w =
      retireEach settings deleted operator spared (listed.filter fun s => s.id ∉ spared) w := by
  induction listed generalizing w with
  | nil => rfl
  | cons s rest ih =>
      by_cases hs : s.id ∈ spared
      · rw [retireEach, if_pos hs, ih, List.filter_cons_of_neg (by simpa using hs)]
      · rw [List.filter_cons_of_pos (by simpa using hs), retireEach, retireEach, if_neg hs,
          if_neg hs]
        rcases w.changeStatus settings (.int s.id) (.int deleted.id) (.text operator)
          with ⟨_ | changed, u⟩
        · rfl
        · dsimp only
          rw [ih]

section Along

variable {deleted : StoredLookup} {spared : List Int} {chosen : StoredSubmission → Bool}
  {done rest : List StoredSubmission}

/-- **Retirement, submission by submission.**  The submissions `done` are behind, those of `rest`
are still to come, and the chosen ones among these are listed.  If none of them is refused, all are
retired. -/
theorem retireEach_eq (h : w.Coherent) (hstatuses : Numbered w.submissionStatuses)
    (hdeleted : deleted ∈ w.submissionStatuses) (userId : Int)
    (hsplit : w.submissions = done ++ rest)
    (hchosen : ∀ s ∈ rest, chosen s → s.id ∉ spared ∧ 0 ≤ s.id)
    (hmoves : ∀ s ∈ rest, chosen s → s.checkMove settings deleted = .ok ()) :
    retireEach settings deleted (toString userId) spared (rest.filter chosen) w =
      (.ok ((rest.filter chosen).map StoredSubmission.id),
        { w with
          submissions := done ++ retireFrom chosen deleted (toString userId) w.clock rest
          catalogAudit := w.catalogAudit ++ (rest.filter chosen).flatMap fun s =>
            List.replicate 2 ⟨Method.updateSubmission.name, .int s.id, .text (toString userId)⟩
          clock := w.clock.after (2 * (rest.filter chosen).length) }) := by
  induction rest generalizing done w with
  | nil => simp [retireEach, retireFrom, ← hsplit]
  | cons s rest ih =>
      have hlater := fun x hx => hchosen x (List.mem_cons_of_mem s hx)
      have hmovesLater := fun x hx => hmoves x (List.mem_cons_of_mem s hx)
      by_cases hs : chosen s
      · obtain ⟨hspared, hsid⟩ := hchosen s List.mem_cons_self hs
        have hmem : s ∈ w.submissions := by simp [hsplit]
        have hrest := ih (h.retireOne s deleted (toString userId)) hstatuses hdeleted
          (submissions_retireOne h hsplit deleted _) hlater hmovesLater
        rw [List.filter_cons_of_pos hs,
          retireEach_cons settings h hmem hstatuses hdeleted hsid hspared,
          hmoves s List.mem_cons_self hs]
        dsimp only
        rw [hrest]
        simp only [retireFrom, if_pos hs, List.map_cons, List.flatMap_cons, List.length_cons]
        congr 2
        · rw [List.append_assoc]
          rfl
        · show (w.catalogAudit ++ [_] ++ [_]) ++ _ = _
          rw [List.append_assoc w.catalogAudit, List.append_assoc w.catalogAudit]
          rfl
        · show ((w.clock.after 1).after 1).after _ = _
          rw [Clock.after_after, Clock.after_after]
          congr 1
          omega
      · have hmoved : w.submissions = (done ++ [s]) ++ rest := by simp [hsplit]
        rw [List.filter_cons_of_neg hs,
          ih h hstatuses hdeleted hmoved hlater hmovesLater]
        simp only [retireFrom, if_neg hs, List.append_assoc, List.cons_append, List.nil_append]

/-- A retirement goes through only if none of the chosen submissions is refused. -/
theorem checkMove_of_retireEach_ok (h : w.Coherent) (hstatuses : Numbered w.submissionStatuses)
    (hdeleted : deleted ∈ w.submissionStatuses) (userId : Int)
    (hsplit : w.submissions = done ++ rest)
    (hchosen : ∀ s ∈ rest, chosen s → s.id ∉ spared ∧ 0 ≤ s.id) {ids : List Int}
    (hok : (retireEach settings deleted (toString userId) spared (rest.filter chosen) w).1 =
      .ok ids) :
    ∀ s ∈ rest, chosen s → s.checkMove settings deleted = .ok () := by
  induction rest generalizing done w ids with
  | nil => simp
  | cons s rest ih =>
      have hlater := fun x hx => hchosen x (List.mem_cons_of_mem s hx)
      by_cases hs : chosen s
      · obtain ⟨hspared, hsid⟩ := hchosen s List.mem_cons_self hs
        have hmem : s ∈ w.submissions := by simp [hsplit]
        rw [List.filter_cons_of_pos hs,
          retireEach_cons settings h hmem hstatuses hdeleted hsid hspared] at hok
        rcases hmove : s.checkMove settings deleted with e | ⟨⟩
        · simp [hmove] at hok
        · rw [hmove] at hok
          dsimp only at hok
          rcases hresult : retireEach settings deleted (toString userId) spared
            (rest.filter chosen) (w.retireOne s deleted (toString userId)) with ⟨e | later, v⟩
          · rw [hresult] at hok
            simp at hok
          · have hrest := ih (h.retireOne s deleted (toString userId)) hstatuses hdeleted
              (submissions_retireOne h hsplit deleted _) hlater (by rw [hresult])
            intro x hx hxs
            rcases List.mem_cons.1 hx with rfl | hx
            · exact hmove
            · exact hrest x hx hxs
      · have hmoved : w.submissions = (done ++ [s]) ++ rest := by simp [hsplit]
        rw [List.filter_cons_of_neg hs] at hok
        have hrest := ih h hstatuses hdeleted hmoved hlater hok
        intro x hx hxs
        rcases List.mem_cons.1 hx with rfl | hx
        · exact absurd hxs hs
        · exact hrest x hx hxs

end Along

/-- The submissions that a retirement for a resource takes. -/
def supersededBy (resourceId : Int) (spared : List Int) (s : StoredSubmission) : Bool :=
  s.resourceId == some resourceId && s.id ∉ spared

theorem mem_of_named? {catalog : List StoredLookup} {name : String} {l : StoredLookup}
    (h : named? catalog name = some l) : l ∈ catalog ∧ l.name = name :=
  ⟨List.mem_of_find?_eq_some h, by simpa using List.find?_some h⟩

theorem known_eq_ok_iff {catalog : List StoredLookup} {name : String} {kind : Value}
    {l : StoredLookup} : known catalog name kind = .ok l ↔ named? catalog name = some l := by
  unfold known
  cases named? catalog name <;> simp

theorem supersededBy_iff {resourceId : Int} {spared : List Int} {s : StoredSubmission} :
    supersededBy resourceId spared s ↔ s.resourceId = some resourceId ∧ s.id ∉ spared := by
  simp [supersededBy]

theorem filter_ofResource (w : World) (resourceId : Int) (spared : List Int) :
    (w.ofResource resourceId).filter (fun s => s.id ∉ spared) =
      w.submissions.filter (supersededBy resourceId spared) := by
  rw [ofResource, List.filter_filter]
  exact List.filter_congr fun s _ => Bool.and_comm _ _

/-- Retiring the submissions of a resource is retiring the ones of the store that are chosen. -/
theorem retireSuperseded_eq_retireEach {deleted : StoredLookup}
    (hnamed : named? w.submissionStatuses settings.deletedStatus = some deleted) {userId : Int}
    (huser : Text.writable userId) (resourceId : Int) (spared : List Int) :
    w.retireSuperseded settings userId resourceId spared =
      retireEach settings deleted (toString userId) spared
        (w.submissions.filter (supersededBy resourceId spared)) w := by
  rw [retireSuperseded, demandDeleted_of_writable settings huser, known_eq_ok_iff.2 hnamed]
  dsimp only
  rw [retireEach_filter, filter_ofResource]

/-- **A retirement that goes through.**  It does if the number of the user can be written out, the
deleted status is in the catalog and every submission of the resource may take it; then all of them
are retired and nothing else is changed. -/
theorem retireSuperseded_eq_ok_iff (h : w.Coherent) (hstatuses : Numbered w.submissionStatuses)
    (hids : ∀ s ∈ w.submissions, 0 ≤ s.id) (userId resourceId : Int) (spared ids : List Int)
    (u : World) :
    w.retireSuperseded settings userId resourceId spared = (.ok ids, u) ↔
      Text.writable userId ∧ ∃ deleted,
        named? w.submissionStatuses settings.deletedStatus = some deleted ∧
        (∀ s ∈ w.submissions, supersededBy resourceId spared s →
          s.checkMove settings deleted = .ok ()) ∧
        ids = (w.submissions.filter (supersededBy resourceId spared)).map StoredSubmission.id ∧
        u = w.retired (supersededBy resourceId spared) deleted (toString userId) := by
  have hspared : ∀ s ∈ w.submissions, supersededBy resourceId spared s →
      s.id ∉ spared ∧ 0 ≤ s.id :=
    fun s hs hchosen => ⟨(supersededBy_iff.1 hchosen).2, hids s hs⟩
  constructor
  · intro hok
    rcases hasked : w.demandDeleted settings userId with e | deleted
    · simp [retireSuperseded, hasked] at hok
    · obtain ⟨huser, hknown⟩ := (demandDeleted_eq_ok_iff settings).1 hasked
      have hnamed := known_eq_ok_iff.1 hknown
      have hdeleted := (mem_of_named? hnamed).1
      rw [retireSuperseded_eq_retireEach settings hnamed huser] at hok
      have hmoves := checkMove_of_retireEach_ok settings h hstatuses hdeleted userId
        (List.nil_append _).symm hspared (congrArg Prod.fst hok)
      have hdone := retireEach_eq settings h hstatuses hdeleted userId (List.nil_append _).symm
        hspared hmoves
      obtain ⟨hidsEq, hu⟩ := Prod.mk.inj (hok.symm.trans hdone)
      exact ⟨huser, deleted, hnamed, hmoves, Except.ok.inj hidsEq, hu⟩
  · rintro ⟨huser, deleted, hnamed, hmoves, rfl, rfl⟩
    rw [retireSuperseded_eq_retireEach settings hnamed huser,
      retireEach_eq settings h hstatuses (mem_of_named? hnamed).1 userId (List.nil_append _).symm
        hspared hmoves]
    rfl

end World

end ContestUploads
