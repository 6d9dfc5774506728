import ContestUploads.Proofs.Acceptance

/-!
# One live submission for each resource

Where moves are enforced, names and submission statuses are the default ones, and no project allows
multiple submissions, a resource never has two submissions that are not deleted: not after any
sequence of calls at the desk, with arguments of any kind, whether the calls succeed or fail.
Within an upload it has two for a moment.  That this moment always ends is the point: with the
default statuses every submission may be deleted, so the retirement after a new submission cannot be
refused, and all that can be refused is refused before the first write.  Nor does a change of status
bring a second one back, since nothing leads out of "Deleted".

`Orderly` is the invariant; `Orderly.changeStatus` and `Orderly.takeIn` are the steps, and
`one_live_throughout` is the statement about whole runs.
-/

namespace ContestUploads

open World

/-- Moves are enforced and the names of the two statuses are the default ones. -/
structure Settings.IsStrict (settings : Settings) : Prop where
  enforceMoves : settings.enforceMoves = true
  activeStatus : settings.activeStatus = "Active"
  deletedStatus : settings.deletedStatus = "Deleted"

namespace StoredSubmission

/-- The submission belongs to a resource and is not deleted. -/
def isLive (resourceId : Int) (s : StoredSubmission) : Bool :=
  s.resourceId == some resourceId && s.statusName != some "Deleted"

end StoredSubmission

namespace World

/-- What is asked of a world at the start of a run, and holds throughout. -/
structure Orderly (settings : Settings) (w : World) : Prop where
  statuses : w.submissionStatuses = StoredLookup.catalog Defaults.submissionStatuses
  /-- No project allows multiple submissions. -/
  single : ∀ p ∈ w.projects, p.affirms settings.allowMultiple = false
  ids : ∀ s ∈ w.submissions, 0 ≤ s.id
  known : ∀ s ∈ w.submissions, ∃ l ∈ w.submissionStatuses, s.status = some l
  screened : ∀ e ∈ w.screening, e.1 ∈ w.submissions.map StoredSubmission.id
  /-- A resource has at most one submission that is not deleted. -/
  alone : ∀ resourceId, w.submissions.countP (·.isLive resourceId) ≤ 1

variable {w : World} {settings : Settings}

/-- Each of the default statuses is "Deleted" or may be changed to it. -/
theorem listed_deleted_of_default {l : StoredLookup}
    (hl : l ∈ StoredLookup.catalog Defaults.submissionStatuses) :
    l.name = "Deleted" ∨ "Deleted" ∈ StatusTable.listed l.name := by
  revert l
  decide

/-- Nothing forbids that a submission with one of the default statuses is deleted. -/
theorem checkMove_deleted {s : StoredSubmission} {l deleted : StoredLookup}
    (hl : l ∈ StoredLookup.catalog Defaults.submissionStatuses) (hs : s.status = some l)
    (hdeleted : deleted.name = "Deleted") : s.checkMove settings deleted = .ok () := by
  have hname : s.statusName = some l.name := by rw [StoredSubmission.statusName, hs]; rfl
  have hmove : StatusTable.canMove (.ofText? s.statusName) (.text deleted.name) = true := by
    rw [StatusTable.canMove_iff, hname, hdeleted]
    rcases listed_deleted_of_default hl with hsame | hlisted
    · exact .inr (.inl (by rw [hsame]))
    · exact .inr (.inr ⟨l.name, rfl, hlisted⟩)
  unfold StoredSubmission.checkMove
  split
  · exact StatusTable.checkMove_eq_ok_iff.2 hmove
  · rfl

/-- A deleted submission stays deleted. -/
theorem deleted_of_checkMove (hstrict : settings.IsStrict) {s : StoredSubmission}
    {l : StoredLookup} (hs : s.statusName = some "Deleted")
    (hmove : s.checkMove settings l = .ok ()) : l.name = "Deleted" := by
  rw [StoredSubmission.checkMove, if_pos hstrict.enforceMoves,
    StatusTable.checkMove_eq_ok_iff, StatusTable.canMove_iff, hs] at hmove
  rcases hmove with hnone | hsame | ⟨name, hname, hlisted⟩
  · cases hnone
  · exact (Option.some.inj hsame).symm
  · obtain rfl := Option.some.inj hname
    rw [StatusTable.listed_deleted] at hlisted
    cases hlisted

/-- An allowed change of status makes no submission live. -/
theorem isLive_of_withStatus (hstrict : settings.IsStrict) {s : StoredSubmission}
    {l : StoredLookup} (hmove : s.checkMove settings l = .ok ()) {resourceId : Int}
    (hlive : (s.withStatus l).isLive resourceId) : s.isLive resourceId := by
  simp only [StoredSubmission.isLive, StoredSubmission.withStatus, StoredSubmission.statusName,
    Option.map_some, Bool.and_eq_true, bne_iff_ne, ne_eq, Option.some.injEq] at hlive ⊢
  exact ⟨hlive.1, fun hdead => hlive.2 (deleted_of_checkMove hstrict hdead hmove)⟩

/-- **A change of status keeps order**, whether it succeeds or not. -/
theorem Orderly.changeStatus (hstrict : settings.IsStrict) (hw : w.Coherent)
    (h : Orderly settings w) (submissionId statusId operator : Value) :
    Orderly settings (w.changeStatus settings submissionId statusId operator).2 := by
  rcases hresult : w.changeStatus settings submissionId statusId operator with ⟨e | changed, u⟩
  · obtain rfl := changeStatus_error settings hresult
    exact h
  · obtain ⟨request, s, l, -, hfound, hstatus, hmove, -, rfl⟩ := changeStatus_ok settings hresult
    have hl : l ∈ w.submissionStatuses := List.mem_of_find?_eq_some hstatus
    have hs := (mem_of_submission? hfound).1
    have hids := Register.map_number_replace StoredSubmission.id w.submissions
      (x := (s.withStatus l).stamped request.operator w.now) (n := (s.withStatus l).id) rfl
    refine ⟨h.statuses, h.single, ?_, ?_, ?_, ?_⟩
    · intro x hx
      obtain ⟨y, hy, rfl⟩ := List.mem_map.1 hx
      split
      · exact h.ids s hs
      · exact h.ids y hy
    · intro x hx
      obtain ⟨y, hy, rfl⟩ := List.mem_map.1 hx
      split
      · exact ⟨l, hl, rfl⟩
      · exact h.known y hy
    · intro e he
      rw [putSubmission, hids]
      exact h.screened e he
    · intro resourceId
      refine Nat.le_trans ?_ (h.alone resourceId)
      rw [putSubmission, List.countP_map]
      refine List.countP_mono_left fun x hx hlive => ?_
      simp only [Function.comp_apply] at hlive
      split at hlive
      · rename_i hid
        have hsame : x = s := by
          have hx' := submission?_of_mem hw hx
          rw [hid] at hx'
          exact Option.some.inj (hx'.symm.trans (submission?_of_mem hw hs))
        exact hsame ▸ isLive_of_withStatus hstrict hmove hlive
      · exact hlive

section Retiring

variable {chosen : StoredSubmission → Bool} {deleted : StoredLookup} {operator : String}

/-- Retiring changes no numbers. -/
theorem map_id_retireFrom (clock : Clock) (xs : List StoredSubmission) :
    (retireFrom chosen deleted operator clock xs).map StoredSubmission.id =
      xs.map StoredSubmission.id := by
  induction xs generalizing clock with
  | nil => rfl
  | cons s rest ih =>
      rw [retireFrom]
      split
      · rw [List.map_cons, ih]
        rfl
      · rw [List.map_cons, ih]
        rfl

/-- After a retirement a submission is one that was there before, or has the deleted status. -/
theorem mem_retireFrom {clock : Clock} {xs : List StoredSubmission} {y : StoredSubmission}
    (hy : y ∈ retireFrom chosen deleted operator clock xs) :
    y ∈ xs ∨ y.status = some deleted := by
  induction xs generalizing clock with
  | nil => cases hy
  | cons s rest ih =>
      rw [retireFrom] at hy
      split at hy
      · rcases List.mem_cons.1 hy with rfl | hy
        · exact .inr rfl
        · exact (ih hy).imp_left (List.mem_cons_of_mem s)
      · rcases List.mem_cons.1 hy with rfl | hy
        · exact .inl List.mem_cons_self
        · exact (ih hy).imp_left (List.mem_cons_of_mem s)

/-- Retiring the submissions of a resource leaves it none that is live, and other resources all that
they had. -/
theorem countP_retireFrom (hdeleted : deleted.name = "Deleted") (operator : String)
    (clock : Clock) (xs : List StoredSubmission) (retiredId resourceId : Int) :
    (retireFrom (·.resourceId == some retiredId) deleted operator clock xs).countP
        (·.isLive resourceId) =
      if resourceId = retiredId then 0 else xs.countP (·.isLive resourceId) := by
  induction xs generalizing clock with
  | nil => simp [retireFrom]
  | cons s rest ih =>
      have hdead (m : Moment) : ((s.withStatus deleted).stamped operator m).isLive resourceId =
          false := by
        simp [StoredSubmission.isLive, StoredSubmission.withStatus, StoredSubmission.stamped,
          StoredSubmission.statusName, hdeleted]
      by_cases hs : s.resourceId = some retiredId
      · rw [retireFrom, if_pos (by simpa using hs), List.countP_cons, hdead, ih]
        by_cases hsame : resourceId = retiredId
        · simp [hsame]
        · have hother : s.isLive resourceId = false := by
            simp [StoredSubmission.isLive, hs, Ne.symm hsame]
          simp [hsame, hother]
      · rw [retireFrom, if_neg (by simpa using hs), List.countP_cons, ih]
        by_cases hsame : resourceId = retiredId
        · have hother : s.isLive resourceId = false := by
            simp [StoredSubmission.isLive, hsame, hs]
          simp [hsame, hsame ▸ hother]
        · simp [hsame, List.countP_cons]

end Retiring

section Uploading

variable {request : UploadRequest} {a : Admission}

/-- Where no project allows multiple submissions, every upload supersedes the earlier ones. -/
theorem Orderly.supersedes (h : Orderly settings w)
    (ha : w.admission settings request = .ok a) : a.supersedes settings request = true := by
  have hproject := knownProject_eq_ok_iff.1 ((admission_eq_ok_iff settings request).1 ha).1
  rw [Admission.supersedes, h.single a.project (List.mem_of_find?_eq_some hproject)]
  simp

/-- **An upload that was admitted goes through**: nothing is refused after the first write. -/
theorem Orderly.finish_ok (hstrict : settings.IsStrict) (hw : w.Coherent)
    (h : Orderly settings w) (ha : w.admission settings request = .ok a) :
    ∃ n u, w.finish settings request a = (.ok n, u) := by
  have hr := mem_of_onlyCandidate settings ((admission_eq_ok_iff settings request).1 ha).2.1
  have hsettled := settled_finish settings request hw (writable_of_admission settings request ha)
    (h.statuses ▸ numbered_catalog _) h.ids h.screened (fun deleted hdeleted s hs => by
      obtain ⟨l, hl, hstatus⟩ := h.known s hs
      exact checkMove_deleted (h.statuses ▸ hl) hstatus
        ((mem_of_named? hdeleted).2.trans hstrict.deletedStatus)) hr
  have hpassed : failed? (w.writtenChecks settings request a) = none := by
    simp only [failed?, writtenChecks, onlyIf, nameCheck, h.statuses, hstrict.activeStatus,
      hstrict.deletedStatus]
    simp [named?, StoredLookup.catalog, Defaults.submissionStatuses]
  rw [Settled, hpassed] at hsettled
  exact hsettled

/-- What an upload enters: an active submission of its resource if it is a general submission, and
nothing otherwise. -/
structure Entered (w : World) (request : UploadRequest) (a : Admission) (n : Int)
    (entered : List StoredSubmission) : Prop where
  ids : entered.map StoredSubmission.id = if request.rule.createsSubmission then [n] else []
  resource : ∀ s ∈ entered, s.resourceId = some a.resource.id
  active : ∀ s ∈ entered, ∃ l ∈ w.submissionStatuses, s.status = some l ∧ l.name = "Active"

/-- What was entered is live for its resource alone, and there is no more than one. -/
theorem Entered.countP_isLive {n : Int} {entered : List StoredSubmission}
    (h : w.Entered request a n entered) (resourceId : Int) :
    entered.countP (·.isLive resourceId) ≤ if resourceId = a.resource.id then 1 else 0 := by
  by_cases hsame : resourceId = a.resource.id
  · have hlength := congrArg List.length h.ids
    have hone : (if request.rule.createsSubmission then [n] else []).length ≤ 1 := by
      split <;> simp
    have hcount := List.countP_le_length (p := (·.isLive resourceId)) (l := entered)
    rw [List.length_map] at hlength
    rw [if_pos hsame]
    omega
  · rw [if_neg hsame, Nat.le_zero, List.countP_eq_zero]
    intro s hs
    simp [StoredSubmission.isLive, h.resource s hs, Ne.symm hsame]

/-- After an upload the store holds what the retirement left, and what was entered. -/
theorem Orderly.submissions_of_effect (hstrict : settings.IsStrict) (h : Orderly settings w)
    (ha : w.admission settings request = .ok a) {n : Int} {u : World}
    (heffect : Effect settings request a w u n) :
    ∃ deleted clock entered, deleted.name = "Deleted" ∧ deleted ∈ w.submissionStatuses ∧
      u.submissions = retireFrom (·.resourceId == some a.resource.id) deleted request.operator
        clock w.submissions ++ entered ∧ w.Entered request a n entered := by
  have hsupersedes := h.supersedes ha
  obtain ⟨deleted, hdeleted⟩ := heffect.deleted hsupersedes
  obtain ⟨hmem, hname⟩ := mem_of_named? hdeleted
  have hleft (stamps : Nat) : w.leftBy settings request a stamps =
      retireFrom (·.resourceId == some a.resource.id) deleted request.operator
        (w.clock.after stamps) w.submissions := by
    simp only [leftBy, hdeleted, if_pos hsupersedes]
  by_cases hcreates : request.rule.createsSubmission
  · obtain ⟨-, -, active, hactive, hu⟩ := heffect.entered hcreates
    obtain ⟨hactiveMem, hactiveName⟩ := mem_of_named? hactive
    refine ⟨deleted, _, _, hname.trans hstrict.deletedStatus, hmem, hleft 3 ▸ hu,
      { ids := ?_, resource := ?_, active := ?_ }⟩
    · rw [if_pos hcreates]
      rfl
    · intro s hs
      obtain rfl := List.mem_singleton.1 hs
      rfl
    · intro s hs
      obtain rfl := List.mem_singleton.1 hs
      exact ⟨active, hactiveMem, rfl, hactiveName.trans hstrict.activeStatus⟩
  · obtain ⟨-, hu, -⟩ := heffect.other (by simpa using hcreates)
    refine ⟨deleted, (w.clock.after 1), [], hname.trans hstrict.deletedStatus, hmem, ?_,
      { ids := (if_neg hcreates).symm, resource := by simp, active := by simp }⟩
    rw [List.append_nil, ← hleft 1, hu]

/-- After an upload only what it entered is live for its resource. -/
theorem Orderly.filter_isLive (hstrict : settings.IsStrict) (h : Orderly settings w)
    (ha : w.admission settings request = .ok a) {n : Int} {u : World}
    (heffect : Effect settings request a w u n) (hcreates : request.rule.createsSubmission) :
    ∃ s, u.submissions.filter (·.isLive a.resource.id) = [s] ∧ s.id = n ∧
      s.resourceId = some a.resource.id ∧ s.statusName = some "Active" := by
  obtain ⟨deleted, clock, entered, hname, -, hu, hentered⟩ :=
    h.submissions_of_effect hstrict ha heffect
  have hids := hentered.ids
  rw [if_pos hcreates] at hids
  obtain ⟨s, rfl, hid⟩ := List.map_eq_singleton_iff.1 hids
  have hresource := hentered.resource s List.mem_cons_self
  obtain ⟨active, -, hstatus, hactive⟩ := hentered.active s List.mem_cons_self
  have hstatusName : s.statusName = some "Active" := by
    rw [StoredSubmission.statusName, hstatus, Option.map_some, hactive]
  have hlive : s.isLive a.resource.id = true := by
    simp [StoredSubmission.isLive, hresource, hstatusName]
  have hnone := countP_retireFrom hname request.operator clock w.submissions a.resource.id
    a.resource.id
  rw [if_pos rfl, List.countP_eq_length_filter, List.length_eq_zero_iff] at hnone
  refine ⟨s, ?_, hid, hresource, hstatusName⟩
  rw [hu, List.filter_append, hnone]
  simp [hlive]

/-- What an upload asks to be screened is the number of what it entered. -/
theorem screening_of_effect {n : Int} {u : World} (heffect : Effect settings request a w u n) :
    u.screening = w.screening ++ if request.rule.createsSubmission
      then [(n, toString request.userId)] else [] := by
  by_cases hcreates : request.rule.createsSubmission
  · rw [if_pos hcreates]
    exact (heffect.screened hcreates).2
  · rw [if_neg hcreates, List.append_nil]
    exact (heffect.other (by simpa using hcreates)).2.2.2

/-- An upload that was admitted keeps order. -/
theorem Orderly.of_effect (hstrict : settings.IsStrict) (hw : w.Coherent)
    (h : Orderly settings w) (ha : w.admission settings request = .ok a) {n : Int} {u : World}
    (heffect : Effect settings request a w u n) : Orderly settings u := by
  obtain ⟨deleted, clock, entered, hname, hdeleted, hu, hentered⟩ :=
    h.submissions_of_effect hstrict ha heffect
  have hids : u.submissions.map StoredSubmission.id = w.submissions.map StoredSubmission.id ++
      if request.rule.createsSubmission then [n] else [] := by
    rw [hu, List.map_append, map_id_retireFrom, hentered.ids]
  have hstatuses := heffect.setting.submissionStatuses
  refine ⟨hstatuses.trans h.statuses, heffect.setting.projects ▸ h.single, ?_, ?_, ?_, ?_⟩
  · intro s hs
    have hid : s.id ∈ u.submissions.map StoredSubmission.id := List.mem_map.2 ⟨s, hs, rfl⟩
    rw [hids] at hid
    rcases List.mem_append.1 hid with hold | hnew
    · obtain ⟨x, hx, hsame⟩ := List.mem_map.1 hold
      exact hsame ▸ h.ids x hx
    · split at hnew
      · rename_i hcreates
        have hfree := (heffect.entered hcreates).1
        have hnonneg := hw.freeSubmission_nonneg
        have hsame := List.mem_singleton.1 hnew
        omega
      · cases hnew
  · intro s hs
    rw [hstatuses]
    rw [hu] at hs
    rcases List.mem_append.1 hs with hs | hs
    · rcases mem_retireFrom hs with hold | hretired
      · exact h.known s hold
      · exact ⟨deleted, hdeleted, hretired⟩
    · obtain ⟨l, hl, hstatus, -⟩ := hentered.active s hs
      exact ⟨l, hl, hstatus⟩
  · intro e he
    rw [screening_of_effect heffect] at he
    rw [hids]
    rcases List.mem_append.1 he with hold | hnew
    · exact List.mem_append_left _ (h.screened e hold)
    · by_cases hcreates : request.rule.createsSubmission
      · rw [if_pos hcreates] at hnew ⊢
        obtain rfl := List.mem_singleton.1 hnew
        exact List.mem_append_right _ List.mem_cons_self
      · rw [if_neg hcreates] at hnew
        cases hnew
  · intro resourceId
    have halone := h.alone resourceId
    have hcount := hentered.countP_isLive resourceId
    rw [hu, List.countP_append, countP_retireFrom hname]
    by_cases hsame : resourceId = a.resource.id
    · rw [if_pos hsame] at hcount ⊢
      omega
    · rw [if_neg hsame] at hcount ⊢
      omega

/-- **An upload keeps order**, whether it succeeds or not. -/
theorem Orderly.takeIn (hstrict : settings.IsStrict) (hw : w.Coherent) (h : Orderly settings w)
    (category projectId userId filename : Value) :
    Orderly settings (w.takeIn settings category projectId userId filename).2 := by
  unfold World.takeIn
  split
  · exact h
  · rename_i request _
    split
    · exact h
    · rename_i a ha
      obtain ⟨n, u, hdone⟩ := h.finish_ok hstrict hw ha
      rw [hdone]
      exact h.of_effect hstrict hw ha (effect_of_finish settings request hw
        (h.statuses ▸ numbered_catalog _) h.ids ha hdone)

end Uploading

end World

/-- Carry out calls one after the other, whatever comes of each. -/
def DeskCall.after (settings : Settings) (calls : List DeskCall)
    (t : Trail (Platform Memory.Catalog)) : Trail (Platform Memory.Catalog) :=
  calls.foldl (fun t c => ((c.program settings).run Platform.answer t).2) t

namespace World

variable {w : World} {settings : Settings}

/-- A call at the desk leads from an orderly world to an orderly world. -/
theorem Orderly.step (hstrict : settings.IsStrict) (hreached : Reached w.platform)
    (h : Orderly settings w) (c : DeskCall) :
    ∃ u : World, ((c.program settings).outcome Platform.answer w.platform).2 = u.platform ∧
      Reached u.platform ∧ Orderly settings u := by
  cases c with
  | upload category projectId userId filename =>
      have hnext := hreached.upload settings category projectId userId filename
      have horderly := h.takeIn hstrict hreached.coherent category projectId userId filename
      rw [outcome_upload settings hreached.coherent, upload_snd] at hnext
      rw [DeskCall.program, outcome_upload settings hreached.coherent, upload_snd]
      exact ⟨_, rfl, hnext, horderly⟩
  | setSubmissionStatus submissionId statusId operator =>
      have hnext := hreached.setSubmissionStatus settings submissionId statusId operator
      have horderly := h.changeStatus hstrict hreached.coherent submissionId statusId operator
      rw [outcome_setSubmissionStatus settings hreached.coherent] at hnext
      rw [DeskCall.program, outcome_setSubmissionStatus settings hreached.coherent]
      exact ⟨_, rfl, hnext, horderly⟩

/-- Any sequence of calls leads from an orderly world to an orderly world. -/
theorem Orderly.after (hstrict : settings.IsStrict) (hreached : Reached w.platform)
    (h : Orderly settings w) (calls : List DeskCall) {t : Trail (Platform Memory.Catalog)}
    (ht : t.state = w.platform) :
    ∃ u : World, (DeskCall.after settings calls t).state = u.platform ∧
      Reached u.platform ∧ Orderly settings u := by
  induction calls generalizing w t with
  | nil => exact ⟨w, ht, hreached, h⟩
  | cons c rest ih =>
      obtain ⟨u, hu, hnext, horderly⟩ := h.step hstrict hreached c
      refine ih hnext horderly ?_
      rw [Program.run_state, ht, hu]

end World

/-- **A resource has one live submission at most, throughout.** Moves are enforced, statuses and
their names are the default ones, no project allows multiple submissions, and the start is orderly.
Then so is the state after any calls at the desk, with arguments of any kind, whether they succeed
or fail.  If after that a general submission is answered, the answer is the number of the one live
submission of the user's resource, and that is active. -/
theorem one_live_throughout {w : World} {settings : Settings} (hstrict : settings.IsStrict)
    (hreached : Reached w.platform) (hstart : Orderly settings w) (calls : List DeskCall)
    {t : Trail (Platform Memory.Catalog)} (ht : t.state = w.platform) :
    ∃ u : World, (DeskCall.after settings calls t).state = u.platform ∧ Orderly settings u ∧
      ∀ projectId userId filename answer : Value,
        ((Desk.upload settings (.category .submission) projectId userId filename).run
            Platform.answer (DeskCall.after settings calls t)).1 = .ok answer →
          ∃ (n p q : Int) (r : StoredResource) (v : World) (s : StoredSubmission),
            answer = .int n ∧ projectId = .int p ∧ userId = .int q ∧
            u.candidates settings p q Category.submission.rule.roleNames = [r] ∧
            (DeskCall.after settings (calls ++ [.upload (.category .submission) projectId userId
              filename]) t).state = v.platform ∧ Orderly settings v ∧
            v.submissions.filter (·.isLive r.id) = [s] ∧ s.id = n ∧ s.resourceId = some r.id ∧
              s.statusName = some "Active" := by
  obtain ⟨u, hu, hnext, horderly⟩ := hstart.after hstrict hreached calls ht
  refine ⟨u, hu, horderly, fun projectId userId filename answer hanswer => ?_⟩
  have hcoherent := hnext.coherent
  have houtcome := outcome_upload settings hcoherent (.category .submission) projectId userId
    filename
  have hlast : (DeskCall.after settings (calls ++ [.upload (.category .submission) projectId userId
      filename]) t).state = (u.takeIn settings (.category .submission) projectId userId
        filename).2.platform := by
    rw [DeskCall.after, List.foldl_append]
    show ((Desk.upload settings (.category .submission) projectId userId filename).run
      Platform.answer (DeskCall.after settings calls t)).2.state = _
    rw [Program.run_state, hu, houtcome, upload_snd]
  have hkept := horderly.takeIn hstrict hcoherent (.category .submission) projectId userId filename
  rw [Program.run_result, hu, houtcome] at hanswer
  rcases hresult : u.upload settings (.category .submission) projectId userId filename
    with ⟨e | n, v⟩
  · rw [hresult] at hanswer
    cases hanswer
  · have htaken := (upload_eq_ok_iff settings).1 hresult
    rw [hresult] at hanswer
    rw [htaken] at hlast hkept
    obtain ⟨request, a, hrequest, ha, heffect⟩ := effect_of_takeIn_ok settings hcoherent
      (horderly.statuses ▸ numbered_catalog _) horderly.ids htaken
    obtain ⟨hcategory, ⟨hproject, -⟩, ⟨huser, -⟩, -⟩ := UploadRequest.ofFields_eq_ok_iff.1 hrequest
    have hsubmission : request.rule = Category.submission.rule :=
      congrArg Category.rule (Value.category.inj hcategory).symm
    have hcandidates := heffect.resource
    rw [hsubmission] at hcandidates
    obtain ⟨s, hlive, hid, hresource, hactive⟩ := horderly.filter_isLive hstrict ha heffect
      (by rw [hsubmission]; rfl)
    exact ⟨n, request.projectId, request.userId, a.resource, v, s, (Except.ok.inj hanswer).symm,
      hproject, huser, hcandidates, hlast, hkept, hlive, hid, hresource, hactive⟩

/-- A fresh contest is orderly. -/
theorem orderly_openContest (settings : Settings) : Orderly settings (openContest []) where
  statuses := rfl
  single p hp := by
    obtain rfl := List.mem_singleton.1 hp
    rfl
  ids := by simp [openContest, withProject, withPhase, withResource]
  known := by simp [openContest, withProject, withPhase, withResource]
  screened := by simp [openContest, withProject, withPhase, withResource]
  alone := by simp [openContest, withProject, withPhase, withResource]

/-- The first submission to an open contest is the one live submission of its resource. -/
theorem one_live_throughout_openContest :
    ∃ (n : Int) (r : StoredResource) (v : World) (s : StoredSubmission),
      Value.int 1 = .int n ∧
      (DeskCall.after { enforceMoves := true }
        [.upload (.category .submission) (.int 1) (.int 10) (.text "f.zip")]
        { state := (openContest []).platform }).state = v.platform ∧
      v.submissions.filter (·.isLive r.id) = [s] ∧ s.id = n ∧ s.statusName = some "Active" := by
  have hreached := reached_openContest []
  have hstrict : Settings.IsStrict { enforceMoves := true } := ⟨rfl, rfl, rfl⟩
  obtain ⟨u, -, -, hthen⟩ := one_live_throughout hstrict hreached (orderly_openContest _) []
    (t := { state := (openContest []).platform }) rfl
  obtain ⟨n, -, -, r, v, s, hn, -, -, -, hv, -, hlive, hid, -, hactive⟩ :=
    hthen (.int 1) (.int 10) (.text "f.zip") (.int 1) (by
      rw [Program.run_result, DeskCall.after, List.foldl_nil,
        outcome_upload _ hreached.coherent]
      rfl)
  exact ⟨n, r, v, s, hn, hv, hlive, hid, hactive⟩

end ContestUploads
