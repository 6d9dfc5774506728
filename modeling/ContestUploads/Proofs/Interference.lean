import ContestUploads.Proofs.Acceptance
import ContestUploads.Proofs.Apart
import ContestUploads.Proofs.Restored

/-!
# Users do not interfere

Two users with different numbers upload, one after the other.  The second upload comes to what it
would have come to without the first: it is taken in or it fails with the same failure, and the
submissions that it retires are the same.  Only the numbers of new records may differ, and the
stamps.

The first upload leaves alone what the second user sees (`World.sameFor_takeIn`).  The rest is a
run of the second upload in two worlds side by side: `changeStatus_alike`, `retireEach_alike` and
so on say that a step comes to the same in both.  Stamps and fresh numbers differ between the two
from the first write on, so the worlds are compared by what the steps look at: whose a submission
is and which status it has.
-/

namespace ContestUploads

namespace World

variable {w u : World} (settings : Settings)

/-- A change of status comes to the same in two worlds in which the submission has one status. -/
theorem changeStatus_alike (hstatuses : u.submissionStatuses = w.submissionStatuses) {n : Int}
    (hsame : u.statusOf n = w.statusOf n) (statusId operator : Value) :
    (∃ e, w.changeStatus settings (.int n) statusId operator = (.error e, w) ∧
      w.changeStatusWrites settings (.int n) statusId operator = [] ∧
      u.changeStatus settings (.int n) statusId operator = (.error e, u) ∧
      u.changeStatusWrites settings (.int n) statusId operator = []) ∨
    ∃ (s t : StoredSubmission) (l : StoredLookup) (name : String), s.id = n ∧ t.id = n ∧
      w.changeStatus settings (.int n) statusId operator =
        (.ok ((s.withStatus l).stamped name w.now), w.putSubmission (s.withStatus l) name) ∧
      w.changeStatusWrites settings (.int n) statusId operator = [.again (s.withStatus l) name] ∧
      u.changeStatus settings (.int n) statusId operator =
        (.ok ((t.withStatus l).stamped name u.now), u.putSubmission (t.withStatus l) name) ∧
      u.changeStatusWrites settings (.int n) statusId operator =
        [.again (t.withStatus l) name] := by
  unfold changeStatus changeStatusWrites
  rcases hrequest : StatusRequest.ofFields
      [("submission_id", .int n), ("status_id", statusId), ("operator", operator)]
    with e | request
  · exact .inl ⟨e, rfl, rfl, rfl, rfl⟩
  · have hid : request.submissionId = n :=
      (Value.int.inj (StatusRequest.ofFields_eq_ok_iff.1 hrequest).1.1).symm
    dsimp only
    rw [hid, hstatuses]
    unfold statusOf at hsame
    rcases hs : w.submission? n with _ | s <;> rcases ht : u.submission? n with _ | t
    · exact .inl ⟨_, rfl, rfl, rfl, rfl⟩
    · simp [hs, ht] at hsame
    · simp [hs, ht] at hsame
    · have hstatus : t.status = s.status := by simpa [hs, ht] using hsame
      have hmove (l : StoredLookup) : t.checkMove settings l = s.checkMove settings l := by
        unfold StoredSubmission.checkMove StoredSubmission.statusName
        rw [hstatus]
      dsimp only
      rcases withId? w.submissionStatuses request.statusId with _ | l
      · exact .inl ⟨_, rfl, rfl, rfl, rfl⟩
      · dsimp only
        rw [hmove l]
        rcases s.checkMove settings l with e | ⟨⟩
        · exact .inl ⟨e, rfl, rfl, rfl, rfl⟩
        · exact .inr ⟨s, t, l, request.operator, (mem_of_submission? hs).2,
            (mem_of_submission? ht).2, rfl, rfl, rfl, rfl⟩

/-- Storing a submission with one status in two worlds: the statuses stay alike. -/
theorem statusOf_putSubmission_alike {n : Int} (hsame : u.statusOf n = w.statusOf n)
    {s t : StoredSubmission} (hid : t.id = s.id) (hstatus : t.status = s.status)
    (operator : String) :
    (u.putSubmission t operator).statusOf n = (w.putSubmission s operator).statusOf n := by
  rw [statusOf_putSubmission, statusOf_putSubmission, hsame, hid, hstatus]

/-- A retirement comes to the same in two worlds in which those that are listed have the same
status, and none of them is spared. -/
theorem retireEach_alike (deleted : StoredLookup) (operator : String) {spared spared' : List Int}
    {listed : List StoredSubmission}
    (hspared : ∀ s ∈ listed, s.id ∉ spared) (hspared' : ∀ s ∈ listed, s.id ∉ spared')
    (hstatuses : u.submissionStatuses = w.submissionStatuses)
    (hsame : ∀ s ∈ listed, u.statusOf s.id = w.statusOf s.id) :
    (retireEach settings deleted operator spared' listed u).1 =
        (retireEach settings deleted operator spared listed w).1 ∧
      (retireEachWrites settings deleted operator spared' listed u).filterMap Write.restored? =
        (retireEachWrites settings deleted operator spared listed w).filterMap
          Write.restored? := by
  induction listed generalizing w u with
  | nil => exact ⟨rfl, rfl⟩
  | cons s rest ih =>
      have hnow := hspared s List.mem_cons_self
      have hnow' := hspared' s List.mem_cons_self
      rw [retireEach, retireEach, retireEachWrites, retireEachWrites, if_neg hnow, if_neg hnow,
        if_neg hnow', if_neg hnow']
      rcases changeStatus_alike settings hstatuses (hsame s List.mem_cons_self) (.int deleted.id)
          (.text operator) with
        ⟨e, hw, hww, hu, huw⟩ | ⟨x, y, l, name, hx, hy, hw, hww, hu, huw⟩
      · rw [hw, hww, hu, huw]
        exact ⟨rfl, rfl⟩
      · let w' := (w.putSubmission (x.withStatus l) name).putSubmission
          ((x.withStatus l).stamped name w.now) operator
        let u' := (u.putSubmission (y.withStatus l) name).putSubmission
          ((y.withStatus l).stamped name u.now) operator
        have hlater : ∀ z ∈ rest, u'.statusOf z.id = w'.statusOf z.id := by
          intro z hz
          have honce := statusOf_putSubmission_alike (hsame z (List.mem_cons_of_mem s hz))
            (s := x.withStatus l) (t := y.withStatus l) (hy.trans hx.symm) rfl name
          exact statusOf_putSubmission_alike honce (s := (x.withStatus l).stamped name w.now)
            (t := (y.withStatus l).stamped name u.now) (hy.trans hx.symm) rfl operator
        obtain ⟨hresult, hwrites⟩ := ih (w := w') (u := u')
          (fun z hz => hspared z (List.mem_cons_of_mem s hz))
          (fun z hz => hspared' z (List.mem_cons_of_mem s hz)) hstatuses hlater
        rw [hw, hww, hu, huw]
        have htwice (z : StoredSubmission) (hz : z.id = s.id) (now : Moment) (later : List Write) :
            ([Write.again (z.withStatus l) name] ++
                Write.again ((z.withStatus l).stamped name now) operator :: later).filterMap
                Write.restored? =
              (s.id, some l) :: (s.id, some l) :: later.filterMap Write.restored? := by
          rw [← hz]
          rfl
        constructor
        · dsimp only
          rcases hfirst : retireEach settings deleted operator spared rest w' with
              ⟨e | later, v⟩ <;>
            rcases hsecond : retireEach settings deleted operator spared' rest u' with
              ⟨e' | later', v'⟩ <;>
            rw [hfirst, hsecond] at hresult <;> cases hresult <;> rfl
        · dsimp only
          rw [htwice x hx, htwice y hy]
          exact congrArg (fun later => _ :: _ :: later) hwrites

/-- Two runs come to the same: both to a number, or both to the same failure; and the submissions
that they store once more, and the statuses of these, are the same. -/
def SameCourse (run run' : Except Failure Int × List Write) : Prop :=
  (run'.1.map fun _ => ()) = (run.1.map fun _ => ()) ∧
    run'.2.filterMap Write.restored? = run.2.filterMap Write.restored?

/-- Writes before that store nothing once more make no difference. -/
theorem SameCourse.append {x x' : Except Failure Int} {later later' before before' : List Write}
    (h : SameCourse (x, later) (x', later')) (hbefore : before.filterMap Write.restored? = [])
    (hbefore' : before'.filterMap Write.restored? = []) :
    SameCourse (x, before ++ later) (x', before' ++ later') := by
  refine ⟨h.1, ?_⟩
  dsimp only
  rw [List.filterMap_append, List.filterMap_append, hbefore, hbefore']
  exact h.2

variable (request : UploadRequest) {a : Admission}

/-- Retiring what an upload supersedes comes to the same in two worlds with the same submissions to
be retired. -/
theorem supersede_alike (hstatuses : u.submissionStatuses = w.submissionStatuses)
    {spared spared' : List Int}
    (hlisted : ((u.ofResource a.resource.id).filter fun s => s.id ∉ spared') =
      (w.ofResource a.resource.id).filter fun s => s.id ∉ spared)
    (hsame : ∀ s ∈ (w.ofResource a.resource.id).filter (fun s => s.id ∉ spared),
      u.statusOf s.id = w.statusOf s.id) (id id' : Int) :
    SameCourse
      ((w.supersede settings request a spared id).1, w.supersedeWrites settings request a spared)
      ((u.supersede settings request a spared' id').1,
        u.supersedeWrites settings request a spared') := by
  unfold supersede supersedeWrites
  by_cases hold : a.supersedes settings request
  · rw [if_pos hold, if_pos hold, if_pos hold, if_pos hold]
    have hasked : u.demandDeleted settings request.userId =
        w.demandDeleted settings request.userId := by
      rw [demandDeleted, demandDeleted, hstatuses]
    unfold retireSuperseded retireSupersededWrites
    rw [hasked]
    rcases w.demandDeleted settings request.userId with e | deleted
    · exact ⟨rfl, rfl⟩
    · have hspared : ∀ s ∈ (w.ofResource a.resource.id).filter (fun s => s.id ∉ spared),
          s.id ∉ spared := by
        intro s hs
        simpa using (List.mem_filter.1 hs).2
      have hspared' : ∀ s ∈ (w.ofResource a.resource.id).filter (fun s => s.id ∉ spared),
          s.id ∉ spared' := by
        intro s hs
        rw [← hlisted] at hs
        simpa using (List.mem_filter.1 hs).2
      obtain ⟨hresult, hwrites⟩ := retireEach_alike settings deleted (toString request.userId)
        hspared hspared' hstatuses hsame
      dsimp only
      rw [retireEach_filter, retireEachWrites_filter,
        retireEach_filter settings deleted _ spared' (u.ofResource a.resource.id),
        retireEachWrites_filter settings deleted _ spared' (u.ofResource a.resource.id), hlisted]
      refine ⟨?_, hwrites⟩
      rcases hfirst : retireEach settings deleted (toString request.userId) spared
          ((w.ofResource a.resource.id).filter fun s => s.id ∉ spared) w with ⟨e | ids, v⟩ <;>
        rcases hsecond : retireEach settings deleted (toString request.userId) spared'
          ((w.ofResource a.resource.id).filter fun s => s.id ∉ spared) u with ⟨e' | ids', v'⟩ <;>
        rw [hfirst, hsecond] at hresult <;> cases hresult <;> rfl
  · rw [if_neg hold, if_neg hold, if_neg hold, if_neg hold]
    exact ⟨rfl, rfl⟩

/-- Where all that was sent to screening is stored, entering a submission comes to the same in two
worlds with the same statuses. -/
theorem enter_alike (hstatuses : u.submissionStatuses = w.submissionStatuses)
    (hw : ∀ e ∈ w.screening, e.1 ∈ w.submissions.map StoredSubmission.id)
    (hu : ∀ e ∈ u.screening, e.1 ∈ u.submissions.map StoredSubmission.id) (a : Admission)
    (uploadId uploadId' : Int) :
    (∃ e, w.enter settings request a uploadId = (.error e, w) ∧
      u.enter settings request a uploadId' = (.error e, u)) ∨
    ∃ n v n' v', w.enter settings request a uploadId = (.ok n, v) ∧
      u.enter settings request a uploadId' = (.ok n', v') := by
  have hfirst := enter_by_name settings request hw a uploadId
  have hsecond := enter_by_name settings request hu a uploadId'
  rw [hstatuses] at hsecond
  rcases hnamed : named? w.submissionStatuses settings.activeStatus with _ | active
  · rw [hnamed] at hfirst hsecond
    exact .inl ⟨_, hfirst, hsecond⟩
  · rw [hnamed] at hfirst hsecond
    exact .inr ⟨_, _, _, _, hfirst, hsecond⟩

/-- After a submission was entered, those that are to be retired have the status that they had. -/
theorem statusOf_of_enter (h : w.Coherent) {uploadId n : Int} {v : World}
    (hr : a.resource ∈ w.resources)
    (hentered : w.enter settings request a uploadId = (.ok n, v)) {s : StoredSubmission}
    (hs : s ∈ w.ofResource a.resource.id) : v.statusOf s.id = some s.status := by
  have hcoherent : v.Coherent := by
    have hkept := kept_coherent.enter settings request h hr uploadId
    rwa [hentered] at hkept
  rw [← ofResource_of_enter settings hentered] at hs
  exact statusOf_of_mem hcoherent (List.mem_of_mem_filter (List.mem_of_mem_filter hs))

/-- **An upload that was admitted comes to the same** in two worlds in which its resource has the
same submissions. -/
theorem finish_alike (hw : w.Coherent) (hu : u.Coherent)
    (hscreened : ∀ e ∈ w.screening, e.1 ∈ w.submissions.map StoredSubmission.id)
    (hscreened' : ∀ e ∈ u.screening, e.1 ∈ u.submissions.map StoredSubmission.id)
    (hstatuses : u.submissionStatuses = w.submissionStatuses)
    (hr : a.resource ∈ w.resources) (hr' : a.resource ∈ u.resources)
    (hsame : u.ofResource a.resource.id = w.ofResource a.resource.id) :
    SameCourse ((w.finish settings request a).1, w.finishWrites settings request a)
      ((u.finish settings request a).1, u.finishWrites settings request a) := by
  have hw' : (w.received request a).Coherent := hw.addUpload _ _
  have hu' : (u.received request a).Coherent := hu.addUpload _ _
  unfold finish finishWrites
  rw [← List.singleton_append,
    ← List.singleton_append (l := (u.received request a).followUpWrites ..)]
  refine SameCourse.append ?_ rfl rfl
  unfold followUpWrites
  dsimp only
  by_cases hcreates : request.rule.createsSubmission
  · rw [if_pos hcreates, if_pos hcreates, if_pos hcreates, if_pos hcreates]
    refine SameCourse.append ?_ (restored_enterWrites settings _ _ _ _)
      (restored_enterWrites settings _ _ _ _)
    rcases enter_alike (w := w.received request a) (u := u.received request a) settings request
        hstatuses hscreened hscreened' a w.nextUpload u.nextUpload with
      ⟨e, hfirst, hsecond⟩ | ⟨n, v, n', v', hfirst, hsecond⟩
    · rw [hfirst, hsecond]
      exact ⟨rfl, rfl⟩
    · have hv := (kept_sameSetting (w.received request a)).enter settings request (.refl _)
        (a := a) hr w.nextUpload
      have hv' := (kept_sameSetting (u.received request a)).enter settings request (.refl _)
        (a := a) hr' u.nextUpload
      rw [hfirst] at hv
      rw [hsecond] at hv'
      rw [hfirst, hsecond]
      refine supersede_alike settings request
        (hv'.submissionStatuses.trans (hstatuses.trans hv.submissionStatuses.symm)) ?_ ?_ n n'
      · rw [ofResource_of_enter settings hfirst, ofResource_of_enter settings hsecond]
        exact hsame
      · rw [ofResource_of_enter settings hfirst]
        intro s hs
        have hs' : s ∈ (u.received request a).ofResource a.resource.id := hsame ▸ hs
        rw [statusOf_of_enter settings request hw' hr hfirst hs,
          statusOf_of_enter settings request hu' hr' hsecond hs']
  · rw [if_neg hcreates, if_neg hcreates, if_neg hcreates, if_neg hcreates]
    refine supersede_alike (w := w.received request a) (u := u.received request a) settings request
      hstatuses ?_ ?_ w.nextUpload u.nextUpload
    · exact congrArg _ hsame
    · intro s hs
      have hmem : s ∈ w.ofResource a.resource.id := List.mem_of_mem_filter hs
      have hmem' : s ∈ u.ofResource a.resource.id := hsame ▸ hmem
      exact (statusOf_of_mem hu' (List.mem_of_mem_filter hmem')).trans
        (statusOf_of_mem hw' (List.mem_of_mem_filter hmem)).symm

/-- A request of a user is admitted alike in two worlds that look the same to the user. -/
theorem SameFor.admission (h : SameFor settings request.userId w u) :
    u.admission settings request = w.admission settings request := by
  have hcandidates := h.candidates request.projectId request.rule.roleNames
  unfold World.admission passGate knownProject project? onlyCandidate openGate gatingPhase? phasesOf
  rw [hcandidates]
  unfold roleIds
  rw [h.setting.projects, h.setting.roles, h.setting.phases, h.setting.uploadTypes,
    h.setting.uploadStatuses]

/-- **An upload of a user comes to the same** in two worlds that look the same to the user. -/
theorem takeIn_alike (hw : w.Coherent) (hu : u.Coherent)
    (hscreened : ∀ e ∈ w.screening, e.1 ∈ w.submissions.map StoredSubmission.id)
    (hscreened' : ∀ e ∈ u.screening, e.1 ∈ u.submissions.map StoredSubmission.id) {userId : Int}
    (hsame : SameFor settings userId w u) (category projectId filename : Value) :
    SameCourse
      ((w.takeIn settings category projectId (.int userId) filename).1,
        w.takeInWrites settings category projectId (.int userId) filename)
      ((u.takeIn settings category projectId (.int userId) filename).1,
        u.takeInWrites settings category projectId (.int userId) filename) := by
  unfold takeIn takeInWrites
  rcases hrequest : UploadRequest.ofFields [("category", category), ("project_id", projectId),
      ("user_id", .int userId), ("filename", filename)] with e | request
  · exact ⟨rfl, rfl⟩
  · have huser : userId = request.userId :=
      Value.int.inj (UploadRequest.ofFields_eq_ok_iff.1 hrequest).2.2.1.1
    rw [huser] at hsame
    dsimp only
    rw [hsame.admission settings request]
    rcases ha : w.admission settings request with e | a
    · exact ⟨rfl, rfl⟩
    · obtain ⟨hr, -, howner⟩ := resource_of_admission settings ha
      obtain ⟨hr', hheld⟩ := hsame.held a.resource hr howner
      exact finish_alike settings request hw hu hscreened hscreened'
        hsame.setting.submissionStatuses hr hr' hheld

/-- What the desk makes of an upload of a user comes to the same as well. -/
theorem upload_alike (hw : w.Coherent) (hu : u.Coherent)
    (hscreened : ∀ e ∈ w.screening, e.1 ∈ w.submissions.map StoredSubmission.id)
    (hscreened' : ∀ e ∈ u.screening, e.1 ∈ u.submissions.map StoredSubmission.id) {userId : Int}
    (hsame : SameFor settings userId w u) (category projectId filename : Value) :
    SameCourse
      ((w.upload settings category projectId (.int userId) filename).1,
        w.takeInWrites settings category projectId (.int userId) filename)
      ((u.upload settings category projectId (.int userId) filename).1,
        u.takeInWrites settings category projectId (.int userId) filename) := by
  obtain ⟨hresult, hrestored⟩ := takeIn_alike settings hw hu hscreened hscreened' hsame category
    projectId filename
  refine ⟨?_, hrestored⟩
  unfold upload
  rcases Desk.uploadContext category projectId (.int userId) with e | context
  · rfl
  · exact hresult

/-- A warranted write asks for the screening of stored submissions only. -/
theorem screened_onto {x : Write} (hx : x.Warranted settings w)
    (h : ∀ e ∈ w.screening, e.1 ∈ w.submissions.map StoredSubmission.id) :
    ∀ e ∈ (x.onto w).screening, e.1 ∈ (x.onto w).submissions.map StoredSubmission.id := by
  cases hx with
  | upload draft operator => exact h
  | submission hu hr hactive hthrough =>
      intro e he
      show e.1 ∈ (w.submissions ++ [_]).map StoredSubmission.id
      rw [List.map_append]
      exact List.mem_append_left _ (h e he)
  | @again s l hs hl operator =>
      have hids := Register.map_number_replace StoredSubmission.id w.submissions
        (x := (s.withStatus l).stamped operator w.now) (n := (s.withStatus l).id) rfl
      rw [onto_again hs]
      intro e he
      rw [putSubmission, hids]
      exact h e he
  | resource hr hs howner operator =>
      rw [Write.onto]
      split
      · exact h
      · exact h
  | @screening r s hr hs howner hlinked operator =>
      rw [Write.onto]
      split
      · exact h
      · intro e he
        rcases List.mem_append.1 he with hold | hnew
        · exact h e hold
        · obtain rfl := List.mem_singleton.1 hnew
          exact List.mem_map.2 ⟨s, hs, rfl⟩

/-- An upload asks for the screening of stored submissions only. -/
theorem screened_takeIn (hcoherent : w.Coherent)
    (h : ∀ e ∈ w.screening, e.1 ∈ w.submissions.map StoredSubmission.id)
    (category projectId userId filename : Value) :
    let u := (w.takeIn settings category projectId userId filename).2
    ∀ e ∈ u.screening, e.1 ∈ u.submissions.map StoredSubmission.id := by
  have hkept := (warrants_takeInWrites settings w category projectId userId filename).kept
    (p := fun u => ∀ e ∈ u.screening, e.1 ∈ u.submissions.map StoredSubmission.id) hcoherent h
    (fun v x _ _ hx hv => screened_onto settings hx hv)
    (w.takeInWrites settings category projectId userId filename).length
  rwa [List.take_length, after_takeInWrites] at hkept

end World

section Runs

variable {w u : World} {settings : Settings} {category projectId userId filename : Value}

/-- What an upload comes to, over the stores. -/
theorem run_upload (h : w.Coherent) :
    let run := ((DeskCall.upload category projectId userId filename).program settings).run
      Platform.answer { state := w.platform }
    (run.1.map fun _ => ()) =
        ((w.upload settings category projectId userId filename).1.map fun _ => ()) ∧
      run.2.state = (w.takeIn settings category projectId userId filename).2.platform := by
  intro run
  have houtcome := World.outcome_upload settings h category projectId userId filename
  constructor
  · rw [Program.run_result]
    show (((Desk.upload ..).outcome Platform.answer w.platform).1.map _) = _
    rw [houtcome]
    rcases (w.upload settings category projectId userId filename).1 with e | n <;> rfl
  · rw [Program.run_state, ← World.upload_snd]
    exact congrArg Prod.snd houtcome

/-- What an upload stores once more. -/
theorem calls_upload (h : w.Coherent) :
    (((DeskCall.upload category projectId userId filename).program settings).run Platform.answer
      { state := w.platform }).2.calls.filterMap Call.restored? =
      ((w.takeInWrites settings category projectId userId filename).filterMap
        Write.restored?).map fun e => (.ok (.int e.1), .ok (StoredLookup.optional e.2)) := by
  apply Call.filterMap_restored
  rw [Program.run_calls]
  exact (DeskCall.upload category projectId userId filename).makes_program settings w h

end Runs

/-- **Users do not interfere.**  In a state that the stores can be brought to, where all that was
sent to screening is stored, two users with different numbers upload one after the other, and
either upload may fail.  The second comes to what it comes to without the first: to an answer in
both cases, or to the same failure.  It stores the same submissions once more with the same
statuses, all of which were there before the first.  And the first leaves the resources of the
second user and their submissions exactly as they were, so that these end with the same status with
and without it. -/
theorem users_do_not_interfere {w : World} (hreached : Reached w.platform)
    (hscreened : ∀ e ∈ w.screening, e.1 ∈ w.submissions.map StoredSubmission.id)
    (settings : Settings) {ownerId userId : Int} (hne : ownerId ≠ userId)
    (category projectId filename category' projectId' filename' : Value) :
    let first := (DeskCall.upload category projectId (.int ownerId) filename).program settings
    let second := (DeskCall.upload category' projectId' (.int userId) filename').program settings
    let afterFirst := (first.run Platform.answer { state := w.platform }).2.state
    let alone := second.run Platform.answer { state := w.platform }
    let later := second.run Platform.answer { state := afterFirst }
    (later.1.map fun _ => ()) = (alone.1.map fun _ => ()) ∧
    later.2.calls.filterMap Call.restored? = alone.2.calls.filterMap Call.restored? ∧
    (∀ e ∈ alone.2.calls.filterMap Call.restored?, ∃ s ∈ w.submissions, e.1 = .ok (.int s.id)) ∧
    ∃ u endAlone endLater : World, afterFirst = u.platform ∧ alone.2.state = endAlone.platform ∧
      later.2.state = endLater.platform ∧
      ∀ r ∈ w.resources,
        r.extensionProperties.lookup settings.externalReference = some (toString userId) →
          r ∈ u.resources ∧ u.ofResource r.id = w.ofResource r.id ∧
            ∀ s ∈ w.ofResource r.id, endLater.statusOf s.id = endAlone.statusOf s.id := by
  intro first second afterFirst alone later
  let u := (w.takeIn settings category projectId (.int ownerId) filename).2
  have hw := hreached.coherent
  have hafter : afterFirst = u.platform := (run_upload hw).2
  have hu : u.Coherent := by
    have hnext := hreached.upload settings category projectId (.int ownerId) filename
    rw [World.outcome_upload settings hw, World.upload_snd] at hnext
    exact hnext.coherent
  have hsame : World.SameFor settings userId w u :=
    World.sameFor_takeIn hw hne category projectId filename
  have hscreened' := World.screened_takeIn settings hw hscreened category projectId (.int ownerId)
    filename
  obtain ⟨hresult, hrestored⟩ := World.upload_alike settings hw hu hscreened hscreened' hsame
    category' projectId' filename'
  have hlater : later = second.run Platform.answer { state := u.platform } := by rw [← hafter]
  have halone : alone.2.state = _ := (run_upload hw).2
  have hlast : (second.run Platform.answer { state := u.platform }).2.state = _ :=
    (run_upload hu).2
  rw [hlater]
  refine ⟨?_, ?_, ?_, u, _, _, hafter, halone, hlast, ?_⟩
  · rw [(run_upload hu).1, (run_upload hw).1]
    exact hresult
  · rw [calls_upload hu, calls_upload hw]
    exact congrArg _ hrestored
  · intro e he
    rw [calls_upload hw] at he
    obtain ⟨x, hx, rfl⟩ := List.mem_map.1 he
    obtain ⟨s, hs, hid⟩ := List.mem_map.1 (World.mem_of_restored settings hx)
    exact ⟨s, hs, by rw [hid]⟩
  · intro r hr howner
    obtain ⟨hkept, hheld⟩ := hsame.held r hr howner
    refine ⟨hkept, hheld, ?_⟩
    intro s hs
    have hfound := World.statusOf_of_mem hw (List.mem_of_mem_filter hs)
    have hfound' := World.statusOf_of_mem hu (List.mem_of_mem_filter (hheld.symm ▸ hs))
    rw [← World.after_takeInWrites, ← World.after_takeInWrites,
      (World.warrants_takeInWrites settings u ..).statusOf_after settings (by simp [hfound']),
      (World.warrants_takeInWrites settings w ..).statusOf_after settings (by simp [hfound]),
      hrestored, hfound, hfound']

/-- Users 10 and 11 have a resource each in one project; that of user 11 has a submission. -/
def World.sharedContest : World :=
  ((openContest []).withResource
    { id := 2
      projectId := 1
      roleId := 1
      extensionProperties := [("External Reference ID", "11")] }).withSubmission
    { id := 7, status := some { id := 1, name := "Active" }, resourceId := some 2 }

theorem World.reached_sharedContest : Reached World.sharedContest.platform := by
  have hopened := reached_openContest []
  have hshared := hopened.addResource
    { id := 2
      projectId := 1
      roleId := 1
      extensionProperties := [("External Reference ID", "11")] }
    (addResource_platform hopened.coherent _)
  exact hshared.withSubmission _

/-- In a contest of two users the first uploads, then the second, whose earlier submission is
retired as it would have been without the first. -/
theorem users_do_not_interfere_sharedContest :
    let w := World.sharedContest
    let first := (DeskCall.upload (.category .submission) (.int 1) (.int 10) (.text "f.zip")).program
      {}
    let second := (DeskCall.upload (.category .submission) (.int 1) (.int 11)
      (.text "g.zip")).program {}
    let afterFirst := (first.run Platform.answer { state := w.platform }).2.state
    let later := second.run Platform.answer { state := afterFirst }
    (later.1.map fun _ => ()) = .ok () ∧
      later.2.calls.filterMap Call.restored? =
        List.replicate 2 (.ok (.int 7), .ok (StoredLookup.value { id := 5, name := "Deleted" })) ∧
      ∃ u : World, afterFirst = u.platform ∧ u.ofResource 2 = w.ofResource 2 := by
  have hne : (10 : Int) ≠ 11 := by decide
  have hboth := users_do_not_interfere World.reached_sharedContest nofun {} hne
    (.category .submission) (.int 1) (.text "f.zip") (.category .submission) (.int 1)
    (.text "g.zip")
  dsimp only at hboth ⊢
  obtain ⟨hresult, hrestored, -, u, endAlone, endLater, hafter, -, -, hheld⟩ := hboth
  rw [hresult, hrestored]
  refine ⟨?_, ?_, u, hafter, ?_⟩
  · decide +kernel
  · decide +kernel
  · exact (hheld _ (List.mem_cons_of_mem _ List.mem_cons_self) rfl).2.1

end ContestUploads
