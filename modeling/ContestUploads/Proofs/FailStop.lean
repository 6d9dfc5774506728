import ContestUploads.Proofs.Effect
import ContestUploads.Proofs.Reached
import ContestUploads.Proofs.Refusing
import ContestUploads.Proofs.Written

/-!
# A failure stops a call where it stands

Whichever call to a collaborator is refused, and whatever it is refused with: the call at the desk
fails, asks nothing more, and leaves the stores as that call found them.  Nothing is tried again and
nothing is taken back.

What an upload writes follows a plan, `World.uploadPlan`: the upload, then for a general submission
the submission, its resource and its screening, and last each superseded submission twice, in the
order in which they were found.  An upload that is stopped has written the first steps of its plan.
Nothing at all is written before the gate was seen to be open.
-/

namespace ContestUploads

open Program

/-- What a write is, and of which submission if it stores one once more. -/
def Write.step : Write → Method × Option Int
  | .again s _ => (.updateSubmission, some s.id)
  | x => (x.call.method, none)

namespace World

/-- The steps of retiring submissions: each is stored twice. -/
def retirePlan (listed : List StoredSubmission) : List (Method × Option Int) :=
  listed.flatMap fun s => List.replicate 2 (.updateSubmission, some s.id)

/-- What an upload that was admitted is to write. -/
def admittedPlan (w : World) (settings : Settings) (request : UploadRequest) (a : Admission) :
    List (Method × Option Int) :=
  (.createUpload, none) ::
    (if request.rule.createsSubmission then
      [(.createSubmission, none), (.updateResource, none), (.initiateScreening, none)]
    else []) ++
    (if a.supersedes settings request then retirePlan (w.ofResource a.resource.id) else [])

/-- What an upload is to write. -/
def uploadPlan (w : World) (settings : Settings) (category projectId userId filename : Value) :
    List (Method × Option Int) :=
  match UploadRequest.ofFields [("category", category), ("project_id", projectId),
      ("user_id", userId), ("filename", filename)] with
  | .error _ => []
  | .ok request =>
      match w.admission settings request with
      | .error _ => []
      | .ok a => w.admittedPlan settings request a

variable {w : World} (settings : Settings)

/-- A retirement writes along its plan, as far as it gets. -/
theorem steps_retireEachWrites (deleted : StoredLookup) (operator : String) (spared : List Int)
    (listed : List StoredSubmission) :
    (retireEachWrites settings deleted operator spared listed w).map Write.step <+:
      retirePlan (listed.filter fun s => s.id ∉ spared) := by
  induction listed generalizing w with
  | nil => exact List.nil_prefix
  | cons s rest ih =>
      rw [retireEachWrites]
      by_cases hs : s.id ∈ spared
      · rw [if_pos hs, List.filter_cons_of_neg (by simpa using hs)]
        exact ih
      · rw [if_neg hs, List.filter_cons_of_pos (by simpa using hs)]
        rcases changeStatus_cases settings w (.int s.id) (.int deleted.id) (.text operator)
          with ⟨e, hresult, hwrites⟩ | ⟨request, x, l, hrequest, hfound, -, -, hresult, hwrites⟩
        · rw [hresult, hwrites]
          exact List.nil_prefix
        · rw [hresult, hwrites]
          have hid := (StatusRequest.ofFields_eq_ok_iff.1 hrequest).1.1
          have hsame : x.id = s.id := by
            rw [(mem_of_submission? hfound).2, Value.int.inj hid]
          have hsteps : (Write.again (x.withStatus l) request.operator).step =
                (.updateSubmission, some s.id) ∧
              (Write.again ((x.withStatus l).stamped request.operator w.now) operator).step =
                (.updateSubmission, some s.id) := by
            constructor <;> exact congrArg (fun n => (Method.updateSubmission, some n)) hsame
          dsimp only
          rw [List.singleton_append, List.map_cons, List.map_cons, hsteps.1, hsteps.2]
          exact List.prefix_cons_inj _ |>.2 (List.prefix_cons_inj _ |>.2 ih)

theorem steps_supersedeWrites (request : UploadRequest) (a : Admission) (spared : List Int) :
    (w.supersedeWrites settings request a spared).map Write.step <+:
      if a.supersedes settings request then
        retirePlan ((w.ofResource a.resource.id).filter fun s => s.id ∉ spared)
      else [] := by
  unfold supersedeWrites retireSupersededWrites
  split
  · split
    · exact List.nil_prefix
    · exact steps_retireEachWrites settings _ _ _ _
  · exact List.nil_prefix

/-- What is entered is spared, so the submissions that are to be retired are those from before. -/
theorem ofResource_of_enter {request : UploadRequest} {a : Admission} {uploadId n : Int}
    {v : World} (hentered : w.enter settings request a uploadId = (.ok n, v)) :
    (v.ofResource a.resource.id).filter (fun s => s.id ∉ [n]) = w.ofResource a.resource.id := by
  obtain ⟨active, -, -, rfl, rfl⟩ := (enter_eq_ok_iff settings request).1 hentered
  have hold : ∀ s ∈ w.ofResource a.resource.id, decide (s.id ∉ [w.freeSubmission]) = true := by
    intro s hs
    have hne : s.id ≠ w.freeSubmission := fun h =>
      w.freeSubmission_notMem (h ▸ List.mem_map.2 ⟨s, List.mem_of_mem_filter hs, rfl⟩)
    simpa using hne
  show ((w.submissions ++ [_]).filter _).filter _ = _
  rw [List.filter_append, List.filter_append]
  rw [show w.submissions.filter (·.resourceId == some a.resource.id) =
    w.ofResource a.resource.id from rfl, List.filter_eq_self.2 hold]
  simp [Admission.submission, StoredSubmission.created]

/-- An upload that was admitted writes along its plan, as far as it gets. -/
theorem steps_finishWrites (request : UploadRequest) (a : Admission) :
    (w.finishWrites settings request a).map Write.step <+: w.admittedPlan settings request a := by
  unfold finishWrites followUpWrites admittedPlan
  rw [List.map_cons, List.cons_append]
  refine List.prefix_cons_inj _ |>.2 ?_
  by_cases hcreates : request.rule.createsSubmission
  · rw [if_pos hcreates, if_pos hcreates]
    unfold enterWrites
    rcases hactive : known (w.received request a).submissionStatuses settings.activeStatus
      Lookup.submissionStatusKind with e | active
    · have hfailed : (w.received request a).enter settings request a w.nextUpload =
          (.error e, w.received request a) := by
        rw [enter, hactive]
      rw [hfailed]
      exact List.nil_prefix
    · rw [List.map_append]
      refine List.prefix_append_right_inj _ |>.2 ?_
      rcases hentered : (w.received request a).enter settings request a w.nextUpload
        with ⟨e | n, v⟩
      · exact List.nil_prefix
      · have hplan := steps_supersedeWrites settings (w := v) request a [n]
        rw [ofResource_of_enter settings hentered] at hplan
        exact hplan
  · rw [if_neg hcreates, if_neg hcreates, List.nil_append]
    have hplan := steps_supersedeWrites settings (w := w.received request a) request a []
    have hall : ((w.received request a).ofResource a.resource.id).filter
        (fun s => s.id ∉ ([] : List Int)) = w.ofResource a.resource.id :=
      List.filter_eq_self.2 (by simp)
    rw [hall] at hplan
    exact hplan

theorem steps_takeInWrites (category projectId userId filename : Value) :
    (w.takeInWrites settings category projectId userId filename).map Write.step <+:
      w.uploadPlan settings category projectId userId filename := by
  unfold takeInWrites uploadPlan
  rcases UploadRequest.ofFields [("category", category), ("project_id", projectId),
      ("user_id", userId), ("filename", filename)] with e | request
  · exact List.nil_prefix
  · dsimp only
    rcases w.admission settings request with e | a
    · exact List.nil_prefix
    · exact steps_finishWrites settings request a

/-- With collaborators that refuse now and then, an upload writes the first of its writes. -/
theorem writes_of_refuses (h : w.Coherent) (category projectId userId filename : Value)
    {script : List Fault} (hscript : ∀ f ∈ script, ∃ e, f.effect = .refuse e) :
    ∃ writes : List Write,
      (((Desk.upload settings category projectId userId filename).asked
        (Rehearsal.following script Platform.answer) { state := w.platform }).map
        Prod.fst).filter (·.method.writes) = writes.map Write.call ∧
      writes <+: w.takeInWrites settings category projectId userId filename := by
  have hsurfaces := Desk.surfaces_upload settings category projectId userId filename
  have hcalls := (hsurfaces.of_refuses (Rehearsal.following_refuses Platform.answer hscript)
    { state := w.platform }).1
  have hmakes := DeskCall.makes_program settings w (.upload category projectId userId filename) h
  have hwritten := hcalls.filter (·.method.writes)
  rw [DeskCall.program] at hmakes
  rw [hmakes, List.prefix_iff_eq_take, ← List.map_take] at hwritten
  exact ⟨_, hwritten, List.take_prefix _ _⟩

end World

/-- **Fail-stop.**  In every state that the stores can be brought to:

* if the call to a collaborator at any place of a call at the desk is refused, with whatever
  failure, the call at the desk fails; its calls are those up to the one refused, and the stores are
  left as that call finds them in the undisturbed run;
* whatever is refused in an upload, what it has written are the first steps of its plan;
* and each of its writes comes after the tracker has answered with phases of which the first gating
  one is open. -/
theorem fail_stop {w : World} (hreached : Reached w.platform) (settings : Settings) :
    (∀ (call : DeskCall) (calls : List Call),
      ((call.program settings).run Platform.answer { state := w.platform }).2.calls = calls →
      ∀ (k : Nat) (hk : k < calls.length) (e : Failure),
        let fault := Fault.refusing ((calls.take k).map Call.method) calls[k] e
        let faulty := (call.program settings).run (Rehearsal.following [fault] Platform.answer)
          { state := { state := w.platform } }
        faulty.1 = .error (call.surfaced calls[k] e) ∧ faulty.2.calls = calls.take (k + 1) ∧
          faulty.2.state.state = Collaborators.after Platform.answer w.platform (calls.take k)) ∧
    ∀ (category projectId userId filename : Value) (script : List Fault),
      (∀ f ∈ script, ∃ e, f.effect = .refuse e) →
        let team := Rehearsal.following script Platform.answer
        let asked := (Desk.upload settings category projectId userId filename).asked team
          { state := w.platform }
        (∃ writes : List Write,
          (asked.map Prod.fst).filter (·.method.writes) = writes.map Write.call ∧
          writes.map Write.step <+: w.uploadPlan settings category projectId userId filename) ∧
        ∀ before c s rest, asked = before ++ (c, s) :: rest → c.method.writes = true →
          ∃ x ∈ before, Reception.SeesRequestAdmitted category projectId userId filename x.1
            (team x.1 x.2).reply := by
  refine ⟨?_, ?_⟩
  · rintro call calls rfl k hk e fault faulty
    exact (call.surfaces settings).run_of_fault w.platform k e hk
  · intro category projectId userId filename script hscript team asked
    obtain ⟨writes, hwritten, hfirst⟩ := World.writes_of_refuses settings hreached.coherent
      category projectId userId filename hscript
    refine ⟨⟨writes, hwritten, ?_⟩, ?_⟩
    · exact (hfirst.map Write.step).trans
        (World.steps_takeInWrites settings category projectId userId filename)
    · intro before c s rest hasked hc
      exact (Desk.awaits_upload settings category projectId userId filename).seen_before hasked hc

/-- The first submission to an open contest, cancelled while its resource is stored: the upload and
the submission stay, and no screening is asked for.  Of six calls before the first write, one saw
the gate open. -/
theorem fail_stop_openContest :
    let call := DeskCall.upload (.category .submission) (.int 1) (.int 10) (.text "f.zip")
    let program := call.program {}
    let start := (World.openContest []).platform
    (∃ calls, (program.run Platform.answer { state := start }).2.calls = calls ∧
      ∃ hk : 9 < calls.length,
        let fault := Fault.refusing ((calls.take 9).map Call.method) calls[9]
          (.plain (.cancelled []))
        let faulty := program.run (Rehearsal.following [fault] Platform.answer)
          { state := { state := start } }
        faulty.1 = .error (call.surfaced calls[9] (.plain (.cancelled []))) ∧
          faulty.2.calls = calls.take 10 ∧
          faulty.2.state.state = Collaborators.after Platform.answer start (calls.take 9)) ∧
    ∃ asked, program.asked (Rehearsal.following [] Platform.answer) { state := start } = asked ∧
      (∃ writes : List Write,
        (asked.map Prod.fst).filter (·.method.writes) = writes.map Write.call ∧
        writes.map Write.step <+: [(.createUpload, none), (.createSubmission, none),
          (.updateResource, none), (.initiateScreening, none)]) ∧
      ∃ x ∈ asked.take 6, Reception.SeesRequestAdmitted (.category .submission) (.int 1)
        (.int 10) (.text "f.zip") x.1 (Rehearsal.following [] Platform.answer x.1 x.2).reply := by
  intro call program start
  obtain ⟨hstop, hupload⟩ := fail_stop (World.reached_openContest []) {}
  obtain ⟨hplan, hgate⟩ := hupload (.category .submission) (.int 1) (.int 10) (.text "f.zip") []
    (by simp)
  have hexpected : (World.openContest []).uploadPlan {} (.category .submission) (.int 1) (.int 10)
      (.text "f.zip") = [(.createUpload, none), (.createSubmission, none),
        (.updateResource, none), (.initiateScreening, none)] := by decide +kernel
  have hlong : 9 < (program.run Platform.answer { state := start }).2.calls.length := by
    decide +kernel
  have hseventh : ∃ x ∈ (program.asked (Rehearsal.following [] Platform.answer)
      { state := start })[6]?, x.1.method.writes = true := by
    decide +kernel
  rw [hexpected] at hplan
  refine ⟨?_, _, rfl, hplan, ?_⟩
  · obtain ⟨calls, hcalls⟩ :
        ∃ calls, (program.run Platform.answer { state := start }).2.calls = calls := ⟨_, rfl⟩
    rw [hcalls] at hlong
    exact ⟨calls, hcalls, hlong, hstop call calls hcalls 9 hlong (.plain (.cancelled []))⟩
  · obtain ⟨⟨c, s⟩, hx, hwrites⟩ := hseventh
    obtain ⟨hlength, hthere⟩ := List.getElem?_eq_some_iff.1 hx
    refine hgate _ c s ((program.asked (Rehearsal.following [] Platform.answer)
      { state := start }).drop 7) ?_ hwrites
    rw [← hthere, ← List.drop_eq_getElem_cons hlength, List.take_append_drop]
    rfl

end ContestUploads
