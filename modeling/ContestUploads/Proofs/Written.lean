import ContestUploads.Proofs.Writes

/-!
# The writes of a call at the desk

Which writes a call at the desk makes in a world is one list for each service, beginning with
`World.changeStatusWrites` and ending with `World.takeInWrites`.  A list holds all calls that write,
also the one that is refused and ends the call.

The `makes_` lemmas say that the services make these writes and no others.  They go along with the
`does_` lemmas, which say in which world each step leaves the next.
-/

namespace ContestUploads

open Program

namespace World

/-- The writes that a change of status makes. -/
def changeStatusWrites (w : World) (settings : Settings)
    (submissionId statusId operator : Value) : List Write :=
  match StatusRequest.ofFields
      [("submission_id", submissionId), ("status_id", statusId), ("operator", operator)] with
  | .error _ => []
  | .ok request =>
      match w.submission? request.submissionId with
      | none => []
      | some s =>
          match withId? w.submissionStatuses request.statusId with
          | none => []
          | some l =>
              match s.checkMove settings l with
              | .error _ => []
              | .ok () => [.again (s.withStatus l) request.operator]

/-- The writes of a retirement: each submission is stored twice. -/
def retireEachWrites (settings : Settings) (deleted : StoredLookup) (operator : String)
    (spared : List Int) : List StoredSubmission → World → List Write
  | [], _ => []
  | s :: rest, w =>
      if s.id ∈ spared then retireEachWrites settings deleted operator spared rest w
      else
        w.changeStatusWrites settings (.int s.id) (.int deleted.id) (.text operator) ++
          match w.changeStatus settings (.int s.id) (.int deleted.id) (.text operator) with
          | (.error _, _) => []
          | (.ok changed, u) =>
              .again changed operator ::
                retireEachWrites settings deleted operator spared rest
                  (u.putSubmission changed operator)

/-- The writes of retiring the submissions of a resource. -/
def retireSupersededWrites (w : World) (settings : Settings) (userId resourceId : Int)
    (spared : List Int) : List Write :=
  match w.demandDeleted settings userId with
  | .error _ => []
  | .ok deleted =>
      retireEachWrites settings deleted (toString userId) spared (w.ofResource resourceId) w

/-- The writes of entering a submission for an upload. -/
def enterWrites (w : World) (settings : Settings) (request : UploadRequest) (a : Admission)
    (uploadId : Int) : List Write :=
  match known w.submissionStatuses settings.activeStatus Lookup.submissionStatusKind with
  | .error _ => []
  | .ok active =>
      [.submission (a.submission active uploadId) request.operator,
        .resource (a.resource.link w.freeSubmission) request.operator,
        .screening w.freeSubmission request.operator]

/-- The writes of retiring what an upload supersedes. -/
def supersedeWrites (w : World) (settings : Settings) (request : UploadRequest) (a : Admission)
    (spared : List Int) : List Write :=
  if a.supersedes settings request then
    w.retireSupersededWrites settings request.userId a.resource.id spared
  else []

/-- The writes of an upload that was admitted, after the upload itself. -/
def followUpWrites (w : World) (settings : Settings) (request : UploadRequest) (a : Admission)
    (uploadId : Int) : List Write :=
  if request.rule.createsSubmission then
    w.enterWrites settings request a uploadId ++
      match w.enter settings request a uploadId with
      | (.error _, _) => []
      | (.ok n, v) => v.supersedeWrites settings request a [n]
  else w.supersedeWrites settings request a []

/-- The writes of an upload that was admitted. -/
def finishWrites (w : World) (settings : Settings) (request : UploadRequest) (a : Admission) :
    List Write :=
  .upload (request.upload a.type a.status) request.operator ::
    (w.received request a).followUpWrites settings request a w.nextUpload

/-- The writes of taking in an upload. -/
def takeInWrites (w : World) (settings : Settings)
    (category projectId userId filename : Value) : List Write :=
  match UploadRequest.ofFields [("category", category), ("project_id", projectId),
      ("user_id", userId), ("filename", filename)] with
  | .error _ => []
  | .ok request =>
      match w.admission settings request with
      | .error _ => []
      | .ok a => w.finishWrites settings request a

variable {w : World} (settings : Settings)

/-- Where the desk cannot write out the category or the user, nothing is written. -/
theorem takeInWrites_of_uploadContext {category projectId userId : Value} (filename : Value)
    {e : Failure} (h : Desk.uploadContext category projectId userId = .error e) :
    w.takeInWrites settings category projectId userId filename = [] := by
  unfold takeInWrites
  split
  · rfl
  · rename_i request hrequest
    obtain ⟨f, hf⟩ := admission_of_uploadContext settings request hrequest h
    rw [hf]

theorem writesLast_applyStatus (s : StoredSubmission) (l : StoredLookup) (n : Int)
    (operator : String) :
    WritesLast (Reception.applyStatus settings s.value l.value [("submission_id", .int n)] operator)
      w (match s.checkMove settings l with
        | .error _ => []
        | .ok () => [.again (s.withStatus l) operator]) := by
  have hwritten : WritesLast (do
      let changed ← ofExcept (s.value.write "status" l.value)
      let updated ← askGuarded "update submission" [("submission_id", .int n)]
        (.catalog (.updateSubmission changed (.text operator)))
      let name ← ofExcept (l.value.read "name")
      note .info "submission_status_updated"
        ([("submission_id", .int n)] ++ [("status", name), ("operator", .text operator)])
      return updated : Program Value) w [.again (s.withStatus l) operator] := by
    refine writesLast_ok_bind (a := (s.withStatus l).value) ?_
    refine writesLast_askGuarded "update submission" [("submission_id", .int n)] rfl
      (.again (s.withStatus l) operator) fun updated => ?_
    exact (silent_ofExcept _).bind fun name => trivial
  unfold Reception.applyStatus StoredSubmission.checkMove
  cases settings.enforceMoves with
  | false => exact hwritten
  | true =>
      rw [StoredSubmission.checkMove_value]
      rcases StatusTable.checkMove (.ofText? s.statusName) (.text l.name) with e | ⟨⟩
      · exact writesLast_of_silent trivial
      · exact hwritten

/-- A change of status reads first, and writes in the end if at all. -/
theorem writesLast_changeStatus (submissionId statusId operator : Value) :
    WritesLast (Reception.changeStatus settings submissionId statusId operator) w
      (w.changeStatusWrites settings submissionId statusId operator) := by
  unfold Reception.changeStatus changeStatusWrites
  rcases StatusRequest.ofFields
      [("submission_id", submissionId), ("status_id", statusId), ("operator", operator)]
    with e | request
  · exact writesLast_of_silent trivial
  · refine writesLast_ok_bind (writesLast_read_bind (awaits_askGuarded rfl)
      (Carrier.does_getSubmission rfl trivial) ?_)
    dsimp only
    rcases w.submission? request.submissionId with _ | s
    · exact writesLast_of_silent trivial
    · refine writesLast_read_bind (awaits_askGuarded rfl) (Carrier.does_submissionStatuses rfl) ?_
      rw [withId?_stored]
      dsimp only
      rcases withId? w.submissionStatuses request.statusId with _ | l
      · exact writesLast_of_silent trivial
      · exact writesLast_applyStatus settings s l request.submissionId request.operator

theorem makes_changeStatus (submissionId statusId operator : Value) :
    Makes (Reception.changeStatus settings submissionId statusId operator) w
      (w.changeStatusWrites settings submissionId statusId operator) :=
  (writesLast_changeStatus settings submissionId statusId operator).makes

/-- A change of status either goes through and has made one write, or it has made none and leaves
the world as it is. -/
theorem changeStatus_cases (w : World) (submissionId statusId operator : Value) :
    (∃ e, w.changeStatus settings submissionId statusId operator = (.error e, w) ∧
      w.changeStatusWrites settings submissionId statusId operator = []) ∨
    ∃ request s l,
      StatusRequest.ofFields [("submission_id", submissionId), ("status_id", statusId),
        ("operator", operator)] = .ok request ∧
      w.submission? request.submissionId = some s ∧
      withId? w.submissionStatuses request.statusId = some l ∧
      s.checkMove settings l = .ok () ∧
      w.changeStatus settings submissionId statusId operator =
        (.ok ((s.withStatus l).stamped request.operator w.now),
          w.putSubmission (s.withStatus l) request.operator) ∧
      w.changeStatusWrites settings submissionId statusId operator =
        [.again (s.withStatus l) request.operator] := by
  unfold changeStatus changeStatusWrites
  rcases StatusRequest.ofFields
      [("submission_id", submissionId), ("status_id", statusId), ("operator", operator)]
    with e | request
  · exact .inl ⟨e, rfl, rfl⟩
  · dsimp only
    rcases hfound : w.submission? request.submissionId with _ | s
    · exact .inl ⟨_, rfl, rfl⟩
    · dsimp only
      rcases hstatus : withId? w.submissionStatuses request.statusId with _ | l
      · exact .inl ⟨_, rfl, rfl⟩
      · dsimp only
        rcases hmove : s.checkMove settings l with e | ⟨⟩
        · exact .inl ⟨e, rfl, rfl⟩
        · exact .inr ⟨request, s, l, rfl, hfound, hstatus, hmove, rfl, rfl⟩

/-- Spared submissions might as well not be listed: nothing is written of them. -/
theorem retireEachWrites_filter (deleted : StoredLookup) (operator : String) (spared : List Int)
    (listed : List StoredSubmission) :
    retireEachWrites settings deleted operator spared listed w =
      retireEachWrites settings deleted operator spared
        (listed.filter fun s => s.id ∉ spared) w := by
  induction listed generalizing w with
  | nil => rfl
  | cons s rest ih =>
      by_cases hs : s.id ∈ spared
      · rw [retireEachWrites, if_pos hs, ih, List.filter_cons_of_neg (by simpa using hs)]
      · rw [List.filter_cons_of_pos (by simpa using hs), retireEachWrites, retireEachWrites,
          if_neg hs, if_neg hs]
        rcases w.changeStatus settings (.int s.id) (.int deleted.id) (.text operator)
          with ⟨_ | changed, v⟩
        · rfl
        · dsimp only
          rw [ih]

theorem makes_retireEach (deleted : StoredLookup) (operator : String) (spared : List Int)
    (listed : List StoredSubmission) :
    Makes (Reception.retireEach settings deleted.value operator (.list (spared.map .int))
        (listed.map StoredSubmission.value)) w
      (retireEachWrites settings deleted operator spared listed w) := by
  induction listed generalizing w with
  | nil => exact makes_of_silent trivial
  | cons s rest ih =>
      have hspared : (Value.list (spared.map .int)).holds (.int s.id) =
          .ok (spared.contains s.id) := by
        rw [Value.holds_list, Value.contains_ofInts]
      rw [List.map_cons, Reception.retireEach, retireEachWrites]
      refine makes_ok_bind (a := Value.int s.id) ?_
      rw [hspared]
      refine makes_ok_bind ?_
      by_cases hs : s.id ∈ spared
      · simpa [hs] using ih
      · rw [if_neg (by simpa using hs), if_neg hs]
        refine makes_ok_bind (a := Value.int deleted.id) ?_
        have hmakes := makes_changeStatus settings (w := w) (.int s.id) (.int deleted.id)
          (.text operator)
        have hchange : Carrier.memory.Does _ w _ :=
          does_changeStatus settings (fun n (_ : Value.int s.id = .int n) => trivial)
            (.int deleted.id) (.text operator)
        rcases hresult : w.changeStatus settings (.int s.id) (.int deleted.id) (.text operator)
          with ⟨e | changed, u⟩
        · rw [hresult] at hchange
          rw [List.append_nil]
          exact hmakes.bind_error hchange
        · rw [hresult] at hchange
          obtain ⟨hmem, hstatus⟩ := mem_of_changeStatus settings hresult
          have hagain := makes_askGuarded (w := u) "update submission"
            [("submission_id", .int s.id)] rfl (.again changed operator)
          refine hmakes.bind hchange (hagain.bind (Carrier.does_updateSubmission rfl
            ⟨hstatus, fun _ _ => trivial, fun _ _ => trivial⟩ (isVersion_of_mem hmem) operator) ?_)
          exact ih.bind_silent fun later => trivial

theorem makes_retireSuperseded (userId : Int) (r : StoredResource) (spared : List Int) :
    Makes (Reception.retireSuperseded settings (.int userId) r.value
        (.list (w.submissionStatuses.map StoredLookup.value)) (.list (spared.map .int))) w
      (w.retireSupersededWrites settings userId r.id spared) := by
  unfold Reception.retireSuperseded retireSupersededWrites demandDeleted
  rw [require_stored]
  rcases known w.submissionStatuses settings.deletedStatus Lookup.submissionStatusKind
    with e | deleted
  · exact makes_of_silent trivial
  refine makes_ok_bind (a := deleted.value) ?_
  dsimp only [Bind.bind, Except.bind]
  by_cases huser : Text.writable userId
  · rw [Value.asText_of_writable (by simpa using huser), Value.display_int, if_pos huser]
    refine makes_ok_bind (makes_ok_bind (a := Value.int r.id) ?_)
    refine makes_read_bind (awaits_askGuarded rfl)
      (Carrier.does_searchOfResource rfl trivial) ?_
    have hretire := makes_retireEach settings (w := w) deleted (toString userId) spared
      (w.ofResource r.id)
    exact makes_ok_bind (hretire.bind_silent fun retired => trivial)
  · rw [Value.asText_of_unwritable (by simpa using huser), if_neg huser]
    exact makes_of_silent trivial

variable (request : UploadRequest)

theorem makes_createUpload :
    Makes (Reception.createUpload settings request request.rule) w
      (match known w.uploadTypes request.rule.uploadTypeName (.text "upload type"),
          known w.uploadStatuses settings.activeStatus (.text "upload status") with
        | .error _, _ => []
        | .ok _, .error _ => []
        | .ok type, .ok status => [.upload (request.upload type status) request.operator]) := by
  unfold Reception.createUpload
  refine makes_read_bind (awaits_askGuarded rfl) (Carrier.does_uploadStatuses rfl) ?_
  refine makes_read_bind (awaits_askGuarded rfl) (Carrier.does_uploadTypes rfl) ?_
  rw [require_stored, require_stored]
  rcases known w.uploadTypes request.rule.uploadTypeName (.text "upload type") with e | type
  · exact makes_of_silent trivial
  · rcases known w.uploadStatuses settings.activeStatus (.text "upload status") with e | status
    · exact makes_of_silent trivial
    · exact makes_askGuarded "create upload" (Reception.uploader request) rfl
        (.upload (request.upload type status) request.operator)

theorem makes_createSubmission {a : Admission} (hr : a.resource ∈ w.resources)
    (upload : StoredUpload) :
    Makes (Reception.createSubmission settings request upload.value a.resource.value
        (.list (w.submissionStatuses.map StoredLookup.value))) w
      (w.enterWrites settings request a upload.id) := by
  unfold Reception.createSubmission enterWrites
  rw [require_stored]
  rcases hactive : known w.submissionStatuses settings.activeStatus Lookup.submissionStatusKind
    with e | active
  · exact makes_of_silent trivial
  · refine makes_ok_bind (a := active.value) (makes_ok_bind (a := Value.int upload.id) ?_)
    refine makes_ok_bind (a := Value.int a.resource.id) ?_
    have hproper : (a.submission active upload.id).Proper w Carrier.memory.reach :=
      ⟨⟨active, mem_of_known hactive, rfl⟩, fun _ _ => trivial, fun _ _ => trivial⟩
    have hcreated := makes_askGuarded (w := w) "create submission" (Reception.uploader request)
      rfl (.submission (a.submission active upload.id) request.operator)
    refine hcreated.bind (Carrier.does_createSubmission rfl hproper trivial .null
      request.operator) ?_
    refine makes_ok_bind (a := Value.int w.freeSubmission) ?_
    let v := w.addSubmission (a.submission active upload.id) request.operator
    have hlinked : Makes (Reception.linkSubmission request a.resource.value
        (.int w.freeSubmission)) v
        [.resource (a.resource.link w.freeSubmission) request.operator] := by
      unfold Reception.linkSubmission
      rw [StoredResource.link_value]
      refine makes_ok_bind (a := (Value.null, (a.resource.link w.freeSubmission).value)) ?_
      refine (makes_askGuarded _ _ rfl (.resource (a.resource.link w.freeSubmission)
        request.operator)).bind_silent fun _ => ?_
      exact (silent_ofExcept _).bind fun resourceId => trivial
    have hscreened := makes_askGuarded (w := w.entered request a active upload.id)
      "initiate screening" [("submission_id", .int w.freeSubmission)] rfl
      (.screening w.freeSubmission request.operator)
    refine makes_note_bind (hlinked.bind
      (does_linkSubmission (k := .memory) (w := v) request hr w.freeSubmission) ?_)
    exact hscreened.bind_silent fun _ => trivial

theorem makes_supersede {a : Admission} {r : StoredResource} (hr : r.id = a.resource.id)
    (spared : List Int) (result : Value) (hold : a.supersedes settings request = true) :
    Makes (do
      let _ ← Reception.retireSuperseded settings (.int request.userId) r.value
        (.list (w.submissionStatuses.map StoredLookup.value)) (.list (spared.map .int))
      return result : Program Value) w
      (w.supersedeWrites settings request a spared) := by
  rw [supersedeWrites, if_pos hold, ← hr]
  exact (makes_retireSuperseded settings request.userId r spared).bind_silent fun _ => trivial

/-- The gate only reads. -/
theorem awaits_gate (projectId : Int) (rule : Rule) :
    (Reception.eligiblePhase projectId rule).Awaits (fun _ _ => False) fun _ => True := by
  unfold Reception.eligiblePhase Reception.openPhase
  refine ((awaits_askGuarded rfl).bind fun found _ =>
    (Reception.silent_openPhase_rest _ _ found).awaits).recover fun e => ?_
  split <;> trivial

/-- What comes after an upload: the submission and its retirements, or the retirements alone. -/
def followUp (project resource upload uploadId : Value) : Program Value := do
  if request.rule.createsSubmission then
    let statuses ← Reception.submissionStatuses
    let (id, linked) ← Reception.createSubmission settings request upload resource statuses
    if ← ofExcept (Reception.supersedes settings project request.rule) then
      let _ ← Reception.retireSuperseded settings (.int request.userId) linked statuses
        (.list [id])
    return id
  else
    if ← ofExcept (Reception.supersedes settings project request.rule) then
      let statuses ← Reception.submissionStatuses
      let _ ← Reception.retireSuperseded settings (.int request.userId) resource statuses
        (.list [])
    return uploadId

theorem makes_followUp {a : Admission} (hr : a.resource ∈ w.resources) (upload : StoredUpload) :
    Makes (followUp settings request a.project.value a.resource.value upload.value
        (.int upload.id)) w
      (w.followUpWrites settings request a upload.id) := by
  unfold followUp followUpWrites
  rw [a.supersedes_value]
  by_cases hcreates : request.rule.createsSubmission
  · have hentered := makes_createSubmission settings request hr upload
    have hdone := does_createSubmission settings request (k := .memory) hr upload trivial trivial
    have hstatuses := ((kept_sameSetting w).enter settings request (.refl _) hr
      upload.id).submissionStatuses
    rw [if_pos hcreates, if_pos hcreates]
    refine makes_read_bind (awaits_askGuarded rfl) (Carrier.does_submissionStatuses rfl) ?_
    rcases hresult : w.enter settings request a upload.id with ⟨e | n, v⟩
    · rw [hresult] at hdone
      rw [List.append_nil]
      exact hentered.bind_error hdone
    · rw [hresult] at hdone hstatuses
      refine hentered.bind hdone (makes_ok_bind ?_)
      dsimp only
      by_cases hold : a.supersedes settings request
      · rw [if_pos hold, ← hstatuses]
        exact makes_supersede settings request (StoredResource.link_id a.resource n) [n] (.int n)
          hold
      · rw [if_neg hold, supersedeWrites, if_neg hold]
        exact makes_of_silent trivial
  · rw [if_neg hcreates, if_neg hcreates]
    refine makes_ok_bind ?_
    by_cases hold : a.supersedes settings request
    · rw [if_pos hold]
      refine makes_read_bind (awaits_askGuarded rfl) (Carrier.does_submissionStatuses rfl) ?_
      exact makes_supersede settings request (r := a.resource) rfl [] (.int upload.id) hold
    · rw [if_neg hold, supersedeWrites, if_neg hold]
      exact makes_of_silent trivial

theorem makes_receive (project : StoredProject) {resource : StoredResource}
    (hr : resource ∈ w.resources) :
    Makes (Reception.receive settings request project.value resource.value) w
      (match w.passGate settings request project resource with
        | .error _ => []
        | .ok a => w.finishWrites settings request a) := by
  have hphase : Carrier.memory.Does (Reception.eligiblePhase request.projectId request.rule) w
      ((w.openGate request.projectId request.rule.phaseNames).map StoredPhase.value, w) :=
    Carrier.does_of_outcome (outcome_eligiblePhase w request.projectId request.rule)
  have hreads := awaits_gate request.projectId request.rule
  have hcreated := does_createUpload settings request (k := .memory) (w := w) trivial trivial
  have hmakes := makes_createUpload (w := w) settings request
  unfold Reception.receive passGate
  dsimp only
  rw [show request.category.rule = request.rule from rfl]
  rcases hopen : w.openGate request.projectId request.rule.phaseNames with e | phase
  · rw [hopen] at hphase
    exact (makes_of_awaits hreads).bind_error hphase
  · rw [hopen] at hphase
    refine makes_read_bind hreads hphase ?_
    rcases htype : known w.uploadTypes request.rule.uploadTypeName (.text "upload type")
      with e | type
    · rw [htype] at hcreated hmakes
      exact hmakes.bind_error hcreated
    · rcases hstatus : known w.uploadStatuses settings.activeStatus (.text "upload status")
        with e | status
      · rw [htype, hstatus] at hcreated hmakes
        exact hmakes.bind_error hcreated
      · rw [htype, hstatus] at hcreated hmakes
        let a : Admission := { project, resource, phase, type, status }
        let upload := (request.upload type status).created w.nextUpload request.operator w.now
        show Makes _ w ([_] ++ (w.received request a).followUpWrites settings request a
          w.nextUpload)
        refine hmakes.bind hcreated ?_
        refine makes_ok_bind (a := Value.int w.nextUpload) ?_
        refine makes_ok_bind (a := Value.int phase.id) ?_
        exact makes_note_bind (makes_followUp (w := w.received request a) (a := a) settings request
          hr upload)

theorem makes_takeIn (category projectId userId filename : Value) :
    Makes (Reception.takeIn settings category projectId userId filename) w
      (w.takeInWrites settings category projectId userId filename) := by
  unfold Reception.takeIn takeInWrites
  rcases UploadRequest.ofFields [("category", category), ("project_id", projectId),
      ("user_id", userId), ("filename", filename)] with e | request
  · exact makes_of_silent trivial
  · have hload : Carrier.memory.Does (Reception.loadProject request.projectId) w
        ((w.knownProject request.projectId).map StoredProject.value, w) :=
      Carrier.does_of_outcome (outcome_loadProject w request.projectId)
    have hacting : Carrier.memory.Does (Reception.actingResource settings
        (.int request.projectId) (.int request.userId) (.ofTexts request.rule.roleNames)) w
        ((w.onlyCandidate settings request.projectId request.userId
          request.rule.roleNames).map StoredResource.value, w) :=
      Carrier.does_of_outcome (outcome_actingResource w settings request.projectId
        request.userId request.rule.roleNames)
    have hloadReads := Reception.awaits_loadProject (fun _ _ => False) request.projectId
    have hactingReads := Reception.awaits_actingResource (fun _ _ => False) settings
      (.int request.projectId) (.int request.userId) (.ofTexts request.rule.roleNames)
    refine makes_ok_bind ?_
    dsimp only
    rw [show request.category.rule = request.rule from rfl]
    unfold admission
    rcases hknown : w.knownProject request.projectId with e | project
    · rw [hknown] at hload
      exact (makes_of_awaits hloadReads).bind_error hload
    · rw [hknown] at hload
      refine makes_read_bind hloadReads hload ?_
      rcases hresource : w.onlyCandidate settings request.projectId request.userId
        request.rule.roleNames with e | resource
      · rw [hresource] at hacting
        exact (makes_of_awaits hactingReads).bind_error hacting
      · rw [hresource] at hacting
        refine makes_read_bind hactingReads hacting ?_
        have hrest := makes_receive settings request (w := w) project
          (mem_of_onlyCandidate settings hresource)
        have hwinner : Carrier.memory.Does
            (Reception.requireWinner settings project.value request.userId) w
            (demandWinner settings project request.userId, w) :=
          Carrier.does_of_outcome (outcome_requireWinner w settings project request.userId)
        have hwinnerReads := Reception.awaits_requireWinner (fun _ _ => False) settings
          project.value request.userId
        dsimp only [Bind.bind, Except.bind]
        unfold passWinner
        by_cases hasked : request.rule.requiresWinner
        · rw [if_pos hasked, if_pos hasked]
          rcases hdemanded : demandWinner settings project request.userId with e | ⟨⟩
          · rw [hdemanded] at hwinner
            exact (makes_of_awaits hwinnerReads).bind_error hwinner
          · rw [hdemanded] at hwinner
            exact makes_read_bind hwinnerReads hwinner hrest
        · rw [if_neg hasked, if_neg hasked]
          exact hrest

end World

/-- The writes of a call at the desk. -/
def DeskCall.writes (settings : Settings) (w : World) : DeskCall → List Write
  | .upload category projectId userId filename =>
      w.takeInWrites settings category projectId userId filename
  | .setSubmissionStatus submissionId statusId operator =>
      w.changeStatusWrites settings submissionId statusId operator

/-- **The writes of a call.**  A call at the desk makes these writes, in this order, and no
others. -/
theorem DeskCall.makes_program (settings : Settings) (w : World) (call : DeskCall) :
    World.Makes (call.program settings) w (call.writes settings w) := by
  intro h
  cases call with
  | upload category projectId userId filename =>
      have hwrites := World.makes_takeIn settings (w := w) category projectId userId filename
      rw [DeskCall.program, Desk.upload, DeskCall.writes]
      rcases hcontext : Desk.uploadContext category projectId userId with e | context
      · rw [World.takeInWrites_of_uploadContext settings filename hcontext]
        exact World.makes_of_silent (p := ofExcept (.error e) >>= _) trivial h
      · refine World.makes_ok_bind (fun hw => ?_) h
        rw [Desk.asked_within]
        exact hwrites hw
  | setSubmissionStatus submissionId statusId operator =>
      rw [DeskCall.program, Desk.setSubmissionStatus, Desk.asked_within]
      exact World.makes_changeStatus settings submissionId statusId operator h

end ContestUploads
