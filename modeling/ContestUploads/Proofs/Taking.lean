import ContestUploads.Proofs.Moving
import ContestUploads.Proofs.Requests

/-!
# Taking in an upload, in a world

`World.takeIn` says what the intake of an upload comes to in a world: its result, and the world
afterwards, for arguments of any kind.  Everything up to the first write is one question without
effects, `World.admission`; what an upload was admitted with is an `Admission`.  Then the upload is
stored, a general submission is entered, and what the upload supersedes is retired.

At the desk the category and the user have to be written out before (`World.upload`), which refuses
no upload that the intake would have taken (`upload_eq_ok_iff`).

`does_takeIn` says that the intake does just this over every carrier; `outcome_takeIn` and
`outcome_upload` say it of the catalog in memory.
-/

namespace ContestUploads

open Program

/-- What an upload was admitted with. -/
structure Admission where
  project : StoredProject
  resource : StoredResource
  phase : StoredPhase
  type : StoredLookup
  status : StoredLookup

namespace UploadRequest

/-- The rule for the category of a request. -/
def rule (request : UploadRequest) : Rule :=
  request.category.rule

/-- The upload that a request asks for.  It gets its number and its stamps when it is stored. -/
def upload (request : UploadRequest) (type status : StoredLookup) : StoredUpload :=
  { id := 0
    projectId := request.projectId
    owner := request.userId
    type := some type
    status := some status
    parameter := request.filename }

end UploadRequest

namespace Admission

/-- The submission that comes with an upload.  It gets its number and its stamps when it is
stored. -/
def submission (a : Admission) (active : StoredLookup) (uploadId : Int) : StoredSubmission :=
  { id := 0
    status := some active
    uploadId := some uploadId
    resourceId := some a.resource.id }

/-- Whether an upload supersedes the earlier submissions of its resource. -/
def supersedes (a : Admission) (settings : Settings) (request : UploadRequest) : Bool :=
  request.rule.alwaysRetire || !a.project.affirms settings.allowMultiple

theorem supersedes_value (a : Admission) (settings : Settings) (request : UploadRequest) :
    Reception.supersedes settings a.project.value request.rule =
      .ok (a.supersedes settings request) := by
  unfold Reception.supersedes supersedes
  rw [StoredProject.flag_value]
  cases request.rule.alwaysRetire <;> rfl

end Admission

namespace World

/-- The failure of a screening that was asked for before.  It is another one if the number of the
submission cannot be written out. -/
def screeningConflict (n : Int) : Failure :=
  let words := Verdict.words (.text "initiate screening")
  if Text.writable n then
    .raisedFrom (.service (.orchestrationFailure words .null))
      (.store (.screeningTaskExists (.int n)))
  else .raisedFrom (.service (.persistenceFailure words .null)) (.foreign .tooManyDigits)

/-- All that is asked from the phase gate on, before the first write. -/
def passGate (w : World) (settings : Settings) (request : UploadRequest)
    (project : StoredProject) (resource : StoredResource) : Except Failure Admission := do
  let phase ← w.openGate request.projectId request.rule.phaseNames
  let type ← known w.uploadTypes request.rule.uploadTypeName (.text "upload type")
  let status ← known w.uploadStatuses settings.activeStatus (.text "upload status")
  return { project, resource, phase, type, status }

/-- The winner, where the category asks for it. -/
def passWinner (settings : Settings) (request : UploadRequest) (project : StoredProject) :
    Except Failure Unit :=
  if request.rule.requiresWinner then demandWinner settings project request.userId else .ok ()

/-- All that is asked before the first write. -/
def admission (w : World) (settings : Settings) (request : UploadRequest) :
    Except Failure Admission := do
  let project ← w.knownProject request.projectId
  let resource ← w.onlyCandidate settings request.projectId request.userId request.rule.roleNames
  passWinner settings request project
  w.passGate settings request project resource

/-- The world with the upload that a request asks for. -/
def received (w : World) (request : UploadRequest) (a : Admission) : World :=
  w.addUpload (request.upload a.type a.status) request.operator

/-- The world with a submission for an upload, linked to its resource. -/
def entered (w : World) (request : UploadRequest) (a : Admission) (active : StoredLookup)
    (uploadId : Int) : World :=
  (w.addSubmission (a.submission active uploadId) request.operator).putResource
    (a.resource.link w.freeSubmission) request.operator

/-- Enter a submission for an upload and ask for its screening. -/
def enter (w : World) (settings : Settings) (request : UploadRequest) (a : Admission)
    (uploadId : Int) : Except Failure Int × World :=
  match known w.submissionStatuses settings.activeStatus Lookup.submissionStatusKind with
  | .error e => (.error e, w)
  | .ok active =>
      let u := w.entered request a active uploadId
      if u.screens w.freeSubmission then (.error (screeningConflict w.freeSubmission), u)
      else (.ok w.freeSubmission, u.screen w.freeSubmission request.operator)

/-- Retire what an upload supersedes; the spared submissions stay.  The answer is `id`. -/
def supersede (w : World) (settings : Settings) (request : UploadRequest) (a : Admission)
    (spared : List Int) (id : Int) : Except Failure Int × World :=
  if a.supersedes settings request then
    match w.retireSuperseded settings request.userId a.resource.id spared with
    | (.error e, u) => (.error e, u)
    | (.ok _, u) => (.ok id, u)
  else (.ok id, w)

/-- What becomes of an upload that was admitted. -/
def finish (w : World) (settings : Settings) (request : UploadRequest) (a : Admission) :
    Except Failure Int × World :=
  let u := w.received request a
  if request.rule.createsSubmission then
    match u.enter settings request a w.nextUpload with
    | (.error e, v) => (.error e, v)
    | (.ok n, v) => v.supersede settings request a [n] n
  else u.supersede settings request a [] w.nextUpload

/-- What taking in an upload comes to. -/
def takeIn (w : World) (settings : Settings) (category projectId userId filename : Value) :
    Except Failure Int × World :=
  match UploadRequest.ofFields [("category", category), ("project_id", projectId),
      ("user_id", userId), ("filename", filename)] with
  | .error e => (.error e, w)
  | .ok request =>
      match w.admission settings request with
      | .error e => (.error e, w)
      | .ok a => w.finish settings request a

/-- What an upload at the desk comes to. -/
def upload (w : World) (settings : Settings) (category projectId userId filename : Value) :
    Except Failure Int × World :=
  match Desk.uploadContext category projectId userId with
  | .error e => (.error e, w)
  | .ok _ => w.takeIn settings category projectId userId filename

variable {w : World} (settings : Settings) (request : UploadRequest)

/-- The user of an upload that was admitted can be written out, and acts through one resource. -/
theorem onlyCandidate_eq_ok_iff {projectId userId : Int} {names : List String}
    {r : StoredResource} :
    w.onlyCandidate settings projectId userId names = .ok r ↔
      w.roleIds names ≠ [] ∧ Text.writable userId ∧
        w.candidates settings projectId userId names = [r] := by
  unfold onlyCandidate
  by_cases hroles : w.roleIds names = []
  · simp [hroles]
  by_cases huser : Text.writable userId
  · rw [if_neg hroles, if_pos huser]
    rcases w.candidates settings projectId userId names with _ | ⟨x, _ | ⟨y, rest⟩⟩ <;>
      simp [hroles, huser]
  · simp [hroles, huser]

/-- The resource that an upload was admitted with is stored. -/
theorem mem_of_onlyCandidate {projectId userId : Int} {names : List String} {r : StoredResource}
    (h : w.onlyCandidate settings projectId userId names = .ok r) : r ∈ w.resources := by
  obtain ⟨-, -, hfound⟩ := (onlyCandidate_eq_ok_iff settings).1 h
  exact List.mem_of_mem_filter (by rw [← candidates, hfound]; exact List.mem_cons_self)

theorem mem_of_known {catalog : List StoredLookup} {name : String} {kind : Value}
    {l : StoredLookup} (h : known catalog name kind = .ok l) : l ∈ catalog := by
  unfold known at h
  split at h
  · cases h
  · rename_i found
    exact Except.ok.inj h ▸ List.mem_of_find?_eq_some found

/-- An upload is admitted exactly if each question has its answer. -/
theorem admission_eq_ok_iff {a : Admission} :
    w.admission settings request = .ok a ↔
      w.knownProject request.projectId = .ok a.project ∧
        w.onlyCandidate settings request.projectId request.userId request.rule.roleNames =
          .ok a.resource ∧
        passWinner settings request a.project = .ok () ∧
        w.openGate request.projectId request.rule.phaseNames = .ok a.phase ∧
        known w.uploadTypes request.rule.uploadTypeName (.text "upload type") = .ok a.type ∧
        known w.uploadStatuses settings.activeStatus (.text "upload status") = .ok a.status := by
  obtain ⟨project, resource, phase, type, status⟩ := a
  simp only [admission, passGate, bind_eq_ok_iff, Pure.pure, Except.pure, Except.ok.injEq,
    Admission.mk.injEq]
  constructor
  · rintro ⟨_, hproject, _, hresource, ⟨⟩, hwinner, _, hphase, _, htype, _, hstatus, rfl, rfl, rfl,
      rfl, rfl⟩
    exact ⟨hproject, hresource, hwinner, hphase, htype, hstatus⟩
  · rintro ⟨hproject, hresource, hwinner, hphase, htype, hstatus⟩
    exact ⟨_, hproject, _, hresource, (), hwinner, _, hphase, _, htype, _, hstatus, rfl, rfl, rfl,
      rfl, rfl⟩

/-- The number of a user whose upload is admitted can be written out. -/
theorem writable_of_admission {a : Admission} (h : w.admission settings request = .ok a) :
    Text.writable request.userId :=
  ((onlyCandidate_eq_ok_iff settings).1 ((admission_eq_ok_iff settings request).1 h).2.1).2.1

/-- What keeps the desk from an upload is the length of a numeral. -/
theorem uploadContext_error {category projectId userId : Value} {e : Failure}
    (h : Desk.uploadContext category projectId userId = .error e) :
    e = .foreign .tooManyDigits := by
  simp only [Desk.uploadContext, bind_eq_error_iff, Pure.pure, Except.pure, reduceCtorEq,
    and_false, exists_false, or_false, Value.asText_eq_error_iff] at h
  rcases h with hlabel | ⟨label, -, hoperator⟩
  · exact hlabel.2
  · exact hoperator.2

/-- The desk can write out the category of every request, and refuses a request only for its
user. -/
theorem uploadContext_eq_error_iff {category projectId userId filename : Value}
    (hrequest : UploadRequest.ofFields [("category", category), ("project_id", projectId),
      ("user_id", userId), ("filename", filename)] = .ok request) {e : Failure} :
    Desk.uploadContext category projectId userId = .error e ↔
      Text.writable request.userId = false ∧ e = .foreign .tooManyDigits := by
  obtain ⟨rfl, -, ⟨rfl, -⟩, -⟩ := UploadRequest.ofFields_eq_ok_iff.1 hrequest
  have hlabel : (Value.category request.category).label.asText = .ok request.category.text := rfl
  rw [Desk.uploadContext, hlabel]
  cases huser : Text.writable request.userId with
  | false =>
      rw [Value.asText_of_unwritable (by simpa using huser)]
      simp [Bind.bind, Except.bind, eq_comm]
  | true =>
      rw [Value.asText_of_writable (by simpa using huser)]
      simp [Bind.bind, Except.bind, Pure.pure, Except.pure]

/-- What the desk cannot write out would not have been admitted. -/
theorem admission_of_uploadContext {category projectId userId filename : Value}
    (hrequest : UploadRequest.ofFields [("category", category), ("project_id", projectId),
      ("user_id", userId), ("filename", filename)] = .ok request) {e : Failure}
    (h : Desk.uploadContext category projectId userId = .error e) :
    ∃ f, w.admission settings request = .error f := by
  obtain ⟨hlong, -⟩ := (uploadContext_eq_error_iff request hrequest).1 h
  rcases hadmission : w.admission settings request with f | a
  · exact ⟨f, rfl⟩
  · simp [writable_of_admission settings request hadmission] at hlong

theorem takeIn_of_uploadContext {category projectId userId : Value} (filename : Value)
    {e : Failure} (h : Desk.uploadContext category projectId userId = .error e) :
    ∃ f, w.takeIn settings category projectId userId filename = (.error f, w) := by
  unfold takeIn
  split
  · exact ⟨_, rfl⟩
  · rename_i request hrequest
    obtain ⟨f, hf⟩ := admission_of_uploadContext settings request hrequest h
    rw [hf]
    exact ⟨f, rfl⟩

/-- An upload at the desk leaves the world that the intake leaves. -/
theorem upload_snd (category projectId userId filename : Value) :
    (w.upload settings category projectId userId filename).2 =
      (w.takeIn settings category projectId userId filename).2 := by
  unfold upload
  rcases hcontext : Desk.uploadContext category projectId userId with e | context
  · obtain ⟨f, htaken⟩ := takeIn_of_uploadContext (w := w) settings filename hcontext
    rw [htaken]
  · rfl

/-- The desk takes exactly the uploads that the intake takes. -/
theorem upload_eq_ok_iff {category projectId userId filename : Value} {n : Int} {u : World} :
    w.upload settings category projectId userId filename = (.ok n, u) ↔
      w.takeIn settings category projectId userId filename = (.ok n, u) := by
  unfold upload
  rcases hcontext : Desk.uploadContext category projectId userId with e | context
  · obtain ⟨f, htaken⟩ := takeIn_of_uploadContext (w := w) settings filename hcontext
    simp [htaken]
  · rfl

section Carried

variable {κ : Type} [UploadCatalog κ] {k : Carrier κ}

theorem does_createUpload (hproject : k.reach request.projectId) (huser : k.reach request.userId) :
    k.Does (Reception.createUpload settings request request.rule) w
      (match known w.uploadTypes request.rule.uploadTypeName (.text "upload type"),
          known w.uploadStatuses settings.activeStatus (.text "upload status") with
        | .error e, _ => (.error e, w)
        | .ok _, .error e => (.error e, w)
        | .ok type, .ok status =>
            (.ok ((request.upload type status).created w.nextUpload request.operator w.now).value,
              w.addUpload (request.upload type status) request.operator)) := by
  unfold Reception.createUpload
  refine (Carrier.does_uploadStatuses rfl).bind ((Carrier.does_uploadTypes rfl).bind ?_)
  rw [require_stored, require_stored]
  rcases htype : known w.uploadTypes request.rule.uploadTypeName (.text "upload type")
    with e | type
  · exact (Carrier.does_ofExcept (.error e)).bind_error
  · refine (Carrier.does_ofExcept (.ok type.value)).bind ?_
    rcases hstatus : known w.uploadStatuses settings.activeStatus (.text "upload status")
      with e | status
    · exact (Carrier.does_ofExcept (.error e)).bind_error
    · have hproper : (request.upload type status).Proper w k.reach :=
        ⟨hproject, huser, ⟨type, mem_of_known htype, rfl⟩, ⟨status, mem_of_known hstatus, rfl⟩⟩
      refine (Carrier.does_ofExcept (.ok status.value)).bind ?_
      exact Carrier.does_createUpload rfl hproper .null request.operator

theorem does_linkSubmission {r : StoredResource} (hr : r ∈ w.resources) (n : Int) :
    k.Does (Reception.linkSubmission request r.value (.int n)) w
      (.ok (r.link n).value, w.putResource (r.link n) request.operator) := by
  have hstored : (r.link n).id ∈ w.resources.map StoredResource.id := by
    rw [StoredResource.link_id]
    exact List.mem_map.2 ⟨r, hr, rfl⟩
  unfold Reception.linkSubmission
  rw [StoredResource.link_value]
  refine (Carrier.does_ofExcept (.ok (Value.null, (r.link n).value))).bind ?_
  refine (Carrier.does_updateResource rfl hstored request.operator).bind ?_
  refine (Carrier.does_ofExcept (.ok (Value.int (r.link n).id))).bind ?_
  exact (Carrier.does_note _ _ _).bind (Carrier.does_pure _)

theorem failure_screeningTaskExists (n : Int) :
    (StoreProblem.screeningTaskExists (.int n)).failure =
      if Text.writable n then .store (.screeningTaskExists (.int n))
      else .foreign .tooManyDigits := by
  cases h : Text.writable n <;>
    simp [StoreProblem.failure, StoreProblem.obstacle?, Value.unwritable?, h]

/-- A guard reports a screening that was asked for before. -/
theorem raise_screeningTaskExists (n : Int) {σ : Type} (team : Collaborators σ) (s : σ) :
    (raiseGuarded (.text "initiate screening") [("submission_id", .int n)]
        (StoreProblem.screeningTaskExists (.int n)).failure : Program Value).outcome team s =
      (.error (screeningConflict n), s) := by
  rw [failure_screeningTaskExists, screeningConflict]
  split
  next hn =>
    obtain ⟨words, htold⟩ :
        ∃ words, (Failure.plain (.store (.screeningTaskExists (.int n)))).told = .ok words := by
      simp [Failure.told, Failure.problem, Problem.told, StoreProblem.told,
        StoreProblem.summary, StoreProblem.details, Value.unwritable?, Value.writable,
        Value.entriesWritable, Value.truthy, hn]
    simp only [raiseGuarded, Verdict.of, Verdict.report, Failure.problem, Failure.store, htold]
    rfl
  next => rfl

theorem does_initiateScreening (n : Int) (operator : String) :
    k.Does (askGuarded "initiate screening" [("submission_id", .int n)]
        (.initiateScreening (.int n) (.text operator))) w
      (if w.screens n then (.error (screeningConflict n), w)
        else (.ok .null, w.screen n operator)) := by
  intro h
  have hanswer := answer_initiateScreening (k.catalog w) w n operator
  by_cases hn : w.screens n
  · rw [if_pos hn] at hanswer ⊢
    refine ⟨?_, h⟩
    rw [outcome_askGuarded_error rfl (by rw [Carrier.platform, hanswer]), Carrier.platform,
      hanswer]
    exact raise_screeningTaskExists n _ _
  · obtain ⟨hfits, hcatalog⟩ := k.screen n operator h
    rw [if_neg hn] at hanswer ⊢
    refine ⟨?_, hfits⟩
    rw [outcome_askGuarded_ok rfl (by rw [Carrier.platform, hanswer]), Carrier.platform,
      Carrier.platform, hanswer, hcatalog]

/-- Entering a submission answers with its number and with the resource that it was linked to. -/
theorem does_createSubmission {a : Admission} (hr : a.resource ∈ w.resources)
    (upload : StoredUpload) (hupload : k.reach upload.id) (hfree : k.reach w.freeSubmission) :
    k.Does (Reception.createSubmission settings request upload.value a.resource.value
        (.list (w.submissionStatuses.map StoredLookup.value))) w
      (Carrier.shown (fun n => (Value.int n, (a.resource.link n).value))
        (w.enter settings request a upload.id)) := by
  refine Carrier.does_of_fits fun hfits => ?_
  unfold Reception.createSubmission enter
  rw [require_stored]
  rcases hactive : known w.submissionStatuses settings.activeStatus Lookup.submissionStatusKind
    with e | active
  · exact (Carrier.does_ofExcept (.error e)).bind_error
  · have hproper : (a.submission active upload.id).Proper w k.reach :=
      ⟨⟨active, mem_of_known hactive, rfl⟩, fun n hn => Option.some.inj hn ▸ hupload,
        fun n hn => Option.some.inj hn ▸ k.reach_resource hfits hr⟩
    refine (Carrier.does_ofExcept (.ok active.value)).bind ?_
    refine (Carrier.does_ofExcept (.ok (Value.int upload.id))).bind ?_
    refine (Carrier.does_ofExcept (.ok (Value.int a.resource.id))).bind ?_
    refine (Carrier.does_createSubmission rfl hproper hfree .null request.operator).bind ?_
    refine (Carrier.does_ofExcept (.ok (Value.int w.freeSubmission))).bind ?_
    refine (Carrier.does_note _ _ _).bind ?_
    have hlinked := does_linkSubmission (k := k)
      (w := w.addSubmission (a.submission active upload.id) request.operator) request hr
      w.freeSubmission
    refine hlinked.bind ?_
    have hscreening := does_initiateScreening (k := k)
      (w := w.entered request a active upload.id) w.freeSubmission request.operator
    dsimp only
    by_cases hscreened : (w.entered request a active upload.id).screens w.freeSubmission
    · rw [if_pos hscreened] at hscreening ⊢
      exact hscreening.bind_error
    · rw [if_neg hscreened] at hscreening ⊢
      exact hscreening.bind ((Carrier.does_note _ _ _).bind (Carrier.does_pure _))

/-- Retiring what an upload supersedes is the last step of the intake. -/
theorem does_supersede {a : Admission} (ha : a.supersedes settings request) {r : StoredResource}
    (hr : r.id = a.resource.id) (hreach : k.reach r.id) (spared : List Int) (id : Int) :
    k.Does (do
      let _ ← Reception.retireSuperseded settings (.int request.userId) r.value
        (.list (w.submissionStatuses.map StoredLookup.value)) (.list (spared.map .int))
      return .int id : Program Value) w
      (Carrier.shown Value.int (w.supersede settings request a spared id)) := by
  have hretire := does_retireSuperseded settings (w := w) request.userId hreach spared
  rw [supersede, if_pos ha, ← hr]
  rcases hresult : w.retireSuperseded settings request.userId r.id spared with ⟨e | ids, u⟩
  · rw [hresult] at hretire
    exact hretire.bind_error
  · rw [hresult] at hretire
    exact hretire.bind (Carrier.does_pure _)

end Carried

/-- What every write keeps is kept by entering a submission. -/
theorem Kept.enter {holds : World → Prop} (hkept : Kept holds) (h : holds w) {a : Admission}
    (hr : a.resource ∈ w.resources) (uploadId : Int) :
    holds (w.enter settings request a uploadId).2 := by
  unfold World.enter
  rcases known w.submissionStatuses settings.activeStatus Lookup.submissionStatusKind
    with e | active
  · exact h
  · have hstored : (a.resource.link w.freeSubmission).id ∈
        (w.addSubmission (a.submission active uploadId)
          request.operator).resources.map StoredResource.id := by
      rw [StoredResource.link_id]
      exact List.mem_map.2 ⟨a.resource, hr, rfl⟩
    have hentered : holds (w.entered request a active uploadId) :=
      hkept.putResource _ _ _ hstored (hkept.addSubmission _ _ _ h)
    dsimp only
    split
    · exact hentered
    · rename_i hfree
      exact hkept.screen _ _ _ (by simpa using hfree) hentered

/-- What every write keeps is kept by the last step of the intake. -/
theorem Kept.supersede {holds : World → Prop} (hkept : Kept holds) (h : holds w)
    (a : Admission) (spared : List Int) (id : Int) :
    holds (w.supersede settings request a spared id).2 := by
  have hretired := hkept.retireSuperseded settings h request.userId a.resource.id spared
  unfold World.supersede
  split
  · rcases hresult : w.retireSuperseded settings request.userId a.resource.id spared
      with ⟨e | ids, u⟩ <;> simpa [hresult] using hretired
  · exact h

/-- What every write keeps is kept by all that becomes of an upload that was admitted. -/
theorem Kept.finish {holds : World → Prop} (hkept : Kept holds) (h : holds w) {a : Admission}
    (hr : a.resource ∈ w.resources) : holds (w.finish settings request a).2 := by
  have hreceived : holds (w.received request a) := hkept.addUpload _ _ _ h
  have hentered := hkept.enter settings request hreceived hr w.nextUpload
  unfold World.finish
  dsimp only
  split
  · rcases hresult : (w.received request a).enter settings request a w.nextUpload with ⟨e | n, v⟩
    · simpa [hresult] using hentered
    · rw [hresult] at hentered
      exact hkept.supersede settings request hentered a [n] n
  · exact hkept.supersede settings request hreceived a [] w.nextUpload

/-- What every write keeps is kept by the intake of an upload, whether it succeeds or not. -/
theorem Kept.takeIn {holds : World → Prop} (hkept : Kept holds) (h : holds w)
    (category projectId userId filename : Value) :
    holds (w.takeIn settings category projectId userId filename).2 := by
  unfold World.takeIn
  split
  · exact h
  · rename_i request _
    split
    · exact h
    · rename_i a hadmitted
      have hr := mem_of_onlyCandidate settings
        ((admission_eq_ok_iff settings request).1 hadmitted).2.1
      exact hkept.finish settings request h hr

theorem Kept.upload {holds : World → Prop} (hkept : Kept holds) (h : holds w)
    (category projectId userId filename : Value) :
    holds (w.upload settings category projectId userId filename).2 := by
  rw [upload_snd]
  exact hkept.takeIn settings h category projectId userId filename

section Carried

variable {κ : Type} [UploadCatalog κ] {k : Carrier κ}

/-- The intake from the phase gate on.  The numbers that the request names, and those that the
upload and its submission get, have to be within reach. -/
theorem does_receive (hproject : k.reach request.projectId) (huser : k.reach request.userId)
    (hupload : k.reach w.nextUpload) (hfree : k.reach w.freeSubmission) (project : StoredProject)
    {resource : StoredResource} (hr : resource ∈ w.resources) :
    k.Does (Reception.receive settings request project.value resource.value) w
      (Carrier.shown Value.int
        (match w.passGate settings request project resource with
          | .error e => (.error e, w)
          | .ok a => w.finish settings request a)) := by
  have hphase : k.Does (Reception.eligiblePhase request.projectId request.rule) w
      ((w.openGate request.projectId request.rule.phaseNames).map StoredPhase.value, w) :=
    Carrier.does_of_outcome (outcome_eligiblePhase w request.projectId request.rule)
  have hcreated := does_createUpload settings request (k := k) (w := w) hproject huser
  unfold Reception.receive passGate
  dsimp only
  rw [show request.category.rule = request.rule from rfl]
  rcases hopen : w.openGate request.projectId request.rule.phaseNames with e | phase
  · rw [hopen] at hphase
    exact hphase.bind_error
  · rw [hopen] at hphase
    refine hphase.bind ?_
    rcases htype : known w.uploadTypes request.rule.uploadTypeName (.text "upload type")
      with e | type
    · rw [htype] at hcreated
      exact hcreated.bind_error
    · rcases hstatus : known w.uploadStatuses settings.activeStatus (.text "upload status")
        with e | status
      · rw [htype, hstatus] at hcreated
        exact hcreated.bind_error
      · rw [htype, hstatus] at hcreated
        refine hcreated.bind ?_
        let a : Admission := { project, resource, phase, type, status }
        show k.Does _ (w.received request a)
          (Carrier.shown Value.int (w.finish settings request a))
        refine (Carrier.does_ofExcept (.ok (Value.int w.nextUpload))).bind ?_
        refine (Carrier.does_ofExcept (.ok (Value.int phase.id))).bind ?_
        refine (Carrier.does_note _ _ _).bind (Carrier.does_of_fits fun hfits => ?_)
        have hreach := k.reach_resource hfits (r := resource) hr
        unfold finish
        by_cases hcreates : request.rule.createsSubmission
        · have hentered := does_createSubmission settings request (k := k)
            (w := w.received request a) (a := a) hr
            ((request.upload type status).created w.nextUpload request.operator w.now) hupload
            hfree
          have hstatuses := ((kept_sameSetting (w.received request a)).enter settings request
            (.refl _) (a := a) hr w.nextUpload).submissionStatuses
          rw [if_pos hcreates, if_pos hcreates]
          refine (Carrier.does_submissionStatuses rfl).bind ?_
          rw [show ((request.upload type status).created w.nextUpload request.operator w.now).id =
            w.nextUpload from rfl] at hentered
          rcases hresult : (w.received request a).enter settings request a w.nextUpload
            with ⟨e | n, v⟩
          · rw [hresult] at hentered
            exact hentered.bind_error
          · rw [hresult] at hentered hstatuses
            refine hentered.bind ?_
            rw [a.supersedes_value]
            refine (Carrier.does_ofExcept (.ok (a.supersedes settings request))).bind ?_
            dsimp only
            by_cases hold : a.supersedes settings request
            · rw [if_pos hold, ← hstatuses]
              exact does_supersede settings request hold (StoredResource.link_id resource n)
                (by rwa [StoredResource.link_id]) [n] n
            · rw [if_neg hold, supersede, if_neg hold]
              exact Carrier.does_pure _
        · rw [if_neg hcreates, if_neg hcreates, a.supersedes_value]
          refine (Carrier.does_ofExcept (.ok (a.supersedes settings request))).bind ?_
          by_cases hold : a.supersedes settings request
          · rw [if_pos hold]
            refine (Carrier.does_submissionStatuses rfl).bind ?_
            exact does_supersede settings request hold (r := resource) rfl hreach [] w.nextUpload
          · rw [if_neg hold, supersede, if_neg hold]
            exact Carrier.does_pure _

/-- What the services do with a request before they write and with the upload afterwards. -/
theorem does_takeIn {projectId userId : Value} (hproject : ∀ n, projectId = .int n → k.reach n)
    (huser : ∀ n, userId = .int n → k.reach n) (hupload : k.reach w.nextUpload)
    (hfree : k.reach w.freeSubmission) (category filename : Value) :
    k.Does (Reception.takeIn settings category projectId userId filename) w
      (Carrier.shown Value.int (w.takeIn settings category projectId userId filename)) := by
  unfold Reception.takeIn takeIn
  rcases hrequest : UploadRequest.ofFields [("category", category), ("project_id", projectId),
      ("user_id", userId), ("filename", filename)] with e | request
  · exact (Carrier.does_ofExcept (.error e)).bind_error
  · obtain ⟨-, ⟨hp, -⟩, ⟨hu, -⟩, -⟩ := UploadRequest.ofFields_eq_ok_iff.1 hrequest
    have hloaded : k.Does (Reception.loadProject request.projectId) w
        ((w.knownProject request.projectId).map StoredProject.value, w) :=
      Carrier.does_of_outcome (outcome_loadProject w request.projectId)
    have hacting : k.Does (Reception.actingResource settings (.int request.projectId)
        (.int request.userId) (.ofTexts request.rule.roleNames)) w
        ((w.onlyCandidate settings request.projectId request.userId
          request.rule.roleNames).map StoredResource.value, w) :=
      Carrier.does_of_outcome (outcome_actingResource w settings request.projectId
        request.userId request.rule.roleNames)
    refine (Carrier.does_ofExcept (.ok request)).bind ?_
    dsimp only
    rw [show request.category.rule = request.rule from rfl]
    unfold admission
    rcases hknown : w.knownProject request.projectId with e | project
    · rw [hknown] at hloaded
      exact hloaded.bind_error
    · rw [hknown] at hloaded
      refine hloaded.bind ?_
      rcases hresource : w.onlyCandidate settings request.projectId request.userId
        request.rule.roleNames with e | resource
      · rw [hresource] at hacting
        exact hacting.bind_error
      · rw [hresource] at hacting
        refine hacting.bind ?_
        have hrest := does_receive settings request (k := k) (w := w) (hproject _ hp)
          (huser _ hu) hupload hfree project (mem_of_onlyCandidate settings hresource)
        have hwinner : k.Does (Reception.requireWinner settings project.value request.userId) w
            (demandWinner settings project request.userId, w) :=
          Carrier.does_of_outcome (outcome_requireWinner w settings project request.userId)
        dsimp only [Bind.bind, Except.bind]
        unfold passWinner
        by_cases hasked : request.rule.requiresWinner
        · rw [if_pos hasked, if_pos hasked]
          rcases hdemanded : demandWinner settings project request.userId with e | ⟨⟩
          · rw [hdemanded] at hwinner
            exact hwinner.bind_error
          · rw [hdemanded] at hwinner
            exact hwinner.bind hrest
        · rw [if_neg hasked, if_neg hasked]
          exact hrest

/-- An upload at the desk. -/
theorem does_upload {projectId userId : Value} (hproject : ∀ n, projectId = .int n → k.reach n)
    (huser : ∀ n, userId = .int n → k.reach n) (hupload : k.reach w.nextUpload)
    (hfree : k.reach w.freeSubmission) (category filename : Value) :
    k.Does (Desk.upload settings category projectId userId filename) w
      (Carrier.shown Value.int (w.upload settings category projectId userId filename)) := by
  unfold Desk.upload upload
  rcases Desk.uploadContext category projectId userId with e | context
  · exact (Carrier.does_ofExcept (.error e)).bind_error
  · refine (Carrier.does_ofExcept (.ok context)).bind fun h => ?_
    rw [Desk.outcome_within]
    exact does_takeIn settings hproject huser hupload hfree category filename h

/-- A change of status at the desk. -/
theorem does_setSubmissionStatus {submissionId : Value}
    (hreach : ∀ n, submissionId = .int n → k.reach n) (statusId operator : Value) :
    k.Does (Desk.setSubmissionStatus settings submissionId statusId operator) w
      (Carrier.shown StoredSubmission.value
        (w.changeStatus settings submissionId statusId operator)) := by
  intro h
  rw [Desk.setSubmissionStatus, Desk.outcome_within]
  exact does_changeStatus settings hreach statusId operator h

end Carried

/-- An upload at the desk, over the catalog in memory. -/
theorem outcome_upload (h : w.Coherent) (category projectId userId filename : Value) :
    (Desk.upload settings category projectId userId filename).outcome Platform.answer
        w.platform =
      ((w.upload settings category projectId userId filename).1.map .int,
        (w.upload settings category projectId userId filename).2.platform) :=
  (does_upload settings (k := .memory) (fun _ _ => trivial) (fun _ _ => trivial) trivial trivial
    category filename h).1

/-- The intake, over the catalog in memory. -/
theorem outcome_takeIn (h : w.Coherent) (category projectId userId filename : Value) :
    (Reception.takeIn settings category projectId userId filename).outcome Platform.answer
        w.platform =
      ((w.takeIn settings category projectId userId filename).1.map .int,
        (w.takeIn settings category projectId userId filename).2.platform) :=
  (does_takeIn settings (k := .memory) (fun _ _ => trivial) (fun _ _ => trivial) trivial trivial
    category filename h).1

/-- A change of status at the desk, over the catalog in memory. -/
theorem outcome_setSubmissionStatus (h : w.Coherent) (submissionId statusId operator : Value) :
    (Desk.setSubmissionStatus settings submissionId statusId operator).outcome Platform.answer
        w.platform =
      ((w.changeStatus settings submissionId statusId operator).1.map StoredSubmission.value,
        (w.changeStatus settings submissionId statusId operator).2.platform) :=
  (does_setSubmissionStatus settings (k := .memory) (fun _ _ => trivial) statusId operator h).1

end World

/-- A call at the desk, with arguments of any kind. -/
inductive DeskCall
  | upload (category projectId userId filename : Value)
  | setSubmissionStatus (submissionId statusId operator : Value)

/-- What the desk does at a call. -/
def DeskCall.program (settings : Settings) : DeskCall → Program Value
  | .upload category projectId userId filename =>
      Desk.upload settings category projectId userId filename
  | .setSubmissionStatus submissionId statusId operator =>
      Desk.setSubmissionStatus settings submissionId statusId operator

end ContestUploads
