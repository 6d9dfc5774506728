import ContestUploads.Proofs.Effect

/-!
# Which uploads are accepted

An upload has to pass a number of checks, which are listed here in the order in which they count:
`World.checks`.  Each check has a condition, the problem with which an upload that fails it ends,
and the world that is left then.  The first eight fail before anything is written; the last two
come after the upload is stored.

Where no moves are enforced and only stored submissions were sent to screening, the list is complete
and its order is exact: `takeIn_by_checks`.  An upload is accepted if and only if its arguments make
a request that passes all checks, and otherwise the first check that it fails decides.
-/

namespace ContestUploads

open World

/-- A check on an upload: whether it passes, and if not, with which problem the upload ends and
which world it leaves. -/
structure Check where
  passed : Bool
  problem : ServiceProblem
  left : World

namespace World

variable (w : World) (settings : Settings) (request : UploadRequest)

/-- The numbers of a world that the message of a failed check may name can be written out: those of
the phases, and how many resources there are. -/
structure Spellable : Prop where
  phases : ∀ e ∈ w.phases, ∀ p ∈ e.2, Text.writable p.id
  resources : Text.writable w.resources.length

/-- The resources through which the user of a request may act. -/
def acting : List StoredResource :=
  w.candidates settings request.projectId request.userId request.rule.roleNames

/-- The first phase of the project, in the order of the tracker, that gates a request. -/
def gate? : Option StoredPhase :=
  w.gatingPhase? request.projectId request.rule.phaseNames

/-- The project exists. -/
def projectCheck : Check where
  passed := (w.project? request.projectId).isSome
  problem := .projectNotFound (.int request.projectId)
  left := w

/-- Some role of the directory has one of the names of the category. -/
def roleCheck : Check where
  passed := w.roles.any fun role => request.rule.roleNames.contains role.name
  problem := .noSuchRole (.ofTexts request.rule.roleNames) (.int request.userId)
  left := w

/-- There is exactly one resource; how many there are is reported. -/
def resourceCheck : Check where
  passed := (w.acting settings request).length == 1
  problem := .ambiguousOrMissingUser (.int request.userId) (.int request.projectId)
    (.int (w.acting settings request).length)
  left := w

/-- The project names the user as its winner, where the category asks for it. -/
def winnerCheck : Check where
  passed := !request.rule.requiresWinner || (w.project? request.projectId).any fun project =>
    project.names settings.winner request.userId
  problem := .notWinner (.int request.userId) (.int request.projectId)
  left := w

/-- The project has a gating phase. -/
def phaseCheck : Check where
  passed := (w.gate? request).isSome
  problem := .projectNotEligible (.int request.projectId) (.ofTexts request.rule.phaseNames)
  left := w

/-- The gating phase is open.  Only the first one counts. -/
def openCheck : Check where
  passed := (w.gate? request).any fun phase => phase.status == .opened
  problem := .phaseNotOpen (((w.gate? request).map fun phase => .int phase.id).getD .null)
    (.ofText? ((w.gate? request).bind StoredPhase.type))
  left := w

/-- A catalog has an entry with a name. -/
def nameCheck (catalog : List StoredLookup) (name : String) (kind : Value) (left : World) :
    Check where
  passed := (named? catalog name).isSome
  problem := .noSuchStatus (.text name) kind
  left

/-- The check is made for some uploads only. -/
def onlyIf (asked : Bool) (c : Check) : Check :=
  { c with passed := !asked || c.passed }

/-- The checks before the first write. -/
def admissionChecks : List Check :=
  [w.projectCheck request, w.roleCheck request, w.resourceCheck settings request,
    w.winnerCheck settings request, w.phaseCheck request, w.openCheck request,
    nameCheck w.uploadTypes request.rule.uploadTypeName (.text "upload type") w,
    nameCheck w.uploadStatuses settings.activeStatus (.text "upload status") w]

/-- The checks after the upload was stored: the status of a general submission before that is
entered, and the deleted status, where there is something to retire, after that. -/
def writtenChecks (a : Admission) : List Check :=
  [onlyIf request.rule.createsSubmission
      (nameCheck w.submissionStatuses settings.activeStatus Lookup.submissionStatusKind
        (w.received request a)),
    onlyIf (a.supersedes settings request)
      (nameCheck w.submissionStatuses settings.deletedStatus Lookup.submissionStatusKind
        (if request.rule.createsSubmission then
          ((w.received request a).enter settings request a w.nextUpload).2
        else w.received request a))]

/-- All checks on an upload, in order.  The last two are there for an upload that was admitted. -/
def checks : List Check :=
  w.admissionChecks settings request ++
    match w.admission settings request with
    | .ok a => w.writtenChecks settings request a
    | .error _ => []

/-- The first check that fails. -/
def failed? (checks : List Check) : Option Check :=
  checks.find? fun c => !c.passed

/-- Some checks decide a question: it has an answer if all pass, and otherwise the problem of the
first that fails.  None of them leaves anything behind. -/
def Decided {α : Type} (checks : List Check) (question : Except Failure α) : Prop :=
  match failed? checks with
  | none => ∃ a, question = .ok a
  | some c => c.left = w ∧ ∃ f, question = .error f ∧ f.problem = .service c.problem

/-- Some checks settle what becomes of an upload: it is answered with a number if all pass, and
otherwise fails with the problem of the first that fails, and leaves the world of that one. -/
def Settled (checks : List Check) (result : Except Failure Int × World) : Prop :=
  match failed? checks with
  | none => ∃ n u, result = (.ok n, u)
  | some c => ∃ f, result = (.error f, c.left) ∧ f.problem = .service c.problem

variable {w}

theorem failed?_append (before after : List Check) :
    failed? (before ++ after) = (failed? before).or (failed? after) :=
  List.find?_append

/-- One question after another: the checks of the first come first. -/
theorem Decided.bind {α β : Type} {before after : List Check} {x : Except Failure α}
    {f : α → Except Failure β} (hx : Decided w before x)
    (hf : ∀ a, x = .ok a → Decided w after (f a)) : Decided w (before ++ after) (x >>= f) := by
  unfold Decided at hx
  rw [Decided, failed?_append]
  rcases hbefore : failed? before with _ | c
  · rw [hbefore] at hx
    obtain ⟨a, rfl⟩ := hx
    rw [Option.none_or]
    exact hf a rfl
  · rw [hbefore] at hx
    obtain ⟨hleft, e, rfl, hproblem⟩ := hx
    rw [Option.some_or]
    exact ⟨hleft, e, rfl, hproblem⟩

section Decided

variable (hproject : Text.writable request.projectId) (huser : Text.writable request.userId)
  (hspellable : w.Spellable)

include hproject in
theorem decided_knownProject :
    Decided w [w.projectCheck request] (w.knownProject request.projectId) := by
  unfold Decided failed? projectCheck knownProject
  rcases w.project? request.projectId with _ | project
  · exact ⟨rfl, _, rfl, ServiceProblem.problem_failure
      (by simp [ServiceProblem.obstacle?, hproject])⟩
  · exact ⟨project, rfl⟩

theorem roleIds_eq_nil_iff (names : List String) :
    w.roleIds names = [] ↔ (w.roles.any fun role => names.contains role.name) = false := by
  simp [roleIds, List.filter_eq_nil_iff]

include hproject huser hspellable in
theorem decided_onlyCandidate :
    Decided w [w.roleCheck request, w.resourceCheck settings request]
      (w.onlyCandidate settings request.projectId request.userId request.rule.roleNames) := by
  have hfew : (w.candidates settings request.projectId request.userId
      request.rule.roleNames).length ≤ w.resources.length :=
    List.length_filter_le _ _
  have hcount := ServiceProblem.failure_ambiguousOrMissingUser huser hproject
    (Text.writable_of_le hfew hspellable.resources)
  unfold Decided failed? roleCheck resourceCheck onlyCandidate acting
  by_cases hroles : w.roleIds request.rule.roleNames = []
  · have hnone := (roleIds_eq_nil_iff _).1 hroles
    rw [if_pos hroles]
    simp only [List.find?_cons, hnone]
    exact ⟨rfl, _, rfl, congrArg Failure.problem (ServiceProblem.failure_noSuchRole huser _)⟩
  · have hsome : (w.roles.any fun role => request.rule.roleNames.contains role.name) = true := by
      simpa using mt (roleIds_eq_nil_iff _).2 hroles
    rw [if_neg hroles, if_pos huser]
    simp only [List.find?_cons, hsome]
    rcases hfound : w.candidates settings request.projectId request.userId
      request.rule.roleNames with _ | ⟨r, _ | ⟨r', rest⟩⟩
    · rw [hfound] at hcount
      exact ⟨rfl, _, rfl, congrArg Failure.problem hcount⟩
    · exact ⟨r, rfl⟩
    · rw [hfound] at hcount
      exact ⟨rfl, _, rfl, congrArg Failure.problem hcount⟩

include hproject huser in
theorem decided_passWinner {project : StoredProject}
    (hknown : w.project? request.projectId = some project) :
    Decided w [w.winnerCheck settings request] (passWinner settings request project) := by
  have hid : project.id = request.projectId := by simpa using List.find?_some hknown
  unfold Decided failed? winnerCheck passWinner demandWinner
  rw [hknown, hid]
  cases request.rule.requiresWinner with
  | false => exact ⟨(), rfl⟩
  | true =>
      cases hnames : project.names settings.winner request.userId with
      | false =>
          simp only [List.find?_cons, Option.any_some, hnames]
          exact ⟨rfl, _, rfl, ServiceProblem.problem_failure
            (by simp [ServiceProblem.obstacle?, hproject, huser])⟩
      | true =>
          simp only [List.find?_cons, Option.any_some, hnames]
          exact ⟨(), rfl⟩

/-- The number of a gating phase can be written out. -/
theorem Spellable.gatingPhase (h : w.Spellable) {projectId : Int} {names : List String}
    {phase : StoredPhase} (hphase : w.gatingPhase? projectId names = some phase) :
    Text.writable phase.id := by
  have hmem := List.mem_of_find?_eq_some hphase
  unfold phasesOf at hmem
  rcases hfound : w.phases.find? (·.1 == projectId) with _ | e
  · simp [hfound] at hmem
  · exact h.phases e (List.mem_of_find?_eq_some hfound) phase (by simpa [hfound] using hmem)

include hproject hspellable in
theorem decided_openGate :
    Decided w [w.phaseCheck request, w.openCheck request]
      (w.openGate request.projectId request.rule.phaseNames) := by
  unfold Decided failed? phaseCheck openCheck openGate gate?
  rcases hgate : w.gatingPhase? request.projectId request.rule.phaseNames with _ | phase
  · refine ⟨rfl, _, rfl, ?_⟩
    rw [notEligible, if_pos hproject]
    rfl
  · by_cases hopen : phase.status = .opened
    · simp only [List.find?_cons, Option.any_some, hopen]
      exact ⟨phase, rfl⟩
    · have hshut : (phase.status == .opened) = false := by simpa using hopen
      have htype : (Value.ofText? phase.type).writable := by
        cases phase.type <;> simp [Value.ofText?]
      simp only [List.find?_cons, Option.any_some, hshut, if_neg hopen]
      exact ⟨rfl, _, rfl, ServiceProblem.problem_failure (by
        simp [ServiceProblem.obstacle?, hspellable.gatingPhase hgate, htype])⟩

theorem decided_known (catalog : List StoredLookup) (name kind : String) :
    Decided w [nameCheck catalog name (.text kind) w] (known catalog name (.text kind)) := by
  unfold Decided failed? nameCheck known
  rcases named? catalog name with _ | l
  · exact ⟨rfl, _, rfl, congrArg Failure.problem (ServiceProblem.failure_noSuchStatus name kind)⟩
  · exact ⟨l, rfl⟩

include hproject huser hspellable in
/-- The checks before the first write decide whether an upload is admitted. -/
theorem decided_admission :
    Decided w (w.admissionChecks settings request) (w.admission settings request) := by
  refine (decided_knownProject request hproject).bind fun project hknown => ?_
  refine (decided_onlyCandidate settings request hproject huser hspellable).bind
    fun resource _ => ?_
  refine (decided_passWinner settings request hproject huser
    (knownProject_eq_ok_iff.1 hknown)).bind fun _ _ => ?_
  refine (decided_openGate request hproject hspellable).bind fun phase _ => ?_
  refine (decided_known w.uploadTypes _ _).bind fun type _ => ?_
  refine (decided_known w.uploadStatuses _ _).bind fun status _ => ?_
  exact ⟨_, rfl⟩

end Decided

/-- Where no moves are enforced, any submission may take any status. -/
theorem checkMove_of_free {settings : Settings} (hfree : settings.enforceMoves = false)
    (s : StoredSubmission) (l : StoredLookup) : s.checkMove settings l = .ok () := by
  simp [StoredSubmission.checkMove, hfree]

/-- A check that passes leaves the decision to the later ones. -/
theorem settled_of_passed {c : Check} (hc : c.passed = true) {rest : List Check}
    {result : Except Failure Int × World} (hrest : Settled rest result) :
    Settled (c :: rest) result := by
  have hnext : failed? (c :: rest) = failed? rest := by simp [failed?, hc]
  unfold Settled at hrest ⊢
  rwa [hnext]

/-- A check that fails makes the decision. -/
theorem settled_of_failed {c : Check} (hc : c.passed = false) {f : Failure}
    (hf : f.problem = .service c.problem) (rest : List Check) :
    Settled (c :: rest) (.error f, c.left) := by
  have hthis : failed? (c :: rest) = some c := by simp [failed?, hc]
  unfold Settled
  rw [hthis]
  exact ⟨f, rfl, hf⟩

/-- Where all that it retires may be deleted, the last step of the intake fails only if there is
something to retire and no deleted status for it; then it changes nothing. -/
theorem settled_supersede (h : w.Coherent) (huser : Text.writable request.userId)
    (hstatuses : Numbered w.submissionStatuses)
    (hids : ∀ s ∈ w.submissions, 0 ≤ s.id) (a : Admission) (spared : List Int) (id : Int)
    (hmoves : ∀ deleted, named? w.submissionStatuses settings.deletedStatus = some deleted →
      ∀ s ∈ w.submissions, supersededBy a.resource.id spared s →
        s.checkMove settings deleted = .ok ()) :
    Settled [onlyIf (a.supersedes settings request)
        (nameCheck w.submissionStatuses settings.deletedStatus Lookup.submissionStatusKind w)]
      (w.supersede settings request a spared id) := by
  by_cases hold : a.supersedes settings request
  · rcases hnamed : named? w.submissionStatuses settings.deletedStatus with _ | deleted
    · rw [supersede, if_pos hold, retireSuperseded, demandDeleted_of_writable settings huser, known,
        hnamed]
      exact settled_of_failed (by simp [onlyIf, nameCheck, hold, hnamed])
        (congrArg Failure.problem (ServiceProblem.failure_noSuchStatus _ _)) []
    · have hdone : w.supersede settings request a spared id = (.ok id,
          w.retired (supersededBy a.resource.id spared) deleted request.operator) := by
        refine (supersede_eq_ok_iff settings request h hstatuses hids).2 ⟨rfl, ?_⟩
        rw [if_pos hold]
        exact ⟨huser, deleted, hnamed, hmoves deleted hnamed, rfl⟩
      exact settled_of_passed (by simp [onlyIf, nameCheck, hnamed]) ⟨id, _, hdone⟩
  · rw [supersede, if_neg hold]
    exact settled_of_passed (by simp [onlyIf, hold]) ⟨id, w, rfl⟩

/-- Where only stored submissions were sent to screening, a new one was not. -/
theorem screens_freeSubmission
    (hscreened : ∀ e ∈ w.screening, e.1 ∈ w.submissions.map StoredSubmission.id) :
    w.screens w.freeSubmission = false := by
  refine List.any_eq_false.2 fun e he hsame => w.freeSubmission_notMem ?_
  have hid : e.1 = w.freeSubmission := by simpa using hsame
  exact hid ▸ hscreened e he

/-- Where only stored submissions were sent to screening, entering a submission fails only if there
is no active status for it; then it changes nothing. -/
theorem enter_by_name
    (hscreened : ∀ e ∈ w.screening, e.1 ∈ w.submissions.map StoredSubmission.id)
    (a : Admission) (uploadId : Int) :
    match named? w.submissionStatuses settings.activeStatus with
    | none => w.enter settings request a uploadId = (.error (.service (.noSuchStatus
        (.text settings.activeStatus) Lookup.submissionStatusKind)), w)
    | some active => w.enter settings request a uploadId = (.ok w.freeSubmission,
        (w.entered request a active uploadId).screen w.freeSubmission request.operator) := by
  rcases hnamed : named? w.submissionStatuses settings.activeStatus with _ | active
  · simp only [enter, known, hnamed, Lookup.submissionStatusKind,
      ServiceProblem.failure_noSuchStatus]
  · exact (enter_eq_ok_iff settings request).2
      ⟨active, hnamed, screens_freeSubmission hscreened, rfl, rfl⟩

/-- The checks after the upload was stored settle what becomes of it, where all submissions may be
deleted. -/
theorem settled_finish (h : w.Coherent) (huser : Text.writable request.userId)
    (hstatuses : Numbered w.submissionStatuses)
    (hids : ∀ s ∈ w.submissions, 0 ≤ s.id)
    (hscreened : ∀ e ∈ w.screening, e.1 ∈ w.submissions.map StoredSubmission.id)
    (hmoves : ∀ deleted, named? w.submissionStatuses settings.deletedStatus = some deleted →
      ∀ s ∈ w.submissions, s.checkMove settings deleted = .ok ())
    {a : Admission} (hr : a.resource ∈ w.resources) :
    Settled (w.writtenChecks settings request a) (w.finish settings request a) := by
  have hreceived : (w.received request a).Coherent := h.addUpload _ _
  unfold writtenChecks finish
  dsimp only
  by_cases hcreates : request.rule.createsSubmission
  · have henter := enter_by_name (w := w.received request a) settings request hscreened a
      w.nextUpload
    have hentered := kept_coherent.enter settings request hreceived (a := a) hr w.nextUpload
    rw [if_pos hcreates, if_pos hcreates]
    rcases hnamed : named? w.submissionStatuses settings.activeStatus with _ | active
    · rw [show (w.received request a).submissionStatuses = w.submissionStatuses from rfl,
        hnamed] at henter
      rw [henter]
      exact settled_of_failed (by simp [onlyIf, nameCheck, hcreates, hnamed]) rfl _
    · rw [show (w.received request a).submissionStatuses = w.submissionStatuses from rfl,
        hnamed] at henter
      rw [henter] at hentered ⊢
      have hidsAfter : ∀ s ∈ (((w.received request a).entered request a active
          w.nextUpload).screen w.freeSubmission request.operator).submissions, 0 ≤ s.id := by
        intro s hs
        rcases List.mem_append.1 hs with hs | hs
        · exact hids s hs
        · obtain rfl := List.mem_singleton.1 hs
          exact h.freeSubmission_nonneg
      refine settled_of_passed (by simp [onlyIf, nameCheck, hnamed])
        (settled_supersede settings request hentered huser hstatuses hidsAfter a
          [w.freeSubmission] w.freeSubmission ?_)
      intro deleted hdeleted s hs hsuperseded
      rcases List.mem_append.1 hs with hs | hs
      · exact hmoves deleted hdeleted s hs
      · -- the submission that was just entered is spared
        obtain rfl := List.mem_singleton.1 hs
        simp [supersededBy, StoredSubmission.created, freeSubmission, received, addUpload]
          at hsuperseded
  · rw [if_neg hcreates, if_neg hcreates]
    exact settled_of_passed (by simp [onlyIf, hcreates])
      (settled_supersede settings request hreceived huser hstatuses hids a [] w.nextUpload
        fun deleted hdeleted s hs _ => hmoves deleted hdeleted s hs)

/-- All checks together settle what becomes of a request. -/
theorem settled_takeIn (hfree : settings.enforceMoves = false) (h : w.Coherent)
    (hproject : Text.writable request.projectId) (huser : Text.writable request.userId)
    (hspellable : w.Spellable) (hstatuses : Numbered w.submissionStatuses)
    (hids : ∀ s ∈ w.submissions, 0 ≤ s.id)
    (hscreened : ∀ e ∈ w.screening, e.1 ∈ w.submissions.map StoredSubmission.id)
    {category projectId userId filename : Value}
    (hrequest : UploadRequest.ofFields [("category", category), ("project_id", projectId),
      ("user_id", userId), ("filename", filename)] = .ok request) :
    Settled (w.checks settings request)
      (w.takeIn settings category projectId userId filename) := by
  have hadmission := decided_admission settings request hproject huser hspellable
  unfold Decided at hadmission
  unfold Settled checks takeIn
  rw [hrequest, failed?_append]
  dsimp only
  rcases hbefore : failed? (w.admissionChecks settings request) with _ | c
  · rw [hbefore] at hadmission
    obtain ⟨a, ha⟩ := hadmission
    have hr := mem_of_onlyCandidate settings ((admission_eq_ok_iff settings request).1 ha).2.1
    rw [ha, Option.none_or]
    exact settled_finish settings request h huser hstatuses hids hscreened
      (fun deleted _ s _ => checkMove_of_free hfree s deleted) hr
  · rw [hbefore] at hadmission
    obtain ⟨hleft, f, hf, hproblem⟩ := hadmission
    rw [hf, Option.some_or]
    exact ⟨f, by rw [hleft], hproblem⟩

end World

/-- **Which uploads are accepted.**  No moves are enforced, the numbers of the submission statuses
are distinct and not negative, those of the submissions are not negative, and only stored
submissions were sent to screening.  The numbers that a message may name can be written out.  Then
arguments of any kind are accepted if and only if they make a request that passes all checks.
Arguments that make none are refused as an invalid argument, and a request that does not pass fails
with the problem of the first check that it fails, and leaves the world of that check. -/
theorem takeIn_by_checks {w : World} (hreached : Reached w.platform)
    (hstatuses : Numbered w.submissionStatuses) (hids : ∀ s ∈ w.submissions, 0 ≤ s.id)
    (hscreened : ∀ e ∈ w.screening, e.1 ∈ w.submissions.map StoredSubmission.id)
    {settings : Settings} (hfree : settings.enforceMoves = false) (hnamed : w.Spellable)
    {projectId userId : Value} (hproject : ∀ n, projectId = .int n → Text.writable n)
    (huser : ∀ n, userId = .int n → Text.writable n) (category filename : Value)
    {t : Trail (Platform Memory.Catalog)} (ht : t.state = w.platform) :
    let ran := (Reception.takeIn settings category projectId userId filename).run Platform.answer t
    let asked := UploadRequest.ofFields [("category", category), ("project_id", projectId),
      ("user_id", userId), ("filename", filename)]
    ((∃ answer, ran.1 = .ok answer) ↔
        ∃ request, asked = .ok request ∧ ∀ c ∈ w.checks settings request, c.passed) ∧
      match asked with
      | .error e => ran.1 = .error e ∧ ran.2.state = w.platform ∧
          ∃ words field, e.problem = .service (.invalidArgument words field)
      | .ok request =>
          match failed? (w.checks settings request) with
          | none => ∃ n, ran.1 = .ok (.int n)
          | some c => ran.2.state = c.left.platform ∧
              ∃ f, ran.1 = .error f ∧ f.problem = .service c.problem := by
  have houtcome := outcome_takeIn settings hreached.coherent category projectId userId filename
  dsimp only
  rw [Program.run_result, Program.run_state, ht, houtcome]
  rcases hasked : UploadRequest.ofFields [("category", category), ("project_id", projectId),
    ("user_id", userId), ("filename", filename)] with e | request
  · have htaken : w.takeIn settings category projectId userId filename = (.error e, w) := by
      rw [World.takeIn, hasked]
    rw [htaken]
    exact ⟨by simp [Except.map], rfl, rfl,
      UploadRequest.problem_of_ofFields_eq_error hasked⟩
  · obtain ⟨-, ⟨hp, -⟩, ⟨hu, -⟩, -⟩ := UploadRequest.ofFields_eq_ok_iff.1 hasked
    have hsettled := settled_takeIn settings request hfree hreached.coherent (hproject _ hp)
      (huser _ hu) hnamed hstatuses hids hscreened hasked
    unfold Settled at hsettled
    rcases hfailed : failed? (w.checks settings request) with _ | c
    · rw [hfailed] at hsettled
      obtain ⟨n, u, htaken⟩ := hsettled
      have hpassed : ∀ c ∈ w.checks settings request, c.passed := by
        simpa [failed?] using hfailed
      rw [htaken]
      dsimp only
      rw [hfailed]
      exact ⟨⟨fun _ => ⟨request, rfl, hpassed⟩, fun _ => ⟨.int n, rfl⟩⟩, n, rfl⟩
    · rw [hfailed] at hsettled
      obtain ⟨f, htaken, hproblem⟩ := hsettled
      have hnot : c.passed = false := by simpa using List.find?_some hfailed
      rw [htaken]
      dsimp only
      rw [hfailed]
      refine ⟨⟨?_, ?_⟩, rfl, f, rfl, hproblem⟩
      · rintro ⟨answer, hanswer⟩
        cases hanswer
      · rintro ⟨r, hr, hall⟩
        obtain rfl := Except.ok.inj hr
        simp [hall c (List.mem_of_find?_eq_some hfailed)] at hnot

/-- A user without a resource at an open contest: the third check counts. -/
theorem takeIn_by_checks_openContest :
    ((Reception.takeIn {} (.category .submission) (.int 1) (.int 11) (.text "f.zip")).run
        Platform.answer { state := (openContest []).platform }).2.state =
        (openContest []).platform ∧
      ∃ f, ((Reception.takeIn {} (.category .submission) (.int 1) (.int 11) (.text "f.zip")).run
          Platform.answer { state := (openContest []).platform }).1 = .error f ∧
        f.problem = .service (.ambiguousOrMissingUser (.int 11) (.int 1) (.int 0)) :=
  (takeIn_by_checks (reached_openContest []) (numbered_openContest [])
    (by simp [openContest, withProject, withPhase, withResource])
    (by simp [openContest, withProject, withPhase, withResource])
    (rfl : ({} : Settings).enforceMoves = false)
    ⟨by decide, by decide⟩ (fun _ h => Value.int.inj h ▸ (by decide : Text.writable 1))
    (fun _ h => Value.int.inj h ▸ (by decide : Text.writable 11)) (.category .submission)
    (.text "f.zip") rfl).2

end ContestUploads
