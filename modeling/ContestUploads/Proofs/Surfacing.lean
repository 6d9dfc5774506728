import ContestUploads.Proofs.Asking
import ContestUploads.Proofs.Taking

/-!
# What the failures of collaborators come to

Every call of the services stands under a guard, and no step of a service looks at a failure again,
but for the gate of an upload.  So the desk surfaces the failures of its collaborators: the first
one ends a call, and what it is shown as hangs on the operation that was asked for alone.

* `Failure.wrapped`: what a guard makes of a failure, whatever its context adds to the entry;
* `Call.surfaced`: what becomes of a failure on its way out of an upload;
* `DeskCall.surfaces`: it is this for every call that the desk makes.
-/

namespace ContestUploads

open Program

variable {α β : Type}

namespace Fields

/-- Whether no field has one of some names. -/
def spares (fields : Fields) (names : List String) : Bool :=
  names.all fun name => (fields.lookup name).isNone

theorem lookup_of_spares {fields : Fields} {names : List String} (h : fields.spares names = true)
    {name : String} (hname : name ∈ names) : fields.lookup name = none :=
  Option.isNone_iff_eq_none.1 (List.all_eq_true.1 h name hname)

theorem notMem_of_spares {fields : Fields} {names : List String} (h : fields.spares names = true)
    {field : String × Value} (hfield : field ∈ fields) : field.1 ∉ names := by
  intro hname
  have hnone := List.lookup_eq_none_iff.1 (lookup_of_spares h hname) field hfield
  simp at hnone

end Fields

namespace Verdict

/-- The names that the entry about a failure uses, and the operations that write it. -/
def usedNames : List String :=
  ["action", "error", "error_type", "event", "self", "method_name"]

/-- The failure that a guard ends with. -/
def surfaced : Verdict → Failure → Failure
  | .pass, f => f
  | .wrap problem _, f => .raisedFrom (.service problem) f
  | .spoil problem, _ => .foreign problem

end Verdict

namespace Failure

/-- A failure as the origin of a problem for callers.  One that cannot be told cannot be logged
either, and that ends in another failure. -/
def wrappedAs (f : Failure) (problem : ServiceProblem) : Failure :=
  match f.told with
  | .error obstacle => .foreign obstacle
  | .ok _ => .raisedFrom (.service problem) f

/-- What a guard makes of a failure that came while doing `action`. -/
def wrapped (action : String) (f : Failure) : Failure :=
  match f.problem with
  | .service _ => f
  | .cancelled _ => f
  | .store (.searchQuery ..) | .store (.screeningTaskExists _) =>
      f.wrappedAs (.orchestrationFailure (Verdict.words (.text action)) .null)
  | _ => f.wrappedAs (.persistenceFailure (Verdict.words (.text action)) .null)

end Failure

namespace Verdict

variable {context : Fields} (hcontext : context.spares usedNames = true)

include hcontext

/-- A context that spares the names of an entry does not stand in its way. -/
theorem surfaced_report (problem : ServiceProblem) (event : String) (action : Value) (f : Failure)
    {more : Fields} (hmore : ∀ field ∈ more, field.1 ∈ usedNames) :
    (report problem event action f more context).surfaced f = f.wrappedAs problem := by
  unfold report Failure.wrappedAs
  rcases f.told with obstacle | words
  · rfl
  · have hown : (context.find? fun field =>
        (List.lookup field.1 (("error", words) :: more)).isSome) = none := by
      rw [List.find?_eq_none]
      intro field hfield
      have hname := Fields.notMem_of_spares hcontext hfield
      have hnone : List.lookup field.1 (("error", words) :: more) = none := by
        rw [List.lookup_eq_none_iff]
        rintro own hown
        rcases List.mem_cons.1 hown with rfl | hown
        · have herror : field.1 ≠ "error" := fun h => hname (h ▸ by decide)
          simpa using herror
        · have hother : field.1 ≠ own.1 := fun h => hname (h ▸ hmore own hown)
          simpa using hother
      simp [hnone]
    have htaken : Log.taken? Log.writing context = none := by
      have hevent : context.lookup "event" = none := Fields.lookup_of_spares hcontext (by decide)
      have hself : context.lookup "self" = none := Fields.lookup_of_spares hcontext (by decide)
      have hmethod : context.lookup "method_name" = none :=
        Fields.lookup_of_spares hcontext (by decide)
      simp [Log.taken?, Log.writing, hevent, hself, hmethod]
    simp only [hown, htaken]
    rfl

/-- What a guard ends with does not hang on its context. -/
theorem surfaced_of (action : String) (f : Failure) :
    (Verdict.of (.text action) context f).surfaced f = f.wrapped action := by
  have hplain (problem : ServiceProblem) (event : String) :
      (report problem event (.text action) f [] context).surfaced f = f.wrappedAs problem :=
    surfaced_report hcontext problem event _ f (by simp)
  have hkind (problem : ServiceProblem) (event kind : String) :
      (report problem event (.text action) f [("error_type", .text kind)] context).surfaced f =
        f.wrappedAs problem :=
    surfaced_report hcontext problem event _ f (by simp [usedNames])
  unfold Verdict.of Failure.wrapped
  rcases f.problem with p | p | p | p | errors | arguments
  · rfl
  · cases p <;> exact hplain _ _
  · exact hkind _ _ _
  · exact hkind _ _ _
  · exact hkind _ _ _
  · rfl

end Verdict

namespace Program

/-- A guard ends with what it makes of a failure. -/
theorem endsWith_raiseGuarded (action : String) (context : Fields) (f : Failure) :
    (raiseGuarded (.text action) context f : Program α).EndsWith
      ((Verdict.of (.text action) context f).surfaced f) := by
  unfold raiseGuarded
  cases Verdict.of (.text action) context f with
  | pass => rfl
  | wrap problem entry => exact Failure.mentioning_of_writable (Value.writable_text action) _
  | spoil problem => rfl

variable {shown : Call → Failure → Failure} {action : String} {context : Fields}
  (hcontext : context.spares Verdict.usedNames = true) {c : Call}

include hcontext

theorem guarded_eq_recover (p : Program α) :
    guarded (.text action) context p = p.recover (raiseGuarded (.text action) context) :=
  guarded_eq (Fields.lookup_of_spares hcontext (by decide)) p

theorem endsWith_wrapped (f : Failure) :
    (raiseGuarded (.text action) context f : Program α).EndsWith (f.wrapped action) := by
  have hend := endsWith_raiseGuarded (α := α) action context f
  rwa [Verdict.surfaced_of hcontext] at hend

/-- A guarded call surfaces what its guard makes of a failure. -/
theorem surfaces_askGuarded (hshown : ∀ e, shown c e = e.wrapped action) :
    (askGuarded action context c).Surfaces shown := by
  unfold askGuarded
  rw [guarded_eq_recover hcontext]
  refine surfaces_call_recover fun e => ?_
  rw [hshown e]
  exact endsWith_wrapped hcontext e

/-- A guarded call whose argument has to be made first. -/
theorem surfaces_guarded_call {x : Except Failure β} {c : β → Call}
    (hshown : ∀ b e, shown (c b) e = e.wrapped action) :
    (guarded (.text action) context (ofExcept x >>= fun b => call (c b))).Surfaces shown := by
  rw [guarded_eq_recover hcontext]
  cases x with
  | error e => exact (endsWith_wrapped hcontext e).silent.surfaces shown
  | ok b =>
      refine surfaces_call_recover fun e => ?_
      rw [hshown b e]
      exact endsWith_wrapped hcontext e

/-- A guarded call after which nothing more is asked, under a recovery that looks at what the guard
ends with. -/
theorem surfaces_recover_askGuarded {g : Value → Program α} (hg : ∀ v, (g v).Silent)
    {handle : Failure → Program α} (hsilent : ∀ e, (handle e).Silent)
    (hhandle : ∀ e, (handle (e.wrapped action)).EndsWith (shown c e)) :
    ((askGuarded action context c >>= g).recover handle).Surfaces shown := by
  unfold askGuarded
  rw [guarded_eq_recover hcontext]
  refine ⟨fun e => ?_, fun v => ?_⟩
  · exact (endsWith_wrapped hcontext e).bind.recover (hhandle e)
  · exact ((hg v).recover hsilent).surfaces shown

end Program

/-- The words of a guard for what it does, by the operation that it asks for. -/
def Method.action : Method → String
  | .project => "get project"
  | .phases => "get phases"
  | .resourceRoles => "get resource roles"
  | .searchResources => "search resources"
  | .updateResource => "update resource"
  | .uploadStatuses => "get upload statuses"
  | .uploadTypes => "get upload types"
  | .submissionStatuses => "get submission statuses"
  | .createUpload => "create upload"
  | .createSubmission => "create submission"
  | .updateSubmission => "update submission"
  | .getSubmission => "get submission"
  | .searchSubmissions => "search submissions"
  | .initiateScreening => "initiate screening"

/-- What becomes of a failure of a call on its way out of an upload to a project.  A tracker that
finds no gating phase makes the project not eligible; all else is up to the guard. -/
def Call.surfaced (projectId : Value) (c : Call) (e : Failure) : Failure :=
  match c, e.problem with
  | .phases _, .service (.noMatchingPhase _ names) =>
      (ServiceProblem.projectNotEligible projectId names).failureFrom e
  | c, _ => e.wrapped c.method.action

/-- Calls to others than the tracker of phases are left to their guards. -/
theorem Call.surfaced_of_ne (projectId : Value) (c : Call) (hc : (c.method == .phases) = false)
    (e : Failure) : Call.surfaced projectId c e = e.wrapped c.method.action := by
  unfold Call.surfaced
  split
  · cases hc
  · rfl

namespace Reception

/-- A failure that a guard has wrapped is no longer that of a tracker without a gating phase. -/
theorem problem_wrapped {action : String} {e : Failure} {projectId names : Value}
    (h : (e.wrapped action).problem = .service (.noMatchingPhase projectId names)) :
    e.wrapped action = e := by
  have hwrappedAs {problem : ServiceProblem} (hproblem : ∀ i n, problem ≠ .noMatchingPhase i n) :
      (e.wrappedAs problem).problem ≠ .service (.noMatchingPhase projectId names) := by
    unfold Failure.wrappedAs
    rcases e.told with obstacle | words
    · nofun
    · intro h
      exact hproblem _ _ (Problem.service.inj h)
  unfold Failure.wrapped at h ⊢
  split
  · rfl
  · rfl
  all_goals
    simp only [*] at h
    exact absurd h (hwrappedAs nofun)

theorem silent_openPhase_rest (projectId names found : Value) :
    (do
      let phases ← ofExcept found.members
      match ← ofExcept (gating? names phases) with
      | some phase =>
          let isOpen ← ofExcept (phase.read "is_open")
          if isOpen.truthy then return phase
          let id ← ofExcept (phase.read "phase_id")
          let type ← ofExcept (phase.read "phase_type")
          let status ← ofExcept (phase.read "status")
          let shown ← ofExcept (status.read "value")
          note .error "phase_not_open"
            [("project_id", projectId), ("phase_id", id), ("phase_type", type), ("status", shown)]
          reject (.phaseNotOpen id type)
      | none =>
          let accepted ← ofExcept names.members
          note .error "no_matching_phase"
            [("project_id", projectId), ("phase_names", .list accepted)]
          .fail (ServiceProblem.noMatchingPhase projectId (.list accepted)).failure :
      Program Value).Silent := by
  refine (silent_ofExcept _).bind fun phases => (silent_ofExcept _).bind fun gating => ?_
  rcases gating with _ | phase
  · exact (silent_ofExcept _).bind fun accepted => trivial
  · refine (silent_ofExcept _).bind fun isOpen => ?_
    split
    · trivial
    · refine (silent_ofExcept _).bind fun id => (silent_ofExcept _).bind fun type => ?_
      exact (silent_ofExcept _).bind fun status => (silent_ofExcept _).bind fun shown => trivial

theorem surfaces_eligiblePhase (projectId : Int) (rule : Rule) :
    (eligiblePhase projectId rule).Surfaces (Call.surfaced (.int projectId)) := by
  unfold eligiblePhase openPhase
  refine surfaces_recover_askGuarded rfl (silent_openPhase_rest _ _) ?_ ?_
  · intro e
    split <;> trivial
  · intro e
    split
    · rename_i names hproblem
      have hsame := problem_wrapped hproblem
      rw [hsame] at hproblem ⊢
      simp only [Call.surfaced, hproblem]
      rfl
    · rename_i hother
      show e.wrapped _ = Call.surfaced _ _ e
      unfold Call.surfaced
      split
      · rename_i _ _ names hcall hproblem
        have hsame : e.wrapped "get phases" = e := by simp [Failure.wrapped, hproblem]
        exact absurd (hsame ▸ hproblem) (hother _ _)
      · rfl

theorem surfaces_requireWinner {shown : Call → Failure → Failure} (settings : Settings)
    (project : Value) (userId : Int) :
    (requireWinner settings project userId).Surfaces shown := by
  unfold requireWinner
  refine (surfaces_ofExcept _).bind fun (winner, _) => ?_
  dsimp only
  split
  · trivial
  · exact (surfaces_ofExcept _).bind fun id => trivial

section Steps

/-! The other steps ask the tracker of phases nothing. -/

variable {shown : Call → Failure → Failure}
  (hshown : ∀ (c : Call) (e : Failure), (c.method == .phases) = false →
    shown c e = e.wrapped c.method.action)

include hshown

theorem surfaces_ask_bind {action : String} {context : Fields} {c : Call} {f : Value → Program α}
    (hcontext : context.spares Verdict.usedNames = true) (hc : (c.method == .phases) = false)
    (haction : c.method.action = action) (hf : ∀ v, (f v).Surfaces shown) :
    (askGuarded action context c >>= f).Surfaces shown := by
  subst haction
  exact (surfaces_askGuarded hcontext fun e => hshown c e hc).bind hf

theorem surfaces_loadProject (projectId : Int) :
    (loadProject projectId).Surfaces shown := by
  unfold loadProject
  refine surfaces_ask_bind hshown rfl rfl rfl fun project => ?_
  split <;> trivial

theorem surfaces_actingResource (settings : Settings) (projectId userId names : Value) :
    (actingResource settings projectId userId names).Surfaces shown := by
  have hroles : (roleIds names).Surfaces shown :=
    surfaces_ask_bind hshown rfl rfl rfl fun roles => surfaces_ofExcept _
  have honly (found : Value) : (onlyResource projectId userId found).Surfaces shown := by
    unfold onlyResource
    refine (surfaces_ofExcept _).bind fun count => ?_
    split
    · refine (surfaces_ofExcept _).bind fun resource => (surfaces_ofExcept _).bind fun id => ?_
      exact (surfaces_ofExcept _).bind fun roleId => trivial
    · trivial
  unfold actingResource
  refine hroles.bind fun ids => ?_
  split
  · trivial
  · refine Surfaces.bind ?_ honly
    exact surfaces_guarded_call rfl fun filter e => hshown (.searchResources (.filter filter)) e rfl

theorem surfaces_createUpload (settings : Settings) (request : UploadRequest) (rule : Rule) :
    (createUpload settings request rule).Surfaces shown := by
  unfold createUpload
  refine surfaces_ask_bind hshown rfl rfl rfl fun statuses => ?_
  refine surfaces_ask_bind hshown rfl rfl rfl fun types => ?_
  refine (surfaces_ofExcept _).bind fun type => (surfaces_ofExcept _).bind fun status => ?_
  exact surfaces_askGuarded rfl fun e => hshown _ e rfl

theorem surfaces_createSubmission (settings : Settings) (request : UploadRequest)
    (upload resource statuses : Value) :
    (createSubmission settings request upload resource statuses).Surfaces shown := by
  have hlink (id : Value) : (linkSubmission request resource id).Surfaces shown := by
    unfold linkSubmission
    refine (surfaces_ofExcept _).bind fun linked => ?_
    refine surfaces_ask_bind hshown rfl rfl rfl fun _ => ?_
    exact (surfaces_ofExcept _).bind fun resourceId => trivial
  unfold createSubmission
  refine (surfaces_ofExcept _).bind fun status => (surfaces_ofExcept _).bind fun uploadId => ?_
  refine (surfaces_ofExcept _).bind fun resourceId => ?_
  refine surfaces_ask_bind hshown rfl rfl rfl fun submission => ?_
  refine (surfaces_ofExcept _).bind fun id => (surfaces_note _ _ _).bind fun _ => ?_
  refine (hlink id).bind fun linked => ?_
  exact surfaces_ask_bind hshown rfl rfl rfl fun _ => trivial

theorem surfaces_changeStatus (settings : Settings) (submissionId statusId operator : Value) :
    (changeStatus settings submissionId statusId operator).Surfaces shown := by
  have happly (submission status : Value) (n : Int) (who : String) :
      (applyStatus settings submission status [("submission_id", .int n)] who).Surfaces
        shown := by
    have hwritten : (do
        let changed ← ofExcept (submission.write "status" status)
        let updated ← askGuarded "update submission" [("submission_id", .int n)]
          (.catalog (.updateSubmission changed (.text who)))
        let name ← ofExcept (status.read "name")
        note .info "submission_status_updated"
          ([("submission_id", .int n)] ++ [("status", name), ("operator", .text who)])
        return updated : Program Value).Surfaces shown := by
      refine (surfaces_ofExcept _).bind fun changed => ?_
      refine surfaces_ask_bind hshown rfl rfl rfl fun updated => ?_
      exact (surfaces_ofExcept _).bind fun name => trivial
    unfold applyStatus
    split
    · exact (surfaces_ofExcept _).bind fun _ => hwritten
    · exact hwritten
  unfold changeStatus
  refine (surfaces_ofExcept _).bind fun request => ?_
  refine surfaces_ask_bind hshown rfl rfl rfl fun submission => ?_
  split
  · trivial
  · refine surfaces_ask_bind hshown rfl rfl rfl fun statuses => ?_
    refine (surfaces_ofExcept _).bind fun found => ?_
    rcases found with _ | status
    · trivial
    · exact happly _ _ _ _

theorem surfaces_retireEach (settings : Settings) (deleted : Value) (operator : String)
    (spared : Value) (listed : List Value) :
    (retireEach settings deleted operator spared listed).Surfaces shown := by
  induction listed with
  | nil => trivial
  | cons submission rest ih =>
      rw [retireEach]
      refine (surfaces_ofExcept _).bind fun id => (surfaces_ofExcept _).bind fun isSpared => ?_
      split
      · exact ih
      · refine (surfaces_ofExcept _).bind fun deletedId => ?_
        refine (surfaces_changeStatus hshown settings _ _ _).bind fun updated => ?_
        refine surfaces_ask_bind hshown rfl rfl rfl fun _ => ?_
        exact ih.bind fun later => trivial

theorem surfaces_retireSuperseded (settings : Settings)
    (userId resource statuses spared : Value) :
    (retireSuperseded settings userId resource statuses spared).Surfaces shown := by
  unfold retireSuperseded
  refine (surfaces_ofExcept _).bind fun deleted => (surfaces_ofExcept _).bind fun operator => ?_
  refine (surfaces_ofExcept _).bind fun resourceId => ?_
  refine surfaces_ask_bind hshown rfl rfl rfl fun found => ?_
  refine (surfaces_ofExcept _).bind fun earlier => ?_
  exact (surfaces_retireEach hshown settings _ _ _ _).bind fun retired => trivial

end Steps

theorem surfaces_receive (settings : Settings) (request : UploadRequest)
    (project resource : Value) :
    (receive settings request project resource).Surfaces
      (Call.surfaced (.int request.projectId)) := by
  have hshown := fun c e hc => Call.surfaced_of_ne (.int request.projectId) c hc e
  have hstatuses : submissionStatuses.Surfaces (Call.surfaced (.int request.projectId)) :=
    surfaces_askGuarded rfl fun e => rfl
  unfold receive
  refine (surfaces_eligiblePhase _ _).bind fun phase => ?_
  refine (surfaces_createUpload hshown settings request _).bind fun upload => ?_
  refine (surfaces_ofExcept _).bind fun uploadId => (surfaces_ofExcept _).bind fun phaseId => ?_
  refine (surfaces_note _ _ _).bind fun _ => ?_
  split
  · refine hstatuses.bind fun statuses => ?_
    refine (surfaces_createSubmission hshown settings request _ _ _).bind fun entered => ?_
    refine (surfaces_ofExcept _).bind fun supersedes => ?_
    split
    · exact (surfaces_retireSuperseded hshown settings _ _ _ _).bind fun _ => trivial
    · trivial
  · refine (surfaces_ofExcept _).bind fun supersedes => ?_
    split
    · refine hstatuses.bind fun statuses => ?_
      exact (surfaces_retireSuperseded hshown settings _ _ _ _).bind fun _ => trivial
    · trivial

theorem surfaces_takeIn (settings : Settings) (category projectId userId filename : Value) :
    (takeIn settings category projectId userId filename).Surfaces (Call.surfaced projectId) := by
  unfold takeIn
  rcases hrequest : UploadRequest.ofFields [("category", category), ("project_id", projectId),
      ("user_id", userId), ("filename", filename)] with e | request
  · trivial
  · obtain ⟨-, ⟨rfl, -⟩, -⟩ := UploadRequest.ofFields_eq_ok_iff.1 hrequest
    have hshown := fun c e hc => Call.surfaced_of_ne (.int request.projectId) c hc e
    show Program.Surfaces _ (Program.bind (loadProject request.projectId) _)
    refine (surfaces_loadProject hshown _).bind fun project => ?_
    refine (surfaces_actingResource hshown settings _ _ _).bind fun resource => ?_
    split
    · refine (surfaces_requireWinner settings _ _).bind fun _ => ?_
      exact surfaces_receive settings request _ _
    · exact surfaces_receive settings request _ _

end Reception

namespace Desk

variable {shown : Call → Failure → Failure}

/-- The frame of a call of the desk hands on what its body surfaces. -/
theorem surfaces_within {body : Program α} (hbody : body.Surfaces shown)
    (context entered : Fields) : (within context entered body).Surfaces shown := by
  show (body.ensuring _).Surfaces shown
  unfold Program.ensuring
  have hrecovered : (body.recover fun e => Program.bind (do
      note .debug "operation_exited" []
      leaveContext contextNames) fun _ => .fail e).Surfaces shown :=
    hbody.recover fun e => rfl
  exact hrecovered.bind fun a => trivial

theorem surfaces_upload (settings : Settings) (category projectId userId filename : Value) :
    (upload settings category projectId userId filename).Surfaces (Call.surfaced projectId) :=
  (surfaces_ofExcept _).bind fun _ =>
    surfaces_within (Reception.surfaces_takeIn settings _ _ _ _) _ _

theorem surfaces_setSubmissionStatus (settings : Settings)
    (submissionId statusId operator : Value) :
    (setSubmissionStatus settings submissionId statusId operator).Surfaces
      fun c e => e.wrapped c.method.action :=
  surfaces_within (Reception.surfaces_changeStatus (fun _ _ _ => rfl) settings _ _ _) _ _

end Desk

/-- What becomes of the failure of a call on its way out of a call at the desk. -/
def DeskCall.surfaced : DeskCall → Call → Failure → Failure
  | .upload _ projectId _ _, c, e => Call.surfaced projectId c e
  | .setSubmissionStatus .., c, e => e.wrapped c.method.action

/-- The calls at the desk surface the failures of the collaborators. -/
theorem DeskCall.surfaces (settings : Settings) (call : DeskCall) :
    (call.program settings).Surfaces call.surfaced := by
  cases call with
  | upload category projectId userId filename =>
      exact Desk.surfaces_upload settings category projectId userId filename
  | setSubmissionStatus submissionId statusId operator =>
      exact Desk.surfaces_setSubmissionStatus settings submissionId statusId operator

end ContestUploads
