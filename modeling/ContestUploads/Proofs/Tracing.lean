import ContestUploads.Fault
import ContestUploads.Proofs.Reached
import ContestUploads.Proofs.Reports
import ContestUploads.Proofs.Taking

/-!
# Which refusals leave an error in the log

Before a service refuses a call it writes an entry at level error, and so does a guard before it
wraps a failure.  Three checks have no log of their own: that of a request, the lookup of a name
that has to be there, and the check of a move (`ServiceProblem.goesUnlogged`).  What they refuse
leaves no error in the log.

`Program.Traced` says this of a program, along all its branches: it keeps account of whether an
error has been written so far.  The services are followed with it one step after the other, and
`Traced.run` carries it over to runs against collaborators that report nothing to callers and log no
errors themselves.  Such are the stores in memory, and they stay such if scripted faults report
nothing either.
-/

namespace ContestUploads

open Program

variable {α β σ : Type}

namespace ServiceProblem

/-- The problems that are reported without an entry in the log. -/
def goesUnlogged : ServiceProblem → Bool
  | .invalidArgument .. | .noSuchStatus .. | .illegalTransition .. => true
  | _ => false

end ServiceProblem

namespace Failure

/-- A failure fits the log: if it is a problem for callers, an error has been written exactly if the
problem does not go unlogged. -/
def Fits (e : Failure) (written : Bool) : Prop :=
  ∀ p, e.problem = .service p → written = !p.goesUnlogged

theorem fits_foreign (p : ForeignProblem) (written : Bool) : (Failure.foreign p).Fits written :=
  nofun

/-- A problem that is logged, once an error has been written. -/
theorem fits_of_problem {e : Failure} {p : ServiceProblem} (hproblem : e.problem = .service p)
    (h : p.goesUnlogged = false) : e.Fits true := by
  intro q hq
  obtain rfl := Problem.service.inj (hproblem.symm.trans hq)
  simp [h]

/-- A problem that is logged, or the obstacle to telling it. -/
theorem fits_failure {p : ServiceProblem} (h : p.goesUnlogged = false) : p.failure.Fits true := by
  unfold ServiceProblem.failure
  split
  · exact fits_foreign _ _
  · exact fits_of_problem rfl h

/-- A problem that is raised from another failure, or the obstacle to telling it. -/
theorem fits_failureFrom {p : ServiceProblem} (h : p.goesUnlogged = false) (origin : Failure) :
    (p.failureFrom origin).Fits true := by
  unfold ServiceProblem.failureFrom
  split
  · exact fits_foreign _ _
  · exact fits_of_problem rfl h

end Failure

namespace Program

/-- Whatever comes back that is no report to callers, a program writes an error before it fails with
a problem for callers, unless the problem goes unlogged, and it writes none before it succeeds.
`written` tells whether an error has been written already. -/
def Traced (written : Bool) : Program α → Prop
  | .done _ => written = false
  | .fail e => e.Fits written
  | .ask _ next => ∀ reply, Reports ServiceProblem.None reply → (next reply).Traced written
  | .log e rest => rest.Traced (written || e.level == .error)
  | .bindContext _ rest => rest.Traced written
  | .unbindContext _ rest => rest.Traced written

section Traced

variable {p : Program α} {written : Bool}

/-- A step without a log of its own. -/
theorem traced_ofExcept {x : Except Failure α}
    (h : Reports (fun q => q.goesUnlogged = true) x) : (ofExcept x).Traced false := by
  cases x with
  | ok a => rfl
  | error e =>
      intro q hq
      rw [h e q rfl hq]
      rfl

theorem traced_note {level : Level} (h : level ≠ .error) (event : String) (fields : Fields) :
    (note level event fields).Traced false := by
  simpa [note, Traced] using h

/-- A refusal after an entry at level error. -/
theorem traced_reject {q : ServiceProblem} (h : q.goesUnlogged = false) (event : String)
    (fields : Fields) : (note .error event fields >>= fun _ => reject q : Program α).Traced false :=
  Failure.fits_failure h

/-- One program after another. -/
theorem Traced.bind {f : α → Program β} (hp : p.Traced written) (hf : ∀ a, (f a).Traced false) :
    (p >>= f).Traced written := by
  show (p.bind f).Traced written
  induction p generalizing written with
  | done a => exact hp ▸ hf a
  | fail e => exact hp
  | ask c next ih => exact fun reply hreply => ih reply (hp reply hreply)
  | log e rest ih => exact ih hp
  | bindContext fields rest ih => exact ih hp
  | unbindContext names rest ih => exact ih hp

/-- A recovery that keeps failures fitting. -/
theorem Traced.recover {handle : Failure → Program α} (hp : p.Traced written)
    (hhandle : ∀ e written, Failure.Fits e written → (handle e).Traced written) :
    (p.recover handle).Traced written := by
  induction p generalizing written with
  | done a => exact hp
  | fail e => exact hhandle e written hp
  | ask c next ih => exact fun reply hreply => ih reply (hp reply hreply)
  | log e rest ih => exact ih hp
  | bindContext fields rest ih => exact ih hp
  | unbindContext names rest ih => exact ih hp

end Traced

end Program

namespace Verdict

/-- What a guard wraps becomes a problem that is logged, with an entry at level error. -/
def WrapsLogged : Verdict → Prop
  | .wrap problem entry => problem.goesUnlogged = false ∧ entry.level = .error
  | _ => True

theorem wrapsLogged_report {problem : ServiceProblem} (h : problem.goesUnlogged = false)
    (event : String) (action : Value) (f : Failure) (more context : Fields) :
    (report problem event action f more context).WrapsLogged := by
  unfold report
  split
  · trivial
  · dsimp only
    split
    · trivial
    · trivial
    · exact ⟨h, rfl⟩

theorem wrapsLogged_of (action : Value) (context : Fields) (f : Failure) :
    (Verdict.of action context f).WrapsLogged := by
  unfold Verdict.of
  dsimp only
  split
  · trivial
  · trivial
  all_goals exact wrapsLogged_report rfl _ _ _ _ _

end Verdict

namespace Program

/-- A guard writes an error for what it wraps and lets other reports pass. -/
theorem Traced.guarded {p : Program α} {written : Bool} (hp : p.Traced written) (action : Value)
    (context : Fields) : (guarded action context p).Traced written := by
  unfold Program.guarded
  split
  · refine hp.recover fun e written he => ?_
    unfold raiseGuarded
    have hlogged := Verdict.wrapsLogged_of action context e
    generalize Verdict.of action context e = verdict at hlogged ⊢
    cases verdict with
    | pass => exact he
    | wrap problem entry =>
        obtain ⟨hproblem, hlevel⟩ := hlogged
        show Failure.Fits _ (written || entry.level == .error)
        rw [hlevel, show (Level.error == Level.error) = true from rfl, Bool.or_true]
        rcases Failure.mentioning_cases action (.raisedFrom (.service problem) e) with h | h
        · rw [h]
          exact Failure.fits_of_problem rfl hproblem
        · rw [h]
          exact Failure.fits_foreign _ _
    | spoil obstacle => exact Failure.fits_foreign _ _
  · exact Failure.fits_foreign _ _

theorem traced_call (c : Call) : (call c).Traced false :=
  fun _ hreply => traced_ofExcept (hreply.imp fun _ => False.elim)

theorem traced_askGuarded (action : String) (context : Fields) (c : Call) :
    (askGuarded action context c).Traced false :=
  (traced_call c).guarded _ _

end Program

namespace Reception

variable (settings : Settings)

theorem traced_loadProject (projectId : Int) : (loadProject projectId).Traced false := by
  refine (traced_askGuarded _ _ _).bind fun project => ?_
  split
  · exact traced_reject rfl _ _
  · rfl

theorem traced_onlyResource (projectId userId found : Value) :
    (onlyResource projectId userId found).Traced false := by
  refine (traced_ofExcept (reports_size found)).bind fun count => ?_
  split
  · refine (traced_ofExcept (reports_front found)).bind fun resource => ?_
    refine (traced_ofExcept (reports_read resource _)).bind fun id => ?_
    refine (traced_ofExcept (reports_read resource _)).bind fun roleId => ?_
    exact (traced_note (by decide) _ _).bind fun _ => rfl
  · exact traced_reject rfl _ _

theorem traced_actingResource (projectId userId names : Value) :
    (actingResource settings projectId userId names).Traced false := by
  have hroles : (roleIds names).Traced false :=
    (traced_askGuarded _ _ _).bind fun roles => traced_ofExcept (reports_idsAmong roles names)
  refine hroles.bind fun ids => ?_
  split
  · exact traced_reject rfl _ _
  · refine Traced.bind (Traced.guarded ?_ _ _) fun found => traced_onlyResource _ _ found
    exact (traced_ofExcept (reports_acting ids _ _ _)).bind fun _ => traced_call _

theorem traced_requireWinner (project : Value) (userId : Int) :
    (requireWinner settings project userId).Traced false := by
  refine (traced_ofExcept (reports_carryOut project _ _)).bind fun winner => ?_
  dsimp only
  split
  · rfl
  · refine (traced_ofExcept (reports_read project _)).bind fun projectId => ?_
    exact traced_reject rfl _ _

theorem traced_openPhase (projectId names : Value) : (openPhase projectId names).Traced false := by
  refine (traced_askGuarded _ _ _).bind fun found => ?_
  refine (traced_ofExcept (reports_members found)).bind fun phases => ?_
  refine (traced_ofExcept (reports_gating names phases)).bind fun gating => ?_
  split
  · rename_i phase
    refine (traced_ofExcept (reports_read phase _)).bind fun isOpen => ?_
    split
    · rfl
    · refine (traced_ofExcept (reports_read phase _)).bind fun id => ?_
      refine (traced_ofExcept (reports_read phase _)).bind fun type => ?_
      refine (traced_ofExcept (reports_read phase _)).bind fun status => ?_
      refine (traced_ofExcept (reports_read status _)).bind fun shown => ?_
      exact traced_reject rfl _ _
  · refine (traced_ofExcept (reports_members names)).bind fun accepted => ?_
    exact traced_reject rfl _ _

/-- A project without a gating phase is reported once more, under another name; the entry is that of
the phase that was not found. -/
theorem traced_eligiblePhase (projectId : Int) (rule : Rule) :
    (eligiblePhase projectId rule).Traced false := by
  refine (traced_openPhase _ _).recover fun e written he => ?_
  split
  · rename_i i names hproblem
    have hwritten : written = true := he _ hproblem
    subst hwritten
    exact Failure.fits_failureFrom (p := .projectNotEligible (.int projectId) names) rfl e
  · exact he

theorem traced_createUpload (request : UploadRequest) (rule : Rule) :
    (createUpload settings request rule).Traced false := by
  refine (traced_askGuarded _ _ _).bind fun statuses => ?_
  refine (traced_askGuarded _ _ _).bind fun types => ?_
  refine (traced_ofExcept (reports_require types _ _ rfl)).bind fun type => ?_
  refine (traced_ofExcept (reports_require statuses _ _ rfl)).bind fun status => ?_
  exact traced_askGuarded _ _ _

theorem traced_linkSubmission (request : UploadRequest) (resource submissionId : Value) :
    (linkSubmission request resource submissionId).Traced false := by
  refine (traced_ofExcept (reports_carryOut resource _ _)).bind fun changed => ?_
  refine (traced_askGuarded _ _ _).bind fun _ => ?_
  refine (traced_ofExcept (reports_read changed.2 _)).bind fun resourceId => ?_
  exact (traced_note (by decide) _ _).bind fun _ => rfl

theorem traced_createSubmission (request : UploadRequest) (upload resource statuses : Value) :
    (createSubmission settings request upload resource statuses).Traced false := by
  refine (traced_ofExcept (reports_require statuses _ _ rfl)).bind fun status => ?_
  refine (traced_ofExcept (reports_read upload _)).bind fun uploadId => ?_
  refine (traced_ofExcept (reports_read resource _)).bind fun resourceId => ?_
  refine (traced_askGuarded _ _ _).bind fun submission => ?_
  refine (traced_ofExcept (reports_read submission _)).bind fun id => ?_
  refine (traced_note (by decide) _ _).bind fun _ => ?_
  refine (traced_linkSubmission request resource id).bind fun linked => ?_
  refine (traced_askGuarded _ _ _).bind fun _ => ?_
  exact (traced_note (by decide) _ _).bind fun _ => rfl

theorem traced_applyStatus (submission status : Value) (which : Fields) (operator : String) :
    (applyStatus settings submission status which operator).Traced false := by
  have hwritten : (do
      let changed ← ofExcept (submission.write "status" status)
      let updated ← askGuarded "update submission" which
        (.catalog (.updateSubmission changed (.text operator)))
      let name ← ofExcept (status.read "name")
      note .info "submission_status_updated"
        (which ++ [("status", name), ("operator", .text operator)])
      return updated : Program Value).Traced false := by
    refine (traced_ofExcept (reports_write submission status _)).bind fun changed => ?_
    refine (traced_askGuarded _ _ _).bind fun updated => ?_
    refine (traced_ofExcept (reports_read status _)).bind fun name => ?_
    exact (traced_note (by decide) _ _).bind fun _ => rfl
  unfold applyStatus
  split
  · exact (traced_ofExcept (reports_checkMove submission status fun _ _ _ => rfl)).bind
      fun _ => hwritten
  · exact hwritten

theorem traced_changeStatus (submissionId statusId operator : Value) :
    (changeStatus settings submissionId statusId operator).Traced false := by
  refine (traced_ofExcept (reports_statusRequest _ fun _ _ => rfl)).bind fun request => ?_
  refine (traced_askGuarded _ _ _).bind fun submission => ?_
  split
  · exact traced_reject rfl _ _
  · refine (traced_askGuarded _ _ _).bind fun statuses => ?_
    refine (traced_ofExcept (reports_withId statuses _)).bind fun status => ?_
    split
    · exact traced_reject rfl _ _
    · exact traced_applyStatus settings submission _ _ _

theorem traced_retireEach (deleted : Value) (operator : String) (spared : Value)
    (submissions : List Value) :
    (retireEach settings deleted operator spared submissions).Traced false := by
  induction submissions with
  | nil => rfl
  | cons submission rest ih =>
      refine (traced_ofExcept (reports_read submission _)).bind fun id => ?_
      refine (traced_ofExcept (reports_holds spared id)).bind fun held => ?_
      split
      · exact ih
      · refine (traced_ofExcept (reports_read deleted _)).bind fun deletedId => ?_
        refine (traced_changeStatus settings id deletedId _).bind fun updated => ?_
        refine (traced_askGuarded _ _ _).bind fun _ => ?_
        exact ih.bind fun _ => rfl

theorem traced_retireSuperseded (userId resource statuses spared : Value) :
    (retireSuperseded settings userId resource statuses spared).Traced false := by
  refine (traced_ofExcept (reports_require statuses _ _ rfl)).bind fun deleted => ?_
  refine (traced_ofExcept (reports_asText userId)).bind fun operator => ?_
  refine (traced_ofExcept (reports_read resource _)).bind fun resourceId => ?_
  refine (traced_askGuarded _ _ _).bind fun found => ?_
  refine (traced_ofExcept (reports_members found)).bind fun earlier => ?_
  refine (traced_retireEach settings deleted _ spared earlier).bind fun retired => ?_
  exact (traced_note (by decide) _ _).bind fun _ => rfl

theorem traced_receive (request : UploadRequest) (project resource : Value) :
    (receive settings request project resource).Traced false := by
  refine (traced_eligiblePhase _ _).bind fun phase => ?_
  refine (traced_createUpload settings request _).bind fun upload => ?_
  refine (traced_ofExcept (reports_read upload _)).bind fun uploadId => ?_
  refine (traced_ofExcept (reports_read phase _)).bind fun phaseId => ?_
  refine (traced_note (by decide) _ _).bind fun _ => ?_
  split
  · refine (traced_askGuarded _ _ _).bind fun statuses => ?_
    refine (traced_createSubmission settings request upload resource statuses).bind fun made => ?_
    dsimp only
    refine (traced_ofExcept (reports_supersedes settings project _)).bind fun superseding => ?_
    split
    · exact (traced_retireSuperseded settings _ _ _ _).bind fun _ => rfl
    · rfl
  · refine (traced_ofExcept (reports_supersedes settings project _)).bind fun superseding => ?_
    split
    · refine (traced_askGuarded _ _ _).bind fun statuses => ?_
      exact (traced_retireSuperseded settings _ _ _ _).bind fun _ => rfl
    · rfl

theorem traced_takeIn (category projectId userId filename : Value) :
    (takeIn settings category projectId userId filename).Traced false := by
  refine (traced_ofExcept (reports_uploadRequest _ fun _ _ => rfl)).bind fun request => ?_
  refine (traced_loadProject _).bind fun project => ?_
  refine (traced_actingResource settings _ _ _).bind fun resource => ?_
  dsimp only
  split
  · exact (traced_requireWinner settings project _).bind fun _ =>
      traced_receive settings request project resource
  · exact traced_receive settings request project resource

end Reception

theorem reports_uploadContext (category projectId userId : Value)
    {allowed : ServiceProblem → Prop} :
    Reports allowed (Desk.uploadContext category projectId userId) :=
  (reports_asText category.label).bind fun _ => (reports_asText userId).bind fun _ => reports_ok _

/-- The frame of a call of the desk writes no errors. -/
theorem Desk.traced_within {body : Program α} (hbody : body.Traced false)
    (context entered : Fields) : (within context entered body).Traced false := by
  have hlast : (do
      note .debug "operation_exited" []
      leaveContext contextNames : Program Unit).Traced false := by
    rfl
  refine Traced.bind (p := inContext context) rfl fun _ => ?_
  refine (traced_note (by decide) _ _).bind fun _ => ?_
  refine Traced.bind (hbody.recover fun e written he => ?_) fun a => hlast.bind fun _ => rfl
  show Failure.Fits e (written || false)
  rwa [Bool.or_false]

theorem DeskCall.traced (settings : Settings) (call : DeskCall) :
    (call.program settings).Traced false := by
  cases call with
  | upload category projectId userId filename =>
      exact (traced_ofExcept (reports_uploadContext category projectId userId)).bind fun context =>
        Desk.traced_within (Reception.traced_takeIn settings _ _ _ _) _ _
  | setSubmissionStatus submissionId statusId operator =>
      exact Desk.traced_within (Reception.traced_changeStatus settings _ _ _) _ _

/-- Collaborators that report nothing to callers and log no errors. -/
def Collaborators.Discreet (team : Collaborators σ) : Prop :=
  ∀ c s, Reports ServiceProblem.None (team c s).reply ∧
    ∀ entry ∈ (team c s).logged, entry.level ≠ .error

/-- A result fits the log: no error has been written before a success, and a failure fits. -/
def FitsLog (written : Bool) : Except Failure α → Prop
  | .ok _ => written = false
  | .error e => e.Fits written

namespace Program

/-- A run of a traced program, where `before` tells whether an error has been written already: the
result fits what is written in the end. -/
theorem Traced.run {team : Collaborators σ} (hteam : team.Discreet) {p : Program α}
    {before : Bool} (hp : p.Traced before) (t : Trail σ) :
    ∃ new, (p.run team t).2.entries = t.entries ++ new ∧
      FitsLog (before || new.any (·.level == .error)) (p.run team t).1 := by
  induction p generalizing before t with
  | done a => exact ⟨[], (List.append_nil _).symm, by rw [List.any_nil, Bool.or_false]; exact hp⟩
  | fail e => exact ⟨[], (List.append_nil _).symm, by rw [List.any_nil, Bool.or_false]; exact hp⟩
  | ask c next ih =>
      obtain ⟨hreply, hlogged⟩ := hteam c t.state
      obtain ⟨new, hentries, hresult⟩ := ih _ (hp _ hreply) (t.answered c (team c t.state))
      have hquiet : ((team c t.state).logged.map (·.within t.context)).any
          (·.level == .error) = false := by
        simpa [LogEntry.within] using hlogged
      refine ⟨(team c t.state).logged.map (·.within t.context) ++ new, ?_, ?_⟩
      · rw [Program.run, hentries, ← List.append_assoc]
        rfl
      · rw [List.any_append, hquiet, Bool.false_or]
        exact hresult
  | log e rest ih =>
      obtain ⟨new, hentries, hresult⟩ := ih hp (t.noted e)
      refine ⟨e.within t.context :: new, ?_, ?_⟩
      · rw [Program.run, hentries]
        exact List.append_assoc t.entries [e.within t.context] new
      · rw [List.any_cons, ← Bool.or_assoc]
        exact hresult
  | bindContext fields rest ih => exact ih hp _
  | unbindContext names rest ih => exact ih hp _

end Program

/-- The catalog in memory logs nothing. -/
theorem logged_catalog (call : CatalogCall) (c : Memory.Catalog) (clock : Clock) :
    (Memory.Catalog.answer call (c, clock)).logged = [] := by
  have hwritten (c : Memory.Catalog) (clock : Clock) (result) :
      (c.written clock result).logged = [] := by
    cases result <;> rfl
  cases call with
  | createUpload u operator =>
      rw [Memory.Catalog.answer]
      split
      · rfl
      · exact hwritten _ _ _
  | createSubmission s operator =>
      rw [Memory.Catalog.answer]
      split
      · rfl
      · exact hwritten _ _ _
  | updateSubmission s operator =>
      rw [Memory.Catalog.answer]
      split
      · rfl
      · exact hwritten _ _ _
  | _ => rfl

/-- The stores in memory report nothing to callers and log no errors. -/
theorem discreet_platform : (Platform.answer (κ := Memory.Catalog)).Discreet := by
  intro c p
  refine ⟨reports_platform c p, ?_⟩
  have hquiet {logged : List LogEntry} (h : logged = []) :
      ∀ entry ∈ logged, entry.level ≠ .error := by
    simp [h]
  cases c with
  | updateResource r operator =>
      refine hquiet ?_
      rw [Platform.answer, Platform.updateResource]
      split
      · rfl
      · dsimp only
        split <;> rfl
  | catalog call => exact hquiet (logged_catalog call _ _)
  | initiateScreening submission operator =>
      rw [Platform.answer, Platform.initiateScreening]
      split
      · exact hquiet rfl
      · simp
  | _ => exact hquiet rfl

/-- A fault that reports nothing to callers. -/
def Misbehaviour.Unreported : Misbehaviour → Prop
  | .refuse e | .loseReply e => ∀ p, e.problem ≠ .service p
  | .pretend _ => True

/-- Faults that report nothing leave collaborators discreet. -/
theorem Rehearsal.discreet_following {team : Collaborators σ} (hteam : team.Discreet)
    {script : List Fault} (hscript : ∀ fault ∈ script, fault.effect.Unreported) :
    (following script team).Discreet := by
  intro c r
  unfold following
  dsimp only
  split
  · rename_i fault hfault
    have hunreported := hscript fault (List.mem_of_find?_eq_some hfault)
    cases heffect : fault.effect with
    | refuse e =>
        rw [heffect] at hunreported
        exact ⟨reports_error fun p hp => hunreported p hp, nofun⟩
    | loseReply e =>
        rw [heffect] at hunreported
        exact ⟨reports_error fun p hp => hunreported p hp, (hteam c r.state).2⟩
    | pretend given => exact ⟨reports_ok _, nofun⟩
  · exact hteam c r.state

/-- **A refusal leaves an error in the log unless it goes unlogged.**  For stores in memory, with
whatever faults that report nothing to callers: if a call at the desk ends with a problem for
callers, an entry at level error was written during the call exactly if the problem is none of those
that go unlogged.  A call that is answered has written none. -/
theorem refusals_traced (settings : Settings) (call : DeskCall) (script : List Fault)
    (hscript : ∀ fault ∈ script, fault.effect.Unreported)
    (t : Trail (Rehearsal (Platform Memory.Catalog))) :
    let run := (call.program settings).run (Rehearsal.following script Platform.answer) t
    ∃ written, run.2.entries = t.entries ++ written ∧
      (∀ f p, run.1 = .error f → f.problem = .service p →
        ((∃ entry ∈ written, entry.level = .error) ↔ p.goesUnlogged = false)) ∧
      ∀ v, run.1 = .ok v → ∀ entry ∈ written, entry.level ≠ .error := by
  intro run
  have hteam := Rehearsal.discreet_following discreet_platform hscript
  obtain ⟨written, hentries, hresult⟩ := (call.traced settings).run hteam t
  rw [Bool.false_or] at hresult
  refine ⟨written, hentries, fun f p hf hproblem => ?_, fun v hv => ?_⟩
  · rw [show _ = Except.error f from hf] at hresult
    have hany : written.any (·.level == .error) = !p.goesUnlogged := hresult p hproblem
    rw [← Bool.not_eq_true', ← hany]
    simp
  · rw [show _ = Except.ok v from hv] at hresult
    have hnone : written.any (·.level == .error) = false := hresult
    simpa using hnone

/-- A store of projects that cannot be reached is an error in the log. -/
theorem refusals_traced_unreachable :
    let lost : Fault :=
      { method := .project, effect := .refuse (.foreign ⟨"ConnectionError", [.text "down"]⟩) }
    let call := DeskCall.upload (.category .submission) (.int 1) (.int 10) (.text "f.zip")
    let run := (call.program {}).run (Rehearsal.following [lost] Platform.answer)
      { state := { state := (World.openContest []).platform } }
    (∀ fault ∈ [lost], fault.effect.Unreported) ∧
      run.1 = .error (.raisedFrom
        (.service (.persistenceFailure (.text "Failed to get project") .null))
        (.foreign ⟨"ConnectionError", [.text "down"]⟩)) ∧
      ∃ entry ∈ run.2.entries, entry.level = .error := by
  intro lost call run
  have hscript : ∀ fault ∈ [lost], fault.effect.Unreported := by
    intro fault hfault
    obtain rfl := List.mem_singleton.1 hfault
    exact nofun
  have hresult : run.1 = .error (.raisedFrom
      (.service (.persistenceFailure (.text "Failed to get project") .null))
      (.foreign ⟨"ConnectionError", [.text "down"]⟩)) := by
    decide +kernel
  refine ⟨hscript, hresult, ?_⟩
  obtain ⟨written, hentries, hrefused, -⟩ := refusals_traced {} call [lost] hscript
    { state := { state := (World.openContest []).platform } }
  rw [show run.2.entries = [] ++ written from hentries, List.nil_append]
  exact (hrefused _ _ hresult rfl).2 rfl

/-- An upload whose status is missing from the catalog is refused, and no error is in the log. -/
theorem missing_status_untraced :
    let call := DeskCall.upload (.category .submission) (.int 1) (.int 10) (.text "f.zip")
    let run := (call.program {}).run Platform.answer
      { state := (World.contestWith ["Draft"] Defaults.submissionStatuses []).platform }
    run.1 = .error (.service (.noSuchStatus (.text "Active") (.text "upload status"))) ∧
      ∀ entry ∈ run.2.entries, entry.level ≠ .error := by
  decide +kernel

end ContestUploads
