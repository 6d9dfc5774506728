import ContestUploads.Fault
import ContestUploads.Proofs.Declared
import ContestUploads.Proofs.Reached
import ContestUploads.Proofs.Surfacing

/-!
# What escapes from the desk

Whatever the collaborators answer, within the declared types, and whatever they raise, a call at
the desk fails with a problem for callers or with a cancellation.  `DeskCall.escaping` says with
which: problems for callers and cancellations pass, but for a tracker that finds no gating phase;
the others become the origin of an orchestration failure or of a persistence failure.

There are two exceptions.  A failure whose words are no text cannot be logged, and a number that is
too long cannot be named by a message; what comes of trying escapes as it is (`untold_escapes`).
That the entry about any other failure can be written is taken for granted, as it is of all entries.
-/

namespace ContestUploads

open Program

variable {α σ : Type}

/-- A failure that can be told if it has to be wrapped.  If it is a problem for callers, its words can
be put together, as those of every problem that was made can. -/
structure Failure.Tellable (e : Failure) : Prop where
  told : (∀ p, e.problem ≠ .service p) → (∀ arguments, e.problem ≠ .cancelled arguments) →
    ∃ words, e.told = .ok words
  words : ∀ p, e.problem = .service p → p.failure = .service p

/-- What may come back of a call: something of the declared kind whose numbers can be written out,
or a failure that can be told. -/
def Call.Admits (c : Call) : Except Failure Value → Prop
  | .ok v => c.Answers v
  | .error e => e.Tellable

/-- A problem that was raised from another failure. -/
def Failure.asCauseOf (e : Failure) (p : ServiceProblem) : Failure :=
  .raisedFrom (.service p) e

/-- What a call at the desk fails with if a call to a collaborator has failed. -/
def DeskCall.escaping (call : DeskCall) (c : Call) (e : Failure) : Failure :=
  let words := Verdict.words (.text c.method.action)
  match e.problem with
  | .cancelled _ => e
  | .service p =>
      match call, c, p with
      | .upload _ projectId _ _, .phases _, .noMatchingPhase _ names =>
          e.asCauseOf (.projectNotEligible projectId names)
      | _, _, _ => e
  | .store (.searchQuery ..) | .store (.screeningTaskExists _) =>
      e.asCauseOf (.orchestrationFailure words .null)
  | .store _ | .database _ | .foreign _ | .validation _ =>
      e.asCauseOf (.persistenceFailure words .null)

/-- What a failure that can be told is wrapped as. -/
theorem Failure.Tellable.wrappedAs {e : Failure} (he : e.Tellable)
    (hservice : ∀ p, e.problem ≠ .service p)
    (hcancelled : ∀ arguments, e.problem ≠ .cancelled arguments) (p : ServiceProblem) :
    e.wrappedAs p = e.asCauseOf p := by
  obtain ⟨words, htold⟩ := he.told hservice hcancelled
  rw [Failure.wrappedAs, htold]
  rfl

theorem Failure.wrapped_eq_escaping {e : Failure} (he : e.Tellable) (c : Call)
    (submissionId statusId operator : Value) :
    e.wrapped c.method.action =
      DeskCall.escaping (.setSubmissionStatus submissionId statusId operator) c e := by
  have hwrapped := he.wrappedAs
  unfold Failure.wrapped DeskCall.escaping
  generalize e.problem = problem at hwrapped
  rcases problem with p | p | p | p | errors | arguments
  · rfl
  · cases p <;> exact hwrapped nofun nofun _
  · exact hwrapped nofun nofun _
  · exact hwrapped nofun nofun _
  · exact hwrapped nofun nofun _
  · rfl

/-- The names that a tracker's problem lists are listed again when its project is not eligible. -/
theorem Failure.notEligible_of_tellable {e : Failure} (he : e.Tellable) {i names : Value}
    (hproblem : e.problem = .service (.noMatchingPhase i names)) {projectId : Value}
    (hproject : projectId.writable) :
    (ServiceProblem.projectNotEligible projectId names).failureFrom e =
      e.asCauseOf (.projectNotEligible projectId names) := by
  have hreport : e.IsReport := ⟨_, hproblem, he.words _ hproblem⟩
  rw [ServiceProblem.failureFrom, Reception.failureFrom_notEligible hproject hproblem hreport]
  rfl

/-- What surfaces of a failure that can be told. -/
theorem DeskCall.surfaced_eq_escaping {call : DeskCall} (hcall : call.Writable) (c : Call)
    {e : Failure} (he : e.Tellable) : call.surfaced c e = call.escaping c e := by
  cases call with
  | setSubmissionStatus submissionId statusId operator =>
      exact Failure.wrapped_eq_escaping he c submissionId statusId operator
  | upload category projectId userId filename =>
      show Call.surfaced projectId c e = _
      unfold Call.surfaced
      split
      · rename_i i names hproblem
        rw [Failure.notEligible_of_tellable he hproblem hcall.2.1, DeskCall.escaping, hproblem]
      · rename_i hother
        rw [Failure.wrapped_eq_escaping he _ .null .null .null]
        unfold DeskCall.escaping
        rcases hproblem : e.problem with p | p | p | p | errors | arguments
        · dsimp only
          split
          · exact (hother _ _ _ rfl hproblem).elim
          · rfl
        · cases p <;> rfl
        all_goals rfl

/-- A failure that escapes is a problem for callers or a cancellation. -/
theorem DeskCall.problem_escaping (call : DeskCall) (c : Call) (e : Failure) :
    (∃ p, (call.escaping c e).problem = .service p) ∨
      ∃ arguments, e.problem = .cancelled arguments ∧ call.escaping c e = e := by
  unfold DeskCall.escaping
  split
  · rename_i arguments hproblem
    exact .inr ⟨arguments, hproblem, rfl⟩
  · rename_i p hproblem
    left
    split
    · exact ⟨_, rfl⟩
    · exact ⟨p, hproblem⟩
  all_goals exact .inl ⟨_, rfl⟩

namespace Program

variable {p : Program α} {shown : Call → Failure → Failure} {Q : α → Prop}

/-- A program that surfaces failures, with replies of the declared kinds: either its last call has
failed, or none has and it ends as it does by itself. -/
theorem Surfaces.ends_of_declared (hp : p.Surfaces shown) (hends : p.Ends Q)
    {team : Collaborators σ} {s : σ}
    (hdeclared : ∀ x ∈ p.asked team s, ∀ v, (team x.1 x.2).reply = .ok v → x.1.Answers v) :
    (∃ before c t e, p.asked team s = before ++ [(c, t)] ∧ (team c t).reply = .error e ∧
      (p.outcome team s).1 = .error (shown c e)) ∨
    (∀ x ∈ p.asked team s, ∃ v, (team x.1 x.2).reply = .ok v) ∧
      ((∃ a, (p.outcome team s).1 = .ok a) ∨
        ∃ e, (p.outcome team s).1 = .error e ∧ e.IsReport) := by
  induction p generalizing s with
  | done a => exact .inr ⟨by simp [asked], .inl ⟨a, rfl⟩⟩
  | fail e => exact .inr ⟨by simp [asked], .inr ⟨e, rfl, hends⟩⟩
  | ask c next ih =>
      rw [asked] at hdeclared ⊢
      rw [outcome]
      rcases hreply : (team c s).reply with e | v
      · left
        have hend := hp.1 e
        refine ⟨[], c, s, e, ?_, hreply, ?_⟩
        · rw [hend.silent.asked]
          rfl
        · rw [hend.outcome]
      · rw [hreply] at hdeclared
        have hv := hdeclared (c, s) List.mem_cons_self v hreply
        have hlater := fun x hx => hdeclared x (List.mem_cons_of_mem _ hx)
        rcases ih (.ok v) (hp.2 v) (hends v hv) hlater with
          ⟨before, c', t, e, hasked, he, hresult⟩ | ⟨hall, hresult⟩
        · left
          refine ⟨(c, s) :: before, c', t, e, ?_, he, hresult⟩
          rw [hasked]
          rfl
        · right
          refine ⟨?_, hresult⟩
          intro x hx
          rcases List.mem_cons.1 hx with rfl | hx
          · exact ⟨v, hreply⟩
          · exact hall x hx
  | log e rest ih => exact ih hp hends hdeclared
  | bindContext fields rest ih => exact ih hp hends hdeclared
  | unbindContext names rest ih => exact ih hp hends hdeclared

end Program

/-- **Only problems for callers escape.**  If the arguments and the numbers in the replies can be
written out, and the collaborators answer as declared or fail in ways that can be told, a call at
the desk ends with a result, with a problem for callers, or with a cancellation of one of its calls.
A call that fails is its last one, and what escapes is what `DeskCall.escaping` says. -/
theorem only_reports_escape (settings : Settings) (team : Collaborators σ) (call : DeskCall)
    (hcall : call.Writable) (t : Trail σ)
    (hteam : ∀ x ∈ (call.program settings).asked team t.state,
      x.1.Admits (team x.1 x.2).reply) :
    let asked := (call.program settings).asked team t.state
    let result := ((call.program settings).run team t).1
    ((∃ v, result = .ok v) ∨ (∃ f p, result = .error f ∧ f.problem = .service p) ∨
      ∃ x ∈ asked, ∃ f arguments, (team x.1 x.2).reply = .error f ∧
        f.problem = .cancelled arguments ∧ result = .error f) ∧
    ∀ before c s rest e, asked = before ++ (c, s) :: rest → (team c s).reply = .error e →
      rest = [] ∧ result = .error (call.escaping c e) := by
  intro asked result
  have hsurfaces := call.surfaces settings
  have hdeclared : ∀ x ∈ asked, ∀ v, (team x.1 x.2).reply = .ok v → x.1.Answers v := by
    intro x hx v hv
    have hadmits := hteam x hx
    rwa [hv] at hadmits
  have htellable : ∀ x ∈ asked, ∀ e, (team x.1 x.2).reply = .error e → e.Tellable := by
    intro x hx e he
    have hadmits := hteam x hx
    rwa [he] at hadmits
  have hresult : result = ((call.program settings).outcome team t.state).1 :=
    Program.run_result team _ t
  constructor
  · rcases hsurfaces.ends_of_declared (DeskCall.ends settings hcall) hdeclared with
      ⟨before, c, s, e, hasked, he, hfailed⟩ | ⟨-, ⟨v, hv⟩ | ⟨f, hf, p, hp, -⟩⟩
    · have hlast : (c, s) ∈ asked := by
        show (c, s) ∈ (call.program settings).asked team t.state
        simp [hasked]
      rw [DeskCall.surfaced_eq_escaping hcall c (htellable (c, s) hlast e he)] at hfailed
      rcases call.problem_escaping c e with ⟨p, hp⟩ | ⟨arguments, hcancelled, hsame⟩
      · exact .inr (.inl ⟨_, p, hresult.trans hfailed, hp⟩)
      · rw [hsame] at hfailed
        exact .inr (.inr ⟨(c, s), hlast, e, arguments, he, hcancelled, hresult.trans hfailed⟩)
    · exact .inl ⟨v, hresult.trans hv⟩
    · exact .inr (.inl ⟨f, p, hresult.trans hf, hp⟩)
  · intro before c s rest e hasked he
    have hthere : (c, s) ∈ asked := by simp [hasked]
    obtain ⟨hrest, hfailed⟩ := hsurfaces.outcome_of_error hasked he
    refine ⟨hrest, hresult.trans ?_⟩
    rw [hfailed, DeskCall.surfaced_eq_escaping hcall c (htellable (c, s) hthere e he)]

/-- Collaborators with one project and one resource, that of user 10.  All else fails as a tracker
does that finds no phase. -/
def Collaborators.lostTracker : Collaborators Unit := fun c s =>
  match c with
  | .project _ => ⟨.ok (StoredProject.mk 1 []).value, s, []⟩
  | .resourceRoles => ⟨.ok (.list [(StoredLookup.mk 1 "Submitter" "").value]), s, []⟩
  | .searchResources _ =>
      ⟨.ok (.list [(StoredResource.mk 1 1 1 [("External Reference ID", "10")] [] none none).value]),
        s, []⟩
  | _ => ⟨.error (.service (.noMatchingPhase (.int 7) (.ofTexts ["Draft"]))), s, []⟩

/-- A tracker that finds no phase makes the project not eligible; the project is the one that was
asked for, the names are those of the tracker. -/
theorem only_reports_escape_lostTracker :
    let program := (DeskCall.upload (.category .submission) (.int 1) (.int 10) (.text "f.zip")).program
      {}
    let team := Collaborators.lostTracker
    (∀ x ∈ program.asked team (), x.1.Admits (team x.1 x.2).reply) ∧
      (program.run team { state := () }).1 =
        .error (.raisedFrom (.service (.projectNotEligible (.int 1) (.ofTexts ["Draft"])))
          (.service (.noMatchingPhase (.int 7) (.ofTexts ["Draft"])))) := by
  intro program team
  have hadmits (c : Call) (s : Unit) : c.Admits (team c s).reply := by
    have hlost : (Failure.service (.noMatchingPhase (.int 7) (.ofTexts ["Draft"]))).Tellable :=
      ⟨fun _ _ => ⟨_, rfl⟩, fun p hp => by obtain rfl := Problem.service.inj hp; rfl⟩
    cases c with
    | project id => exact ⟨.inr ⟨_, rfl⟩, by decide, nofun⟩
    | resourceRoles => exact ⟨⟨[_], rfl⟩, by decide, fun _ h => Value.list.inj h ▸ by decide⟩
    | searchResources filter =>
        exact ⟨⟨[_], rfl⟩, by decide, fun _ h => Value.list.inj h ▸ by decide⟩
    | _ => exact hlost
  have hteam : ∀ x ∈ program.asked team (), x.1.Admits (team x.1 x.2).reply :=
    fun x _ => hadmits x.1 x.2
  obtain ⟨hlength, hthere⟩ : ∃ h : 3 < (program.asked team ()).length,
      (program.asked team ())[3] = (.phases (.int 1), ()) := by
    decide +kernel
  have hsplit : program.asked team () = (program.asked team ()).take 3 ++
      (.phases (.int 1), ()) :: (program.asked team ()).drop 4 := by
    rw [← hthere, ← List.drop_eq_getElem_cons hlength, List.take_append_drop]
  have hcall : (DeskCall.upload (.category .submission) (.int 1) (.int 10)
      (.text "f.zip")).Writable := by
    simp only [DeskCall.Writable]
    decide
  have hescapes := (only_reports_escape {} team _ hcall { state := () } hteam).2 _ _ _ _ _
    hsplit rfl
  exact ⟨hteam, hescapes.2⟩

/-- The same collaborators with a tracker whose only phase is closed and has a number of 4301
digits. -/
def Collaborators.longPhase : Collaborators Unit := fun c s =>
  match c with
  | .phases _ =>
      ⟨.ok (.list [(StoredPhase.mk (Int.pow 10 4300) 1 (some "Submission") .closed).value]), s, []⟩
  | _ => Collaborators.lostTracker c s

/-- A failure whose words are no text escapes as what comes of telling it, and so does a phase that
is not open and whose number cannot be written out, though the tracker answers as declared.  Neither
is a problem for callers or a cancellation. -/
theorem untold_escapes :
    let untold : Fault :=
      { method := .project, effect := .refuse (.store (.general (.int 5) .null)) }
    let call := DeskCall.upload (.category .submission) (.int 1) (.int 10) (.text "f.zip")
    let escaped := Failure.foreign (.misuse "__str__ returned non-string (type int)")
    let long := Failure.foreign .tooManyDigits
    ((call.program {}).run (Rehearsal.following [untold] Platform.answer)
        { state := { state := (World.openContest []).platform } }).1 = .error escaped ∧
      ((call.program {}).run Collaborators.longPhase { state := () }).1 = .error long ∧
      (∀ c v, (Collaborators.longPhase c ()).reply = .ok v → c.Declares v) ∧
      ∀ f ∈ [escaped, long], (∀ p, f.problem ≠ .service p) ∧
        ∀ arguments, f.problem ≠ .cancelled arguments := by
  intro untold call escaped long
  refine ⟨by decide +kernel, by decide +kernel, ?_, ?_⟩
  · intro c v hv
    cases c with
    | project id => exact Except.ok.inj hv ▸ .inr ⟨_, rfl⟩
    | phases id => exact Except.ok.inj hv ▸ ⟨[_], rfl⟩
    | resourceRoles => exact Except.ok.inj hv ▸ ⟨[_], rfl⟩
    | searchResources filter => exact Except.ok.inj hv ▸ ⟨[_], rfl⟩
    | _ => cases hv
  · intro f hf
    simp only [List.mem_cons, List.not_mem_nil, or_false] at hf
    rcases hf with rfl | rfl
    · exact ⟨nofun, nofun⟩
    · exact ⟨nofun, nofun⟩

end ContestUploads
