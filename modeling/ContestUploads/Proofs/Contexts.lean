import ContestUploads.Proofs.Consistency

/-!
# What calls leave in the log context

A call at the desk binds its operation, its operator and the ids it is about, and drops these names
when it ends.  A category or a user that cannot be written out cannot be bound, and such a call does
not begin at all (`DeskCall.run_of_not_begins`).  Otherwise nobody touches the context in between: a
`Steady` program neither binds nor drops a field, whatever comes back of its calls, and the services
are followed with this one step after the other.  So all entries of a call, those of the
collaborators among them, are written within one and the same context (`Desk.run_within`).

`Program.ownEntries` lists these entries as their writers give them, before any context is added.
It is against this list that the entries of a run are compared, so that nothing an entry shows can
have come from an earlier call (`context_does_not_leak`).
-/

namespace ContestUploads

open Program

variable {α β σ : Type}

namespace LogEntry

/-- What an entry itself sets under a name: its value outside of any context. -/
def sets (e : LogEntry) (name : String) : Option Value :=
  (e.within []).fields.lookup name

/-- Within a context an entry shows what it sets itself, and otherwise what the context holds. -/
theorem lookup_within (e : LogEntry) (context : Fields) {name : String}
    (h : name ∉ e.ownNames) :
    (e.within context).fields.lookup name = (e.sets name).or (context.lookup name) := by
  simp only [sets, within, Fields.lookup_without, if_neg h]
  exact Fields.lookup_merge context e.fields name

end LogEntry

namespace Program

/-- The entries that a program and the collaborators write, in order, as their writers give them:
nothing of the context is added. -/
def ownEntries (team : Collaborators σ) : Program α → σ → List LogEntry
  | .done _, _ => []
  | .fail _, _ => []
  | .ask c next, s =>
      (team c s).logged ++ (next (team c s).reply).ownEntries team (team c s).state
  | .log e rest, s => e :: rest.ownEntries team s
  | .bindContext _ rest, s => rest.ownEntries team s
  | .unbindContext _ rest, s => rest.ownEntries team s

/-- A program that leaves the log context alone, whatever comes back. -/
def Steady : Program α → Prop
  | .done _ => True
  | .fail _ => True
  | .ask _ next => ∀ reply, (next reply).Steady
  | .log _ rest => rest.Steady
  | .bindContext _ _ => False
  | .unbindContext _ _ => False

section Own

variable (team : Collaborators σ)

/-- One program after another writes what the first writes and then, unless the first has failed,
what the second writes. -/
theorem ownEntries_bind (p : Program α) (f : α → Program β) (s : σ) :
    (p >>= f).ownEntries team s = p.ownEntries team s ++
      match p.outcome team s with
      | (.ok a, u) => (f a).ownEntries team u
      | (.error _, _) => [] := by
  show (p.bind f).ownEntries team s = _
  induction p generalizing s with
  | done a => rfl
  | fail e => rfl
  | ask c next ih =>
      have hnext := ih (team c s).reply (team c s).state
      exact (congrArg ((team c s).logged ++ ·) hnext).trans (List.append_assoc _ _ _).symm
  | log e rest ih => exact congrArg (e :: ·) (ih s)
  | bindContext fields rest ih => exact ih s
  | unbindContext names rest ih => exact ih s

/-- A program that recovers writes what it writes before, and in the end what the recovery
writes. -/
theorem ownEntries_recover (p : Program α) (handle : Failure → Program α) (s : σ) :
    (p.recover handle).ownEntries team s = p.ownEntries team s ++
      match p.outcome team s with
      | (.ok _, _) => []
      | (.error e, u) => (handle e).ownEntries team u := by
  induction p generalizing s with
  | done a => rfl
  | fail e => exact (List.nil_append _).symm
  | ask c next ih =>
      have hnext := ih (team c s).reply (team c s).state
      exact (congrArg ((team c s).logged ++ ·) hnext).trans (List.append_assoc _ _ _).symm
  | log e rest ih => exact congrArg (e :: ·) (ih s)
  | bindContext fields rest ih => exact ih s
  | unbindContext names rest ih => exact ih s

end Own

/-- A program ends as it would without what it does last, unless that fails. -/
theorem run_ensuring (team : Collaborators σ) (p : Program α) (last : Program Unit)
    (t : Trail σ) :
    (p.ensuring last).run team t =
      match last.run team (p.run team t).2 with
      | (.ok _, u) => ((p.run team t).1, u)
      | (.error e, u) => (.error e, u) := by
  unfold ensuring
  rw [run_bind, run_recover]
  rcases p.run team t with ⟨e | a, u⟩
  · dsimp only
    rw [run_bind]
    rcases last.run team u with ⟨e' | _, v⟩ <;> rfl
  · dsimp only
    rw [run_bind]
    rcases last.run team u with ⟨e' | _, v⟩ <;> rfl

section Steady

variable {p : Program α}

theorem steady_ofExcept (x : Except Failure α) : (ofExcept x).Steady := by
  cases x <;> trivial

theorem Steady.bind {f : α → Program β} (hp : p.Steady) (hf : ∀ a, (f a).Steady) :
    (p >>= f).Steady := by
  show (p.bind f).Steady
  induction p with
  | done a => exact hf a
  | fail e => trivial
  | ask c next ih => exact fun reply => ih reply (hp reply)
  | log e rest ih => exact ih hp
  | bindContext fields rest ih => exact hp.elim
  | unbindContext names rest ih => exact hp.elim

theorem Steady.recover {handle : Failure → Program α} (hp : p.Steady)
    (hhandle : ∀ e, (handle e).Steady) : (p.recover handle).Steady := by
  induction p with
  | done a => trivial
  | fail e => exact hhandle e
  | ask c next ih => exact fun reply => ih reply (hp reply)
  | log e rest ih => exact ih hp
  | bindContext fields rest ih => exact hp.elim
  | unbindContext names rest ih => exact hp.elim

/-- A guard writes an entry at most. -/
theorem Steady.guarded (hp : p.Steady) (action : Value) (context : Fields) :
    (guarded action context p).Steady := by
  unfold Program.guarded
  split
  · refine hp.recover fun e => ?_
    unfold raiseGuarded
    split <;> trivial
  · trivial

theorem steady_call (c : Call) : (call c).Steady :=
  steady_ofExcept

theorem steady_askGuarded (action : String) (context : Fields) (c : Call) :
    (askGuarded action context c).Steady :=
  (steady_call c).guarded _ _

/-- A step without a log of its own. -/
theorem steady_ofExcept_bind {x : Except Failure α} {f : α → Program β}
    (hf : ∀ a, (f a).Steady) : (ofExcept x >>= f).Steady :=
  (steady_ofExcept x).bind hf

/-- A guarded call and what follows. -/
theorem steady_ask_bind {action : String} {context : Fields} {c : Call} {f : Value → Program α}
    (hf : ∀ v, (f v).Steady) : (askGuarded action context c >>= f).Steady :=
  (steady_askGuarded action context c).bind hf

/-- A run of a steady program ends in the context that it starts in and has written its entries
within this context. -/
theorem Steady.run (hp : p.Steady) (team : Collaborators σ) (t : Trail σ) :
    (p.run team t).2.context = t.context ∧
      (p.run team t).2.entries =
        t.entries ++ (p.ownEntries team t.state).map (·.within t.context) := by
  induction p generalizing t with
  | done a => exact ⟨rfl, (List.append_nil _).symm⟩
  | fail e => exact ⟨rfl, (List.append_nil _).symm⟩
  | ask c next ih =>
      obtain ⟨hcontext, hentries⟩ :=
        ih _ (hp (team c t.state).reply) (t.answered c (team c t.state))
      refine ⟨hcontext, hentries.trans ?_⟩
      rw [ownEntries, List.map_append, ← List.append_assoc]
      rfl
  | log e rest ih =>
      obtain ⟨hcontext, hentries⟩ := ih hp (t.noted e)
      exact ⟨hcontext, hentries.trans (List.append_assoc t.entries [e.within t.context] _)⟩
  | bindContext fields rest ih => exact hp.elim
  | unbindContext names rest ih => exact hp.elim

end Steady

end Program

namespace Reception

variable (settings : Settings)

theorem steady_loadProject (projectId : Int) : (loadProject projectId).Steady := by
  refine steady_ask_bind fun project => ?_
  split <;> trivial

theorem steady_onlyResource (projectId userId found : Value) :
    (onlyResource projectId userId found).Steady := by
  refine steady_ofExcept_bind fun count => ?_
  split
  · refine steady_ofExcept_bind fun resource => steady_ofExcept_bind fun id => ?_
    exact steady_ofExcept_bind fun roleId => trivial
  · trivial

theorem steady_actingResource (projectId userId names : Value) :
    (actingResource settings projectId userId names).Steady := by
  have hroles : (roleIds names).Steady := steady_ask_bind fun roles => steady_ofExcept _
  refine hroles.bind fun ids => ?_
  split
  · trivial
  · refine Steady.bind (Steady.guarded ?_ _ _) fun found => steady_onlyResource _ _ found
    exact steady_ofExcept_bind fun filter => steady_call _

theorem steady_requireWinner (project : Value) (userId : Int) :
    (requireWinner settings project userId).Steady := by
  refine steady_ofExcept_bind fun winner => ?_
  dsimp only
  split
  · trivial
  · exact steady_ofExcept_bind fun projectId => trivial

theorem steady_openPhase (projectId names : Value) : (openPhase projectId names).Steady := by
  refine steady_ask_bind fun found => steady_ofExcept_bind fun phases => ?_
  refine steady_ofExcept_bind fun gating => ?_
  split
  · refine steady_ofExcept_bind fun isOpen => ?_
    split
    · trivial
    · refine steady_ofExcept_bind fun id => steady_ofExcept_bind fun type => ?_
      exact steady_ofExcept_bind fun status => steady_ofExcept_bind fun shown => trivial
  · exact steady_ofExcept_bind fun accepted => trivial

theorem steady_eligiblePhase (projectId : Int) (rule : Rule) :
    (eligiblePhase projectId rule).Steady := by
  refine (steady_openPhase _ _).recover fun e => ?_
  split <;> trivial

theorem steady_createUpload (request : UploadRequest) (rule : Rule) :
    (createUpload settings request rule).Steady := by
  refine steady_ask_bind fun statuses => steady_ask_bind fun types => ?_
  refine steady_ofExcept_bind fun type => steady_ofExcept_bind fun status => ?_
  exact steady_askGuarded _ _ _

theorem steady_linkSubmission (request : UploadRequest) (resource submissionId : Value) :
    (linkSubmission request resource submissionId).Steady := by
  refine steady_ofExcept_bind fun changed => steady_ask_bind fun _ => ?_
  exact steady_ofExcept_bind fun resourceId => trivial

theorem steady_createSubmission (request : UploadRequest) (upload resource statuses : Value) :
    (createSubmission settings request upload resource statuses).Steady := by
  refine steady_ofExcept_bind fun status => steady_ofExcept_bind fun uploadId => ?_
  refine steady_ofExcept_bind fun resourceId => steady_ask_bind fun submission => ?_
  refine steady_ofExcept_bind fun id => Steady.bind (p := note _ _ _) trivial fun _ => ?_
  refine (steady_linkSubmission request resource id).bind fun linked => ?_
  exact steady_ask_bind fun _ => trivial

theorem steady_applyStatus (submission status : Value) (which : Fields) (operator : String) :
    (applyStatus settings submission status which operator).Steady := by
  unfold applyStatus
  split
  · refine steady_ofExcept_bind fun _ => steady_ofExcept_bind fun changed => ?_
    exact steady_ask_bind fun updated => steady_ofExcept_bind fun name => trivial
  · refine steady_ofExcept_bind fun changed => ?_
    exact steady_ask_bind fun updated => steady_ofExcept_bind fun name => trivial

theorem steady_changeStatus (submissionId statusId operator : Value) :
    (changeStatus settings submissionId statusId operator).Steady := by
  refine steady_ofExcept_bind fun request => steady_ask_bind fun submission => ?_
  split
  · trivial
  · refine steady_ask_bind fun statuses => steady_ofExcept_bind fun status => ?_
    split
    · trivial
    · exact steady_applyStatus settings submission _ _ _

theorem steady_retireEach (deleted : Value) (operator : String) (spared : Value)
    (submissions : List Value) :
    (retireEach settings deleted operator spared submissions).Steady := by
  induction submissions with
  | nil => trivial
  | cons submission rest ih =>
      refine steady_ofExcept_bind fun id => steady_ofExcept_bind fun held => ?_
      split
      · exact ih
      · refine steady_ofExcept_bind fun deletedId => ?_
        refine (steady_changeStatus settings id deletedId _).bind fun updated => ?_
        exact steady_ask_bind fun _ => ih.bind fun later => trivial

theorem steady_retireSuperseded (userId resource statuses spared : Value) :
    (retireSuperseded settings userId resource statuses spared).Steady := by
  refine steady_ofExcept_bind fun deleted => steady_ofExcept_bind fun operator => ?_
  refine steady_ofExcept_bind fun resourceId => ?_
  refine steady_ask_bind fun found => steady_ofExcept_bind fun earlier => ?_
  exact (steady_retireEach settings deleted _ spared earlier).bind fun retired => trivial

theorem steady_receive (request : UploadRequest) (project resource : Value) :
    (receive settings request project resource).Steady := by
  refine (steady_eligiblePhase _ _).bind fun phase => ?_
  refine (steady_createUpload settings request _).bind fun upload => ?_
  refine steady_ofExcept_bind fun uploadId => steady_ofExcept_bind fun phaseId => ?_
  refine Steady.bind (p := note _ _ _) trivial fun _ => ?_
  split
  · refine steady_ask_bind fun statuses => ?_
    refine (steady_createSubmission settings request upload resource statuses).bind fun made => ?_
    refine steady_ofExcept_bind fun superseding => ?_
    split
    · exact (steady_retireSuperseded settings _ _ _ _).bind fun _ => trivial
    · trivial
  · refine steady_ofExcept_bind fun superseding => ?_
    split
    · refine steady_ask_bind fun statuses => ?_
      exact (steady_retireSuperseded settings _ _ _ _).bind fun _ => trivial
    · trivial

theorem steady_takeIn (category projectId userId filename : Value) :
    (takeIn settings category projectId userId filename).Steady := by
  refine steady_ofExcept_bind fun request => (steady_loadProject _).bind fun project => ?_
  refine (steady_actingResource settings _ _ _).bind fun resource => ?_
  dsimp only
  split
  · exact (steady_requireWinner settings project _).bind fun _ =>
      steady_receive settings request project resource
  · exact steady_receive settings request project resource

end Reception

namespace Desk

variable {body : Program α}

/-- The entries of a call at the desk are those of its body, between that of its start and that of
its end. -/
theorem ownEntries_within (team : Collaborators σ) (context entered : Fields) (s : σ) :
    (within context entered body).ownEntries team s =
      { level := .debug, event := .text "operation_entered", fields := entered } ::
        (body.ownEntries team s ++
          [{ level := .debug, event := .text "operation_exited", fields := [] }]) := by
  show _ :: (body.ensuring _).ownEntries team s = _
  unfold Program.ensuring
  show _ :: (Program.recover body _ >>= _).ownEntries team s = _
  rw [Program.ownEntries_bind, Program.ownEntries_recover, Program.outcome_recover]
  rcases body.outcome team s with ⟨e | a, u⟩
  · show _ :: (body.ownEntries team s ++ _ ++ []) = _
    rw [List.append_nil]
    rfl
  · show _ :: (body.ownEntries team s ++ [] ++ _) = _
    rw [List.append_nil]
    rfl

/-- A call at the desk with a steady body writes all its entries within the context that it binds,
and drops the names of calls from the context, whatever comes of it. -/
theorem run_within (hbody : body.Steady) (team : Collaborators σ) (context entered : Fields)
    (t : Trail σ) :
    let after := ((within context entered body).run team t).2
    after.context = (t.context.merge context).without contextNames ∧
      after.entries = t.entries ++ ((within context entered body).ownEntries team t.state).map
        (·.within (t.context.merge context)) := by
  intro after
  obtain ⟨hcontext, hentries⟩ := hbody.run team ((t.bound context).noted
    { level := .debug, event := .text "operation_entered", fields := entered })
  generalize hinner : (body.run team _).2 = inner at hcontext hentries
  -- The last entry is written before the names are dropped, with a result as with a failure.
  have hafter : after = (inner.noted
      { level := .debug, event := .text "operation_exited", fields := [] }).unbound
        contextNames := by
    rw [← hinner]
    exact congrArg Prod.snd (Program.run_ensuring team body _ _)
  rw [hafter]
  constructor
  · show inner.context.without contextNames = _
    rw [hcontext]
    rfl
  · show inner.entries ++ [LogEntry.within _ inner.context] = _
    rw [hcontext, hentries, ownEntries_within]
    simp [Trail.noted, Trail.bound]

end Desk

namespace DeskCall

/-- The fields that a call binds to the log context.  An upload has to write out its category and
its user for them. -/
def context : DeskCall → Except Failure Fields
  | .upload category projectId userId _ => Desk.uploadContext category projectId userId
  | .setSubmissionStatus submissionId _ operator => .ok (Desk.statusContext submissionId operator)

/-- Whether a call begins: one that cannot write out what it binds does nothing at all. -/
def begins (call : DeskCall) : Bool :=
  call.context.isOk

/-- What a call binds to a name of the log context: its operation, its operator unless that counts
as absent, and the ids that it is about. -/
def binds : DeskCall → String → Option Value
  | .upload category .., "operation" => some (.text ("upload_" ++ category.label.display))
  | .upload _ _ userId _, "operator" =>
      if userId.display = "" then none else some (.text userId.display)
  | .upload _ projectId _ _, "project_id" => some projectId
  | .upload _ _ userId _, "user_id" => some userId
  | .setSubmissionStatus .., "operation" => some (.text "set_submission_status")
  | .setSubmissionStatus _ _ operator, "operator" =>
      if operator.truthy then some operator else none
  | .setSubmissionStatus submissionId .., "submission_id" => some submissionId
  | _, _ => none

/-- The fields that a call binds, one by one. -/
theorem context_eq {call : DeskCall} {fields : Fields} (hbegins : call.context = .ok fields) :
    fields =
      match call with
      | .upload category projectId userId _ =>
          ("operation", .text ("upload_" ++ category.label.display)) ::
            ((if userId.display = "" then [] else [("operator", .text userId.display)]) ++
              [("project_id", projectId), ("user_id", userId)])
      | .setSubmissionStatus submissionId _ operator =>
          ("operation", .text "set_submission_status") ::
            ((if operator.truthy then [("operator", operator)] else []) ++
              [("submission_id", submissionId)]) := by
  cases call with
  | upload category projectId userId filename =>
      have htruthy (s : String) : (Value.text s).truthy = (s != "") := rfl
      simp only [context, Desk.uploadContext, bind_eq_ok_iff, Value.asText_eq_ok_iff] at hbegins
      obtain ⟨_, ⟨-, rfl⟩, _, ⟨-, rfl⟩, hfields⟩ := hbegins
      obtain rfl := Except.ok.inj hfields
      by_cases h : userId.display = "" <;>
        simp [Log.requestContext, Fields.merge, Fields.set, htruthy, h]
  | setSubmissionStatus submissionId statusId operator =>
      obtain rfl := Except.ok.inj hbegins
      by_cases h : operator.truthy <;>
        simp [Desk.statusContext, Log.requestContext, Fields.merge, Fields.set, h]

/-- A call binds the names of calls only. -/
theorem context_names {call : DeskCall} {fields : Fields} (hbegins : call.context = .ok fields) :
    ∀ e ∈ fields, e.1 ∈ Desk.contextNames := by
  rw [context_eq hbegins]
  cases call <;> dsimp only <;> split <;> simp [Desk.contextNames]

/-- What a call binds lies over what was bound before. -/
theorem lookup_bound {call : DeskCall} {fields : Fields} (hbegins : call.context = .ok fields)
    (base : Fields) {name : String} (h : name ∈ Desk.contextNames) :
    (base.merge fields).lookup name = (call.binds name).or (base.lookup name) := by
  simp only [Desk.contextNames, List.mem_cons, List.not_mem_nil, or_false] at h
  rw [context_eq hbegins]
  rcases h with rfl | rfl | rfl | rfl | rfl
  all_goals
    cases call <;> dsimp only [binds] <;> split <;> rename_i hoperator <;>
      simp [Fields.merge, Fields.lookup_set, hoperator]

/-- What keeps a call from beginning is the length of a numeral. -/
theorem eq_of_not_begins {call : DeskCall} {e : Failure} (h : call.context = .error e) :
    e = .foreign .tooManyDigits := by
  cases call with
  | upload category projectId userId filename => exact World.uploadContext_error h
  | setSubmissionStatus submissionId statusId operator => cases h

/-- A call that does not begin fails and leaves everything as it is. -/
theorem run_of_not_begins (settings : Settings) (team : Collaborators σ) {call : DeskCall}
    {e : Failure} (h : call.context = .error e) (t : Trail σ) :
    (call.program settings).run team t = (.error e, t) := by
  cases call with
  | upload category projectId userId filename =>
      show (Desk.upload settings category projectId userId filename).run team t = _
      rw [Desk.upload, show Desk.uploadContext category projectId userId = .error e from h]
      rfl
  | setSubmissionStatus submissionId statusId operator => cases h

/-- The services that calls go through are steady, so each call stays within its context. -/
theorem run_program (settings : Settings) (team : Collaborators σ) {call : DeskCall}
    {fields : Fields} (hbegins : call.context = .ok fields) (t : Trail σ) :
    let after := ((call.program settings).run team t).2
    after.context = t.context.without Desk.contextNames ∧
      after.entries = t.entries ++ ((call.program settings).ownEntries team t.state).map
        (·.within (t.context.merge fields)) := by
  have hframe : (t.context.merge fields).without Desk.contextNames =
      t.context.without Desk.contextNames :=
    Fields.without_merge (context_names hbegins) t.context
  rw [← hframe]
  cases call with
  | upload category projectId userId filename =>
      dsimp only [DeskCall.program]
      rw [Desk.upload, show Desk.uploadContext category projectId userId = .ok fields from hbegins]
      exact Desk.run_within (Reception.steady_takeIn settings _ _ _ _) team _ _ t
  | setSubmissionStatus submissionId statusId operator =>
      obtain rfl := Except.ok.inj hbegins
      exact Desk.run_within (Reception.steady_changeStatus settings _ _ _) team _ _ t

/-- After some calls the context is that of the start, without the names of calls as soon as one of
them has begun. -/
theorem context_over (settings : Settings) (team : Collaborators σ) (calls : List DeskCall)
    (t : Trail σ) :
    (DeskCall.over settings team calls t).context =
      if calls.any begins then t.context.without Desk.contextNames else t.context := by
  induction calls generalizing t with
  | nil => rfl
  | cons call rest ih =>
      refine (ih ((call.program settings).run team t).2).trans ?_
      rw [List.any_cons]
      rcases hcontext : call.context with e | fields
      · rw [run_of_not_begins settings team hcontext, show call.begins = false by
          rw [begins, hcontext]; rfl, Bool.false_or]
      · rw [(run_program settings team hcontext t).1, show call.begins = true by
          rw [begins, hcontext]; rfl, Bool.true_or, if_pos rfl]
        split
        · simp [Fields.without]
        · rfl

/-- An entry as it is written during a call: level and event are those of its writer, and under the
names of calls it has what its writer set, otherwise what the call binds, and otherwise what was
left in the context. -/
def Marks (call : DeskCall) (left : Fields) (own entry : LogEntry) : Prop :=
  entry.level = own.level ∧ entry.event = own.event ∧
    ∀ name ∈ Desk.contextNames,
      entry.fields.lookup name = ((own.sets name).or (call.binds name)).or (left.lookup name)

theorem marks_within {call : DeskCall} {fields : Fields} (hbegins : call.context = .ok fields)
    {left context : Fields}
    (h : ∀ name ∈ Desk.contextNames, context.lookup name = left.lookup name) (own : LogEntry) :
    call.Marks left own (own.within (context.merge fields)) := by
  refine ⟨rfl, rfl, fun name hname => ?_⟩
  -- Event and level are no names of calls, so what stands for them hides nothing here.
  have hother : name ∉ own.ownNames := by
    simp only [Desk.contextNames, List.mem_cons, List.not_mem_nil, or_false] at hname
    unfold LogEntry.ownNames
    split <;> rcases hname with rfl | rfl | rfl | rfl | rfl <;> decide
  rw [LogEntry.lookup_within own _ hother, lookup_bound hbegins context hname, Option.or_assoc,
    h name hname]

end DeskCall

/-- **The log context does not leak.**  Take any context to begin with, any collaborators and any
calls at the desk, one after the other, with arguments of any kind and whatever comes of each.  A
call that begins leaves the context that it found, without the names of calls.  Its entries, by
whomever they are written, have what their writers set; under the names of calls they have besides
what this call binds, and nothing of an earlier call.  A call that does not begin has a numeral that
is too long to be written out; it fails without an entry and changes nothing. -/
theorem context_does_not_leak (settings : Settings) (team : Collaborators σ) (t : Trail σ)
    (earlier : List DeskCall) (call : DeskCall) :
    let before := DeskCall.over settings team earlier t
    let after := DeskCall.over settings team (earlier ++ [call]) t
    match call.context with
    | .error e =>
        e = .foreign .tooManyDigits ∧
          (call.program settings).run team before = (.error e, before) ∧ after = before
    | .ok _ =>
        after.context = before.context.without Desk.contextNames ∧
          ∃ written, after.entries = before.entries ++ written ∧
            List.Forall₂ (call.Marks (if earlier.any DeskCall.begins then [] else t.context))
              ((call.program settings).ownEntries team before.state) written := by
  intro before after
  have hafter : after = ((call.program settings).run team before).2 := by
    simp [after, before, DeskCall.over]
  rcases hbegins : call.context with e | fields
  · have hrun := DeskCall.run_of_not_begins settings team hbegins before
    exact ⟨DeskCall.eq_of_not_begins hbegins, hrun, by rw [hafter, hrun]⟩
  obtain ⟨hcontext, hentries⟩ := DeskCall.run_program settings team hbegins before
  dsimp only
  rw [hafter]
  refine ⟨hcontext, _, hentries, ?_⟩
  rw [List.forall₂_map_right_iff, List.forall₂_same]
  intro own _
  refine DeskCall.marks_within hbegins (fun name hname => ?_) own
  rw [show before.context = _ from DeskCall.context_over settings team earlier t]
  split
  · -- An earlier call has dropped the names, whoever had bound them.
    rw [Fields.lookup_without, if_pos hname]
    rfl
  · rfl

/-- A change of a status by an operator, and then one by nobody in particular, which is refused:
none of the entries of the second call has an operator. -/
example :
    let calls : List DeskCall :=
      [.setSubmissionStatus (.int 1) (.int 2) (.text "alice"),
        .setSubmissionStatus (.int 7) (.int 2) (.text "")]
    let trail := DeskCall.over {} Platform.answer calls
      { state := (World.openContest []).platform, context := [("service", .text "uploads")] }
    trail.context = [("service", .text "uploads")] ∧
      trail.entries.map (fun e => (e.fields.lookup "operator", e.fields.lookup "submission_id")) =
        [(some (.text "alice"), some (.int 1)), (some (.text "alice"), some (.int 1)),
          (some (.text "alice"), some (.int 1)), (none, some (.int 7)), (none, some (.int 7))] := by
  decide +kernel

end ContestUploads
