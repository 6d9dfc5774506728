import ContestUploads.Proofs.Surfacing

/-!
# Nothing is written before the gate

`Program.Awaits` says of a program that it asks no call that writes until it has seen something, and
what holds of its results if it ends without having seen it.  It is about all replies at once, so it
holds whatever the collaborators do, faults included.

The intake of an upload waits for the tracker to answer with an open gating phase
(`awaits_takeIn`): in each of its runs a call that writes comes after such an answer
(`Awaits.seen_before`).
-/

namespace ContestUploads

namespace Program

variable {α β σ : Type}

/-- A program asks no call that writes before it has `seen` a call with its reply; if it ends before
that with a result, this result is as stated. -/
def Awaits (seen : Call → Except Failure Value → Prop) (Q : α → Prop) : Program α → Prop
  | .done a => Q a
  | .fail _ => True
  | .ask c next => c.method.writes = false ∧ ∀ reply, seen c reply ∨ (next reply).Awaits seen Q
  | .log _ rest => rest.Awaits seen Q
  | .bindContext _ rest => rest.Awaits seen Q
  | .unbindContext _ rest => rest.Awaits seen Q

variable {seen : Call → Except Failure Value → Prop} {Q : α → Prop} {p : Program α}

theorem EndsWith.awaits {f : Failure} (h : p.EndsWith f) : p.Awaits seen Q := by
  induction p with
  | done a => exact h.elim
  | fail e => trivial
  | ask c next ih => exact h.elim
  | log e rest ih => exact ih h
  | bindContext fields rest ih => exact ih h
  | unbindContext names rest ih => exact ih h

theorem awaits_ofExcept {x : Except Failure α} (h : ∀ a, x = .ok a → Q a) :
    (ofExcept x).Awaits seen Q := by
  cases x with
  | error e => trivial
  | ok a => exact h a rfl

/-- What was awaited may be told in other words. -/
theorem Awaits.imp {seen' : Call → Except Failure Value → Prop}
    (hseen : ∀ c reply, seen c reply → seen' c reply) (hp : p.Awaits seen Q) :
    p.Awaits seen' Q := by
  induction p with
  | done a => exact hp
  | fail e => trivial
  | ask c next ih =>
      refine ⟨hp.1, fun reply => ?_⟩
      rcases hp.2 reply with hnow | hnext
      · exact .inl (hseen c reply hnow)
      · exact .inr (ih reply hnext)
  | log e rest ih => exact ih hp
  | bindContext fields rest ih => exact ih hp
  | unbindContext names rest ih => exact ih hp

theorem Silent.awaits (hp : p.Silent) : p.Awaits seen fun _ => True := by
  induction p with
  | done a => trivial
  | fail e => trivial
  | ask c next ih => exact hp.elim
  | log e rest ih => exact ih hp
  | bindContext fields rest ih => exact ih hp
  | unbindContext names rest ih => exact ih hp

theorem Awaits.bind {f : α → Program β} {R : β → Prop} (hp : p.Awaits seen Q)
    (hf : ∀ a, Q a → (f a).Awaits seen R) : (p >>= f).Awaits seen R := by
  show (p.bind f).Awaits seen R
  induction p with
  | done a => exact hf a hp
  | fail e => trivial
  | ask c next ih =>
      refine ⟨hp.1, fun reply => ?_⟩
      rcases hp.2 reply with hseen | hnext
      · exact .inl hseen
      · exact .inr (ih reply hnext)
  | log e rest ih => exact ih hp
  | bindContext fields rest ih => exact ih hp
  | unbindContext names rest ih => exact ih hp

/-- A step whose result is looked at no further. -/
theorem awaits_ofExcept_bind {x : Except Failure α} {f : α → Program β} {R : β → Prop}
    (hf : ∀ a, x = .ok a → (f a).Awaits seen R) : (ofExcept x >>= f).Awaits seen R :=
  Awaits.bind (awaits_ofExcept (Q := fun a => x = .ok a) fun _ h => h) hf

theorem Awaits.recover {handle : Failure → Program α} (hp : p.Awaits seen Q)
    (hhandle : ∀ e, (handle e).Awaits seen Q) : (p.recover handle).Awaits seen Q := by
  induction p with
  | done a => exact hp
  | fail e => exact hhandle e
  | ask c next ih =>
      refine ⟨hp.1, fun reply => ?_⟩
      rcases hp.2 reply with hseen | hnext
      · exact .inl hseen
      · exact .inr (ih reply hnext)
  | log e rest ih => exact ih hp
  | bindContext fields rest ih => exact ih hp
  | unbindContext names rest ih => exact ih hp

theorem Awaits.guarded {action : Value} {context : Fields} (hp : p.Awaits seen Q) :
    (guarded action context p).Awaits seen Q := by
  unfold Program.guarded
  cases context.lookup "action" with
  | none =>
      refine hp.recover fun e => ?_
      unfold raiseGuarded
      split <;> trivial
  | some _ => trivial

/-- A call that only reads. -/
theorem awaits_call {c : Call} (hc : c.method.writes = false) :
    (call c).Awaits seen fun _ => True :=
  ⟨hc, fun _ => .inr (awaits_ofExcept fun _ _ => trivial)⟩

theorem awaits_askGuarded {action : String} {context : Fields} {c : Call}
    (hc : c.method.writes = false) : (askGuarded action context c).Awaits seen fun _ => True :=
  (awaits_call hc).guarded

/-- **What is awaited comes first.**  Before a call that writes there is one that was seen, with the
reply that was awaited. -/
theorem Awaits.seen_before (hp : p.Awaits seen Q) {team : Collaborators σ} {s t : σ}
    {before rest : List (Call × σ)} {c : Call}
    (hasked : p.asked team s = before ++ (c, t) :: rest) (hc : c.method.writes = true) :
    ∃ x ∈ before, seen x.1 (team x.1 x.2).reply := by
  induction p generalizing s before with
  | done a => cases before <;> cases hasked
  | fail e => cases before <;> cases hasked
  | ask c' next ih =>
      rw [asked] at hasked
      cases before with
      | nil =>
          obtain ⟨hfirst, -⟩ := List.cons.inj hasked
          obtain ⟨rfl, -⟩ := Prod.mk.inj hfirst
          have hreads := hp.1
          rw [hc] at hreads
          cases hreads
      | cons first before =>
          obtain ⟨rfl, hlater⟩ := List.cons.inj hasked
          rcases hp.2 (team c' s).reply with hseen | hnext
          · exact ⟨(c', s), List.mem_cons_self, hseen⟩
          · obtain ⟨x, hx, hseen⟩ := ih _ hnext hlater
            exact ⟨x, List.mem_cons_of_mem _ hx, hseen⟩
  | log e rest' ih => exact ih hp hasked
  | bindContext fields rest' ih => exact ih hp hasked
  | unbindContext names rest' ih => exact ih hp hasked

end Program

namespace Reception

open Program

/-- The tracker has answered with phases of a project of which the first gating one is open. -/
structure SeesOpenGate (projectId names : Value) (c : Call) (reply : Except Failure Value) :
    Prop where
  asked : c = .phases projectId
  answered : ∃ found phases phase isOpen, reply = .ok found ∧ found.members = .ok phases ∧
    gating? names phases = .ok (some phase) ∧ phase.read "is_open" = .ok isOpen ∧
    isOpen.truthy = true

/-- The gate is not passed before it was seen to be open. -/
theorem awaits_openPhase (projectId names : Value) :
    (openPhase projectId names).Awaits (SeesOpenGate projectId names) fun _ => False := by
  unfold openPhase askGuarded
  rw [guarded_eq_recover rfl]
  refine ⟨rfl, fun reply => ?_⟩
  rcases reply with e | found
  · exact .inr (endsWith_raiseGuarded _ _ e).bind.awaits
  by_cases hseen : SeesOpenGate projectId names (.phases projectId) (.ok found)
  · exact .inl hseen
  · right
    refine awaits_ofExcept_bind fun phases hphases => ?_
    refine awaits_ofExcept_bind fun gating hgating => ?_
    rcases gating with _ | phase
    · exact awaits_ofExcept_bind fun accepted _ => trivial
    · refine awaits_ofExcept_bind fun isOpen hopen => ?_
      split
      · rename_i hyes
        exact absurd ⟨rfl, found, phases, phase, isOpen, rfl, hphases, hgating, hopen, hyes⟩ hseen
      · refine awaits_ofExcept_bind fun id _ => awaits_ofExcept_bind fun type _ => ?_
        refine awaits_ofExcept_bind fun status _ => awaits_ofExcept_bind fun shown _ => ?_
        exact trivial

theorem awaits_eligiblePhase (projectId : Int) (rule : Rule) :
    (eligiblePhase projectId rule).Awaits
      (SeesOpenGate (.int projectId) (.ofTexts rule.phaseNames)) fun _ => False := by
  unfold eligiblePhase
  refine (awaits_openPhase _ _).recover fun e => ?_
  split <;> trivial

section Before

variable (seen : Call → Except Failure Value → Prop)

/-! What stands before the gate only reads. -/

theorem awaits_loadProject (projectId : Int) :
    (loadProject projectId).Awaits seen fun _ => True := by
  refine (awaits_askGuarded rfl).bind fun project _ => ?_
  split <;> trivial

theorem awaits_requireWinner (settings : Settings) (project : Value) (userId : Int) :
    (requireWinner settings project userId).Awaits seen fun _ => True := by
  refine awaits_ofExcept_bind fun property _ => ?_
  split
  split
  · trivial
  · exact awaits_ofExcept_bind fun id _ => trivial

theorem awaits_actingResource (settings : Settings) (projectId userId names : Value) :
    (actingResource settings projectId userId names).Awaits seen fun _ => True := by
  have honly (found : Value) :
      (onlyResource projectId userId found).Awaits seen fun _ => True := by
    unfold onlyResource
    refine awaits_ofExcept_bind fun count _ => ?_
    split
    · refine awaits_ofExcept_bind fun resource _ => awaits_ofExcept_bind fun id _ => ?_
      exact awaits_ofExcept_bind fun roleId _ => trivial
    · trivial
  have hsearch (filter : Filter) :
      (call (.searchResources (.filter filter))).Awaits seen fun _ => True :=
    awaits_call rfl
  unfold actingResource roleIds
  refine Awaits.bind (Q := fun _ => True) ?_ fun ids _ => ?_
  · exact (awaits_askGuarded rfl).bind fun roles _ => awaits_ofExcept fun _ _ => trivial
  · split
    · trivial
    · refine Awaits.bind (Q := fun _ => True) ?_ fun found _ => honly found
      exact (awaits_ofExcept_bind fun filter _ => hsearch filter).guarded

end Before

/-- Whether a call and its reply show that the gating phase of a request is open. -/
def SeesRequestAdmitted (category projectId userId filename : Value) (c : Call)
    (reply : Except Failure Value) : Prop :=
  ∃ request, UploadRequest.ofFields [("category", category), ("project_id", projectId),
      ("user_id", userId), ("filename", filename)] = .ok request ∧
    SeesOpenGate (.int request.projectId) (.ofTexts request.category.rule.phaseNames) c reply

/-- **The intake waits for the gate.** -/
theorem awaits_takeIn (settings : Settings) (category projectId userId filename : Value) :
    (takeIn settings category projectId userId filename).Awaits
      (SeesRequestAdmitted category projectId userId filename) fun _ => True := by
  unfold takeIn
  refine awaits_ofExcept_bind fun request hrequest => ?_
  have hreceive (project resource : Value) :
      (receive settings request project resource).Awaits
        (SeesRequestAdmitted category projectId userId filename) fun _ => True := by
    have hphase : (eligiblePhase request.projectId request.category.rule).Awaits
        (SeesRequestAdmitted category projectId userId filename) fun _ => False :=
      (awaits_eligiblePhase _ _).imp fun c reply hseen => ⟨request, hrequest, hseen⟩
    exact hphase.bind fun phase hnever => hnever.elim
  refine (awaits_loadProject _ request.projectId).bind fun project _ => ?_
  refine (awaits_actingResource _ settings _ _ _).bind fun resource _ => ?_
  split
  · exact (awaits_requireWinner _ settings project request.userId).bind fun _ _ =>
      hreceive project resource
  · exact hreceive project resource

end Reception

namespace Desk

open Program Reception

/-- An upload at the desk waits for the gate. -/
theorem awaits_upload (settings : Settings) (category projectId userId filename : Value) :
    (upload settings category projectId userId filename).Awaits
      (SeesRequestAdmitted category projectId userId filename) fun _ => True := by
  refine awaits_ofExcept_bind fun context _ => ?_
  show ((takeIn settings category projectId userId filename).ensuring _).Awaits _ _
  unfold Program.ensuring
  have hrecovered : ((takeIn settings category projectId userId filename).recover fun e =>
      Program.bind (do
        note .debug "operation_exited" []
        leaveContext contextNames) fun _ => .fail e).Awaits
      (SeesRequestAdmitted category projectId userId filename) fun _ => True :=
    (awaits_takeIn settings category projectId userId filename).recover fun e => trivial
  exact hrecovered.bind fun a _ => trivial

end Desk

end ContestUploads
