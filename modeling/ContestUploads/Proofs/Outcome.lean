import ContestUploads.Desk

/-!
# What a program comes to

A run keeps a trail of entries and calls, none of which a program can look at.  `outcome` forgets
the trail: it is the result of a program together with the state in which it leaves the
collaborators.  The main fact is `run_outcome`: a run has this result and ends in this state,
whatever context it started in and whatever had been logged before.

The other lemmas say what the parts of a program come to, so that a service is followed one call
at a time.
-/

namespace ContestUploads

namespace Program

variable {α β σ : Type} (team : Collaborators σ)

/-- The result of a program, and the state in which it leaves the collaborators. -/
def outcome : Program α → σ → Except Failure α × σ
  | .done a, s => (.ok a, s)
  | .fail e, s => (.error e, s)
  | .ask c next, s => (next (team c s).reply).outcome (team c s).state
  | .log _ rest, s => rest.outcome s
  | .bindContext _ rest, s => rest.outcome s
  | .unbindContext _ rest, s => rest.outcome s

/-- A run has the result of its program and ends in the state of its program; context, entries and
earlier calls make no difference. -/
theorem run_outcome (p : Program α) (t : Trail σ) :
    ((p.run team t).1, (p.run team t).2.state) = p.outcome team t.state := by
  induction p generalizing t with
  | done a => rfl
  | fail e => rfl
  | ask c next ih => exact ih _ _
  | log e rest ih => exact ih _
  | bindContext fields rest ih => exact ih _
  | unbindContext names rest ih => exact ih _

theorem run_result (p : Program α) (t : Trail σ) :
    (p.run team t).1 = (p.outcome team t.state).1 :=
  congrArg Prod.fst (run_outcome team p t)

theorem run_state (p : Program α) (t : Trail σ) :
    (p.run team t).2.state = (p.outcome team t.state).2 :=
  congrArg Prod.snd (run_outcome team p t)

@[simp] theorem outcome_pure (a : α) (s : σ) :
    (pure a : Program α).outcome team s = (.ok a, s) := rfl

@[simp] theorem outcome_fail (e : Failure) (s : σ) :
    (Program.fail e : Program α).outcome team s = (.error e, s) := rfl

@[simp] theorem outcome_reject (p : ServiceProblem) (s : σ) :
    (reject p : Program α).outcome team s = (.error p.failure, s) := rfl

@[simp] theorem outcome_note (level : Level) (event : String) (fields : Fields) (s : σ) :
    (note level event fields).outcome team s = (.ok (), s) := rfl

@[simp] theorem outcome_ofExcept_ok (a : α) (s : σ) :
    (ofExcept (.ok a)).outcome team s = (.ok a, s) := rfl

@[simp] theorem outcome_ofExcept_error (e : Failure) (s : σ) :
    (ofExcept (.error e) : Program α).outcome team s = (.error e, s) := rfl

/-- One program after another: a failure of the first ends both. -/
theorem outcome_bind (p : Program α) (f : α → Program β) (s : σ) :
    (p >>= f).outcome team s =
      match p.outcome team s with
      | (.ok a, u) => (f a).outcome team u
      | (.error e, u) => (.error e, u) := by
  show (p.bind f).outcome team s = _
  induction p generalizing s with
  | done a => rfl
  | fail e => rfl
  | ask c next ih => exact ih _ _
  | log e rest ih => exact ih _
  | bindContext fields rest ih => exact ih _
  | unbindContext names rest ih => exact ih _

variable {team}

theorem outcome_bind_ok {p : Program α} {f : α → Program β} {s u : σ} {a : α}
    (h : p.outcome team s = (.ok a, u)) :
    (p >>= f).outcome team s = (f a).outcome team u := by
  rw [outcome_bind, h]

theorem outcome_bind_error {p : Program α} {f : α → Program β} {s u : σ} {e : Failure}
    (h : p.outcome team s = (.error e, u)) :
    (p >>= f).outcome team s = (.error e, u) := by
  rw [outcome_bind, h]

variable (team)

/-- A failure that is recovered from goes on in the state in which it came. -/
theorem outcome_recover (p : Program α) (handle : Failure → Program α) (s : σ) :
    (p.recover handle).outcome team s =
      match p.outcome team s with
      | (.ok a, u) => (.ok a, u)
      | (.error e, u) => (handle e).outcome team u := by
  induction p generalizing s with
  | done a => rfl
  | fail e => rfl
  | ask c next ih => exact ih _ _
  | log e rest ih => exact ih _
  | bindContext fields rest ih => exact ih _
  | unbindContext names rest ih => exact ih _

variable {team}

/-- A guard is not seen of a program that succeeds. -/
theorem outcome_guarded_ok {action : Value} {context : Fields} {p : Program α} {s u : σ} {a : α}
    (free : context.lookup "action" = none) (h : p.outcome team s = (.ok a, u)) :
    (guarded action context p).outcome team s = (.ok a, u) := by
  rw [guarded_eq free, outcome_recover, h]

/-- A call that is answered. -/
theorem outcome_call_ok {c : Call} {s : σ} {v : Value} (h : (team c s).reply = .ok v) :
    (call c).outcome team s = (.ok v, (team c s).state) := by
  show (ofExcept (team c s).reply).outcome team (team c s).state = _
  rw [h, outcome_ofExcept_ok]

/-- A guarded call that is answered. -/
theorem outcome_askGuarded_ok {action : String} {context : Fields} {c : Call} {s : σ} {v : Value}
    (free : context.lookup "action" = none) (h : (team c s).reply = .ok v) :
    (askGuarded action context c).outcome team s = (.ok v, (team c s).state) :=
  outcome_guarded_ok free (outcome_call_ok h)

/-- A guarded call that fails leaves the rest to the guard. -/
theorem outcome_askGuarded_error {action : String} {context : Fields} {c : Call} {s : σ}
    {e : Failure} (free : context.lookup "action" = none) (h : (team c s).reply = .error e) :
    (askGuarded action context c).outcome team s =
      (raiseGuarded (.text action) context e : Program Value).outcome team (team c s).state := by
  have hcall : (call c).outcome team s = (.error e, (team c s).state) := by
    show (ofExcept (team c s).reply).outcome team (team c s).state = _
    rw [h, outcome_ofExcept_error]
  unfold askGuarded
  rw [guarded_eq free, outcome_recover, hcall]

end Program

namespace Desk

variable {α σ : Type}

/-- The frame of a call of the desk, its context and its two entries, changes neither what the
call comes to nor what it leaves behind. -/
theorem outcome_within (team : Collaborators σ) (context entered : Fields) (body : Program α)
    (s : σ) : (within context entered body).outcome team s = body.outcome team s := by
  show (body.ensuring _).outcome team s = _
  unfold Program.ensuring
  show (Program.recover body _ >>= _).outcome team s = _
  rw [Program.outcome_bind, Program.outcome_recover]
  obtain ⟨result, u⟩ := body.outcome team s
  cases result <;> rfl

end Desk

end ContestUploads
