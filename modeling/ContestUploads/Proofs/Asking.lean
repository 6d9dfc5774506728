import ContestUploads.Proofs.Outcome

/-!
# What a program asks

`Program.asked` lists the calls of a run, each with the state in which it finds the collaborators;
what came back is the answer to that call in that state.  A run makes these calls and no others
(`run_calls`), and each call finds the state that the calls before it left (`after_of_asked`).

The rest of the file is about shape.  Whatever comes back, a program may ask nothing at all
(`Silent`), and it may end at once with a failure (`EndsWith`).  A program that `Surfaces` the
failures of its calls never goes on after one: it asks nothing more and ends with a failure that
hangs on the call and on what was raised, not on the moment.
-/

namespace ContestUploads

variable {α β σ : Type}

/-- The state in which collaborators are after some calls, whatever these came to. -/
def Collaborators.after (team : Collaborators σ) (s : σ) (calls : List Call) : σ :=
  calls.foldl (fun t c => (team c t).state) s

namespace Program

/-- The calls of a program in order, each with the state in which it finds the collaborators. -/
def asked (team : Collaborators σ) : Program α → σ → List (Call × σ)
  | .done _, _ => []
  | .fail _, _ => []
  | .ask c next, s => (c, s) :: (next (team c s).reply).asked team (team c s).state
  | .log _ rest, s => rest.asked team s
  | .bindContext _ rest, s => rest.asked team s
  | .unbindContext _ rest, s => rest.asked team s

section Runs

variable (team : Collaborators σ)

/-- A run makes the calls that its program asks, after those that were made before. -/
theorem run_calls (p : Program α) (t : Trail σ) :
    (p.run team t).2.calls = t.calls ++ (p.asked team t.state).map Prod.fst := by
  induction p generalizing t with
  | done a => exact (List.append_nil t.calls).symm
  | fail e => exact (List.append_nil t.calls).symm
  | ask c next ih =>
      have hnext := ih (team c t.state).reply (t.answered c (team c t.state))
      rw [run, hnext, asked, List.map_cons]
      exact List.append_assoc t.calls [c] _
  | log e rest ih => exact ih _
  | bindContext fields rest ih => exact ih _
  | unbindContext names rest ih => exact ih _

/-- Each call finds the collaborators as the calls before it left them. -/
theorem after_of_asked (p : Program α) {s t : σ} {before rest : List (Call × σ)} {c : Call}
    (h : p.asked team s = before ++ (c, t) :: rest) :
    t = Collaborators.after team s (before.map Prod.fst) := by
  induction p generalizing s before with
  | done a => cases before <;> cases h
  | fail e => cases before <;> cases h
  | ask c' next ih =>
      rw [asked] at h
      cases before with
      | nil =>
          obtain ⟨hfirst, -⟩ := List.cons.inj h
          exact (Prod.mk.inj hfirst).2.symm
      | cons first before =>
          obtain ⟨rfl, hlater⟩ := List.cons.inj h
          show t = Collaborators.after team (team c' s).state (before.map Prod.fst)
          exact ih _ hlater
  | log e rest ih => exact ih h
  | bindContext fields rest ih => exact ih h
  | unbindContext names rest ih => exact ih h

/-- One program after another asks what the first asks and then, unless the first has failed, what
the second asks. -/
theorem asked_bind (p : Program α) (f : α → Program β) (s : σ) :
    (p >>= f).asked team s = p.asked team s ++
      match p.outcome team s with
      | (.ok a, u) => (f a).asked team u
      | (.error _, _) => [] := by
  show (p.bind f).asked team s = _
  induction p generalizing s with
  | done a => rfl
  | fail e => rfl
  | ask c next ih => exact congrArg ((c, s) :: ·) (ih _ _)
  | log e rest ih => exact ih s
  | bindContext fields rest ih => exact ih s
  | unbindContext names rest ih => exact ih s

/-- A program that recovers asks what it asks before, and in the end what the recovery asks. -/
theorem asked_recover (p : Program α) (handle : Failure → Program α) (s : σ) :
    (p.recover handle).asked team s = p.asked team s ++
      match p.outcome team s with
      | (.ok _, _) => []
      | (.error e, u) => (handle e).asked team u := by
  induction p generalizing s with
  | done a => rfl
  | fail e => exact (List.nil_append _).symm
  | ask c next ih => exact congrArg ((c, s) :: ·) (ih _ _)
  | log e rest ih => exact ih s
  | bindContext fields rest ih => exact ih s
  | unbindContext names rest ih => exact ih s

variable {team}

theorem asked_bind_ok {p : Program α} {f : α → Program β} {s u : σ} {a : α}
    (h : p.outcome team s = (.ok a, u)) :
    (p >>= f).asked team s = p.asked team s ++ (f a).asked team u := by
  rw [asked_bind, h]

theorem asked_bind_error {p : Program α} {f : α → Program β} {s u : σ} {e : Failure}
    (h : p.outcome team s = (.error e, u)) : (p >>= f).asked team s = p.asked team s := by
  rw [asked_bind, h, List.append_nil]

end Runs

/-- A program that asks nothing. -/
def Silent : Program α → Prop
  | .done _ => True
  | .fail _ => True
  | .ask _ _ => False
  | .log _ rest => rest.Silent
  | .bindContext _ rest => rest.Silent
  | .unbindContext _ rest => rest.Silent

/-- A program that asks nothing and ends with a failure. -/
def EndsWith (f : Failure) : Program α → Prop
  | .done _ => False
  | .fail e => e = f
  | .ask _ _ => False
  | .log _ rest => rest.EndsWith f
  | .bindContext _ rest => rest.EndsWith f
  | .unbindContext _ rest => rest.EndsWith f

/-- A program that never goes on after a call has failed: it asks nothing more and ends with what
the failure of that call is shown as. -/
def Surfaces (shown : Call → Failure → Failure) : Program α → Prop
  | .done _ => True
  | .fail _ => True
  | .ask c next =>
      (∀ e, (next (.error e)).EndsWith (shown c e)) ∧ ∀ v, (next (.ok v)).Surfaces shown
  | .log _ rest => rest.Surfaces shown
  | .bindContext _ rest => rest.Surfaces shown
  | .unbindContext _ rest => rest.Surfaces shown

section Silent

variable {p : Program α}

theorem silent_ofExcept (x : Except Failure α) : (ofExcept x).Silent := by
  cases x <;> trivial

theorem Silent.asked (h : p.Silent) (team : Collaborators σ) (s : σ) : p.asked team s = [] := by
  induction p with
  | done a => rfl
  | fail e => rfl
  | ask c next ih => exact h.elim
  | log e rest ih => exact ih h
  | bindContext fields rest ih => exact ih h
  | unbindContext names rest ih => exact ih h

theorem Silent.bind {f : α → Program β} (hp : p.Silent) (hf : ∀ a, (f a).Silent) :
    (p >>= f).Silent := by
  show (p.bind f).Silent
  induction p with
  | done a => exact hf a
  | fail e => trivial
  | ask c next ih => exact hp.elim
  | log e rest ih => exact ih hp
  | bindContext fields rest ih => exact ih hp
  | unbindContext names rest ih => exact ih hp

theorem Silent.recover {handle : Failure → Program α} (hp : p.Silent)
    (hhandle : ∀ e, (handle e).Silent) : (p.recover handle).Silent := by
  induction p with
  | done a => trivial
  | fail e => exact hhandle e
  | ask c next ih => exact hp.elim
  | log e rest ih => exact ih hp
  | bindContext fields rest ih => exact ih hp
  | unbindContext names rest ih => exact ih hp

theorem Silent.surfaces (hp : p.Silent) (shown : Call → Failure → Failure) :
    p.Surfaces shown := by
  induction p with
  | done a => trivial
  | fail e => trivial
  | ask c next ih => exact hp.elim
  | log e rest ih => exact ih hp
  | bindContext fields rest ih => exact ih hp
  | unbindContext names rest ih => exact ih hp

end Silent

section EndsWith

variable {p : Program α} {e f : Failure}

/-- A program that ends with a failure comes to it and leaves everything as it is. -/
theorem EndsWith.outcome (h : p.EndsWith f) (team : Collaborators σ) (s : σ) :
    p.outcome team s = (.error f, s) := by
  induction p with
  | done a => exact h.elim
  | fail e => exact congrArg (fun x => (Except.error x, s)) h
  | ask c next ih => exact h.elim
  | log e rest ih => exact ih h
  | bindContext fields rest ih => exact ih h
  | unbindContext names rest ih => exact ih h

theorem EndsWith.silent (h : p.EndsWith f) : p.Silent := by
  induction p with
  | done a => trivial
  | fail e => trivial
  | ask c next ih => exact h.elim
  | log e rest ih => exact ih h
  | bindContext fields rest ih => exact ih h
  | unbindContext names rest ih => exact ih h

theorem EndsWith.bind {g : α → Program β} (h : p.EndsWith f) : (p >>= g).EndsWith f := by
  show (p.bind g).EndsWith f
  induction p with
  | done a => exact h.elim
  | fail e => exact h
  | ask c next ih => exact h.elim
  | log e rest ih => exact ih h
  | bindContext fields rest ih => exact ih h
  | unbindContext names rest ih => exact ih h

/-- A recovery goes on from the failure that a program ends with. -/
theorem EndsWith.recover {handle : Failure → Program α} (h : p.EndsWith e)
    (hhandle : (handle e).EndsWith f) : (p.recover handle).EndsWith f := by
  induction p with
  | done a => exact h.elim
  | fail e' => exact h ▸ hhandle
  | ask c next ih => exact h.elim
  | log e' rest ih => exact ih h
  | bindContext fields rest ih => exact ih h
  | unbindContext names rest ih => exact ih h

end EndsWith

section Surfaces

variable {p : Program α} {shown : Call → Failure → Failure}

theorem surfaces_ofExcept (x : Except Failure α) : (ofExcept x).Surfaces shown :=
  (silent_ofExcept x).surfaces shown

theorem surfaces_note (level : Level) (event : String) (fields : Fields) :
    (note level event fields).Surfaces shown :=
  trivial

/-- One program after another surfaces what both surface. -/
theorem Surfaces.bind {f : α → Program β} (hp : p.Surfaces shown)
    (hf : ∀ a, (f a).Surfaces shown) : (p >>= f).Surfaces shown := by
  show (p.bind f).Surfaces shown
  induction p with
  | done a => exact hf a
  | fail e => trivial
  | ask c next ih => exact ⟨fun e => (hp.1 e).bind, fun v => ih _ (hp.2 v)⟩
  | log e rest ih => exact ih hp
  | bindContext fields rest ih => exact ih hp
  | unbindContext names rest ih => exact ih hp

/-- A recovery that ends with the failure that it is given surfaces what the program does. -/
theorem Surfaces.recover {handle : Failure → Program α} (hp : p.Surfaces shown)
    (hhandle : ∀ e, (handle e).EndsWith e) : (p.recover handle).Surfaces shown := by
  induction p with
  | done a => trivial
  | fail e => exact (hhandle e).silent.surfaces shown
  | ask c next ih => exact ⟨fun e => (hp.1 e).recover (hhandle _), fun v => ih _ (hp.2 v)⟩
  | log e rest ih => exact ih hp
  | bindContext fields rest ih => exact ih hp
  | unbindContext names rest ih => exact ih hp

/-- A call under a recovery that ends surfaces what the recovery ends with. -/
theorem surfaces_call_recover {c : Call} {handle : Failure → Program Value}
    (hhandle : ∀ e, (handle e).EndsWith (shown c e)) :
    ((call c).recover handle).Surfaces shown :=
  ⟨fun e => hhandle e, fun _ => trivial⟩

/-- Whatever comes back of the first call, what is left surfaces failures too. -/
theorem Surfaces.next {c : Call} {next : Except Failure Value → Program α}
    (h : (Program.ask c next).Surfaces shown) (reply : Except Failure Value) :
    (next reply).Surfaces shown := by
  cases reply with
  | error e => exact (h.1 e).silent.surfaces shown
  | ok v => exact h.2 v

/-- **A failure ends a run.**  If a call of a program fails, it is the last one; the program leaves
the collaborators as that call left them and comes to what the failure is shown as. -/
theorem Surfaces.outcome_of_error (hp : p.Surfaces shown) {team : Collaborators σ} {s t : σ}
    {before rest : List (Call × σ)} {c : Call} {e : Failure}
    (hasked : p.asked team s = before ++ (c, t) :: rest) (hreply : (team c t).reply = .error e) :
    rest = [] ∧ p.outcome team s = (.error (shown c e), (team c t).state) := by
  induction p generalizing s before with
  | done a => cases before <;> cases hasked
  | fail e => cases before <;> cases hasked
  | ask c' next ih =>
      rw [asked] at hasked
      rw [outcome]
      cases before with
      | nil =>
          obtain ⟨hfirst, hlater⟩ := List.cons.inj hasked
          obtain ⟨rfl, rfl⟩ := Prod.mk.inj hfirst
          rw [hreply] at hlater ⊢
          have hend := hp.1 e
          rw [hend.silent.asked] at hlater
          exact ⟨hlater.symm, hend.outcome team _⟩
      | cons first before =>
          obtain ⟨rfl, hlater⟩ := List.cons.inj hasked
          rcases hfirst : (team c' s).reply with e' | v
          · -- The call in question came after this one, which cannot have failed.
            rw [hfirst, (hp.1 e').silent.asked] at hlater
            cases before <;> cases hlater
          · rw [hfirst] at hlater
            exact ih (.ok v) (hp.2 v) hlater
  | log e' rest' ih => exact ih hp hasked
  | bindContext fields rest' ih => exact ih hp hasked
  | unbindContext names rest' ih => exact ih hp hasked

end Surfaces

end Program

namespace Desk

/-- The frame of a call of the desk asks nothing. -/
theorem asked_within (team : Collaborators σ) (context entered : Fields) (body : Program α)
    (s : σ) : (within context entered body).asked team s = body.asked team s := by
  show (body.ensuring _).asked team s = _
  unfold Program.ensuring
  show (Program.recover body _ >>= _).asked team s = _
  rw [Program.asked_bind, Program.asked_recover, Program.outcome_recover]
  rcases body.outcome team s with ⟨e | a, u⟩
  · show body.asked team s ++ [] ++ [] = _
    rw [List.append_nil, List.append_nil]
  · show body.asked team s ++ [] ++ [] = _
    rw [List.append_nil, List.append_nil]

end Desk

end ContestUploads
