import ContestUploads.Proofs.Refusing

/-!
# Collaborators that fail

A failure may come before a call has taken any effect, or after it, when nothing but the reply is
lost.  A program that surfaces failures ends in both cases.  So a run over collaborators that fail
now and then goes on as the run without failures does: each of its steps is a step of that run, or
no step at all (`Surfaces.point_of_fails`).
-/

namespace ContestUploads

open Program

variable {α σ τ : Type}

/-- Collaborators over a state with a view on that of others, which answer as the others do or
fail; a call that fails may have taken effect all the same. -/
def Collaborators.Fails (team : Collaborators σ) (view : τ → σ) (faulty : Collaborators τ) :
    Prop :=
  ∀ c t,
    ((faulty c t).reply = (team c (view t)).reply ∧
      view (faulty c t).state = (team c (view t)).state) ∨
    ((∃ e, (faulty c t).reply = .error e) ∧
      (view (faulty c t).state = view t ∨
        view (faulty c t).state = (team c (view t)).state))

/-- Collaborators that refuse fail. -/
theorem Collaborators.Refuses.fails {team : Collaborators σ} {view : τ → σ}
    {faulty : Collaborators τ} (h : team.Refuses view faulty) : team.Fails view faulty :=
  fun c t => (h c t).imp_right fun hrefused => ⟨hrefused.1, .inl hrefused.2⟩

namespace Rehearsal

/-- Collaborators that follow a script of failures fail. -/
theorem following_fails {script : List Fault} (team : Collaborators σ)
    (hscript : ∀ f ∈ script, ∃ e, f.effect = .refuse e ∨ f.effect = .loseReply e) :
    team.Fails Rehearsal.state (Rehearsal.following script team) := by
  intro c r
  simp only [Rehearsal.following]
  rcases hdue : Rehearsal.due? script r c.method with _ | f
  · exact .inl ⟨rfl, rfl⟩
  · right
    obtain ⟨e, heffect | heffect⟩ := hscript f (List.mem_of_find?_eq_some hdue)
    · simp only [heffect]
      exact ⟨⟨e, rfl⟩, .inl rfl⟩
    · simp only [heffect]
      exact ⟨⟨e, rfl⟩, .inr rfl⟩

end Rehearsal

namespace Collaborators

variable (team : Collaborators σ)

theorem after_append (s : σ) (first later : List Call) :
    team.after s (first ++ later) = team.after (team.after s first) later :=
  List.foldl_append

/-- What holds from point to point of two runs in a row holds from point to point of both. -/
theorem steps_append {R : σ → σ → Prop} {s : σ} {first later : List Call}
    (hfirst : ∀ k, R (team.after s (first.take k)) (team.after s (first.take (k + 1))))
    (hlater : ∀ k, R (team.after (team.after s first) (later.take k))
      (team.after (team.after s first) (later.take (k + 1)))) (k : Nat) :
    R (team.after s ((first ++ later).take k)) (team.after s ((first ++ later).take (k + 1))) := by
  rcases Nat.lt_or_ge k first.length with hk | hk
  · rw [List.take_append_of_le_length (Nat.le_of_lt hk), List.take_append_of_le_length hk]
    exact hfirst k
  · rw [List.take_append, List.take_append, List.take_of_length_le hk,
      List.take_of_length_le (Nat.le_succ_of_le hk), after_append, after_append,
      Nat.succ_sub hk]
    exact hlater _

end Collaborators

namespace Program

variable {p : Program α} {shown : Call → Failure → Failure} {team : Collaborators σ}

/-- The state of the collaborators after the first calls of a program; after its last call it stays
as it is. -/
def point (team : Collaborators σ) (p : Program α) (s : σ) (k : Nat) : σ :=
  team.after s (((p.asked team s).map Prod.fst).take k)

theorem point_ask (team : Collaborators σ) (c : Call) (next : Except Failure Value → Program α)
    (s : σ) (k : Nat) : (ask c next).point team s (k + 1) =
      (next (team c s).reply).point team (team c s).state k :=
  rfl

theorem Silent.point (h : p.Silent) (team : Collaborators σ) (s : σ) (k : Nat) :
    p.point team s k = s := by
  rw [Program.point, h.asked, List.map_nil, List.take_nil]
  rfl

/-- A program ends in the state that its calls lead to. -/
theorem outcome_state (team : Collaborators σ) (p : Program α) (s : σ) :
    (p.outcome team s).2 = team.after s ((p.asked team s).map Prod.fst) := by
  induction p generalizing s with
  | done a => rfl
  | fail e => rfl
  | ask c next ih => exact ih _ _
  | log e rest ih => exact ih s
  | bindContext fields rest ih => exact ih s
  | unbindContext names rest ih => exact ih s

/-- **Failures lead nowhere else.**  Each step of a run with failures is a step of the run without
them, or leaves everything as it is. -/
theorem Surfaces.point_of_fails (hp : p.Surfaces shown) {view : τ → σ}
    {faulty : Collaborators τ} (hfaulty : team.Fails view faulty) (t : τ) (k : Nat) :
    ∃ j, view (p.point faulty t k) = p.point team (view t) j ∧
      (view (p.point faulty t (k + 1)) = p.point team (view t) j ∨
        view (p.point faulty t (k + 1)) = p.point team (view t) (j + 1)) := by
  induction p generalizing t k with
  | done a =>
      have hend : (Program.done a).Silent := trivial
      exact ⟨0, by rw [hend.point, hend.point], .inl (by rw [hend.point, hend.point])⟩
  | fail e =>
      have hend : (Program.fail e : Program α).Silent := trivial
      exact ⟨0, by rw [hend.point, hend.point], .inl (by rw [hend.point, hend.point])⟩
  | ask c next ih =>
      have hfirst : (ask c next).point team (view t) 1 = (team c (view t)).state := rfl
      rcases hfaulty c t with ⟨hreply, hstate⟩ | ⟨⟨e, hreply⟩, hstate⟩
      · cases k with
        | zero => exact ⟨0, rfl, .inr (hstate.trans hfirst.symm)⟩
        | succ k =>
            obtain ⟨j, hnow, hnext⟩ := ih _ (hp.next (faulty c t).reply) (faulty c t).state k
            rw [hstate, hreply] at hnow hnext
            refine ⟨j + 1, ?_, ?_⟩
            · rwa [point_ask, point_ask, hreply]
            · rwa [point_ask, point_ask, point_ask, hreply]
      · -- The program ends here; its state stays what the failed call made of it.
        have hlast (i : Nat) : (ask c next).point faulty t (i + 1) = (faulty c t).state := by
          rw [point_ask, hreply]
          exact (hp.1 e).silent.point faulty _ i
        rw [hlast]
        cases k with
        | zero => exact ⟨0, rfl, hstate.imp_right fun h => h.trans hfirst.symm⟩
        | succ k =>
            rw [hlast]
            rcases hstate with hstate | hstate
            · exact ⟨0, hstate, .inl hstate⟩
            · exact ⟨1, hstate, .inl hstate⟩
  | log e rest ih => exact ih hp t k
  | bindContext fields rest ih => exact ih hp t k
  | unbindContext names rest ih => exact ih hp t k

/-- A program that is answered in spite of failures met none: it comes to what it comes to without
them. -/
theorem Surfaces.outcome_of_ok (hp : p.Surfaces shown) {view : τ → σ} {faulty : Collaborators τ}
    (hfaulty : team.Fails view faulty) {t : τ} {a : α} (hok : (p.outcome faulty t).1 = .ok a) :
    p.outcome team (view t) = (.ok a, view (p.outcome faulty t).2) := by
  induction p generalizing t with
  | done b => exact congrArg (·, view t) hok
  | fail e => cases hok
  | ask c next ih =>
      rcases hfaulty c t with ⟨hreply, hstate⟩ | ⟨⟨e, hreply⟩, -⟩
      · have hrest := ih _ (hp.next (faulty c t).reply) (t := (faulty c t).state) hok
        show (next (team c (view t)).reply).outcome team (team c (view t)).state = _
        rw [← hreply, ← hstate]
        exact hrest
      · -- the program ends with the failure of the call
        have hend : (ask c next).outcome faulty t =
            (next (.error e)).outcome faulty (faulty c t).state := by
          rw [← hreply]
          rfl
        rw [hend, (hp.1 e).outcome] at hok
        cases hok
  | log e rest ih => exact ih hp hok
  | bindContext fields rest ih => exact ih hp hok
  | unbindContext names rest ih => exact ih hp hok

end Program

end ContestUploads
