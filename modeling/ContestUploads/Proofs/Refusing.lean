import ContestUploads.Fault
import ContestUploads.Proofs.Surfacing

/-!
# Collaborators that refuse

A refusal is a failure without any effect.  Collaborators that answer as others do and sometimes
refuse keep a program that surfaces failures on the way that it goes with the others: its calls are
the first of the calls there, and it stops in a state that is passed there.

`Fault.refusing` is the fault that refuses one call of a run.  With it the calls are those up to the
one refused, the state is the one that this call found, and the program ends with what the refusal
is shown as.
-/

namespace ContestUploads

open Program

variable {α σ τ : Type}

/-- Collaborators over a state with a view on that of others, which answer as the others do or
refuse. -/
def Collaborators.Refuses (team : Collaborators σ) (view : τ → σ) (faulty : Collaborators τ) :
    Prop :=
  ∀ c t,
    ((faulty c t).reply = (team c (view t)).reply ∧
      view (faulty c t).state = (team c (view t)).state) ∨
    ((∃ e, (faulty c t).reply = .error e) ∧ view (faulty c t).state = view t)

namespace Program

variable {p : Program α} {shown : Call → Failure → Failure} {team : Collaborators σ}

/-- **Refusals do not lead astray.**  With collaborators that refuse now and then, the calls are the
first of those without refusals, and the last state is one that is passed without them. -/
theorem Surfaces.of_refuses (hp : p.Surfaces shown) {view : τ → σ} {faulty : Collaborators τ}
    (hfaulty : team.Refuses view faulty) (t : τ) :
    (p.asked faulty t).map Prod.fst <+: (p.asked team (view t)).map Prod.fst ∧
      ∃ k, view (p.outcome faulty t).2 =
        Collaborators.after team (view t) (((p.asked team (view t)).map Prod.fst).take k) := by
  induction p generalizing t with
  | done a => exact ⟨List.prefix_rfl, 0, rfl⟩
  | fail e => exact ⟨List.prefix_rfl, 0, rfl⟩
  | ask c next ih =>
      rw [asked, asked, outcome, List.map_cons, List.map_cons]
      rcases hfaulty c t with ⟨hreply, hstate⟩ | ⟨⟨e, hreply⟩, hstate⟩
      · obtain ⟨hcalls, k, hlast⟩ := ih (team c (view t)).reply (hp.next _) (faulty c t).state
        rw [hstate] at hcalls hlast
        rw [hreply]
        exact ⟨List.prefix_cons_inj c |>.2 hcalls, k + 1, hlast⟩
      · have hend := hp.1 e
        rw [hreply, hend.silent.asked, hend.outcome]
        exact ⟨⟨_, rfl⟩, 0, hstate⟩
  | log e rest ih => exact ih hp t
  | bindContext fields rest ih => exact ih hp t
  | unbindContext names rest ih => exact ih hp t

end Program

namespace Rehearsal

/-- Collaborators that follow a script of refusals refuse. -/
theorem following_refuses {script : List Fault} (team : Collaborators σ)
    (hscript : ∀ f ∈ script, ∃ e, f.effect = .refuse e) :
    team.Refuses Rehearsal.state (Rehearsal.following script team) := by
  intro c r
  simp only [Rehearsal.following]
  rcases hdue : Rehearsal.due? script r c.method with _ | f
  · exact .inl ⟨rfl, rfl⟩
  · obtain ⟨e, heffect⟩ := hscript f (List.mem_of_find?_eq_some hdue)
    right
    simp only [heffect]
    exact ⟨⟨e, rfl⟩, rfl⟩

end Rehearsal

/-- The fault that refuses a call of which it is known what was asked for before. -/
def Fault.refusing (before : List Method) (c : Call) (e : Failure) : Fault :=
  { method := c.method
    nth := before.count c.method + 1
    effect := .refuse e }

namespace Program

variable {p : Program α} {shown : Call → Failure → Failure} {team : Collaborators σ}

/-- A fault applies to a call of its operation exactly if it is due. -/
theorem due?_refusing (before : List Method) (c : Call) (e : Failure) (r : Rehearsal σ)
    (m : Method) :
    Rehearsal.due? [.refusing before c e] r m =
      if m = c.method ∧ r.made.count m = before.count m then some (.refusing before c e)
      else none := by
  have happlies : (Fault.refusing before c e).applies m (r.made.count m + 1) = true ↔
      m = c.method ∧ r.made.count m = before.count m := by
    simp only [Fault.applies, Fault.refusing, Bool.and_eq_true, beq_iff_eq, Bool.or_eq_true]
    constructor
    · rintro ⟨rfl, hzero | hcount⟩
      · omega
      · exact ⟨rfl, by omega⟩
    · rintro ⟨rfl, hcount⟩
      exact ⟨rfl, .inr (by omega)⟩
  rw [Rehearsal.due?, List.find?_cons]
  by_cases h : m = c.method ∧ r.made.count m = before.count m
  · rw [happlies.2 h, if_pos h]
  · rw [Bool.eq_false_iff.2 fun hdue => h (happlies.1 hdue), if_neg h]
    rfl

/-- A call that is refused: nothing happens, and the program ends. -/
theorem Surfaces.outcome_of_fault (hp : p.Surfaces shown) {s u : σ}
    {before rest : List (Call × σ)} {c : Call}
    (hasked : p.asked team s = before ++ (c, u) :: rest) (e : Failure) (made : List Method) :
    let faulty := Rehearsal.following
      [.refusing (made ++ before.map fun x => x.1.method) c e] team
    (p.asked faulty ⟨s, made⟩).map Prod.fst = before.map Prod.fst ++ [c] ∧
      (p.outcome faulty ⟨s, made⟩).1 = .error (shown c e) ∧
      (p.outcome faulty ⟨s, made⟩).2.state = u := by
  induction p generalizing s before made with
  | done a => cases before <;> cases hasked
  | fail e => cases before <;> cases hasked
  | ask c' next ih =>
      intro faulty
      rw [Program.asked] at hasked ⊢
      rw [Program.outcome]
      cases before with
      | nil =>
          obtain ⟨hfirst, -⟩ := List.cons.inj hasked
          obtain ⟨rfl, rfl⟩ := Prod.mk.inj hfirst
          have hanswer : faulty c' ⟨s, made⟩ = ⟨.error e, ⟨s, c'.method :: made⟩, []⟩ := by
            simp only [faulty, Rehearsal.following, due?_refusing]
            simp [Fault.refusing, Rehearsal.misbehave]
          have hend := hp.1 e
          rw [hanswer, hend.silent.asked, hend.outcome]
          exact ⟨rfl, rfl, rfl⟩
      | cons first before =>
          obtain ⟨rfl, hlater⟩ := List.cons.inj hasked
          have hanswer : faulty c' ⟨s, made⟩ =
              ⟨(team c' s).reply, ⟨(team c' s).state, c'.method :: made⟩,
                (team c' s).logged⟩ := by
            have hcount : made.count c'.method ≠
                (made ++ c'.method :: before.map fun x => x.1.method).count c'.method := by
              rw [List.count_append, List.count_cons_self]
              omega
            simp only [faulty, Rehearsal.following, due?_refusing, List.map_cons]
            rw [if_neg (fun h => hcount h.2)]
          have hrest := ih (team c' s).reply (hp.next _) hlater (c'.method :: made)
          -- The calls made so far are counted, not looked at in order.
          have hsame : Fault.refusing
              (c'.method :: made ++ before.map fun x => x.1.method) c e =
                .refusing (made ++ ((c', s) :: before).map fun x => x.1.method) c e := by
            simp only [Fault.refusing, List.map_cons, List.cons_append, List.count_append,
              List.count_cons]
            congr 2
            omega
          rw [hsame] at hrest
          rw [hanswer, List.map_cons, List.map_cons]
          exact ⟨congrArg (c' :: ·) hrest.1, hrest.2⟩
  | log e' rest' ih => exact ih hp hasked made
  | bindContext fields rest' ih => exact ih hp hasked made
  | unbindContext names rest' ih => exact ih hp hasked made

/-- **One refusal.**  If the call at some place of a run is refused, the run ends there: with what
the refusal is shown as, after the calls up to this one, in the state that this call finds. -/
theorem Surfaces.run_of_fault (hp : p.Surfaces shown) (s : σ) (k : Nat) (e : Failure) :
    let calls := (p.run team { state := s }).2.calls
    ∀ hk : k < calls.length,
      let fault := Fault.refusing ((calls.take k).map Call.method) calls[k] e
      let faulty := p.run (Rehearsal.following [fault] team) { state := { state := s } }
      faulty.1 = .error (shown calls[k] e) ∧ faulty.2.calls = calls.take (k + 1) ∧
        faulty.2.state.state = Collaborators.after team s (calls.take k) := by
  have hcalls : (p.run team { state := s }).2.calls = (p.asked team s).map Prod.fst :=
    run_calls team p { state := s }
  rw [hcalls]
  intro calls hk fault faulty
  have hplace : k < (p.asked team s).length := by
    simpa only [calls, List.length_map] using hk
  rcases hthere : (p.asked team s)[k] with ⟨c, u⟩
  have hsplit : p.asked team s =
      (p.asked team s).take k ++ (c, u) :: (p.asked team s).drop (k + 1) := by
    rw [← hthere, ← List.drop_eq_getElem_cons hplace, List.take_append_drop]
  have hcall : calls[k] = c := by
    simp only [calls, List.getElem_map, hthere]
  have hbefore : calls.take k = ((p.asked team s).take k).map Prod.fst :=
    List.map_take.symm
  have hfault := hp.outcome_of_fault hsplit e []
  have hfound := after_of_asked team p hsplit
  dsimp only at hfault
  rw [List.nil_append, ← hcall] at hfault
  have hmethods : (calls.take k).map Call.method =
      ((p.asked team s).take k).map fun x => x.1.method := by
    rw [hbefore, List.map_map]
    rfl
  rw [← hmethods, ← hbefore] at hfault
  rw [← hbefore] at hfound
  obtain ⟨hasked, hresult, hstate⟩ := hfault
  refine ⟨?_, ?_, ?_⟩
  · rw [← hresult]
    exact run_result _ p _
  · rw [List.take_succ_eq_append_getElem hk, ← hasked]
    exact run_calls _ p _
  · rw [← hfound, ← hstate]
    exact congrArg Rehearsal.state (run_state _ p _)

end Program

end ContestUploads
