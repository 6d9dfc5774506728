import ContestUploads.Proofs.Asking
import ContestUploads.Proofs.Recording

/-!
# Blocks are carried out as a whole or not at all

A list of writes is carried out on tables by `Database.replay`.  `Session.Within` is what a session
is throughout a block: the committed tables are those before the block, and as long as no write was
refused the session works on the replay of the writes that have returned.  Each answer keeps it
(`Within.exposed`), and so does a whole body (`Within.outcome`), whatever it makes of failures.
Leaving the session then either commits this replay or drops everything.
-/

namespace ContestUploads

open Sql

variable {α : Type}

/-- Whether the record that a call hands over, if it does, is an upload or a submission. -/
def Call.HandsEntity : Call → Prop
  | .catalog call => ∀ record ∈ call.record?, record.isEntity = true
  | _ => True

namespace Value

/-- The attributes in a stamp. -/
def stampNames : List String :=
  ["upload_id", "submission_id", "created_by", "created_at", "modified_by", "modified_at"]

theorem write_entity {v : Value} (hv : v.isEntity = true) {name : String}
    (hname : name ∈ stampNames) (x : Value) :
    ∃ changed, v.write name x = .ok changed ∧ changed.isEntity = true := by
  obtain ⟨k, fields, rfl, hk⟩ : ∃ k fields, v = .record k fields ∧
      (k = .upload ∨ k = .submission) := by
    unfold isEntity at hv
    split at hv
    · exact ⟨_, _, rfl, .inl rfl⟩
    · exact ⟨_, _, rfl, .inr rfl⟩
    · cases hv
  have hfree : reserved? k name x = none := by
    simp only [stampNames, List.mem_cons, List.not_mem_nil, or_false] at hname
    rcases hk with rfl | rfl <;> rcases hname with rfl | rfl | rfl | rfl | rfl | rfl <;> rfl
  rcases hk with rfl | rfl
  · exact ⟨_, write_record rfl hfree, rfl⟩
  · exact ⟨_, write_record rfl hfree, rfl⟩

theorem assign_entity {v : Value} (hv : v.isEntity = true) {changes : Fields}
    (hnames : ∀ change ∈ changes, change.1 ∈ stampNames) : (v.assign changes).1 = .ok () := by
  induction changes generalizing v with
  | nil => rfl
  | cons first rest ih =>
      obtain ⟨changed, hwritten, hentity⟩ := write_entity hv (hnames _ List.mem_cons_self) first.2
      have hrest := ih hentity fun change hchange => hnames change (List.mem_cons_of_mem _ hchange)
      rw [assign, hwritten]
      exact hrest

end Value

namespace Sql.Session

/-- What a call that raises may do to a session: nothing, or spoil it. -/
def Refused (s t : Session) : Prop :=
  t = s ∨ s.usable = true ∧ t = s.spoilt

section Drafts

variable {δ β : Type} {s t : Session} {clock : Clock} {refusal? : Option Refusal} {record : Value}
  {draft : Except Failure δ} {write : δ → Database → Except Failure (β × Database)}
  {stamps : β → Fields}

theorem flush_ok {write : Database → Except Failure (β × Database)} {a : β}
    (h : s.flush write = (.ok a, t)) :
    s.usable = true ∧ ∃ d, write s.working = .ok (a, d) ∧ t = { s with working := d } := by
  unfold flush at h
  split at h
  next husable =>
    split at h
    next x d hwrite =>
      cases h
      exact ⟨husable, d, hwrite, rfl⟩
    next => cases h
  next => cases h

theorem flush_error {write : Database → Except Failure (β × Database)} {e : Failure}
    (h : s.flush write = (.error e, t)) : s.Refused t := by
  unfold flush at h
  split at h
  next husable =>
    split at h
    next => cases h
    next =>
      cases h
      exact .inr ⟨husable, rfl⟩
  next =>
    cases h
    exact .inl rfl

/-- A draft that comes to be stored has been read and is written to a session in which nothing was
refused. -/
theorem storeDraft_ok {v : Value}
    (h : (s.storeDraft clock refusal? record draft write stamps).outcome.result = .ok v) :
    s.usable = true ∧ ∃ x a d, draft = .ok x ∧ write x s.working = .ok (a, d) ∧
      (s.storeDraft clock refusal? record draft write stamps).outcome.session =
        { s with working := d } := by
  unfold storeDraft at h ⊢
  split at h
  next => cases h
  next => cases h
  next e =>
    rcases hflushed : s.flush fun _ => (.error e : Except Failure (β × Database)) with ⟨_ | a, t⟩
    · rw [hflushed] at h
      cases h
    · rw [hflushed] at h
      cases h
  next x =>
    rcases hflushed : s.flush (write x) with ⟨e | a, t⟩
    · rw [hflushed] at h
      cases h
    · obtain ⟨husable, d, hwrite, rfl⟩ := flush_ok hflushed
      exact ⟨husable, x, a, d, rfl, hwrite, rfl⟩

/-- An upload or submission that is not stored is as it was, since it would have been stamped only
afterwards. -/
theorem storeDraft_error (hrecord : record.isEntity = true)
    (hstamps : ∀ a, ∀ change ∈ stamps a, change.1 ∈ Value.stampNames) {e : Failure}
    (h : (s.storeDraft clock refusal? record draft write stamps).outcome.result = .error e) :
    (s.storeDraft clock refusal? record draft write stamps).record? = some record ∧
      s.Refused (s.storeDraft clock refusal? record draft write stamps).outcome.session := by
  unfold storeDraft at h ⊢
  split at h
  next => exact ⟨rfl, .inl rfl⟩
  next => exact ⟨rfl, .inl rfl⟩
  next e =>
    refine ⟨rfl, ?_⟩
    rcases hflushed : s.flush fun _ => (.error e : Except Failure (β × Database)) with ⟨_ | a, t⟩
    · exact flush_error hflushed
    · obtain ⟨-, d, hwrite, -⟩ := flush_ok hflushed
      cases hwrite
  next x =>
    rcases hflushed : s.flush (write x) with ⟨e | a, t⟩
    · exact ⟨rfl, flush_error hflushed⟩
    · rw [hflushed] at h
      simp [Value.assign_entity hrecord (hstamps a), Except.map] at h

end Drafts

section Calls

variable {s : Session} {clock : Clock} {refusal? : Option Refusal} {call : CatalogCall}

/-- What a session that is in order finds depends on its tables only. -/
theorem changing_opened (husable : s.usable = true) (x : Value) :
    s.changing x = (opened s.working).changing x := by
  have hquery {β : Type} (compared : List (ColumnKind × Value)) (look : Database → β) :
      s.query compared look = (opened s.working).query compared look := by
    simp only [query, demandUsable, husable, opened]
  have hfind (id : Value) : s.find id = (opened s.working).find id := by
    cases id <;> simp only [find, hquery]
  simp only [changing, hfind]

/-- A call that returns was made in a session in order, if it is a write, and has its effect on the
tables of that session. -/
theorem store_ok {v : Value} (h : (store refusal? call s clock).outcome.result = .ok v)
    (hwrites : call.record?.isSome) :
    s.usable = true ∧ ∃ d, call.effect clock.tick.1 s.working = .ok d ∧
      (store refusal? call s clock).outcome.session = { s with working := d } := by
  cases call with
  | createUpload u operator =>
      rw [store] at h ⊢
      rcases htype : typeAndStatus u with e | ⟨type, status⟩
      · rw [htype] at h
        cases h
      · rw [htype] at h
        obtain ⟨husable, x, a, d, hdraft, hwrite, hsession⟩ := storeDraft_ok h
        refine ⟨husable, d, ?_, hsession⟩
        simp only [CatalogCall.effect, Clock.tick, htype, hdraft, hwrite, Bind.bind, Except.bind]
        rfl
  | createSubmission x operator =>
      rw [store] at h ⊢
      rcases hstatus : statusToStore x [] with e | status
      · rw [hstatus] at h
        cases h
      · rw [hstatus] at h
        obtain ⟨husable, draft, a, d, hdraft, hwrite, hsession⟩ := storeDraft_ok h
        refine ⟨husable, d, ?_, hsession⟩
        simp only [CatalogCall.effect, Clock.tick, hstatus, hdraft, hwrite, Bind.bind, Except.bind]
        rfl
  | updateSubmission x operator =>
      rw [store] at h ⊢
      rcases hchanging : s.changing x with e | ⟨row, status⟩
      · rw [hchanging] at h
        cases h
      · rw [hchanging] at h
        obtain ⟨husable, draft, a, d, hdraft, hwrite, hsession⟩ := storeDraft_ok h
        refine ⟨husable, d, ?_, hsession⟩
        rw [changing_opened husable] at hchanging
        simp only [CatalogCall.effect, Clock.tick, hchanging, hdraft, hwrite, Bind.bind,
          Except.bind]
        rfl
  | _ => cases hwrites

/-- The stamp of a creation, with the id, consists of attributes of stamps. -/
theorem creation_stampNames {name : String} (hname : name ∈ Value.stampNames) (id operator : Value)
    (now : Moment) :
    ∀ change ∈ (name, id) :: Value.creation operator now, change.1 ∈ Value.stampNames := by
  intro change hchange
  have hfst : change.1 ∈ name :: (Value.creation operator now).map Prod.fst :=
    List.mem_map_of_mem hchange
  rcases List.mem_cons.1 hfst with hfirst | hlater
  · exact hfirst ▸ hname
  · have hnames : ["created_by", "modified_by", "created_at", "modified_at"] ⊆
        Value.stampNames := by decide
    exact hnames hlater

theorem change_stampNames (operator : Value) (now : Moment) :
    ∀ change ∈ Value.change operator now, change.1 ∈ Value.stampNames := by
  intro change hchange
  have hfst : change.1 ∈ (Value.change operator now).map Prod.fst := List.mem_map_of_mem hchange
  have hnames : ["modified_by", "modified_at"] ⊆ Value.stampNames := by decide
  exact hnames hfst

/-- A call that raises leaves the record of its owner alone; it changes nothing, or it has spoilt
the session. -/
theorem store_error (hentity : (Call.catalog call).HandsEntity) {e : Failure}
    (h : (store refusal? call s clock).outcome.result = .error e) :
    (store refusal? call s clock).record? = call.record? ∧
      s.Refused (store refusal? call s clock).outcome.session := by
  cases call with
  | createUpload u operator =>
      rw [store] at h ⊢
      rcases htype : typeAndStatus u with e | ⟨type, status⟩
      · exact ⟨rfl, .inl rfl⟩
      · rw [htype] at h
        exact storeDraft_error (hentity u rfl)
          (fun _ => creation_stampNames (by decide) _ _ _) h
  | createSubmission x operator =>
      rw [store] at h ⊢
      rcases hstatus : statusToStore x [] with e | status
      · exact ⟨rfl, .inl rfl⟩
      · rw [hstatus] at h
        exact storeDraft_error (hentity x rfl)
          (fun _ => creation_stampNames (by decide) _ _ _) h
  | updateSubmission x operator =>
      rw [store] at h ⊢
      rcases hchanging : s.changing x with e | ⟨row, status⟩
      · exact ⟨rfl, .inl rfl⟩
      · rw [hchanging] at h
        exact storeDraft_error (hentity x rfl) (fun _ => change_stampNames _ _) h
  | _ => exact ⟨rfl, .inl rfl⟩

/-- A question leaves its session as it is. -/
theorem store_question (h : call.record? = none) :
    (store refusal? call s clock).outcome.session = s := by
  cases call <;> first | rfl | cases h

end Calls

/-- What a session is within a block: the committed tables are those from before, and unless a write
was refused the session works on what the writes that returned have made of them. -/
structure Within (d : Database) (done : List (CatalogCall × Moment)) (s : Session) : Prop where
  committed : s.committed = d
  working : s.usable = true → d.replay done = .ok s.working

namespace Within

variable {d : Database} {done : List (CatalogCall × Moment)} {s t : Session}

theorem opened (d : Database) : Within d [] (opened d) :=
  ⟨rfl, fun _ => rfl⟩

theorem of_refused (h : Within d done s) (hrefused : s.Refused t) : Within d done t := by
  rcases hrefused with rfl | ⟨-, rfl⟩
  · exact h
  · exact ⟨h.committed, fun husable => nomatch husable⟩

/-- A write that returns is one more to replay. -/
theorem concat (h : Within d done s) (husable : s.usable = true) {call : CatalogCall} {now : Moment}
    {d' : Database} (heffect : call.effect now s.working = .ok d') :
    Within d (done ++ [(call, now)]) { s with working := d' } where
  committed := h.committed
  working _ := by
    rw [Database.replay, List.foldlM_append, ← Database.replay, h.working husable]
    simp only [List.foldlM_cons, List.foldlM_nil, heffect, Bind.bind, Except.bind, Pure.pure,
      Except.pure]

end Within

section Leaving

variable {s : Session} {result : Except Failure α}

/-- Leaving a session in order after a result commits its work. -/
theorem leave_usable (h : s.usable = true) (a : α) :
    s.leave (.ok a) = (.ok a, opened s.working) := by
  simp only [leave, commit, h, if_true]
  rfl

/-- A session is left without a failure only so. -/
theorem leave_ok {a : α} (h : (s.leave result).1 = .ok a) :
    result = .ok a ∧ s.usable = true := by
  rcases result with e | b
  · cases h
  · rcases husable : s.usable with _ | _
    · simp [leave, commit, husable, Except.map] at h
    · rw [leave_usable husable] at h
      exact ⟨h, rfl⟩

/-- Whatever is raised, the work of the session is lost. -/
theorem leave_error {e : Failure} (h : (s.leave result).1 = .error e) :
    (s.leave result).2 = opened s.committed := by
  rcases result with _ | b
  · rfl
  · rcases husable : s.usable with _ | _
    · simp only [leave, commit, husable]
      rfl
    · rw [leave_usable husable] at h
      cases h

end Leaving

theorem told_reply_ok {call : CatalogCall} {o : Outcome} {v : Value}
    (h : (told call o).reply = .ok v) : o.result = .ok v := by
  unfold told at h
  split at h
  next hresult => exact hresult.trans h
  next => cases h

theorem told_reply_error {call : CatalogCall} {o : Outcome} {f : Failure}
    (h : (told call o).reply = .error f) : ∃ e, o.result = .error e := by
  unfold told at h
  split at h
  next => cases h
  next e hresult => exact ⟨e, hresult⟩

theorem told_state (call : CatalogCall) (o : Outcome) :
    (told call o).state = (o.session, o.clock) := by
  unfold told
  split <;> rfl

end Sql.Session

namespace Platform

open Session (Within)

variable (refusals : Clock → Option Refusal)

/-- What came of a call to the catalog, and how the owner of its record finds that record. -/
def receipt (call : CatalogCall) (p : Platform Session) : Receipt :=
  Session.store (refusals p.clock) call p.catalog p.clock

/-- The write that a call was, with its stamp, if it was one and has returned. -/
def returned? (q : Call × Platform Session) : Option (CatalogCall × Moment) :=
  match q.1, (exposed refusals q.1 q.2).reply with
  | .catalog call, .ok _ => if call.record?.isSome then some (call, q.2.clock.tick.1) else none
  | _, _ => none

variable {refusals} {d : Database} {done : List (CatalogCall × Moment)} {p : Platform Session}
  {c : Call} {call : CatalogCall}

theorem exposed_catalog (call : CatalogCall) (p : Platform Session) :
    (exposed refusals (.catalog call) p).state.catalog =
      (p.receipt refusals call).outcome.session := by
  rw [exposed, Session.told_state]
  rfl

/-- Only calls to the catalog have to do with its session. -/
theorem exposed_other (refusals : Clock → Option Refusal) (h : ∀ call, c ≠ .catalog call)
    (p : Platform Session) :
    (exposed refusals c p).state.catalog = p.catalog ∧ returned? refusals (c, p) = none := by
  cases c with
  | catalog call => exact absurd rfl (h call)
  | updateResource r operator =>
      refine ⟨?_, rfl⟩
      show (p.updateResource r operator).state.catalog = _
      unfold updateResource
      split
      · rfl
      · dsimp only
        split <;> rfl
  | initiateScreening submission operator =>
      refine ⟨?_, rfl⟩
      show (p.initiateScreening submission operator).state.catalog = _
      unfold initiateScreening
      split <;> rfl
  | _ => exact ⟨rfl, rfl⟩

/-- What an answer does to the session: a write that returns was made in a session in order and has
its effect; everything else leaves the session alone or spoils it. -/
theorem exposed_cases (refusals : Clock → Option Refusal) (hentity : c.HandsEntity)
    (p : Platform Session) :
    (∃ call d, returned? refusals (c, p) = some (call, p.clock.tick.1) ∧ p.catalog.usable = true ∧
      call.effect p.clock.tick.1 p.catalog.working = .ok d ∧
      (exposed refusals c p).state.catalog = { p.catalog with working := d }) ∨
    (returned? refusals (c, p) = none ∧
      p.catalog.Refused (exposed refusals c p).state.catalog) := by
  by_cases hcatalog : ∃ call, c = .catalog call
  · obtain ⟨call, rfl⟩ := hcatalog
    rw [exposed_catalog]
    rcases hreply : (exposed refusals (.catalog call) p).reply with f | v
    · obtain ⟨e, hresult⟩ := Session.told_reply_error hreply
      refine .inr ⟨?_, (Session.store_error hentity hresult).2⟩
      simp only [returned?, hreply]
    · have hresult := Session.told_reply_ok hreply
      by_cases hwrites : call.record?.isSome
      · obtain ⟨husable, d, heffect, hsession⟩ := Session.store_ok hresult hwrites
        refine .inl ⟨call, d, ?_, husable, heffect, hsession⟩
        simp only [returned?, hreply, hwrites, if_true]
      · refine .inr ⟨?_, .inl (Session.store_question ?_)⟩
        · simp only [returned?, hreply, hwrites]
          rfl
        · exact Option.not_isSome_iff_eq_none.1 hwrites
  · have hother := exposed_other refusals (not_exists.1 hcatalog) p
    exact .inr ⟨hother.2, .inl hother.1⟩

/-- One answer within a block. -/
theorem within_exposed (h : Within d done p.catalog) (hentity : c.HandsEntity) :
    Within d (done ++ (returned? refusals (c, p)).toList)
      (exposed refusals c p).state.catalog := by
  rcases exposed_cases refusals hentity p with
    ⟨call, d', hreturned, husable, heffect, hcatalog⟩ | ⟨hreturned, hrefused⟩
  · rw [hreturned, hcatalog]
    exact h.concat husable heffect
  · rw [hreturned, Option.toList_none, List.append_nil]
    exact h.of_refused hrefused

/-- A spoilt session stays spoilt. -/
theorem spoilt_exposed (h : p.catalog.usable = false) (hentity : c.HandsEntity) :
    (exposed refusals c p).state.catalog.usable = false := by
  rcases exposed_cases refusals hentity p with
    ⟨-, -, -, husable, -, -⟩ | ⟨-, hsame | ⟨husable, -⟩⟩
  · cases h.symm.trans husable
  · rw [hsame]
    exact h
  · cases h.symm.trans husable

variable {α : Type}

/-- A whole body within a block, whatever it makes of the failures of its calls. -/
theorem within_outcome (body : Program α) (h : Within d done p.catalog)
    (hentities : ∀ q ∈ body.asked (exposed refusals) p, q.1.HandsEntity) :
    Within d (done ++ (body.asked (exposed refusals) p).filterMap (returned? refusals))
      (body.outcome (exposed refusals) p).2.catalog := by
  induction body generalizing p done with
  | done a => simpa [Program.asked, Program.outcome] using h
  | fail e => simpa [Program.asked, Program.outcome] using h
  | ask c next ih =>
      rw [Program.asked, List.forall_mem_cons] at hentities
      have hnext := ih _ (within_exposed h hentities.1) hentities.2
      have hcons (q : Call × Platform Session) (rest : List (Call × Platform Session)) :
          (q :: rest).filterMap (returned? refusals) =
            (returned? refusals q).toList ++ rest.filterMap (returned? refusals) := by
        rw [List.filterMap_cons]
        cases returned? refusals q <;> rfl
      rw [Program.asked, hcons, ← List.append_assoc]
      exact hnext
  | log entry rest ih => exact ih h hentities
  | bindContext fields rest ih => exact ih h hentities
  | unbindContext names rest ih => exact ih h hentities

theorem spoilt_outcome (body : Program α) (h : p.catalog.usable = false)
    (hentities : ∀ q ∈ body.asked (exposed refusals) p, q.1.HandsEntity) :
    (body.outcome (exposed refusals) p).2.catalog.usable = false := by
  induction body generalizing p with
  | done a => exact h
  | fail e => exact h
  | ask c next ih =>
      rw [Program.asked, List.forall_mem_cons] at hentities
      exact ih _ (spoilt_exposed h hentities.1) hentities.2
  | log entry rest ih => exact ih h hentities
  | bindContext fields rest ih => exact ih h hentities
  | unbindContext names rest ih => exact ih h hentities

/-- A session is in order at the end of a body exactly if no call of the body spoilt it. -/
theorem usable_outcome_iff (body : Program α) (h : p.catalog.usable = true)
    (hentities : ∀ q ∈ body.asked (exposed refusals) p, q.1.HandsEntity) :
    (body.outcome (exposed refusals) p).2.catalog.usable = true ↔
      ∀ q ∈ body.asked (exposed refusals) p,
        (exposed refusals q.1 q.2).state.catalog.usable = true := by
  induction body generalizing p with
  | done a => simpa [Program.asked, Program.outcome] using h
  | fail e => simpa [Program.asked, Program.outcome] using h
  | ask c next ih =>
      rw [Program.asked, List.forall_mem_cons] at hentities ⊢
      rcases hafter : (exposed refusals c p).state.catalog.usable with _ | _
      · have hlast := spoilt_outcome _ hafter hentities.2
        rw [Program.outcome, hlast]
        simp
      · rw [Program.outcome, ih _ hafter hentities.2]
        simp
  | log entry rest ih => exact ih h hentities
  | bindContext fields rest ih => exact ih h hentities
  | unbindContext names rest ih => exact ih h hentities

/-- What a block comes to, by what its body comes to. -/
theorem block_eq {refusals : Clock → Option Refusal} {body : Program α} {p u : Platform Session}
    {result : Except Failure α}
    (h : body.outcome (exposed refusals) p.opened = (result, u)) :
    p.block refusals body =
      ((u.catalog.leave result).1, { u with catalog := (u.catalog.leave result).2 }) := by
  rw [← Program.run_outcome (exposed refusals) body { state := p.opened }] at h
  obtain ⟨rfl, rfl⟩ := Prod.mk.inj h
  rfl

/-- A block is carried out as a whole or not at all. -/
structure AllOrNothing (refusals : Clock → Option Refusal) (body : Program α)
    (p : Platform Session) : Prop where
  /-- Where leaving the block raises nothing, the next session finds what the writes that returned
  make of the tables, one after the other, and row by row. -/
  committed : ∀ a, (p.block refusals body).1 = .ok a →
    let writes := (body.asked (exposed refusals) p.opened).filterMap (returned? refusals)
    ∃ d, p.catalog.committed.replay writes = .ok d ∧ p.catalog.committed.WrittenBy writes d ∧
      (p.block refusals body).2.catalog = .opened d
  /-- Where the body or the exit raises, it finds the tables as they were. -/
  dropped : ∀ e, (p.block refusals body).1 = .error e →
    (p.block refusals body).2.catalog = .opened p.catalog.committed
  /-- Leaving the block raises nothing exactly if the body has a result and none of its calls spoilt
  the session, even if the body went on after such a call. -/
  decided : ∀ a, (p.block refusals body).1 = .ok a ↔
    (body.outcome (exposed refusals) p.opened).1 = .ok a ∧
      ∀ q ∈ body.asked (exposed refusals) p.opened,
        (exposed refusals q.1 q.2).state.catalog.usable = true
  /-- A record whose call raised is as it was. -/
  untouched : ∀ call u e, (.catalog call, u) ∈ body.asked (exposed refusals) p.opened →
    (exposed refusals (.catalog call) u).reply = .error e →
      (u.receipt refusals call).record? = call.record?

end Platform

/-- Every block whose body hands over uploads and submissions only, whatever their fields hold, is
carried out as a whole or not at all, wherever the database refuses a write and whatever the body
makes of it. -/
theorem block_all_or_nothing (refusals : Clock → Option Refusal) (body : Program α)
    (p : Platform Session)
    (hentities : ∀ q ∈ body.asked (Platform.exposed refusals) p.opened, q.1.HandsEntity) :
    p.AllOrNothing refusals body := by
  have hwithin := Platform.within_outcome body (Session.Within.opened _) hentities
  have husable := Platform.usable_outcome_iff body (p := p.opened) rfl hentities
  rw [List.nil_append] at hwithin
  rcases hran : body.outcome (Platform.exposed refusals) p.opened with ⟨result, u⟩
  have hblock := Platform.block_eq hran
  rw [hran] at hwithin husable
  refine ⟨fun a ha => ?_, fun e he => ?_, fun a => ?_, fun call t e hasked hreply => ?_⟩
  · rw [hblock] at ha ⊢
    obtain ⟨rfl, hkept⟩ := Session.leave_ok ha
    have hreplay := hwithin.working hkept
    exact ⟨u.catalog.working, hreplay, Database.writtenBy_of_replay hreplay,
      congrArg Prod.snd (Session.leave_usable hkept a)⟩
  · rw [hblock] at he ⊢
    exact (Session.leave_error he).trans (congrArg Session.opened hwithin.committed)
  · rw [hblock, hran, ← husable]
    refine ⟨Session.leave_ok, fun h => ?_⟩
    obtain ⟨rfl, hkept⟩ := h
    exact congrArg Prod.fst (Session.leave_usable hkept a)
  · obtain ⟨f, hresult⟩ := Session.told_reply_error hreply
    exact (Session.store_error (hentities _ hasked) hresult).1

/-- A body that stores an upload and then tries to store a submission, whatever comes of it. -/
def Program.storeBoth (u : Upload) (x : Submission) (operator : Value) : Program Unit :=
  .ask (.catalog (.createUpload u.value operator)) fun
    | .error e => .fail e
    | .ok _ => .ask (.catalog (.createSubmission x.value operator)) fun _ => .done ()

theorem Program.storeBoth_entities (u : Upload) (x : Submission) (operator : Value)
    (team : Collaborators α) (s : α) :
    ∀ q ∈ (storeBoth u x operator).asked team s, q.1.HandsEntity := by
  have hupload : (Call.catalog (.createUpload u.value operator)).HandsEntity :=
    fun record hrecord => Option.some.inj hrecord ▸ rfl
  have hsubmission : (Call.catalog (.createSubmission x.value operator)).HandsEntity :=
    fun record hrecord => Option.some.inj hrecord ▸ rfl
  rw [storeBoth, asked, List.forall_mem_cons]
  refine ⟨hupload, ?_⟩
  split
  · intro q hq
    cases hq
  · intro q hq
    obtain rfl := List.mem_singleton.1 hq
    exact hsubmission

/-- A submission without a status is refused before anything is handed over, and the upload stays;
one whose status has no id is refused by the tables, and the upload is lost with it, although the
body went on. -/
theorem block_all_or_nothing_storeBoth :
    let status (id : Value) := Lookup.value { id, name := .text "Active" }
    let body (x : Submission) :=
      Program.storeBoth { type := status (.int 1), status := status (.int 1) } x (.text "10")
    let p : Platform Session := { catalog := {} }
    p.AllOrNothing (fun _ => none) (body {}) ∧
      (p.block (fun _ => none) (body {})).2.catalog.committed.uploads.length = 1 ∧
      p.AllOrNothing (fun _ => none) (body { status := status .null }) ∧
      (p.block (fun _ => none) (body { status := status .null })).1 =
        .error Session.pendingRollback ∧
      (p.block (fun _ => none) (body { status := status .null })).2.catalog = .opened {} := by
  refine ⟨block_all_or_nothing _ _ _ (Program.storeBoth_entities _ _ _ _ _), ?_,
    block_all_or_nothing _ _ _ (Program.storeBoth_entities _ _ _ _ _), ?_, ?_⟩
  · decide +kernel
  · rfl
  · decide +kernel

end ContestUploads
