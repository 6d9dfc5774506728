import ContestUploads.Proofs.Gating
import ContestUploads.Proofs.Taking

/-!
# Writes

A `Write` is a call that changes a world, with what it hands over; `Write.onto` is its effect.  The
other calls leave every state as it is, so that a run goes through the worlds between its writes and
through no others (`after_calls`).

`World.Makes` says that a program makes the writes of a list, over the catalog in memory.  A program
is followed with it and with `Carrier.Does`, which says what each step comes to.
-/

namespace ContestUploads

open Program

variable {α β : Type}

/-- A call that changes the stores, with what it hands over. -/
inductive Write
  | upload (draft : StoredUpload) (operator : String)
  | submission (draft : StoredSubmission) (operator : String)
  /-- A submission that is stored once more. -/
  | again (s : StoredSubmission) (operator : String)
  | resource (r : StoredResource) (operator : String)
  | screening (n : Int) (operator : String)
  deriving DecidableEq, Repr

namespace Write

/-- The call that makes a write.  A new record has no number yet. -/
def call : Write → Call
  | .upload draft operator =>
      .catalog (.createUpload { draft.record with id := .null }.value (.text operator))
  | .submission draft operator =>
      .catalog (.createSubmission { draft.record with id := .null }.value (.text operator))
  | .again s operator => .catalog (.updateSubmission s.value (.text operator))
  | .resource r operator => .updateResource r.value (.text operator)
  | .screening n operator => .initiateScreening (.int n) (.text operator)

/-- What a write makes of a world; one that is refused changes nothing. -/
def onto : Write → World → World
  | .upload draft operator, w => w.addUpload draft operator
  | .submission draft operator, w => w.addSubmission draft operator
  | .again s operator, w =>
      if s.id ∈ w.submissions.map StoredSubmission.id then w.putSubmission s operator else w
  | .resource r operator, w =>
      if r.id ∈ w.resources.map StoredResource.id then w.putResource r operator else w
  | .screening n operator, w => if w.screens n then w else w.screen n operator

theorem call_writes (x : Write) : x.call.method.writes = true := by
  cases x <;> rfl

variable {w : World} (h : w.Coherent) (x : Write)

include h

theorem coherent_onto : (x.onto w).Coherent := by
  cases x with
  | upload draft operator => exact h.addUpload draft operator
  | submission draft operator => exact h.addSubmission draft operator
  | again s operator =>
      rw [onto]
      split
      · exact h.putSubmission s operator
      · exact h
  | resource r operator =>
      rw [onto]
      split
      · exact h.putResource r operator
      · exact h
  | screening n operator =>
      rw [onto]
      split
      · exact h
      · exact h.screen n operator

/-- A write does to the stores what it makes of their world. -/
theorem answer_call : (Platform.answer x.call w.platform).state = (x.onto w).platform := by
  cases x with
  | upload draft operator =>
      exact congrArg Answer.state (World.answer_createUpload h draft .null operator)
  | submission draft operator =>
      exact congrArg Answer.state (w.answer_createSubmission draft .null operator)
  | again s operator =>
      rw [onto]
      split
      · rename_i hstored
        exact congrArg Answer.state (World.answer_updateSubmission h hstored operator)
      · rename_i hnew
        exact congrArg Answer.state (World.answer_updateSubmission_of_notMem hnew operator)
  | resource r operator =>
      rw [onto]
      split
      · rename_i hstored
        exact congrArg Answer.state (World.answer_updateResource w.catalog h hstored operator)
      · rename_i hnew
        exact congrArg Answer.state (World.answer_updateResource_of_notMem w.catalog hnew operator)
  | screening n operator =>
      have hanswer := World.answer_initiateScreening w.catalog w n operator
      rw [onto]
      split
      · rename_i hscreened
        rw [if_pos hscreened] at hanswer
        exact congrArg Answer.state hanswer
      · rename_i hscreened
        rw [if_neg hscreened] at hanswer
        exact congrArg Answer.state hanswer

end Write

/-- A call that does not write leaves the stores as they are. -/
theorem Platform.answer_of_reads {c : Call} (hc : c.method.writes = false)
    (p : Platform Memory.Catalog) : (Platform.answer c p).state = p := by
  cases c with
  | catalog call =>
      cases call with
      | uploadStatuses => rfl
      | uploadTypes => rfl
      | submissionStatuses => rfl
      | getSubmission id => rfl
      | searchSubmissions filter => rfl
      | createUpload upload operator => cases hc
      | createSubmission submission operator => cases hc
      | updateSubmission submission operator => cases hc
  | project id => rfl
  | phases projectId => rfl
  | resourceRoles => rfl
  | searchResources filter => rfl
  | updateResource resource operator => cases hc
  | initiateScreening submission operator => cases hc

/-- A guarded call asks itself and nothing else. -/
theorem Program.asked_askGuarded {σ : Type} (action : String) {context : Fields}
    (hcontext : context.spares Verdict.usedNames = true) (c : Call) (team : Collaborators σ)
    (s : σ) : (askGuarded action context c).asked team s = [(c, s)] := by
  have hcall : (call c).asked team s = [(c, s)] := by
    show _ :: (ofExcept _).asked _ _ = _
    rw [(silent_ofExcept _).asked]
  unfold askGuarded
  rw [guarded_eq_recover hcontext, asked_recover, hcall]
  rcases (call c).outcome team s with ⟨e | v, t⟩
  · dsimp only
    rw [(endsWith_raiseGuarded _ _ _).silent.asked, List.append_nil]
  · rfl

namespace World

/-- The world after some writes. -/
def after (w : World) (writes : List Write) : World :=
  writes.foldl (fun u x => x.onto u) w

theorem Coherent.after {w : World} (h : w.Coherent) (writes : List Write) :
    (w.after writes).Coherent := by
  induction writes generalizing w with
  | nil => exact h
  | cons x rest ih => exact ih (Write.coherent_onto h x)

/-- Calls lead to the world that their writes lead to. -/
theorem after_calls {w : World} (h : w.Coherent) {calls : List Call} {writes : List Write}
    (hwrites : calls.filter (·.method.writes) = writes.map Write.call) :
    Collaborators.after Platform.answer w.platform calls = (w.after writes).platform := by
  induction calls generalizing w writes with
  | nil =>
      obtain rfl := List.map_eq_nil_iff.1 hwrites.symm
      rfl
  | cons c rest ih =>
      show Collaborators.after Platform.answer (Platform.answer c w.platform).state rest = _
      rcases hc : c.method.writes with _ | _
      · rw [List.filter_cons, if_neg (by simp [hc])] at hwrites
        rw [Platform.answer_of_reads hc]
        exact ih h hwrites
      · rw [List.filter_cons, if_pos hc] at hwrites
        obtain ⟨x, later, rfl, rfl, hlater⟩ := List.map_eq_cons_iff.1 hwrites.symm
        rw [Write.answer_call h]
        exact ih (Write.coherent_onto h x) hlater.symm

/-- The first calls lead to the world after the first writes. -/
theorem after_calls_take {w : World} (h : w.Coherent) {calls : List Call} {writes : List Write}
    (hwrites : calls.filter (·.method.writes) = writes.map Write.call) (k : Nat) :
    ∃ j, Collaborators.after Platform.answer w.platform (calls.take k) =
      (w.after (writes.take j)).platform := by
  have hfirst : (calls.take k).filter (·.method.writes) <+: writes.map Write.call :=
    hwrites ▸ (List.take_prefix k calls).filter _
  refine ⟨((calls.take k).filter (·.method.writes)).length, after_calls h ?_⟩
  rw [List.map_take]
  exact List.prefix_iff_eq_take.1 hfirst

/-- A program makes some writes in a world, and no others. -/
def Makes (p : Program α) (w : World) (writes : List Write) : Prop :=
  w.Coherent → ((p.asked Platform.answer w.platform).map Prod.fst).filter (·.method.writes) =
    writes.map Write.call

variable {w u : World} {p : Program α}

/-- A program that only reads makes no writes. -/
theorem makes_of_awaits {Q : α → Prop} (hp : p.Awaits (fun _ _ => False) Q) : Makes p w [] := by
  intro _
  rw [List.map_nil, List.filter_eq_nil_iff]
  intro c hc hwrites
  obtain ⟨⟨_, t⟩, hmem, rfl⟩ := List.mem_map.1 hc
  obtain ⟨before, rest, hasked⟩ := List.append_of_mem hmem
  obtain ⟨x, -, hnever⟩ := hp.seen_before hasked hwrites
  exact hnever

theorem makes_of_silent (hp : p.Silent) : Makes p w [] := by
  intro _
  rw [hp.asked]
  rfl

/-- One program after another. -/
theorem Makes.bind {f : α → Program β} {a : α} {first later : List Write}
    (hp : Makes p w first) (hdoes : Carrier.memory.Does p w (.ok a, u))
    (hf : Makes (f a) u later) : Makes (p >>= f) w (first ++ later) := by
  intro h
  obtain ⟨houtcome, hu⟩ := hdoes h
  change p.outcome Platform.answer w.platform = (.ok a, u.platform) at houtcome
  rw [asked_bind_ok houtcome, List.map_append, List.filter_append, List.map_append, hp h]
  exact congrArg (_ ++ ·) (hf hu)

/-- A failure of the first program ends both. -/
theorem Makes.bind_error {f : α → Program β} {e : Failure} {first : List Write}
    (hp : Makes p w first) (hdoes : Carrier.memory.Does p w (.error e, u)) :
    Makes (p >>= f) w first := by
  intro h
  have houtcome : p.outcome Platform.answer w.platform = (.error e, u.platform) := (hdoes h).1
  rw [asked_bind_error houtcome]
  exact hp h

/-- A step that only reads, and the rest. -/
theorem makes_read_bind {Q : α → Prop} {f : α → Program β} {a : α} {later : List Write}
    (hp : p.Awaits (fun _ _ => False) Q) (hdoes : Carrier.memory.Does p w (.ok a, w))
    (hf : Makes (f a) w later) : Makes (p >>= f) w later :=
  (makes_of_awaits hp).bind hdoes hf

/-- A step whose result is known, and the rest. -/
theorem makes_ok_bind {f : α → Program β} {a : α} {later : List Write} (hf : Makes (f a) w later) :
    Makes (ofExcept (.ok a) >>= f) w later :=
  hf

theorem makes_note_bind {f : Unit → Program β} {level : Level} {event : String} {fields : Fields}
    {later : List Write} (hf : Makes (f ()) w later) :
    Makes (note level event fields >>= f) w later :=
  hf

/-- What asks nothing makes no writes either. -/
theorem Makes.bind_silent {f : α → Program β} {first : List Write} (hp : Makes p w first)
    (hf : ∀ a, (f a).Silent) : Makes (p >>= f) w first := by
  intro h
  rw [asked_bind]
  rcases p.outcome Platform.answer w.platform with ⟨e | a, u⟩
  · rw [List.append_nil]
    exact hp h
  · dsimp only
    rw [(hf a).asked, List.append_nil]
    exact hp h

/-- A write. -/
theorem makes_askGuarded (action : String) (context : Fields)
    (hcontext : context.spares Verdict.usedNames = true) (x : Write) :
    Makes (askGuarded action context x.call) w [x] := by
  intro _
  rw [asked_askGuarded action hcontext]
  simp [Write.call_writes x]

/-- A program makes some writes, and reads nothing from the first of them on. -/
def WritesLast (p : Program α) (w : World) (writes : List Write) : Prop :=
  w.Coherent → ∃ reads : List Call, (∀ c ∈ reads, c.method.writes = false) ∧
    (p.asked Platform.answer w.platform).map Prod.fst = reads ++ writes.map Write.call

/-- The writes that come last are the writes that are made. -/
theorem WritesLast.makes {writes : List Write} (hp : WritesLast p w writes) :
    Makes p w writes := by
  intro h
  obtain ⟨reads, hreads, hcalls⟩ := hp h
  have hnone : reads.filter (·.method.writes) = [] :=
    List.filter_eq_nil_iff.2 fun c hc => by simp [hreads c hc]
  have hall : (writes.map Write.call).filter (·.method.writes) = writes.map Write.call := by
    refine List.filter_eq_self.2 fun c hc => ?_
    obtain ⟨x, -, rfl⟩ := List.mem_map.1 hc
    exact Write.call_writes x
  rw [hcalls, List.filter_append, hnone, hall, List.nil_append]

theorem writesLast_of_silent (hp : p.Silent) : WritesLast p w [] := by
  intro _
  exact ⟨[], by simp, by rw [hp.asked]; rfl⟩

/-- A step whose result is known, and the rest. -/
theorem writesLast_ok_bind {f : α → Program β} {a : α} {writes : List Write}
    (hf : WritesLast (f a) w writes) : WritesLast (ofExcept (.ok a) >>= f) w writes :=
  hf

/-- A step that only reads, and the rest. -/
theorem writesLast_read_bind {Q : α → Prop} {f : α → Program β} {a : α} {writes : List Write}
    (hp : p.Awaits (fun _ _ => False) Q) (hdoes : Carrier.memory.Does p w (.ok a, w))
    (hf : WritesLast (f a) w writes) : WritesLast (p >>= f) w writes := by
  intro h
  have houtcome : p.outcome Platform.answer w.platform = (.ok a, w.platform) := (hdoes h).1
  have hnone := makes_of_awaits hp h
  obtain ⟨reads, hreads, hcalls⟩ := hf h
  rw [asked_bind_ok houtcome, List.map_append, hcalls]
  refine ⟨_ ++ reads, ?_, (List.append_assoc ..).symm⟩
  intro c hc
  rcases List.mem_append.1 hc with hfirst | hlater
  · exact Bool.eq_false_iff.2 (List.filter_eq_nil_iff.1 hnone c hfirst)
  · exact hreads c hlater

/-- A write after which nothing is asked. -/
theorem writesLast_askGuarded {f : Value → Program β} (action : String) (context : Fields)
    (hcontext : context.spares Verdict.usedNames = true) (x : Write) (hf : ∀ v, (f v).Silent) :
    WritesLast (askGuarded action context x.call >>= f) w [x] := by
  intro _
  refine ⟨[], by simp, ?_⟩
  rw [asked_bind, asked_askGuarded action hcontext]
  rcases (askGuarded action context x.call).outcome Platform.answer w.platform with ⟨e | v, t⟩
  · rfl
  · dsimp only
    rw [(hf v).asked]
    rfl

end World

end ContestUploads
