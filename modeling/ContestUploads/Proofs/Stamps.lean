import ContestUploads.Proofs.Numbering
import ContestUploads.Proofs.Rows
import ContestUploads.Proofs.Sessions

/-!
# Stamps of creation and of change

Both catalogs stamp a submission when it is created and again with each update.  The two differ in
what an update stores: the catalog in memory stores the submission as its caller has it, tables
change the cells that an update is about, and the stamp of the creation is not among them.

`SubmissionCall.latest` is what the caller of the last update of a submission has of it.  One call
keeps what a catalog holds in step with it (`Memory.Catalog.holds_answer`,
`Sql.Session.holds_answer`), and so does every sequence of calls (`SubmissionCall.run`).  So in
memory the stamp of the creation is whatever that caller brought along, while in tables it stays.
-/

namespace ContestUploads

namespace Submission

/-- A submission as its owner has it after creating it under a number. -/
def asCreated (s : Submission) (n : Int) (operator : String) (now : Moment) : Submission :=
  { s with
    id := .int n
    createdBy := .text operator
    createdAt := .moment now
    modifiedBy := .text operator
    modifiedAt := .moment now }

/-- A submission as its owner has it after an update. -/
def asChanged (s : Submission) (operator : String) (now : Moment) : Submission :=
  { s with modifiedBy := .text operator, modifiedAt := .moment now }

/-- The number can be told from what the owner has. -/
theorem number_of_asCreated {s t : Submission} {m n : Int} {operator other : String}
    {now later : Moment}
    (h : (s.asCreated m operator now).value = (t.asCreated n other later).value) : m = n := by
  have hread := congrArg (·.read "submission_id") h
  exact Value.int.inj (Except.ok.inj hread)

/-- Two submissions have the same stamp of their creation. -/
def SameCreation (s t : Submission) : Prop :=
  s.createdBy = t.createdBy ∧ s.createdAt = t.createdAt

/-- Two submissions have the same stamp of their last change. -/
def SameChange (s t : Submission) : Prop :=
  s.modifiedBy = t.modifiedBy ∧ s.modifiedAt = t.modifiedAt

/-- What tables can keep: a status with a number that fits, or none, and such numbers of an upload
and a resource. -/
structure Storable (s : Submission) : Prop where
  status : ∃ l : Option StoredLookup, (∀ x ∈ l, Sql.fits x.id = true) ∧
    s.status = StoredLookup.optional l
  uploadId : ∃ n : Option Int, (∀ m ∈ n, Sql.fits m = true) ∧
    s.uploadId = (n.map Value.int).getD .null
  resourceId : ∃ n : Option Int, (∀ m ∈ n, Sql.fits m = true) ∧
    s.resourceId = (n.map Value.int).getD .null

end Submission

/-- A call that is about one submission. -/
inductive SubmissionCall
  | create (s : Submission) (operator : String)
  | update (s : Submission) (operator : String)
  | get (id : Value)

namespace SubmissionCall

/-- The call as a catalog takes it. -/
def call : SubmissionCall → CatalogCall
  | .create s operator => .createSubmission s.value (.text operator)
  | .update s operator => .updateSubmission s.value (.text operator)
  | .get id => .getSubmission id

/-- What the call hands over can be kept in tables. -/
def Storable : SubmissionCall → Prop
  | .create s _ | .update s _ => s.Storable
  | .get _ => True

section Runs

variable {κ : Type} [UploadCatalog κ]

/-- What a catalog makes of a call. -/
def answer (c : SubmissionCall) (state : κ × Clock) : Answer (κ × Clock) :=
  UploadCatalog.answer c.call state

/-- A catalog after some calls, whatever comes of each of them. -/
def after (calls : List SubmissionCall) (state : κ × Clock) : κ × Clock :=
  calls.foldl (fun state c => (c.answer state).state) state

variable (meant : κ → Value → Option Int) (n : Int)

/-- What is known of the submission with a number after one call: an update that returns leaves it
as its caller has it then.  `meant` says of which number an id is in a catalog. -/
def keeps (kept : Submission) (c : SubmissionCall) (state : κ × Clock) : Submission :=
  match c with
  | .update s operator =>
      if meant state.1 s.id = some n ∧ (c.answer state).reply.isOk then
        s.asChanged operator state.2.tick.1
      else kept
  | _ => kept

/-- The submission with a number as the caller of its last update has it. -/
def latest : Submission → List SubmissionCall → κ × Clock → Submission
  | kept, [], _ => kept
  | kept, c :: rest, state => latest (keeps meant n kept c state) rest (c.answer state).state

variable {meant n} {kept s : Submission} {operator : String} {state : κ × Clock}

/-- An update of the submission that returns leaves it as its caller has it. -/
theorem keeps_changed (hmeant : meant state.1 s.id = some n) {v : Value}
    (hreply : ((update s operator).answer state).reply = .ok v) :
    keeps meant n kept (.update s operator) state = s.asChanged operator state.2.tick.1 := by
  have hok : ((update s operator).answer state).reply.isOk = true := by
    rw [hreply]
    rfl
  exact if_pos ⟨hmeant, hok⟩

/-- An update of another submission makes no difference. -/
theorem keeps_foreign (hmeant : meant state.1 s.id ≠ some n) :
    keeps meant n kept (.update s operator) state = kept :=
  if_neg fun h => hmeant h.1

/-- A call that is refused makes no difference. -/
theorem keeps_refused {c : SubmissionCall} {e : Failure}
    (hreply : (c.answer state).reply = .error e) : keeps meant n kept c state = kept := by
  cases c with
  | update s operator =>
      refine if_neg fun h => Bool.false_ne_true ?_
      rw [← h.2, hreply]
      rfl
  | _ => rfl

/-- What every call keeps of a catalog and of what is known, a sequence of calls keeps. -/
theorem run {P : Submission → κ × Clock → Prop}
    (hstep : ∀ kept c state, P kept state →
      P (keeps meant n kept c state) (c.answer state).state)
    (h : P kept state) (calls : List SubmissionCall) :
    P (latest meant n kept calls state) (after calls state) := by
  induction calls generalizing kept state with
  | nil => exact h
  | cons c rest ih => exact ih (hstep kept c state h)

/-- If the callers who update a submission bring the stamp of its creation along, the last one has
it. -/
theorem sameCreation_latest {created : Submission} {calls : List SubmissionCall}
    (hkept : kept.SameCreation created)
    (hbrought : ∀ x operator, .update x operator ∈ calls → (∃ k, meant k x.id = some n) →
      x.SameCreation created) :
    (latest meant n kept calls state).SameCreation created := by
  induction calls generalizing kept state with
  | nil => exact hkept
  | cons c rest ih =>
      refine ih ?_ fun x operator hx => hbrought x operator (List.mem_cons_of_mem _ hx)
      cases c with
      | update x operator =>
          simp only [keeps]
          split
          next h => exact hbrought x operator List.mem_cons_self ⟨_, h.1⟩
          next => exact hkept
      | _ => exact hkept

end Runs

end SubmissionCall

open SubmissionCall

/-! ## In memory -/

/-- An id that has a record is in use. -/
theorem Register.uses_of_get? {α : Type} {r : Register α} {id : Value} {record : α}
    (h : r.get? id = some record) : r.uses id = true := by
  obtain ⟨e, he, -⟩ := Option.map_eq_some_iff.1 h
  have hkey : e.1.key = id.key := by simpa using List.find?_some he
  simp only [uses, keys, List.contains_iff_mem, List.mem_map]
  exact ⟨e, List.mem_of_find?_eq_some he, hkey⟩

/-- Ids that are one id have one record. -/
theorem Register.get?_congr {α : Type} {r : Register α} {id other : Value}
    (h : id.key = other.key) : r.get? id = r.get? other := by
  simp only [get?, h]

namespace Memory.Catalog

/-- In memory an id is of the number that it equals. -/
def meant (_ : Catalog) (id : Value) : Option Int :=
  id.whole?

theorem storedId_ok {c : Catalog} {s : Submission} {id : Value}
    (h : c.storedId s.value = .ok id) : id = s.id := by
  simp only [storedId, bind_eq_ok_iff, Submission.read_id, Except.ok.injEq] at h
  obtain ⟨_, rfl, -, -, h⟩ := h
  split at h
  · exact (Except.ok.inj h).symm
  · cases h

/-- An update stores the submission as its caller has it then, or is refused and does nothing. -/
theorem answer_update (s : Submission) (operator : String) (state : Catalog × Clock) :
    let answer := (SubmissionCall.update s operator).answer state
    let changed := s.asChanged operator state.2.tick.1
    (∃ e, answer.reply = .error e ∧ answer.state = state) ∨
      (answer.reply = .ok changed.value ∧
        answer.state.1.submissions = state.1.submissions.put s.id changed.value) := by
  obtain ⟨c, clock⟩ := state
  intro answer changed
  have hanswer : answer = Catalog.answer (.updateSubmission s.value (.text operator)) (c, clock) :=
    rfl
  rcases hstored : c.storedId s.value with e | id
  · simp only [Catalog.answer, hstored] at hanswer
    exact .inl ⟨e, congrArg Answer.reply hanswer, congrArg Answer.state hanswer⟩
  · obtain rfl := storedId_ok hstored
    simp only [Catalog.answer, hstored] at hanswer
    exact .inr ⟨congrArg Answer.reply hanswer,
      congrArg (fun a : Answer (Catalog × Clock) => a.state.1.submissions) hanswer⟩

/-- The catalog has a submission under a number. -/
def Holds (n : Int) (kept : Submission) (state : Catalog × Clock) : Prop :=
  state.1.submissions.get? (.int n) = some kept.value

/-- With each call, what the catalog has under a number stays what the caller of the last update
has. -/
theorem holds_answer {n : Int} {kept : Submission} {state : Catalog × Clock} (c : SubmissionCall)
    (h : Holds n kept state) : Holds n (keeps meant n kept c state) (c.answer state).state := by
  cases c with
  | get id => exact h
  | create s operator =>
      -- The number that is drawn is not in use, so it is another one.
      let free := Register.firstFree state.1.submissions.numbers state.1.nextSubmission
      have hother : (Value.int n).key ≠ (Value.int free).key := by
        intro hsame
        have hused := (Register.uses_int_iff _).1 (Register.uses_of_get? h)
        rw [Value.int.inj hsame] at hused
        exact Register.firstFree_notMem _ _ hused
      show (Catalog.answer (.createSubmission s.value (.text operator))
        (state.1, state.2)).state.1.submissions.get? (.int n) = _
      rw [answer_createSubmission]
      exact (Register.get?_put_of_ne _ _ hother).trans h
  | update s operator =>
      rcases answer_update s operator state with ⟨e, hrefused, hsame⟩ | ⟨hreply, hput⟩
      · rw [keeps_refused hrefused, hsame]
        exact h
      · have hkey : meant state.1 s.id = some n ↔ s.id.key = (Value.int n).key := by
          rw [Value.key_int, Value.key_eq_int_iff, Value.equals_int_iff]
          rfl
        rw [Holds, hput]
        by_cases hown : s.id.key = (Value.int n).key
        · rw [keeps_changed (hkey.2 hown) hreply, ← Register.get?_congr hown]
          exact Register.get?_put_self _ _ _
        · rw [keeps_foreign (mt hkey.1 hown)]
          exact (Register.get?_put_of_ne _ _ (Ne.symm hown)).trans h

/-- What the catalog has under a number is what is got. -/
theorem answer_get {n : Int} {kept : Submission} {state : Catalog × Clock}
    (h : Holds n kept state) :
    ((SubmissionCall.get (.int n)).answer state).reply = .ok kept.value := by
  obtain ⟨catalog, clock⟩ := state
  show (catalog.submissions.find (.int n)).map (·.getD .null) = _
  have hfound : catalog.submissions.find (.int n) = .ok (some kept.value) :=
    congrArg Except.ok h
  rw [hfound]
  rfl

/-- A submission that is created is there under the number that its owner finds. -/
theorem holds_create {n : Int} {s : Submission} {operator : String} {state : Catalog × Clock}
    (h : ((SubmissionCall.create s operator).answer state).reply =
      .ok (s.asCreated n operator state.2.tick.1).value) :
    Holds n (s.asCreated n operator state.2.tick.1)
      ((SubmissionCall.create s operator).answer state).state := by
  obtain ⟨catalog, clock⟩ := state
  have hdone : (SubmissionCall.create s operator).answer (catalog, clock) = _ :=
    answer_createSubmission catalog clock s (.text operator)
  rw [hdone] at h ⊢
  obtain rfl := Submission.number_of_asCreated (Except.ok.inj h)
  exact Register.get?_put_self _ _ _

end Memory.Catalog

/-! ## In tables -/

namespace Sql

/-- A row is read with the stamp of the creation of one submission and that of the last change of
another. -/
structure SubmissionRow.StampedAs (r : SubmissionRow) (created kept : Submission) : Prop where
  createUser : .text r.createUser = created.createdBy
  createDate : .moment r.createDate.read = created.createdAt
  modifyUser : .text r.modifyUser = kept.modifiedBy
  modifyDate : .moment r.modifyDate.read = kept.modifiedAt

namespace Database

variable {d : Database} {n : Int} {row : SubmissionRow}

theorem id_of_submission? (h : d.submission? n = some row) : row.id = n := by
  simpa using List.find?_some h

/-- A row is found under its number also when others have come after it. -/
theorem submission?_append (h : d.submission? n = some row) {rows : List SubmissionRow} :
    Database.submission? { d with submissions := d.submissions ++ rows } n = some row := by
  rw [submission?, List.find?_append, show d.submissions.find? (·.id == n) = some row from h]
  rfl

/-- A new row is found under its number, which no row before it has. -/
theorem submission?_concat (hid : row.id = nextId (d.submissions.map SubmissionRow.id)) :
    Database.submission? { d with submissions := d.submissions ++ [row] } row.id = some row := by
  have hfree : d.submissions.find? (·.id == row.id) = none := by
    refine List.find?_eq_none.2 fun r hr hsame => ?_
    have hlt := lt_nextId (List.mem_map_of_mem (f := SubmissionRow.id) hr)
    rw [← hid, eq_of_beq hsame] at hlt
    exact Int.lt_irrefl _ hlt
  rw [submission?, List.find?_append, hfree]
  simp

/-- A change that keeps the numbers keeps which row is found. -/
theorem submission?_map (n : Int) {change : SubmissionRow → SubmissionRow}
    (hid : ∀ r, (change r).id = r.id) :
    Database.submission? { d with submissions := d.submissions.map change } n =
      (d.submission? n).map change := by
  have hids : (fun r : SubmissionRow => r.id == n) ∘ change = fun r => r.id == n := by
    funext r
    exact congrArg (· == n) (hid r)
  rw [submission?, List.find?_map, hids]
  rfl

end Database

namespace Session

variable {n : Int} {s : Submission} {operator : String} {created kept : Submission}

/-- In tables an id is of the number of the row that is found by it. -/
def meant (s : Session) (id : Value) : Option Int :=
  (s.find id).toOption.join.map SubmissionRow.id

/-- As long as it is usable, the session has a row with a number and these stamps. -/
def Holds (n : Int) (created kept : Submission) (state : Session × Clock) : Prop :=
  state.1.usable = true →
    ∃ row, state.1.working.submission? n = some row ∧ row.StampedAs created kept

/-- A draft that is written and stamped has been read, in a session that is usable. -/
theorem writeDraft_result {δ α : Type} {s : Session} {clock : Clock} {draft : Except Failure δ}
    {write : δ → Database → Except Failure (α × Database)} {stamp : α → Except Failure Value}
    {v : Value} (h : (s.writeDraft clock draft write stamp).result = .ok v) :
    s.usable = true ∧ ∃ x a d, draft = .ok x ∧ write x s.working = .ok (a, d) ∧
      stamp a = .ok v ∧
      (s.writeDraft clock draft write stamp).session = { s with working := d } := by
  rcases draft with e | x
  · cases h
  · rcases hflushed : s.flush (write x) with ⟨e | a, t⟩
    · simp only [writeDraft, hflushed] at h
      cases h
    · obtain ⟨husable, d, hwrite, rfl⟩ := flush_ok hflushed
      simp only [writeDraft, hflushed] at h ⊢
      exact ⟨husable, x, a, d, rfl, hwrite, h, rfl⟩

/-- Creating a submission adds a row under the next number, stamped. -/
theorem createSubmission_ok {session : Session} {clock : Clock} {v : Value}
    (h : (session.createSubmission clock s.value (.text operator)).result = .ok v) :
    session.usable = true ∧ ∃ row : SubmissionRow,
      row.id = Database.nextId (session.working.submissions.map SubmissionRow.id) ∧
      v = (s.asCreated row.id operator clock.tick.1).value ∧
      row.StampedAs (s.asCreated row.id operator clock.tick.1)
        (s.asCreated row.id operator clock.tick.1) ∧
      (session.createSubmission clock s.value (.text operator)).session =
        { session with
          working :=
            { session.working with submissions := session.working.submissions ++ [row] } } := by
  unfold createSubmission at h ⊢
  rcases hstatus : statusToStore s.value [] with e | status
  · rw [hstatus] at h
    cases h
  · rw [hstatus] at h
    obtain ⟨husable, draft, id, d, -, hinsert, hstamp, hsession⟩ := writeDraft_result h
    obtain ⟨row, rfl, hid, -, -, -, huser, hdate, hmodifyUser, hmodifyDate, rfl⟩ :=
      insertSubmission_ok hinsert
    rw [stored_text] at huser
    obtain rfl := Cell.text.inj (Except.ok.inj huser)
    refine ⟨husable, row, hid, (Except.ok.inj hstamp).symm, ?_, hsession⟩
    have hread := Timestamp.read_ofMoment (clock.offset_stamp (clock.given + 1))
    exact ⟨rfl, congrArg Value.moment (hdate ▸ hread), congrArg Value.text hmodifyUser,
      congrArg Value.moment (hmodifyDate ▸ hread)⟩

/-- Updating a submission changes the rows with the number that its id is of: they get a new stamp
of the change and keep that of the creation. -/
theorem updateSubmission_ok {session : Session} {clock : Clock} {v : Value}
    (h : (session.updateSubmission clock s.value (.text operator)).result = .ok v) :
    session.usable = true ∧ ∃ (m : Int) (change : SubmissionRow → SubmissionRow),
      session.meant s.id = some m ∧ (∀ r, (change r).id = r.id) ∧
      (∀ r, r.id ≠ m → change r = r) ∧
      (∀ r, r.id = m → ∀ created kept, r.StampedAs created kept →
        (change r).StampedAs created (s.asChanged operator clock.tick.1)) ∧
      (session.updateSubmission clock s.value (.text operator)).session =
        { session with
          working :=
            { session.working with
              submissions := session.working.submissions.map change } } := by
  unfold updateSubmission at h ⊢
  rcases hchanging : session.changing s.value with e | ⟨row, status⟩
  · rw [hchanging] at h
    cases h
  · rw [hchanging] at h
    obtain ⟨husable, draft, done, d, -, hchange, -, hsession⟩ := writeDraft_result h
    obtain ⟨change, hid, hothers, hown, hcreation, rfl⟩ := changeSubmission_ok hchange
    have hmeant : session.meant s.id = some row.id := by
      simp only [changing, Submission.read_id, bind_eq_ok_iff, Except.ok.injEq] at hchanging
      obtain ⟨_, rfl, found, hfound, hrow⟩ := hchanging
      rcases found with _ | row'
      · cases hrow
      · simp only [bind_eq_ok_iff, Pure.pure, Except.pure, Except.ok.injEq, Prod.mk.injEq] at hrow
        obtain ⟨_, -, rfl, -⟩ := hrow
        rw [meant, hfound]
        rfl
    refine ⟨husable, row.id, change, hmeant, hid, hothers, fun r hr created kept hr' => ?_,
      hsession⟩
    obtain ⟨-, -, -, huser, hdate⟩ := hown r hr
    obtain ⟨hcreateUser, hcreateDate⟩ := hcreation r
    rw [stored_text] at huser
    have hread := Timestamp.read_ofMoment (clock.offset_stamp (clock.given + 1))
    exact ⟨hcreateUser ▸ hr'.createUser, hcreateDate ▸ hr'.createDate,
      congrArg Value.text (Cell.text.inj (Except.ok.inj huser)).symm,
      congrArg Value.moment (hdate ▸ hread)⟩

/-- A call that does not return spares the rows, or it spoils the session. -/
theorem refused_of_error {c : SubmissionCall} {state : Session × Clock} {e : Failure}
    (h : (c.answer state).reply = .error e) : state.1.Refused (c.answer state).state.1 := by
  have hentity : (Call.catalog c.call).HandsEntity := by
    cases c with
    | get id => exact fun _ hnone => nomatch hnone
    | _ =>
        intro record hrecord
        obtain rfl := Option.some.inj hrecord
        rfl
  rcases answer_cases hentity state.1 state.2 with ⟨v, _, hreply, -⟩ | ⟨-, hrefused⟩
  · exact nomatch h.symm.trans hreply
  · exact hrefused

/-- Rows that are spared keep their stamps, and nothing is asked of a session that is spoilt. -/
theorem Holds.of_refused {state later : Session × Clock} (h : Holds n created kept state)
    (hrefused : state.1.Refused later.1) : Holds n created kept later := by
  rcases hrefused with hsame | ⟨-, hspoilt⟩
  · rwa [Holds, hsame]
  · intro husable
    rw [hspoilt] at husable
    cases husable

/-- With each call, the row with a number keeps the stamp of its creation, and it has the stamp that
the caller of the last update has. -/
theorem holds_answer {state : Session × Clock} (c : SubmissionCall)
    (h : Holds n created kept state) :
    Holds n created (keeps meant n kept c state) (c.answer state).state := by
  obtain ⟨session, clock⟩ := state
  rcases hreply : (c.answer (session, clock)).reply with e | v
  · rw [keeps_refused hreply]
    exact h.of_refused (refused_of_error hreply)
  · have hresult : (perform c.call session clock).result = .ok v := told_reply_ok hreply
    have hsession : (c.answer (session, clock)).state.1 = (perform c.call session clock).session :=
      congrArg Prod.fst (told_state _ _)
    rw [Holds, hsession]
    cases c with
    | get id => exact h
    | create s operator =>
        obtain ⟨husable, row, -, -, -, hadded⟩ := createSubmission_ok hresult
        intro _
        obtain ⟨old, hold, hstamped⟩ := h husable
        refine ⟨old, ?_, hstamped⟩
        have hnow : (perform (SubmissionCall.create s operator).call session clock).session = _ :=
          hadded
        rw [hnow]
        exact Database.submission?_append hold
    | update s operator =>
        obtain ⟨husable, m, change, hmeant, hid, hothers, hown, hchanged⟩ :=
          updateSubmission_ok hresult
        intro _
        obtain ⟨old, hold, hstamped⟩ := h husable
        have holdId : old.id = n := Database.id_of_submission? hold
        refine ⟨change old, ?_, ?_⟩
        · have hnow : (perform (SubmissionCall.update s operator).call session clock).session = _ :=
            hchanged
          rw [hnow]
          exact (Database.submission?_map _ hid).trans (congrArg (Option.map change) hold)
        · by_cases hsame : m = n
          · rw [keeps_changed (hmeant.trans (congrArg some hsame)) hreply]
            exact hown old (holdId.trans hsame.symm) _ _ hstamped
          · have hforeign : session.meant s.id ≠ some n := fun h =>
              hsame (Option.some.inj (hmeant.symm.trans h))
            rw [keeps_foreign hforeign, hothers old fun h => hsame (h.symm.trans holdId)]
            exact hstamped

/-- What is got from a session that is usable has the stamps of the row. -/
theorem answer_get {state : Session × Clock} (hn : fits n = true)
    (h : Holds n created kept state) (husable : state.1.usable = true) :
    ∃ r : Submission, ((SubmissionCall.get (.int n)).answer state).reply = .ok r.value ∧
      r.SameCreation created ∧ r.SameChange kept := by
  obtain ⟨session, clock⟩ := state
  obtain ⟨row, hrow, hstamped⟩ := h husable
  have hfind : session.find (.int n) = .ok (some row) := by
    have hhanded : demandParameters [(.integer, .int n)] = .ok () :=
      demandParameters_of_fits (by simp [hn])
    have hdemand : session.demandUsable = .ok () := if_pos husable
    rw [find_int, query, hdemand, hhanded]
    exact congrArg Except.ok hrow
  refine ⟨submissionOf session.working.submissionStatuses row, ?_,
    ⟨hstamped.createUser, hstamped.createDate⟩, hstamped.modifyUser, hstamped.modifyDate⟩
  show (told (.getSubmission (.int n)) ⟨session.getSubmission (.int n), session, clock⟩).reply = _
  rw [getSubmission, hfind]
  rfl

/-- A spoilt session has no submission to give. -/
theorem answer_get_of_spoilt {state : Session × Clock} (hspoilt : state.1.usable = false) :
    ∃ e, ((SubmissionCall.get (.int n)).answer state).reply = .error e := by
  obtain ⟨session, clock⟩ := state
  have hfind : session.find (.int n) = .error pendingRollback := by
    have hdemand : session.demandUsable = .error pendingRollback :=
      if_neg (Bool.eq_false_iff.1 hspoilt)
    rw [find_int, query, hdemand]
    rfl
  refine ⟨(wrap (Call.catalog (.getSubmission (.int n))).method.name pendingRollback).1, ?_⟩
  show (told (.getSubmission (.int n)) ⟨session.getSubmission (.int n), session, clock⟩).reply = _
  rw [getSubmission, hfind]
  rfl

/-- A submission that is created has a row with its stamps under the number that its owner finds,
and the session is usable. -/
theorem holds_create {state : Session × Clock} {v : Value}
    (h : ((SubmissionCall.create s operator).answer state).reply = .ok v) :
    ((SubmissionCall.create s operator).answer state).state.1.usable = true ∧
    ∃ n, v = (s.asCreated n operator state.2.tick.1).value ∧
      Holds n (s.asCreated n operator state.2.tick.1) (s.asCreated n operator state.2.tick.1)
        ((SubmissionCall.create s operator).answer state).state := by
  obtain ⟨session, clock⟩ := state
  have hstate : ((SubmissionCall.create s operator).answer (session, clock)).state =
      ((session.createSubmission clock s.value (.text operator)).session,
        (session.createSubmission clock s.value (.text operator)).clock) := told_state _ _
  have hresult : (session.createSubmission clock s.value (.text operator)).result = .ok v :=
    told_reply_ok h
  obtain ⟨husable, row, hid, rfl, hstamped, hsession⟩ := createSubmission_ok hresult
  rw [hstate, hsession]
  refine ⟨husable, row.id, rfl, fun _ => ⟨row, ?_, hstamped⟩⟩
  exact Database.submission?_concat hid

/-! ### Sessions that stay usable -/

/-- What is read of a submission that can be kept is written to any tables, if there is a status. -/
theorem exists_draft (hs : s.Storable) {status : Value} {details : Fields}
    (hstatus : statusToStore s.value details = .ok status) :
    ∃ draft, SubmissionDraft.of s.value status = .ok draft ∧
      SubmissionDraft.ofChange s.value status = .ok draft ∧
      ∀ (operator : String) (now : Moment) (d : Database),
        (∃ id d', insertSubmission draft (.text operator) now d = .ok (id, d')) ∧
        ∀ m, ∃ d', changeSubmission m draft (.text operator) now d = .ok ((), d') := by
  obtain ⟨u, hu, hupload⟩ := hs.uploadId
  obtain ⟨r, hr, hresource⟩ := hs.resourceId
  obtain ⟨l, hl, hread⟩ := hs.status
  have hsame : s.status = status := Except.ok.inj (statusToStore_ok hstatus)
  rcases l with _ | l
  · simp [statusToStore, hread, StoredLookup.optional, Value.isNull, bind, Except.bind] at hstatus
  · obtain rfl : l.value = status := hread.symm.trans hsame
    refine ⟨⟨s.uploadId, s.resourceId, .int l.id⟩, rfl, rfl, fun operator now d => ⟨?_, ?_⟩⟩
    · simp only [insertSubmission, hupload, hresource, stored_optional hu, stored_optional hr,
        stored_int (hl l rfl), stored_text, required, requiredText, Bind.bind, Except.bind,
        Pure.pure, Except.pure]
      exact ⟨_, _, rfl⟩
    · intro m
      simp only [changeSubmission, hupload, hresource, stored_optional hu, stored_optional hr,
        stored_int (hl l rfl), stored_text, required, requiredText, Bind.bind, Except.bind,
        Pure.pure, Except.pure]
      exact ⟨_, rfl⟩

/-- A call with what can be kept in tables spoils no session. -/
theorem usable_answer {c : SubmissionCall} (hc : c.Storable) {state : Session × Clock}
    (husable : state.1.usable = true) : (c.answer state).state.1.usable = true := by
  obtain ⟨session, clock⟩ := state
  have hstate : (c.answer (session, clock)).state.1 = (perform c.call session clock).session :=
    congrArg Prod.fst (told_state _ _)
  rw [hstate]
  cases c with
  | get id => exact husable
  | create s operator =>
      show (session.createSubmission clock s.value (.text operator)).session.usable = true
      unfold createSubmission
      rcases hstatus : statusToStore s.value [] with e | status
      · exact husable
      · obtain ⟨draft, hdraft, -, hwritten⟩ := exists_draft hc hstatus
        obtain ⟨⟨id, d, hinsert⟩, -⟩ := hwritten operator clock.tick.1 session.working
        dsimp only
        rw [hdraft]
        exact congrArg (·.session.usable) (writeDraft_ok husable hinsert _ _) ▸ husable
  | update s operator =>
      show (session.updateSubmission clock s.value (.text operator)).session.usable = true
      unfold updateSubmission
      rcases hchanging : session.changing s.value with e | ⟨row, status⟩
      · exact husable
      · obtain ⟨-, -, details, hstatus⟩ := changing_ok hchanging
        obtain ⟨draft, -, hdraft, hwritten⟩ := exists_draft hc hstatus
        obtain ⟨-, hchange⟩ := hwritten operator clock.tick.1 session.working
        obtain ⟨d, hchange⟩ := hchange row.id
        dsimp only
        rw [hdraft]
        exact congrArg (·.session.usable) (writeDraft_ok husable hchange _ _) ▸ husable

theorem usable_after {calls : List SubmissionCall} (hcalls : ∀ c ∈ calls, c.Storable)
    {state : Session × Clock} (husable : state.1.usable = true) :
    (after calls state).1.usable = true := by
  induction calls generalizing state with
  | nil => exact husable
  | cons c rest ih =>
      refine ih (fun x hx => hcalls x (List.mem_cons_of_mem _ hx)) ?_
      exact usable_answer (hcalls c List.mem_cons_self) husable

end Session

end Sql

/-! ## Both catalogs -/

namespace SubmissionCall

open Sql

/-- **The stamps of a submission after it was created.**  Take any submission that is created, and
any calls after that, made with any submissions.  In memory the submission under its number then is,
with all its stamps, what the caller of its last update has; the stamp of the creation stays if
those who update it bring it along.  In tables, what is got under the number has the stamp of the
creation in any case, and that of the last update; only a session in which the database has refused
a write has nothing to give, and it refuses none if what is handed over can be kept. -/
theorem stamps_after_calls (s : Submission) (operator : String) (calls : List SubmissionCall) :
    (∀ start : Memory.Catalog × Clock,
      let creation := (create s operator).answer start
      ∃ n : Int,
        let created := s.asCreated n operator start.2.tick.1
        let last := latest Memory.Catalog.meant n created calls creation.state
        creation.reply = .ok created.value ∧
        ((get (.int n)).answer (after calls creation.state)).reply = .ok last.value ∧
        ((∀ x o, .update x o ∈ calls → x.id.equals (.int n) = true → x.SameCreation created) →
          last.SameCreation created)) ∧
    (∀ (start : Session × Clock) (v : Value),
      let creation := (create s operator).answer start
      creation.reply = .ok v → ∃ n : Int,
        let created := s.asCreated n operator start.2.tick.1
        let last := latest Session.meant n created calls creation.state
        let later := after calls creation.state
        v = created.value ∧
        (fits n = true → later.1.usable = true → ∃ r : Submission,
          ((get (.int n)).answer later).reply = .ok r.value ∧ r.SameCreation created ∧
            r.SameChange last) ∧
        (later.1.usable = false → ∃ e, ((get (.int n)).answer later).reply = .error e) ∧
        ((∀ c ∈ calls, c.Storable) → later.1.usable = true)) := by
  constructor
  · intro start creation
    let n := Register.firstFree start.1.submissions.numbers start.1.nextSubmission
    have hreply : creation.reply = .ok (s.asCreated n operator start.2.tick.1).value :=
      congrArg Answer.reply
        (Memory.Catalog.answer_createSubmission start.1 start.2 s (.text operator))
    refine ⟨n, hreply, ?_, fun hbrought => ?_⟩
    · have hstart := Memory.Catalog.holds_create hreply
      exact Memory.Catalog.answer_get
        (run (fun _ c _ => Memory.Catalog.holds_answer c) hstart calls)
    · refine sameCreation_latest ⟨rfl, rfl⟩ fun x o hx hmeant => hbrought x o hx ?_
      obtain ⟨_, hwhole⟩ := hmeant
      exact Value.equals_int_iff.2 hwhole
  · intro start v creation hreply
    obtain ⟨husable, n, hv, hstart⟩ := Session.holds_create hreply
    have hlater := run (fun _ c _ => Session.holds_answer c) hstart calls
    exact ⟨n, hv, fun hn hlaterUsable => Session.answer_get hn hlater hlaterUsable,
      Session.answer_get_of_spoilt, fun hcalls => Session.usable_after hcalls husable⟩

/-- In tables a submission keeps the stamp of its creation when it is updated with one that has only
its number and a status; in memory it does when it is updated with what its owner has of it. -/
theorem stamps_after_calls_kept :
    let active : StoredLookup := { id := 1, name := "Active" }
    let s : Submission := { status := active.value, uploadId := .int 7, resourceId := .int 1 }
    let session : Session × Clock := ({ working := { submissionStatuses := [active.row] } }, {})
    let catalog : Memory.Catalog × Clock := (.fresh, {})
    let created := s.asCreated 1 "alice" session.2.tick.1
    let bare := [update { id := .int 1, status := active.value } "bob"]
    let full := [update created "bob"]
    (∃ r : Submission,
      ((get (.int 1)).answer (after bare ((create s "alice").answer session).state)).reply =
        .ok r.value ∧ r.SameCreation created ∧ r.modifiedBy = .text "bob") ∧
    ∃ r : Submission,
      ((get (.int 1)).answer (after full ((create s "alice").answer catalog).state)).reply =
        .ok r.value ∧ r.SameCreation created ∧ r.modifiedBy = .text "bob" := by
  intro active s session catalog created bare full
  constructor
  · have hreply : ((create s "alice").answer session).reply = .ok created.value := by
      decide +kernel
    obtain ⟨n, hv, hgot, -, husable⟩ := (stamps_after_calls s "alice" bare).2 session _ hreply
    obtain rfl := Submission.number_of_asCreated hv
    have hbare : ∀ c ∈ bare, c.Storable := by
      intro c hc
      obtain rfl := List.mem_singleton.1 hc
      exact ⟨⟨some active, by simp [active]; decide, rfl⟩, ⟨none, by simp, rfl⟩,
        ⟨none, by simp, rfl⟩⟩
    obtain ⟨r, hr, hcreation, hchange⟩ := hgot (by decide) (husable hbare)
    exact ⟨r, hr, hcreation, hchange.1.trans (by decide +kernel)⟩
  · have hreply : ((create s "alice").answer catalog).reply = .ok created.value := by
      decide +kernel
    obtain ⟨n, hv, hgot, hkept⟩ := (stamps_after_calls s "alice" full).1 catalog
    obtain rfl := Submission.number_of_asCreated (Except.ok.inj (hreply.symm.trans hv))
    have hfull : ∀ x o, update x o ∈ full → x.id.equals (.int 1) = true →
        x.SameCreation created := by
      intro x o hx _
      obtain ⟨rfl, -⟩ := SubmissionCall.update.inj (List.mem_singleton.1 hx)
      exact ⟨rfl, rfl⟩
    exact ⟨_, hgot, hkept hfull, by decide +kernel⟩

/-- In memory a submission that is updated with one that has only its number and a status has lost
the stamp of its creation. -/
theorem creation_stamp_lost :
    let active : StoredLookup := { id := 1, name := "Active" }
    let s : Submission := { status := active.value, uploadId := .int 7, resourceId := .int 1 }
    let start : Memory.Catalog × Clock := (.fresh, {})
    let creation := (create s "alice").answer start
    let bare : Submission := { id := .int 1, status := active.value }
    let later := after [update bare "bob"] creation.state
    creation.reply = .ok (s.asCreated 1 "alice" start.2.tick.1).value ∧
      ∃ r : Submission, ((get (.int 1)).answer later).reply = .ok r.value ∧
        r.modifiedBy = .text "bob" ∧ r.createdBy = .null ∧ r.createdAt = .null := by
  intro active s start creation bare later
  refine ⟨by decide +kernel, bare.asChanged "bob" creation.state.2.tick.1, ?_, rfl, rfl, rfl⟩
  decide +kernel

end SubmissionCall

end ContestUploads
