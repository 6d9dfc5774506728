import ContestUploads.Fault
import ContestUploads.Proofs.Asking
import ContestUploads.Proofs.Numbering
import ContestUploads.Proofs.Reached
import ContestUploads.Proofs.Requests

/-!
# What the audit logs tell

A *deed* is a completed write of a store in memory: the register that it stores a record in, its
entry for the audit log, and the moment that it is stamped with.  `Platform.deed?` tells what a call
does if it takes effect, from the call and the state alone, and `Rehearsal.completed?` whether it
does.

`Accounts p ds q` relates a state to a later one by the deeds between them: the logs have grown by
their entries, the clock has passed their moments, whatever its timeline, a record carries the stamps
of the last deed with its id, and all others are as they were.  One call is accounted for by its deed
(`Rehearsal.accounts_following`) and accounts follow one another (`Accounts.trans`).  So a program
is accounted for by the deeds of its calls (`Program.accounts_outcome`), and any number of programs
by theirs (`Turn.accounts_after`).
-/

namespace ContestUploads

open Program

variable {α : Type}

/-! ## Records as they are stamped -/

namespace Value

/-- Whether a value shows what is written to it under any name.  A named member and a filter are
handed on as they are. -/
def isRecord : Value → Bool
  | .record .. => true
  | _ => false

/-- Only a record becomes a record by a write, and it keeps all fields but the one written. -/
theorem write_eq_record {v x : Value} {name : String} {k : RecordKind} {fields : Fields}
    (h : v.write name x = .ok (.record k fields)) :
    ∃ before, v = .record k before ∧ fields = Fields.set before name x := by
  unfold write at h
  split at h
  case h_1 k' before =>
    split at h
    · cases h
    · split at h
      · cases h
      · obtain ⟨rfl, rfl⟩ := Value.record.inj (Except.ok.inj h)
        exact ⟨before, rfl, rfl⟩
  case h_2 | h_3 =>
    unfold demandFree at h
    split at h <;> cases h
  case h_4 => cases h
  case h_5 => split at h <;> cases h

/-- A record that comes of several writes is the one that there was, written over. -/
theorem writeAll_eq_record {v : Value} {changes : Fields} {k : RecordKind} {fields : Fields}
    (h : v.writeAll changes = .ok (.record k fields)) :
    ∃ before, v = .record k before ∧ fields = Fields.merge before changes := by
  induction changes generalizing v with
  | nil =>
      obtain rfl := Except.ok.inj h
      exact ⟨fields, rfl, rfl⟩
  | cons change rest ih =>
      obtain ⟨w, hwrite, hrest⟩ := bind_eq_ok_iff.1 h
      obtain ⟨middle, rfl, rfl⟩ := ih hrest
      obtain ⟨before, rfl, rfl⟩ := write_eq_record hwrite
      exact ⟨before, rfl, rfl⟩

/-- A record carries the stamps of a change.  What is no record shows no names but its own, and
nothing is said of it. -/
def StampedBy (v operator : Value) (now : Moment) : Prop :=
  v.isRecord = true → v.read "modified_by" = .ok operator ∧ v.read "modified_at" = .ok (.moment now)

theorem stampedBy_stamped {v w operator : Value} {now : Moment}
    (h : v.stamped operator now = .ok w) : w.StampedBy operator now := by
  cases w with
  | record k fields =>
      obtain ⟨before, -, rfl⟩ := writeAll_eq_record h
      refine fun _ => ⟨read_field ?_, read_field ?_⟩ <;>
        simp [Fields.merge, Fields.lookup_set]
  | _ => nofun

theorem stampedBy_created {v w operator : Value} {now : Moment}
    (h : v.created operator now = .ok w) : w.StampedBy operator now := by
  cases w with
  | record k fields =>
      obtain ⟨before, -, rfl⟩ := writeAll_eq_record h
      refine fun _ => ⟨read_field ?_, read_field ?_⟩ <;>
        simp [Fields.merge, Fields.lookup_set]
  | _ => nofun

end Value

/-! ## Deeds -/

/-- The registers that stamped records lie in. -/
inductive Shelf
  | uploads
  | submissions
  | resources
  deriving DecidableEq, Repr

/-- What lies on a shelf. -/
def Shelf.records (p : Platform Memory.Catalog) : Shelf → Register Value
  | .uploads => p.catalog.uploads
  | .submissions => p.catalog.submissions
  | .resources => p.directory.resources

/-- A completed write. -/
structure Deed where
  shelf : Shelf
  entry : AuditEntry
  /-- The moment of the write. -/
  moment : Moment
  deriving DecidableEq, Repr

namespace Deed

/-- Whether a deed stores a record under an id. -/
def concerns (shelf : Shelf) (id : Value) (d : Deed) : Bool :=
  d.shelf == shelf && d.entry.id.key == id.key

/-- Whether a deed creates a submission. -/
def creates (d : Deed) : Bool :=
  d.shelf == .submissions && d.entry.action == Method.createSubmission.name

/-- The last of some deeds that stores a record under an id. -/
def last? (ds : List Deed) (shelf : Shelf) (id : Value) : Option Deed :=
  (ds.filter (·.concerns shelf id)).getLast?

theorem last?_append (ds es : List Deed) (shelf : Shelf) (id : Value) :
    last? (ds ++ es) shelf id = (last? es shelf id).or (last? ds shelf id) := by
  rw [last?, List.filter_append, List.getLast?_append]
  rfl

theorem last?_singleton (d : Deed) (shelf : Shelf) (id : Value) :
    last? [d] shelf id = if d.concerns shelf id = true then some d else none := by
  rw [last?, List.filter_singleton]
  cases d.concerns shelf id <;> rfl

/-- The entries for the log of the catalog. -/
def catalogEntries (ds : List Deed) : List AuditEntry :=
  (ds.filter (·.shelf != .resources)).map Deed.entry

/-- The entries for the log of the directory. -/
def directoryEntries (ds : List Deed) : List AuditEntry :=
  (ds.filter (·.shelf == .resources)).map Deed.entry

end Deed

/-- What a call writes if it takes effect. -/
def Platform.deed? (p : Platform Memory.Catalog) : Call → Option Deed
  | .catalog (.createUpload _ operator) =>
      some ⟨.uploads, ⟨Method.createUpload.name, .int p.catalog.nextUpload, operator⟩,
        p.clock.tick.1⟩
  | .catalog (.createSubmission _ operator) =>
      let id := Register.firstFree p.catalog.submissions.numbers p.catalog.nextSubmission
      some ⟨.submissions, ⟨Method.createSubmission.name, .int id, operator⟩, p.clock.tick.1⟩
  | .catalog (.updateSubmission submission operator) =>
      (submission.read "submission_id").toOption.map fun id =>
        ⟨.submissions, ⟨Method.updateSubmission.name, id, operator⟩, p.clock.tick.1⟩
  | .updateResource resource operator =>
      (resource.read "resource_id").toOption.map fun id =>
        ⟨.resources, ⟨Method.updateResource.name, id, operator⟩, p.clock.tick.1⟩
  | _ => none

/-- The write that a call completes, whether or not the reply comes through. -/
def Rehearsal.completed? (script : List Fault) (r : Rehearsal (Platform Memory.Catalog))
    (c : Call) : Option Deed :=
  (effective? script Platform.answer r c).bind fun _ => r.state.deed? c

/-! ## Accounts -/

/-- How a state comes from another by some deeds, in their order. -/
structure Accounts (p : Platform Memory.Catalog) (ds : List Deed) (q : Platform Memory.Catalog) :
    Prop where
  catalogAudit : q.catalog.audit = p.catalog.audit ++ Deed.catalogEntries ds
  directoryAudit : q.directory.audit = p.directory.audit ++ Deed.directoryEntries ds
  clock : p.clock.latest ≤ q.clock.latest
  /-- Each deed has a stamp that was given in between. -/
  given : ∀ d ∈ ds, p.clock.latest < d.moment.instant ∧ d.moment.instant ≤ q.clock.latest
  increasing : ds.Pairwise fun d e => d.moment.instant < e.moment.instant
  kept : ∀ shelf id, Deed.last? ds shelf id = none →
    (shelf.records q).get? id = (shelf.records p).get? id
  /-- A record has the stamps of the last deed with its id. -/
  stamped : ∀ shelf id d, Deed.last? ds shelf id = some d →
    ∃ v, (shelf.records q).get? id = some v ∧ v.StampedBy d.entry.operator d.moment
  uses : ∀ (shelf : Shelf) id, (shelf.records q).uses id = true ↔
    (shelf.records p).uses id = true ∨ ∃ d ∈ ds, d.concerns shelf id = true
  /-- A submission that was not there was created. -/
  created : ∀ id, q.catalog.submissions.uses id = true → p.catalog.submissions.uses id = true ∨
    ∃ d ∈ ds, d.creates = true ∧ d.concerns .submissions id = true
  /-- The ids of created submissions were free. -/
  free : ∀ d ∈ ds, d.creates = true → p.catalog.submissions.uses d.entry.id = false
  once : ds.Pairwise fun d e =>
    e.creates = true → d.concerns .submissions e.entry.id = false

namespace Accounts

variable {p q r : Platform Memory.Catalog} {ds es : List Deed}

/-- Nothing was written. -/
theorem of_same (hcatalog : q.catalog.audit = p.catalog.audit)
    (hdirectory : q.directory.audit = p.directory.audit)
    (hclock : p.clock.latest ≤ q.clock.latest)
    (hrecords : ∀ shelf : Shelf, shelf.records q = shelf.records p) : Accounts p [] q where
  catalogAudit := by rw [hcatalog]; exact (List.append_nil _).symm
  directoryAudit := by rw [hdirectory]; exact (List.append_nil _).symm
  clock := hclock
  given := by simp
  increasing := .nil
  kept shelf id _ := by rw [hrecords]
  stamped := nofun
  uses shelf id := by simp [hrecords]
  created id hid := by
    left
    rwa [show q.catalog.submissions = p.catalog.submissions from hrecords .submissions] at hid
  free := by simp
  once := .nil

theorem refl (p : Platform Memory.Catalog) : Accounts p [] p :=
  of_same rfl rfl (Int.le_refl _) fun _ => rfl

/-- One record was stored. -/
theorem of_put {d : Deed} {v : Value}
    (hcatalog : q.catalog.audit = p.catalog.audit ++ Deed.catalogEntries [d])
    (hdirectory : q.directory.audit = p.directory.audit ++ Deed.directoryEntries [d])
    (hclock : q.clock = p.clock.tick.2) (hmoment : d.moment = p.clock.tick.1)
    (hput : d.shelf.records q = (d.shelf.records p).put d.entry.id v)
    (hothers : ∀ shelf, shelf ≠ d.shelf → shelf.records q = shelf.records p)
    (hstamped : v.StampedBy d.entry.operator d.moment)
    (hcreates : d.creates = true → p.catalog.submissions.uses d.entry.id = false)
    (hchanges : d.shelf = .submissions → d.creates = false →
      p.catalog.submissions.uses d.entry.id = true) :
    Accounts p [d] q where
  catalogAudit := hcatalog
  directoryAudit := hdirectory
  clock := by
    rw [hclock]
    exact Int.le_of_lt p.clock.latest_lt_tick
  given e he := by
    obtain rfl := List.mem_singleton.1 he
    rw [hmoment, hclock]
    exact ⟨p.clock.latest_lt_tick, Int.le_refl _⟩
  increasing := List.pairwise_singleton _ _
  kept shelf id hnone := by
    by_cases hshelf : shelf = d.shelf
    · subst hshelf
      have hid : id.key ≠ d.entry.id.key := by
        intro hid
        simp [Deed.last?_singleton, Deed.concerns, hid] at hnone
      rw [hput, Register.get?_put_of_ne _ _ hid]
    · rw [hothers shelf hshelf]
  stamped shelf id e he := by
    rw [Deed.last?_singleton] at he
    split at he
    · rename_i hconcerns
      obtain rfl := Option.some.inj he
      simp only [Deed.concerns, Bool.and_eq_true, beq_iff_eq] at hconcerns
      obtain ⟨rfl, hid⟩ := hconcerns
      refine ⟨v, ?_, hstamped⟩
      have hself := Register.get?_put_self (d.shelf.records p) d.entry.id v
      rw [Register.get?, hid] at hself
      rw [hput]
      exact hself
    · cases he
  uses shelf id := by
    by_cases hshelf : shelf = d.shelf
    · subst hshelf
      rw [hput, Register.uses_put]
      simp [Deed.concerns, eq_comm (a := id.key)]
    · rw [hothers shelf hshelf]
      simp [Deed.concerns, Ne.symm hshelf]
  created id hid := by
    by_cases hshelf : Shelf.submissions = d.shelf
    · have hsubmissions : q.catalog.submissions = p.catalog.submissions.put d.entry.id v := by
        simpa only [← hshelf, Shelf.records] using hput
      rw [hsubmissions, Register.uses_put] at hid
      rcases hid with hbefore | hkey
      · exact .inl hbefore
      rcases hd : d.creates with _ | _
      · left
        rw [Register.uses, hkey]
        exact hchanges hshelf.symm hd
      · exact .inr ⟨d, List.mem_cons_self, hd, by simp [Deed.concerns, hkey, ← hshelf]⟩
    · left
      rwa [show q.catalog.submissions = p.catalog.submissions from hothers _ hshelf] at hid
  free e he := by
    obtain rfl := List.mem_singleton.1 he
    exact hcreates
  once := List.pairwise_singleton _ _

/-- An id that is free was free before, and nothing was done to it. -/
theorem free_before (h : Accounts p ds q) {id : Value}
    (hfree : q.catalog.submissions.uses id = false) :
    p.catalog.submissions.uses id = false ∧ ∀ d ∈ ds, d.concerns .submissions id = false := by
  have hnot : ¬ (p.catalog.submissions.uses id = true ∨
      ∃ d ∈ ds, d.concerns .submissions id = true) := by
    intro hused
    have huses : q.catalog.submissions.uses id = true := (h.uses .submissions id).2 hused
    rw [hfree] at huses
    cases huses
  simpa using hnot

/-- Accounts follow one another. -/
theorem trans (h : Accounts p ds q) (h' : Accounts q es r) : Accounts p (ds ++ es) r where
  catalogAudit := by
    rw [h'.catalogAudit, h.catalogAudit, List.append_assoc]
    simp [Deed.catalogEntries]
  directoryAudit := by
    rw [h'.directoryAudit, h.directoryAudit, List.append_assoc]
    simp [Deed.directoryEntries]
  clock := Int.le_trans h.clock h'.clock
  given d hd := by
    have hclock := h.clock
    have hclock' := h'.clock
    rcases List.mem_append.1 hd with hd | hd
    · have hgiven := h.given d hd
      omega
    · have hgiven := h'.given d hd
      omega
  increasing := by
    refine List.pairwise_append.2 ⟨h.increasing, h'.increasing, fun d hd e he => ?_⟩
    have hbefore := (h.given d hd).2
    have hafter := (h'.given e he).1
    omega
  kept shelf id hnone := by
    rw [Deed.last?_append, Option.or_eq_none_iff] at hnone
    rw [h'.kept shelf id hnone.1, h.kept shelf id hnone.2]
  stamped shelf id d hd := by
    rw [Deed.last?_append, Option.or_eq_some_iff] at hd
    rcases hd with hlater | ⟨hnone, hearlier⟩
    · exact h'.stamped shelf id d hlater
    · rw [h'.kept shelf id hnone]
      exact h.stamped shelf id d hearlier
  uses shelf id := by
    rw [h'.uses, h.uses, or_assoc]
    simp only [List.mem_append, or_and_right, exists_or]
  created id hid := by
    rcases h'.created id hid with hid | ⟨d, hd, hcreates⟩
    · exact (h.created id hid).imp_right fun ⟨d, hd, hcreates⟩ =>
        ⟨d, List.mem_append_left _ hd, hcreates⟩
    · exact .inr ⟨d, List.mem_append_right _ hd, hcreates⟩
  free d hd hcreates := by
    rcases List.mem_append.1 hd with hd | hd
    · exact h.free d hd hcreates
    · exact (h.free_before (h'.free d hd hcreates)).1
  once := by
    refine List.pairwise_append.2 ⟨h.once, h'.once, fun d hd e he hcreates => ?_⟩
    exact (h.free_before (h'.free e he hcreates)).2 d hd

end Accounts

/-! ## The deeds of a call -/

/-- What a call does if the collaborators take it. -/
def Platform.doings (p : Platform Memory.Catalog) (c : Call) : List Deed :=
  ((Platform.answer c p).reply.toOption.bind fun _ => p.deed? c).toList

section Calls

variable {p : Platform Memory.Catalog}

/-- A refused call that leaves all records is accounted for by nothing. -/
theorem accounts_refused {c : Call} {e : Failure} {q : Platform Memory.Catalog}
    {logged : List LogEntry} (hanswer : Platform.answer c p = ⟨.error e, q, logged⟩)
    (hcatalog : q.catalog.audit = p.catalog.audit)
    (hdirectory : q.directory.audit = p.directory.audit)
    (hclock : p.clock.latest ≤ q.clock.latest)
    (hrecords : ∀ shelf : Shelf, shelf.records q = shelf.records p) :
    Accounts p (p.doings c) (Platform.answer c p).state := by
  rw [Platform.doings, hanswer]
  exact .of_same hcatalog hdirectory hclock hrecords

/-- A write to the catalog that has taken its stamp: it is refused by the record that it is to
stamp, or it stores this record. -/
theorem accounts_written {call : CatalogCall} {c : Memory.Catalog}
    {result : Except Failure (Value × Memory.Catalog)}
    (hanswer : Memory.Catalog.answer call (p.catalog, p.clock) = c.written p.clock.tick.2 result)
    (haudit : c.audit = p.catalog.audit) (huploads : c.uploads = p.catalog.uploads)
    (hsubmissions : c.submissions = p.catalog.submissions)
    (hstored : ∀ stored c', result = .ok (stored, c') → ∃ d, p.deed? (.catalog call) = some d ∧
      Accounts p [d] { p with catalog := c', clock := p.clock.tick.2 }) :
    Accounts p (p.doings (.catalog call)) (Platform.answer (.catalog call) p).state := by
  rcases hresult : result with e | ⟨stored, c'⟩
  · have hrefused : Platform.answer (.catalog call) p =
        ⟨.error e, { p with catalog := c, clock := p.clock.tick.2 }, []⟩ := by
      simp [Platform.answer, UploadCatalog.answer, hanswer, hresult, Memory.Catalog.written]
    refine accounts_refused hrefused haudit rfl (Int.le_of_lt p.clock.latest_lt_tick) fun shelf => ?_
    cases shelf
    · exact huploads
    · exact hsubmissions
    · rfl
  · have htaken : Platform.answer (.catalog call) p =
        ⟨.ok stored, { p with catalog := c', clock := p.clock.tick.2 }, []⟩ := by
      simp [Platform.answer, UploadCatalog.answer, hanswer, hresult, Memory.Catalog.written]
    obtain ⟨d, hdeed, haccounts⟩ := hstored stored c' hresult
    rw [Platform.doings, htaken]
    show Accounts p (p.deed? (.catalog call)).toList _
    rw [hdeed]
    exact haccounts

theorem accounts_createUpload (u operator : Value) :
    Accounts p (p.doings (.catalog (.createUpload u operator)))
      (Platform.answer (.catalog (.createUpload u operator)) p).state := by
  rcases hwrite : u.write "upload_id" (.int p.catalog.nextUpload) with e | numbered
  · have hanswer : Platform.answer (.catalog (.createUpload u operator)) p =
        ⟨.error e,
          { p with catalog := { p.catalog with nextUpload := p.catalog.nextUpload + 1 } }, []⟩ := by
      simp [Platform.answer, UploadCatalog.answer, Memory.Catalog.answer, hwrite]
    exact accounts_refused hanswer rfl rfl (Int.le_refl _) fun shelf => by cases shelf <;> rfl
  · have hanswer : Memory.Catalog.answer (.createUpload u operator) (p.catalog, p.clock) =
        Memory.Catalog.written { p.catalog with nextUpload := p.catalog.nextUpload + 1 }
          p.clock.tick.2 (Memory.Catalog.createUpload
            { p.catalog with nextUpload := p.catalog.nextUpload + 1 } numbered
            p.catalog.nextUpload operator p.clock.tick.1) := by
      simp only [Memory.Catalog.answer, hwrite]
    refine accounts_written hanswer rfl rfl rfl ?_
    intro stored c' hresult
    obtain ⟨v, hcreated, hstored⟩ := bind_eq_ok_iff.1 hresult
    obtain ⟨rfl, rfl⟩ := Prod.mk.inj (Except.ok.inj hstored)
    refine ⟨_, rfl, .of_put rfl (List.append_nil _).symm rfl rfl rfl (fun shelf hother => ?_)
      (Value.stampedBy_created hcreated) (by simp [Deed.creates]) fun hshelf => by cases hshelf⟩
    cases shelf
    · exact absurd rfl hother
    · rfl
    · rfl

theorem accounts_createSubmission (s operator : Value) :
    Accounts p (p.doings (.catalog (.createSubmission s operator)))
      (Platform.answer (.catalog (.createSubmission s operator)) p).state := by
  rcases hwrite : s.write "submission_id" (.int p.catalog.nextSubmission) with e | numbered
  · have hanswer : Platform.answer (.catalog (.createSubmission s operator)) p =
        ⟨.error e,
          { p with
            catalog := { p.catalog with nextSubmission := p.catalog.nextSubmission + 1 } }, []⟩ := by
      simp [Platform.answer, UploadCatalog.answer, Memory.Catalog.answer, hwrite]
    exact accounts_refused hanswer rfl rfl (Int.le_refl _) fun shelf => by cases shelf <;> rfl
  · let id := Register.firstFree p.catalog.submissions.numbers p.catalog.nextSubmission
    have hanswer : Memory.Catalog.answer (.createSubmission s operator) (p.catalog, p.clock) =
        Memory.Catalog.written { p.catalog with nextSubmission := id + 1 } p.clock.tick.2 (do
          Memory.Catalog.createSubmission { p.catalog with nextSubmission := id + 1 }
            (← numbered.write "submission_id" (.int id)) id operator p.clock.tick.1) := by
      simp only [Memory.Catalog.answer, hwrite, id]
    refine accounts_written hanswer rfl rfl rfl ?_
    intro stored c' hresult
    obtain ⟨renumbered, -, hresult⟩ := bind_eq_ok_iff.1 hresult
    obtain ⟨v, hcreated, hstored⟩ := bind_eq_ok_iff.1 hresult
    obtain ⟨rfl, rfl⟩ := Prod.mk.inj (Except.ok.inj hstored)
    refine ⟨_, rfl, .of_put rfl (List.append_nil _).symm rfl rfl rfl (fun shelf hother => ?_)
      (Value.stampedBy_created hcreated) (fun _ => ?_) (by simp [Deed.creates])⟩
    · cases shelf
      · rfl
      · exact absurd rfl hother
      · rfl
    · rw [Bool.eq_false_iff]
      intro huses
      exact Register.firstFree_notMem _ _ ((Register.uses_int_iff _).1 huses)

/-- The id that a store in memory finds a record under is the one that the record shows, and it is
in use. -/
theorem read_of_storedId {v id : Value} {name : String} {failure : Value → Failure}
    {inUse : Value → Bool}
    (h : (do
      let id ← v.read name
      id.demandFixed
      if inUse id then return id else .error (failure id)) = (.ok id : Except Failure Value)) :
    v.read name = .ok id ∧ inUse id = true := by
  obtain ⟨id', hread, h⟩ := bind_eq_ok_iff.1 h
  obtain ⟨-, -, h⟩ := bind_eq_ok_iff.1 h
  split at h
  · rename_i huses
    obtain rfl := Except.ok.inj h
    exact ⟨hread, huses⟩
  · cases h

theorem accounts_updateSubmission (s operator : Value) :
    Accounts p (p.doings (.catalog (.updateSubmission s operator)))
      (Platform.answer (.catalog (.updateSubmission s operator)) p).state := by
  rcases hid : p.catalog.storedId s with e | id
  · have hanswer : Platform.answer (.catalog (.updateSubmission s operator)) p =
        ⟨.error e, p, []⟩ := by
      simp [Platform.answer, UploadCatalog.answer, Memory.Catalog.answer, hid]
    exact accounts_refused hanswer rfl rfl (Int.le_refl _) fun _ => rfl
  · obtain ⟨hread, huses⟩ := read_of_storedId hid
    have hanswer : Memory.Catalog.answer (.updateSubmission s operator) (p.catalog, p.clock) =
        p.catalog.written p.clock.tick.2
          (p.catalog.updateSubmission s id operator p.clock.tick.1) := by
      simp only [Memory.Catalog.answer, hid]
    refine accounts_written hanswer rfl rfl rfl ?_
    intro stored c' hresult
    obtain ⟨v, hstamped, hstored⟩ := bind_eq_ok_iff.1 hresult
    obtain ⟨rfl, rfl⟩ := Prod.mk.inj (Except.ok.inj hstored)
    refine ⟨_, by rw [Platform.deed?, hread]; rfl,
      .of_put rfl (List.append_nil _).symm rfl rfl rfl (fun shelf hother => ?_)
        (Value.stampedBy_stamped hstamped) (by simp [Deed.creates, Method.name]) fun _ _ => huses⟩
    cases shelf
    · rfl
    · exact absurd rfl hother
    · rfl

theorem accounts_updateResource (r operator : Value) :
    Accounts p (p.doings (.updateResource r operator))
      (Platform.answer (.updateResource r operator) p).state := by
  rcases hid : p.directory.storedId r with e | id
  · have hanswer : Platform.answer (.updateResource r operator) p = ⟨.error e, p, []⟩ := by
      simp [Platform.answer, Platform.updateResource, hid]
    exact accounts_refused hanswer rfl rfl (Int.le_refl _) fun _ => rfl
  · obtain ⟨hread, -⟩ := read_of_storedId hid
    rcases hstamped : r.stamped operator (p.clock.tick.1) with e | stored
    · have hanswer : Platform.answer (.updateResource r operator) p =
          ⟨.error e, { p with clock := p.clock.tick.2 }, []⟩ := by
        simp [Platform.answer, Platform.updateResource, hid, Memory.Directory.update,
          hstamped, Bind.bind, Except.bind]
      exact accounts_refused hanswer rfl rfl (Int.le_of_lt p.clock.latest_lt_tick)
        fun shelf => by cases shelf <;> rfl
    · have hanswer : Platform.answer (.updateResource r operator) p =
          ⟨.ok .null,
            { p with
              clock := p.clock.tick.2
              directory :=
                { p.directory with
                  resources := p.directory.resources.put id stored
                  audit := p.directory.audit ++
                    [⟨Method.updateResource.name, id, operator⟩] } }, []⟩ := by
        simp [Platform.answer, Platform.updateResource, hid, Memory.Directory.update,
          hstamped, Bind.bind, Except.bind, Pure.pure, Except.pure]
      have hdeed : p.doings (.updateResource r operator) =
          [⟨.resources, ⟨Method.updateResource.name, id, operator⟩, p.clock.tick.1⟩] := by
        simp [Platform.doings, hanswer, Platform.deed?, hread, Except.toOption]
      rw [hdeed, hanswer]
      refine .of_put (List.append_nil _).symm rfl rfl rfl rfl (fun shelf hother => ?_)
        (Value.stampedBy_stamped hstamped) (by simp [Deed.creates])
        fun hshelf => by cases hshelf
      cases shelf
      · rfl
      · rfl
      · exact absurd rfl hother

/-- A call that writes nothing into the stores with a log does nothing. -/
theorem accounts_reading {c : Call} (hdeed : p.deed? c = none)
    (hcatalog : (Platform.answer c p).state.catalog = p.catalog)
    (hdirectory : (Platform.answer c p).state.directory = p.directory)
    (hclock : (Platform.answer c p).state.clock = p.clock) :
    Accounts p (p.doings c) (Platform.answer c p).state := by
  have hdoings : p.doings c = [] := by
    rw [Platform.doings, hdeed]
    cases (Platform.answer c p).reply.toOption <;> rfl
  rw [hdoings]
  refine .of_same (by rw [hcatalog]) (by rw [hdirectory]) (Int.le_of_eq (by rw [hclock]))
    fun shelf => ?_
  cases shelf
  · exact congrArg Memory.Catalog.uploads hcatalog
  · exact congrArg Memory.Catalog.submissions hcatalog
  · exact congrArg Memory.Directory.resources hdirectory

/-- A call is accounted for by what it does. -/
theorem accounts_answer (c : Call) : Accounts p (p.doings c) (Platform.answer c p).state := by
  cases c with
  | catalog call =>
      cases call with
      | createUpload u operator => exact accounts_createUpload u operator
      | createSubmission s operator => exact accounts_createSubmission s operator
      | updateSubmission s operator => exact accounts_updateSubmission s operator
      | _ => exact accounts_reading rfl rfl rfl rfl
  | updateResource r operator => exact accounts_updateResource r operator
  | initiateScreening submission operator =>
      have hstate : ∃ screening, (Platform.answer (.initiateScreening submission operator) p).state =
          { p with screening } := by
        rw [Platform.answer, Platform.initiateScreening]
        split
        · exact ⟨_, rfl⟩
        · exact ⟨_, rfl⟩
      obtain ⟨screening, hstate⟩ := hstate
      exact accounts_reading rfl (by rw [hstate]) (by rw [hstate]) (by rw [hstate])
  | _ => exact accounts_reading rfl rfl rfl rfl

end Calls

/-! ## Runs over collaborators that misbehave -/

section Runs

variable (script : List Fault)

/-- The team in memory, with faults at some of its calls. -/
abbrev Rehearsal.team : Collaborators (Rehearsal (Platform Memory.Catalog)) :=
  following script Platform.answer

/-- A call is accounted for by the write that it completes. -/
theorem Rehearsal.accounts_following (r : Rehearsal (Platform Memory.Catalog)) (c : Call) :
    Accounts r.state (completed? script r c).toList (team script c r).state.state := by
  have hproper := accounts_answer (p := r.state) c
  rw [completed?, effective?, team, following]
  rcases due? script r c.method with _ | ⟨method, nth, effect⟩
  · exact hproper
  · cases effect with
    | refuse failure => exact .refl _
    | loseReply failure => exact hproper
    | pretend given => exact .refl _

/-- The writes that a program completes, in order. -/
def Program.deeds (p : Program α) (r : Rehearsal (Platform Memory.Catalog)) : List Deed :=
  (p.asked (Rehearsal.team script) r).filterMap fun x => Rehearsal.completed? script x.2 x.1

/-- A program is accounted for by the writes that it completes. -/
theorem Program.accounts_outcome (p : Program α) (r : Rehearsal (Platform Memory.Catalog)) :
    Accounts r.state (p.deeds script r) (p.outcome (Rehearsal.team script) r).2.state := by
  induction p generalizing r with
  | done a => exact .refl _
  | fail e => exact .refl _
  | ask c next ih =>
      have hcall := Rehearsal.accounts_following script r c
      have hrest := ih (Rehearsal.team script c r).reply (Rehearsal.team script c r).state
      have hdeeds : (Program.ask c next).deeds script r =
          (Rehearsal.completed? script r c).toList ++
            (next (Rehearsal.team script c r).reply).deeds script
              (Rehearsal.team script c r).state := by
        rw [deeds, asked, List.filterMap_cons]
        cases Rehearsal.completed? script r c <;> rfl
      rw [hdeeds]
      exact hcall.trans hrest
  | log e rest ih => exact ih r
  | bindContext fields rest ih => exact ih r
  | unbindContext names rest ih => exact ih r

end Runs

/-- A call of a run: one at the desk, or one at a store itself, with arguments of any kind. -/
inductive Turn
  | desk (settings : Settings) (call : DeskCall)
  | store (call : Call)

namespace Turn

/-- What is done at a call. -/
def program : Turn → Program Value
  | .desk settings call => call.program settings
  | .store call => Program.call call

variable (script : List Fault)

/-- Make some calls one after the other, whatever comes of each. -/
def after (turns : List Turn) (t : Trail (Rehearsal (Platform Memory.Catalog))) :
    Trail (Rehearsal (Platform Memory.Catalog)) :=
  turns.foldl (fun t turn => (turn.program.run (Rehearsal.team script) t).2) t

/-- The writes that these calls complete, in order. -/
def history : List Turn → Trail (Rehearsal (Platform Memory.Catalog)) → List Deed
  | [], _ => []
  | turn :: rest, t =>
      turn.program.deeds script t.state ++
        history rest (turn.program.run (Rehearsal.team script) t).2

/-- Any calls are accounted for by the writes that they complete. -/
theorem accounts_after (turns : List Turn) (t : Trail (Rehearsal (Platform Memory.Catalog))) :
    Accounts t.state.state (history script turns t) (after script turns t).state.state := by
  induction turns generalizing t with
  | nil => exact .refl _
  | cons turn rest ih =>
      have hturn := turn.program.accounts_outcome script t.state
      rw [← Program.run_state] at hturn
      exact hturn.trans (ih (turn.program.run (Rehearsal.team script) t).2)

end Turn

namespace Accounts

variable {p q : Platform Memory.Catalog} {ds : List Deed}

/-- A submission is created under an id that was free, before anything else is done to it, and it is
not created again. -/
theorem created_once {earlier later : List Deed} {d : Deed}
    (h : Accounts p (earlier ++ d :: later) q) (hd : d.creates = true) :
    p.catalog.submissions.uses d.entry.id = false ∧
      (∀ e ∈ earlier, e.concerns .submissions d.entry.id = false) ∧
      ∀ e ∈ later, e.creates = true → e.concerns .submissions d.entry.id = false := by
  obtain ⟨-, hlater, hearlier⟩ := List.pairwise_append.1 h.once
  refine ⟨h.free d (by simp) hd, fun e he => hearlier e he d List.mem_cons_self hd,
    fun e he hcreates => ?_⟩
  have hapart := (List.pairwise_cons.1 hlater).1 e he hcreates
  simp only [Deed.creates, Bool.and_eq_true, beq_iff_eq] at hd
  simp only [Deed.concerns, hd.1, beq_self_eq_true, Bool.true_and, beq_eq_false_iff_ne] at hapart
  simp [Deed.concerns, Ne.symm hapart]

end Accounts

/-- **The audit logs tell the truth about the stored records.**  Take any stores in memory, any
calls at the desk or at the stores themselves, with arguments of any kind, and any faults at the
calls of the collaborators.  Each log has grown by one entry for each completed write, in order, and
each write is stamped with a later instant than those before it.  Every submission that was not
there at the start was created, under an id that was free, before all else that was done to it, and
only once.  A record carries the operator and the moment of the last write with its id; one without
such a write is as it was. -/
theorem audits_tell_writes (script : List Fault) (turns : List Turn)
    (t : Trail (Rehearsal (Platform Memory.Catalog))) :
    let p := t.state.state
    let q := (Turn.after script turns t).state.state
    let writes := Turn.history script turns t
    q.catalog.audit = p.catalog.audit ++ Deed.catalogEntries writes ∧
      q.directory.audit = p.directory.audit ++ Deed.directoryEntries writes ∧
      (writes.Pairwise fun d e => d.moment.instant < e.moment.instant) ∧
      (∀ id, q.catalog.submissions.uses id = true → p.catalog.submissions.uses id = false →
        ∃ d ∈ writes, d.creates = true ∧ d.concerns .submissions id = true) ∧
      (∀ earlier d later, writes = earlier ++ d :: later → d.creates = true →
        p.catalog.submissions.uses d.entry.id = false ∧
          (∀ e ∈ earlier, e.concerns .submissions d.entry.id = false) ∧
          ∀ e ∈ later, e.creates = true → e.concerns .submissions d.entry.id = false) ∧
      ∀ (shelf : Shelf) (id : Value),
        match Deed.last? writes shelf id with
        | none => (shelf.records q).get? id = (shelf.records p).get? id
        | some d => ∃ v, (shelf.records q).get? id = some v ∧
            v.StampedBy d.entry.operator d.moment := by
  intro p q writes
  have haccounts : Accounts p writes q := Turn.accounts_after script turns t
  refine ⟨haccounts.catalogAudit, haccounts.directoryAudit, haccounts.increasing, ?_, ?_, ?_⟩
  · intro id hafter hbefore
    rcases haccounts.created id hafter with hthere | hcreated
    · rw [hthere] at hbefore
      cases hbefore
    · exact hcreated
  · intro earlier d later hwrites hd
    exact (hwrites ▸ haccounts).created_once hd
  · intro shelf id
    rcases hlast : Deed.last? writes shelf id with _ | d
    · exact haccounts.kept shelf id hlast
    · exact haccounts.stamped shelf id d hlast

/-- A submission to an open contest, whose screening is refused, and then a change of its status:
the first upload and the first submission share one log. -/
example :
    let cancelled : Fault :=
      { method := .initiateScreening, effect := .refuse (.plain (.cancelled [])) }
    let turns : List Turn :=
      [.desk {} (.upload (.category .submission) (.int 1) (.int 10) (.text "f.zip")),
        .desk {} (.setSubmissionStatus (.int 1) (.int 2) (.text "admin"))]
    let start : Trail (Rehearsal (Platform Memory.Catalog)) :=
      { state := { state := (World.openContest []).platform } }
    (Turn.history [cancelled] turns start).map (fun d => (d.entry.action, d.entry.id)) =
      [("create_upload", .int 1), ("create_submission", .int 1), ("update_resource", .int 1),
        ("update_submission", .int 1)] := by
  decide +kernel

end ContestUploads
