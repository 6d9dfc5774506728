import ContestUploads.Platform
import ContestUploads.Sql.Catalog

/-!
# Blocks

Work on the tables is done in blocks.  A block opens a session, runs its body and leaves the
session: it commits if the body came to a result, and rolls back if the body failed.  Whether the
body goes on after a call that failed is its own affair.

The database may refuse any write, before the write is handed over or when it is.  A record that is
handed over to be stored is stamped where its owner has it, one attribute after the other, once the
tables have been written.  A `Receipt` says what a call came to and how the owner of its record
finds that record afterwards.

* `Platform.exposed_never`: where nothing is refused, the platform answers as it always does.
-/

namespace ContestUploads

namespace Value

/-- Give attributes of a value other values, one after the other, up to the first that it does not
take. -/
def assign (v : Value) : Fields → Except Failure Unit × Value
  | [] => (.ok (), v)
  | (name, x) :: rest =>
      match v.write name x with
      | .ok changed => changed.assign rest
      | .error e => (.error e, v)

/-- Whether a value is an upload or a submission. -/
def isEntity : Value → Bool
  | .record .upload _ | .record .submission _ => true
  | _ => false

/-- The stamp of the creation of a record. -/
def creation (operator : Value) (now : Moment) : Fields :=
  [("created_by", operator), ("modified_by", operator), ("created_at", .moment now),
   ("modified_at", .moment now)]

/-- The stamp of a change of a record. -/
def change (operator : Value) (now : Moment) : Fields :=
  [("modified_by", operator), ("modified_at", .moment now)]

theorem writeAll_eq_assign (v : Value) (changes : Fields) :
    v.writeAll changes = (v.assign changes).1.map fun _ => (v.assign changes).2 := by
  induction changes generalizing v with
  | nil => rfl
  | cons first rest ih =>
      obtain ⟨name, x⟩ := first
      rcases hwritten : v.write name x with e | changed
      · simp [writeAll, assign, hwritten, Bind.bind, Except.bind, Except.map]
      · simpa [writeAll, assign, hwritten, Bind.bind, Except.bind] using ih changed

end Value

/-- The record that a call hands over to be stored. -/
def CatalogCall.record? : CatalogCall → Option Value
  | .createUpload upload _ => some upload
  | .createSubmission submission _ => some submission
  | .updateSubmission submission _ => some submission
  | _ => none

namespace Sql

/-- Where the database refuses a write: before it is handed over, or when it is. -/
inductive Refusal
  | before (failure : Failure)
  | atFlush (failure : Failure)

/-- What a call came to, and the record that it handed over as its owner has it afterwards. -/
structure Receipt where
  outcome : Outcome
  record? : Option Value

namespace Session

/-- Open a session on tables. -/
def opened (d : Database) : Session :=
  { committed := d, working := d }

/-- Leave a session: commit after a result, roll back after a failure.  What is raised is the
failure of the body or that of the commit. -/
def leave {α : Type} (s : Session) : Except Failure α → Except Failure α × Session
  | .ok result => (s.commit.1.map fun _ => result, s.commit.2)
  | .error e => (.error e, s.rollback)

/-- Write a draft, if it could be read and the database does not refuse it, and then stamp the
record that it was read from. -/
def storeDraft {δ α : Type} (s : Session) (clock : Clock) (refusal? : Option Refusal)
    (record : Value) (draft : Except Failure δ)
    (write : δ → Database → Except Failure (α × Database)) (stamps : α → Fields) : Receipt :=
  match draft, refusal? with
  | .error e, _ => ⟨⟨.error e, s, clock⟩, some record⟩
  | .ok _, some (.before e) => ⟨⟨.error e, s, clock⟩, some record⟩
  | .ok _, some (.atFlush e) =>
      let flushed := s.flush fun _ => (.error e : Except Failure (α × Database))
      ⟨⟨flushed.1.bind fun _ => .error e, flushed.2, clock⟩, some record⟩
  | .ok draft, none =>
      let flushed := s.flush (write draft)
      match flushed.1 with
      | .error e => ⟨⟨.error e, flushed.2, clock⟩, some record⟩
      | .ok a =>
          let stamped := record.assign (stamps a)
          ⟨⟨stamped.1.map fun _ => stamped.2, flushed.2, clock⟩, some stamped.2⟩

/-- Carry out a call over a database that may refuse it. -/
def store (refusal? : Option Refusal) (call : CatalogCall) (s : Session) (clock : Clock) :
    Receipt :=
  match call with
  | .createUpload u operator =>
      match typeAndStatus u with
      | .error e => ⟨⟨.error e, s, clock⟩, some u⟩
      | .ok (type, status) =>
          let (now, clock) := clock.tick
          s.storeDraft clock refusal? u (UploadDraft.of u type status)
            (fun draft => insertUpload draft operator now)
            fun id => ("upload_id", .int id) :: Value.creation operator now
  | .createSubmission x operator =>
      match statusToStore x [] with
      | .error e => ⟨⟨.error e, s, clock⟩, some x⟩
      | .ok status =>
          let (now, clock) := clock.tick
          s.storeDraft clock refusal? x (SubmissionDraft.of x status)
            (fun draft => insertSubmission draft operator now)
            fun id => ("submission_id", .int id) :: Value.creation operator now
  | .updateSubmission x operator =>
      match s.changing x with
      | .error e => ⟨⟨.error e, s, clock⟩, some x⟩
      | .ok (row, status) =>
          let (now, clock) := clock.tick
          s.storeDraft clock refusal? x (SubmissionDraft.ofChange x status)
            (fun draft => changeSubmission row.id draft operator now)
            fun _ => Value.change operator now
  | call => ⟨perform call s clock, none⟩

variable {δ α : Type}

/-- Without a refusal, a record is stored as the catalog does it. -/
theorem storeDraft_never (s : Session) (clock : Clock) (record : Value) (draft : Except Failure δ)
    (write : δ → Database → Except Failure (α × Database)) (stamps : α → Fields) :
    (s.storeDraft clock none record draft write stamps).outcome =
      s.writeDraft clock draft write fun a => record.writeAll (stamps a) := by
  rcases draft with e | draft
  · rfl
  · rcases hflushed : s.flush (write draft) with ⟨e | a, t⟩
    · simp [storeDraft, writeDraft, hflushed, Except.bind]
    · simp [storeDraft, writeDraft, hflushed, Except.bind, Value.writeAll_eq_assign]

theorem store_never (call : CatalogCall) (s : Session) (clock : Clock) :
    (store none call s clock).outcome = perform call s clock := by
  cases call with
  | createUpload u operator =>
      simp only [store, perform, createUpload]
      rcases typeAndStatus u with e | ⟨type, status⟩
      · rfl
      · exact storeDraft_never ..
  | createSubmission x operator =>
      simp only [store, perform, createSubmission]
      rcases statusToStore x [] with e | status
      · rfl
      · exact storeDraft_never ..
  | updateSubmission x operator =>
      simp only [store, perform, updateSubmission]
      rcases s.changing x with e | ⟨row, status⟩
      · rfl
      · exact storeDraft_never ..
  | _ => rfl

end Session

end Sql

namespace Platform

open Sql

/-- How the platform answers over a database that refuses some writes.  A write is known by the
clock from which it draws its stamp; each draws another one. -/
def exposed (refusals : Clock → Option Refusal) : Collaborators (Platform Session)
  | .catalog call, p =>
      let a := Session.told call (Session.store (refusals p.clock) call p.catalog p.clock).outcome
      ⟨a.reply, { p with catalog := a.state.1, clock := a.state.2 }, a.logged⟩
  | c, p => answer c p

theorem exposed_never : exposed (fun _ => none) = answer := by
  funext c p
  cases c with
  | catalog call =>
      simp only [exposed, Session.store_never]
      rfl
  | _ => rfl

/-- The platform as a block finds it, with a session of its own on the committed tables. -/
def opened (p : Platform Session) : Platform Session :=
  { p with catalog := .opened p.catalog.committed }

/-- Run a body in a session of its own and leave the session. -/
def block {α : Type} (refusals : Clock → Option Refusal) (body : Program α)
    (p : Platform Session) : Except Failure α × Platform Session :=
  let (result, trail) := body.run (exposed refusals) { state := p.opened }
  let (result, next) := trail.state.catalog.leave result
  (result, { trail.state with catalog := next })

end Platform

end ContestUploads
