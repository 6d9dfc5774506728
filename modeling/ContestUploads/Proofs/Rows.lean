import ContestUploads.Proofs.Blocks
import ContestUploads.Proofs.Requests
import ContestUploads.Proofs.Tables

/-!
# What calls do to the rows

A write adds one row or changes the rows with one id, and what this row refers to is what the columns
keep of the values handed over (`CatalogCall.effect_cases`).  Nothing else is looked at or touched:
not the lookups, and not the other rows.

A list of calls is made of a session one after the other.  `Session.visited` are the calls with what
each of them finds, and `Session.answer_cases` says what one call makes of it: a write that returns
has its effect on the tables, everything else leaves them as they were or as last committed.
-/

namespace ContestUploads

open Sql

namespace Sql

/-- A reference to a row of a table: the cell that has its id. -/
structure Reference where
  table : Table
  cell : Cell
  deriving DecidableEq, Repr

/-- What a row of uploads refers to. -/
def UploadRow.references (r : UploadRow) : List Reference :=
  [⟨.uploadType, r.typeId⟩, ⟨.uploadStatus, r.statusId⟩]

/-- What a row of submissions refers to. -/
def SubmissionRow.references (r : SubmissionRow) : List Reference :=
  [⟨.submissionStatus, r.statusId⟩, ⟨.upload, r.uploadId⟩]

/-- The references of a row of submissions, also that to a resource, are as columns of integers keep
them. -/
structure SubmissionRow.Kept (r : SubmissionRow) : Prop where
  uploadId : r.uploadId.Kept
  resourceId : r.resourceId.Kept

end Sql

/-- What a write hands over for the references of its row, as the columns keep it. -/
def CatalogCall.references : CatalogCall → Except Failure (List Reference)
  | .createUpload u _ => do
      let type ← (← u.read "upload_type").read "id"
      let status ← (← u.read "status").read "id"
      return [⟨.uploadType, ← ColumnKind.integer.stored type⟩,
        ⟨.uploadStatus, ← ColumnKind.integer.stored status⟩]
  | .createSubmission x _ | .updateSubmission x _ => do
      let status ← (← x.read "status").read "id"
      let upload ← x.read "upload_id"
      return [⟨.submissionStatus, ← ColumnKind.integer.stored status⟩,
        ⟨.upload, ← ColumnKind.integer.stored upload⟩]
  | _ => return []

/-- A number that is no integer stays a number in a column of integers. -/
theorem Sql.kept_ofFloat (x : Binary64) : (ofFloat x).Kept := by
  rcases hwhole : wholeFloat? x with _ | n
  · simp only [Cell.Kept, ofFloat, hwhole, ColumnKind.affine]
  · simp only [Cell.Kept, ofFloat, hwhole, ColumnKind.affine]

/-- Storing once is enough: what a column of integers has made of a cell, it keeps. -/
theorem Sql.kept_affine (c : Cell) : (ColumnKind.integer.affine c).Kept := by
  cases c with
  | null => rfl
  | integer n => rfl
  | real x => exact kept_ofFloat x
  | text s =>
      rcases hread : (integerText? s).filter fits with _ | n
      · rcases hnumber : numericText? s with _ | x
        · simp only [Cell.Kept, ColumnKind.affine, hread, hnumber]
        · simpa only [ColumnKind.affine, hread, hnumber] using kept_ofFloat x
      · simp only [Cell.Kept, ColumnKind.affine, hread]

theorem Sql.kept_of_stored {v : Value} {c : Cell} (h : ColumnKind.integer.stored v = .ok c) :
    c.Kept := by
  unfold ColumnKind.stored at h
  dsimp only at h
  split at h
  all_goals
    rcases hgiven : handOver _ with _ | given
    · rw [hgiven] at h
      cases h
    · rw [hgiven] at h
      exact Except.ok.inj h ▸ kept_affine given

/-- A row refers to what the upload hands over that it records. -/
theorem Sql.UploadRow.Records.references {row : UploadRow} {u operator : Value} {now : Moment}
    (h : row.Records u operator now) :
    (CatalogCall.createUpload u operator).references = .ok row.references := by
  obtain ⟨type, htype, typeId, htypeId, htypeStored⟩ := h.typeId
  obtain ⟨status, hstatus, statusId, hstatusId, hstatusStored⟩ := h.statusId
  simp only [CatalogCall.references, htype, hstatus, htypeId, hstatusId, htypeStored,
    hstatusStored, Bind.bind, Except.bind]
  rfl

/-- A row refers to what the submission hands over that it shows. -/
theorem Sql.SubmissionRow.Shows.references {row : SubmissionRow} {x : Value} (h : row.Shows x)
    (operator : Value) :
    (CatalogCall.createSubmission x operator).references = .ok row.references := by
  obtain ⟨status, hstatus, statusId, hstatusId, hstatusStored⟩ := h.statusId
  obtain ⟨uploadId, hupload, huploadStored⟩ := h.uploadId
  simp only [CatalogCall.references, hstatus, hstatusId, hupload, hstatusStored, huploadStored,
    Bind.bind, Except.bind]
  rfl

theorem Sql.SubmissionRow.Shows.kept {row : SubmissionRow} {x : Value} (h : row.Shows x) :
    row.Kept :=
  ⟨kept_of_stored h.uploadId.choose_spec.2, kept_of_stored h.resourceId.choose_spec.2⟩

/-- What a call does to the rows, if the tables take it. -/
theorem CatalogCall.effect_cases {call : CatalogCall} {now : Moment} {d d' : Database}
    (h : call.effect now d = .ok d') :
    (call.record? = none ∧ d' = d) ∨
    (∃ row : UploadRow, call.references = .ok row.references ∧
      d' = { d with uploads := d.uploads ++ [row] }) ∨
    (∃ row : SubmissionRow, row.id = Database.nextId (d.submissions.map SubmissionRow.id) ∧
      call.references = .ok row.references ∧ row.Kept ∧
      d' = { d with submissions := d.submissions ++ [row] }) ∨
    (∃ (old : SubmissionRow) (change : SubmissionRow → SubmissionRow), old ∈ d.submissions ∧
      (∀ r, (change r).id = r.id) ∧ (∀ r, r.id ≠ old.id → change r = r) ∧
      (∀ r, r.id = old.id → call.references = .ok (change r).references ∧ (change r).Kept) ∧
      d' = { d with submissions := d.submissions.map change }) := by
  cases writes_of_effect h with
  | question hquestion => exact .inl ⟨hquestion, rfl⟩
  | upload hid hrecords => exact .inr (.inl ⟨_, hrecords.references, rfl⟩)
  | submission hid hrecords =>
      exact .inr (.inr (.inl
        ⟨_, hid, hrecords.shows.references _, hrecords.shows.kept, rfl⟩))
  | @change x operator old change hold hnamed hown hothers =>
      refine .inr (.inr (.inr ⟨old, change, hold, fun r => ?_, hothers, fun r hr => ?_, rfl⟩))
      · by_cases hr : r.id = old.id
        · exact (hown r hr).id
        · rw [hothers r hr]
      · exact ⟨(hown r hr).shows.references operator, (hown r hr).shows.kept⟩

namespace Sql.Session

variable {call : CatalogCall} {s : Session} {clock : Clock}

/-- What a call makes of its session: a write that returns has its effect on the tables, everything
else leaves the session alone or spoils it. -/
theorem answer_cases (hentity : (Call.catalog call).HandsEntity) (s : Session) (clock : Clock) :
    (∃ v d, (answer call (s, clock)).reply = .ok v ∧ call.record?.isSome ∧
      call.effect clock.tick.1 s.working = .ok d ∧
      (answer call (s, clock)).state.1 = { s with working := d }) ∨
    ((call.record? = none ∨ ∃ e, (answer call (s, clock)).reply = .error e) ∧
      s.Refused (answer call (s, clock)).state.1) := by
  have hstate : (answer call (s, clock)).state.1 = (store none call s clock).outcome.session := by
    rw [answer, told_state, store_never]
  rw [hstate]
  rcases hreply : (answer call (s, clock)).reply with e | v
  · obtain ⟨f, hresult⟩ := told_reply_error hreply
    rw [← store_never] at hresult
    exact .inr ⟨.inr ⟨e, rfl⟩, (store_error hentity hresult).2⟩
  · have hresult := told_reply_ok hreply
    rw [← store_never] at hresult
    by_cases hwrites : call.record?.isSome
    · obtain ⟨-, d, heffect, hsession⟩ := store_ok hresult hwrites
      exact .inl ⟨v, d, rfl, hwrites, heffect, hsession⟩
    · rw [Option.not_isSome_iff_eq_none] at hwrites
      exact .inr ⟨.inl hwrites, .inl (store_question hwrites)⟩

/-- Some calls that are made of a session one after the other, each with what it finds. -/
def visited : List CatalogCall → Session × Clock → List (CatalogCall × Session × Clock)
  | [], _ => []
  | call :: rest, state => (call, state) :: visited rest (answer call state).state

end Sql.Session

end ContestUploads
