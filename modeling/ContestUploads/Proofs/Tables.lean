import ContestUploads.Proofs.Carrying
import ContestUploads.Proofs.Searching
import ContestUploads.Sql.Catalog

/-!
# Worlds in tables

The rows that a world is stored as are `World.tables`.  A submission keeps the numbers of its
upload, its resource and its status; what it is read back as is looked up again, so its status has
to be in the catalog, under a number of its own.  Integers have to fit into 64 bits.

`World.Tabled` are the worlds that tables can carry.  New rows are numbered by the largest number
that is there, so the counters of such a world have to be just ahead of it.  Every write that is
well meant leads from such worlds to such worlds.
-/

namespace ContestUploads

open Sql

/-- The row of an entry of a catalog of lookups. -/
def StoredLookup.row (l : StoredLookup) : LookupRow :=
  { id := l.id, name := l.name, description := l.description }

/-- The row of an upload, which has been stamped. -/
def StoredUpload.row (u : StoredUpload) : UploadRow :=
  { id := u.id
    projectId := .integer u.projectId
    owner := .integer u.owner
    typeId := .ofOptional (u.type.map StoredLookup.id)
    statusId := .ofOptional (u.status.map StoredLookup.id)
    parameter := u.parameter
    createUser := u.createdBy.getD ""
    createDate := .ofMoment (u.createdAt.getD default)
    modifyUser := u.modifiedBy.getD ""
    modifyDate := .ofMoment (u.modifiedAt.getD default) }

/-- The row of a submission, which has been stamped. -/
def StoredSubmission.row (s : StoredSubmission) : SubmissionRow :=
  { id := s.id
    uploadId := .ofOptional s.uploadId
    resourceId := .ofOptional s.resourceId
    statusId := .ofOptional (s.status.map StoredLookup.id)
    createUser := s.createdBy.getD ""
    createDate := .ofMoment (s.createdAt.getD default)
    modifyUser := s.modifiedBy.getD ""
    modifyDate := .ofMoment (s.modifiedAt.getD default) }

/-- The row of a submission holds what the submission refers to. -/
theorem StoredSubmission.shows_row (s : StoredSubmission) : Sought.Shows s.row.cell s.record where
  upload := (Cell.value_ofOptional s.uploadId).symm
  uploadKept := Cell.kept_ofOptional s.uploadId
  resource := (Cell.value_ofOptional s.resourceId).symm
  resourceKept := Cell.kept_ofOptional s.resourceId

namespace World

/-- The rows that a world is stored as. -/
def tables (w : World) : Database :=
  { uploadStatuses := w.uploadStatuses.map StoredLookup.row
    uploadTypes := w.uploadTypes.map StoredLookup.row
    submissionStatuses := w.submissionStatuses.map StoredLookup.row
    uploads := w.uploads.map StoredUpload.row
    submissions := w.submissions.map StoredSubmission.row }

/-- A submission that can be read back from its row: its status is in the catalog, it has all its
stamps, whose moments are in UTC, and its numbers fit. -/
structure Readable (w : World) (s : StoredSubmission) : Prop where
  proper : s.Proper w (fits · = true)
  id : fits s.id = true
  createdBy : s.createdBy.isSome
  createdAt : ∃ m, s.createdAt = some m ∧ m.offset = some 0
  modifiedBy : s.modifiedBy.isSome
  modifiedAt : ∃ m, s.modifiedAt = some m ∧ m.offset = some 0

/-- A world that tables can carry.  The counters are where the tables would go on, and the records
that tables hand out in the order of their numbers stand in this order. -/
structure Tabled (w : World) : Prop where
  coherent : w.Coherent
  nextUpload : Database.nextId (w.uploads.map StoredUpload.id) = w.nextUpload
  nextSubmission : Database.nextId (w.submissions.map StoredSubmission.id) = w.nextSubmission
  statuses : Numbered w.submissionStatuses
  fitting : ∀ l ∈ w.uploadTypes ++ w.uploadStatuses ++ w.submissionStatuses, fits l.id = true
  readable : ∀ s ∈ w.submissions, w.Readable s
  resources : ∀ r ∈ w.resources, fits r.id = true
  ordered : (w.submissions.map StoredSubmission.id).Pairwise (· < ·)
  lookups : ∀ catalog ∈ [w.uploadStatuses, w.uploadTypes, w.submissionStatuses],
    (catalog.map StoredLookup.id).Pairwise (· < ·)

end World

namespace Sql.Database

/-- The id for a new row is ahead of all that are there. -/
theorem lt_nextId {ids : List Int} {n : Int} (hn : n ∈ ids) : n < nextId ids := by
  unfold nextId
  rcases hmax : ids.max? with _ | m
  · rw [List.max?_eq_none_iff] at hmax
    subst hmax
    cases hn
  · have hle := (List.max?_eq_some_iff.1 hmax).2 n hn
    dsimp only
    omega

/-- A row that got the next id leaves the one after it. -/
theorem nextId_concat (ids : List Int) : nextId (ids ++ [nextId ids]) = nextId ids + 1 := by
  have hmax : (ids ++ [nextId ids]).max? = some (nextId ids) := by
    refine List.max?_eq_some_iff.2 ⟨by simp, fun n hn => ?_⟩
    rcases List.mem_append.1 hn with hn | hn
    · have hlt := lt_nextId hn
      omega
    · exact Int.le_of_eq (List.mem_singleton.1 hn)
  rw [nextId, hmax]

end Sql.Database

namespace World

variable {w : World}

/-- In tables, the number of a new submission is that of the counter. -/
theorem Tabled.freeSubmission (h : w.Tabled) : w.freeSubmission = w.nextSubmission := by
  refine Register.firstFree_of_lt fun n hn => ?_
  rw [← h.nextSubmission]
  exact Database.lt_nextId hn

/-- A row is read back as the submission that it was made from. -/
theorem Tabled.submissionOf_row (h : w.Tabled) {s : StoredSubmission} (hs : w.Readable s) :
    (Session.submissionOf w.tables.submissionStatuses s.row).value = s.value := by
  obtain ⟨l, hl, hstatus⟩ := hs.proper.status
  have hfound : Session.statusOf w.tables.submissionStatuses s.row = l.value := by
    have hrow : s.row.statusId.value = .int l.id := by
      rw [StoredSubmission.row, hstatus]
      rfl
    have hname : (fun r : LookupRow => Value.equals (.int r.id) (.int l.id)) ∘ StoredLookup.row =
        fun x => x.id == l.id := by
      funext x
      exact Value.equals_int_int _ _
    have hthere : w.submissionStatuses.find? (fun x => x.id == l.id) = some l :=
      h.statuses.withId?_of_mem hl
    rw [Session.statusOf, hrow, tables, List.find?_map, hname, hthere]
    rfl
  obtain ⟨createdBy, hcreatedBy⟩ := Option.isSome_iff_exists.1 hs.createdBy
  obtain ⟨createdAt, hcreatedAt, hcreatedUtc⟩ := hs.createdAt
  obtain ⟨modifiedBy, hmodifiedBy⟩ := Option.isSome_iff_exists.1 hs.modifiedBy
  obtain ⟨modifiedAt, hmodifiedAt, hmodifiedUtc⟩ := hs.modifiedAt
  rw [Session.submissionOf, hfound]
  simp only [StoredSubmission.value, StoredSubmission.record, StoredSubmission.row,
    Cell.value_ofOptional, hstatus, hcreatedBy, hcreatedAt, hmodifiedBy, hmodifiedAt,
    Option.getD_some, Timestamp.read_ofMoment hcreatedUtc, Timestamp.read_ofMoment hmodifiedUtc]
  rfl

/-- What a submission needs to be read back is asked of the lookups only. -/
theorem Readable.of_statuses {u : World} {s : StoredSubmission} (hs : w.Readable s)
    (hstatuses : u.submissionStatuses = w.submissionStatuses) : u.Readable s :=
  { hs with
    proper := ⟨hstatuses ▸ hs.proper.status, hs.proper.uploadId, hs.proper.resourceId⟩ }

/-- A submission that is stored under a number that fits can be read back. -/
theorem readable_created {draft : StoredSubmission} (hdraft : draft.Proper w (fits · = true))
    {n : Int} (hn : fits n = true) (operator : String) {now : Moment}
    (hnow : now.offset = some 0) : w.Readable (draft.created n operator now) where
  proper := ⟨hdraft.status, hdraft.uploadId, hdraft.resourceId⟩
  id := hn
  createdBy := rfl
  createdAt := ⟨now, rfl, hnow⟩
  modifiedBy := rfl
  modifiedAt := ⟨now, rfl, hnow⟩

/-- A version of a stored submission that is stored again can be read back. -/
theorem Tabled.readable_stamped (h : w.Tabled) {s : StoredSubmission}
    (hs : s.Proper w (fits · = true)) (hversion : w.IsVersion s) (operator : String)
    {now : Moment} (hnow : now.offset = some 0) : w.Readable (s.stamped operator now) := by
  obtain ⟨x, hx, hid, hcreatedBy, hcreatedAt⟩ := hversion
  have hreadable := h.readable x hx
  exact
    { proper := ⟨hs.status, hs.uploadId, hs.resourceId⟩
      id := hid ▸ hreadable.id
      createdBy := hcreatedBy ▸ hreadable.createdBy
      createdAt := hcreatedAt ▸ hreadable.createdAt
      modifiedBy := rfl
      modifiedAt := ⟨now, rfl, hnow⟩ }

namespace Tabled

theorem addUpload (h : w.Tabled) (draft : StoredUpload) (operator : String) :
    (w.addUpload draft operator).Tabled :=
  { h with
    coherent := h.coherent.addUpload draft operator
    nextUpload := by
      have hnext := Database.nextId_concat (w.uploads.map StoredUpload.id)
      rw [h.nextUpload] at hnext
      rw [World.addUpload, List.map_append]
      exact hnext
    readable := fun s hs => (h.readable s hs).of_statuses rfl }

theorem addSubmission (h : w.Tabled) {draft : StoredSubmission}
    (hdraft : draft.Proper w (fits · = true)) (hfree : fits w.freeSubmission = true)
    (operator : String) : (w.addSubmission draft operator).Tabled :=
  { h with
    coherent := h.coherent.addSubmission draft operator
    nextSubmission := by
      have hnext := Database.nextId_concat (w.submissions.map StoredSubmission.id)
      rw [h.nextSubmission, ← h.freeSubmission] at hnext
      rw [World.addSubmission, List.map_append]
      exact hnext
    readable := by
      intro s hs
      rcases List.mem_append.1 hs with hold | hnew
      · exact (h.readable s hold).of_statuses rfl
      · obtain rfl := List.mem_singleton.1 hnew
        exact (readable_created hdraft hfree operator w.offset_now).of_statuses rfl
    ordered := by
      rw [World.addSubmission, List.map_append]
      refine List.pairwise_append.2 ⟨h.ordered, List.pairwise_singleton _ _, fun n hn m hm => ?_⟩
      obtain rfl := List.mem_singleton.1 hm
      show n < w.freeSubmission
      rw [h.freeSubmission, ← h.nextSubmission]
      exact Database.lt_nextId hn }

theorem putSubmission (h : w.Tabled) {s : StoredSubmission} (hs : s.Proper w (fits · = true))
    (hversion : w.IsVersion s) (operator : String) : (w.putSubmission s operator).Tabled :=
  { h with
    coherent := h.coherent.putSubmission s operator
    nextSubmission := by
      have hids := Register.map_number_replace StoredSubmission.id w.submissions
        (x := s.stamped operator w.now) (n := s.id) rfl
      simpa only [World.putSubmission, hids] using h.nextSubmission
    ordered := by
      have hids := Register.map_number_replace StoredSubmission.id w.submissions
        (x := s.stamped operator w.now) (n := s.id) rfl
      simpa only [World.putSubmission, hids] using h.ordered
    readable := by
      intro x hx
      obtain ⟨y, hy, rfl⟩ := List.mem_map.1 hx
      split
      · exact (h.readable_stamped hs hversion operator w.offset_now).of_statuses rfl
      · exact (h.readable y hy).of_statuses rfl }

theorem putResource (h : w.Tabled) {r : StoredResource}
    (hr : r.id ∈ w.resources.map StoredResource.id) (operator : String) :
    (w.putResource r operator).Tabled :=
  { h with
    coherent := h.coherent.putResource r operator
    readable := fun s hs => (h.readable s hs).of_statuses rfl
    resources := by
      intro x hx
      obtain ⟨old, hold, hsame⟩ := List.mem_map.1 hr
      obtain ⟨y, hy, rfl⟩ := List.mem_map.1 hx
      split
      · exact hsame ▸ h.resources old hold
      · exact h.resources y hy }

theorem screen (h : w.Tabled) (n : Int) (operator : String) : (w.screen n operator).Tabled :=
  { h with
    coherent := h.coherent.screen n operator
    readable := fun s hs => (h.readable s hs).of_statuses rfl }

end Tabled

end World

end ContestUploads
