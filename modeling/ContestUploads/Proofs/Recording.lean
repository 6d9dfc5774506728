import ContestUploads.Proofs.Requests
import ContestUploads.Sql.Block

/-!
# What writes make of tables

`CatalogCall.effect` is what a call does to tables, without any session, and `Database.replay`
carries out a list of writes.  Both are made of what a session does.  `CatalogCall.Writes` says the
same by the rows alone: a new upload is one row more that records the upload, a new submission is
one row more that records the submission, and an update changes the rows of one number.  A row
records a record if its cells hold what the columns keep of the attributes of the record.

Every effect is of this form (`CatalogCall.writes_of_effect`), and so are those of several writes,
one after the other (`Database.writtenBy_of_replay`).
-/

namespace ContestUploads

open Sql

/-- What a call does to tables, if they take it: a write adds a row or changes one, a question does
nothing. -/
def CatalogCall.effect (call : CatalogCall) (now : Moment) (d : Database) :
    Except Failure Database :=
  match call with
  | .createUpload u operator => do
      let (type, status) ← Session.typeAndStatus u
      let draft ← Session.UploadDraft.of u type status
      return (← Session.insertUpload draft operator now d).2
  | .createSubmission x operator => do
      let status ← Session.statusToStore x []
      let draft ← Session.SubmissionDraft.of x status
      return (← Session.insertSubmission draft operator now d).2
  | .updateSubmission x operator => do
      let (row, status) ← (Session.opened d).changing x
      let draft ← Session.SubmissionDraft.ofChange x status
      return (← Session.changeSubmission row.id draft operator now d).2
  | _ => return d

/-- The tables after some writes, each with its stamp. -/
def Sql.Database.replay (d : Database) (writes : List (CatalogCall × Moment)) :
    Except Failure Database :=
  writes.foldlM (fun d write => write.1.effect write.2 d) d

/-! ## Rows that record what was handed over -/

namespace Sql

/-- A cell holds what a column keeps of an attribute of a value. -/
def Cell.Holds (c : Cell) (kind : ColumnKind) (v : Value) (name : String) : Prop :=
  ∃ x, v.read name = .ok x ∧ kind.stored x = .ok c

/-- A cell holds the id of the lookup that a value has for an attribute. -/
def Cell.Refers (c : Cell) (v : Value) (name : String) : Prop :=
  ∃ lookup, v.read name = .ok lookup ∧ c.Holds .integer lookup "id"

/-- A row records an upload that an operator has just created. -/
structure UploadRow.Records (r : UploadRow) (u operator : Value) (now : Moment) : Prop where
  projectId : r.projectId.Holds .integer u "project_id"
  owner : r.owner.Holds .integer u "owner"
  typeId : r.typeId.Refers u "upload_type"
  statusId : r.statusId.Refers u "status"
  parameter : (Cell.text r.parameter).Holds .text u "parameter"
  createUser : ColumnKind.text.stored operator = .ok (.text r.createUser)
  createDate : r.createDate = .ofMoment now
  modifyUser : r.modifyUser = r.createUser
  modifyDate : r.modifyDate = .ofMoment now

/-- What a row of submissions refers to is what a submission refers to. -/
structure SubmissionRow.Shows (r : SubmissionRow) (x : Value) : Prop where
  uploadId : r.uploadId.Holds .integer x "upload_id"
  resourceId : r.resourceId.Holds .integer x "resource_id"
  statusId : r.statusId.Refers x "status"

/-- A row records a submission that an operator has just created. -/
structure SubmissionRow.Records (r : SubmissionRow) (x operator : Value) (now : Moment) :
    Prop where
  shows : r.Shows x
  createUser : ColumnKind.text.stored operator = .ok (.text r.createUser)
  createDate : r.createDate = .ofMoment now
  modifyUser : r.modifyUser = r.createUser
  modifyDate : r.modifyDate = .ofMoment now

/-- A row of submissions after an operator has changed it.  The stamp of its creation stays. -/
structure SubmissionRow.ChangedTo (r changed : SubmissionRow) (x operator : Value)
    (now : Moment) : Prop where
  id : changed.id = r.id
  shows : changed.Shows x
  createUser : changed.createUser = r.createUser
  createDate : changed.createDate = r.createDate
  modifyUser : ColumnKind.text.stored operator = .ok (.text changed.modifyUser)
  modifyDate : changed.modifyDate = .ofMoment now

/-- A submission names the row that its id is compared with. -/
def SubmissionRow.NamedBy (r : SubmissionRow) (x : Value) : Prop :=
  ∃ id k, x.read "submission_id" = .ok id ∧ Session.key id = .ok k ∧
    Clause.compare (.integer r.id) .integer k = some true

end Sql

/-- What a call makes of tables, row by row.  A question leaves them as they are. -/
inductive CatalogCall.Writes (now : Moment) (d : Database) : CatalogCall → Database → Prop
  | question {call : CatalogCall} (h : call.record? = none) : Writes now d call d
  | upload {u operator : Value} {row : UploadRow}
      (id : row.id = Database.nextId (d.uploads.map UploadRow.id))
      (records : row.Records u operator now) :
      Writes now d (.createUpload u operator) { d with uploads := d.uploads ++ [row] }
  | submission {x operator : Value} {row : SubmissionRow}
      (id : row.id = Database.nextId (d.submissions.map SubmissionRow.id))
      (records : row.Records x operator now) :
      Writes now d (.createSubmission x operator) { d with submissions := d.submissions ++ [row] }
  | change {x operator : Value} {old : SubmissionRow} {change : SubmissionRow → SubmissionRow}
      (stored : old ∈ d.submissions) (named : old.NamedBy x)
      (own : ∀ r : SubmissionRow, r.id = old.id → r.ChangedTo (change r) x operator now)
      (others : ∀ r : SubmissionRow, r.id ≠ old.id → change r = r) :
      Writes now d (.updateSubmission x operator)
        { d with submissions := d.submissions.map change }

/-- What several writes make of tables, each with its stamp. -/
inductive Sql.Database.WrittenBy : Database → List (CatalogCall × Moment) → Database → Prop
  | nothing (d : Database) : WrittenBy d [] d
  | next {d d' d'' : Database} {call : CatalogCall} {now : Moment}
      {writes : List (CatalogCall × Moment)} (first : call.Writes now d d')
      (rest : WrittenBy d' writes d'') : WrittenBy d ((call, now) :: writes) d''

/-! ## Every effect is of this form -/

namespace Sql.Session

variable {operator : Value} {now : Moment} {d d' : Database}

theorem required_ok {c c' : Cell} (h : required c = .ok c') : c' = c := by
  cases c with
  | null => cases h
  | _ => exact (Except.ok.inj h).symm

theorem requiredText_ok {c : Cell} {s : String} (h : requiredText c = .ok s) : c = .text s := by
  cases c with
  | text t => exact congrArg Cell.text (Except.ok.inj h)
  | _ => cases h

/-- A new upload is one row more, with the stamp of its creation for that of the last change as
well. -/
theorem insertUpload_ok {u : UploadDraft} {id : Int}
    (h : insertUpload u operator now d = .ok (id, d')) :
    ∃ row : UploadRow, row.id = Database.nextId (d.uploads.map UploadRow.id) ∧
      ColumnKind.integer.stored u.projectId = .ok row.projectId ∧
      ColumnKind.integer.stored u.owner = .ok row.owner ∧
      ColumnKind.integer.stored u.typeId = .ok row.typeId ∧
      ColumnKind.integer.stored u.statusId = .ok row.statusId ∧
      ColumnKind.text.stored u.parameter = .ok (.text row.parameter) ∧
      ColumnKind.text.stored operator = .ok (.text row.createUser) ∧
      row.createDate = .ofMoment now ∧ row.modifyUser = row.createUser ∧
      row.modifyDate = .ofMoment now ∧
      d' = { d with uploads := d.uploads ++ [row] } := by
  simp only [insertUpload, bind_eq_ok_iff, Pure.pure, Except.pure, Except.ok.injEq,
    Prod.mk.injEq] at h
  obtain ⟨projectId, hproject, owner, howner, typeId, htype, statusId, hstatus, parameter,
    hparameter, user, huser, projectId', hproject', owner', howner', typeId', htype', statusId',
    hstatus', parameter', hparameter', user', huser', -, rfl⟩ := h
  obtain rfl := required_ok hproject'
  obtain rfl := required_ok howner'
  obtain rfl := required_ok htype'
  obtain rfl := required_ok hstatus'
  obtain rfl := requiredText_ok hparameter'
  obtain rfl := requiredText_ok huser'
  exact ⟨_, rfl, hproject, howner, htype, hstatus, hparameter, huser, rfl, rfl, rfl, rfl⟩

/-- A new submission is one row more, with the stamp of its creation for that of the last change as
well. -/
theorem insertSubmission_ok {x : SubmissionDraft} {id : Int}
    (h : insertSubmission x operator now d = .ok (id, d')) :
    ∃ row : SubmissionRow, id = row.id ∧
      row.id = Database.nextId (d.submissions.map SubmissionRow.id) ∧
      ColumnKind.integer.stored x.uploadId = .ok row.uploadId ∧
      ColumnKind.integer.stored x.resourceId = .ok row.resourceId ∧
      ColumnKind.integer.stored x.statusId = .ok row.statusId ∧
      ColumnKind.text.stored operator = .ok (.text row.createUser) ∧
      row.createDate = .ofMoment now ∧ row.modifyUser = row.createUser ∧
      row.modifyDate = .ofMoment now ∧
      d' = { d with submissions := d.submissions ++ [row] } := by
  simp only [insertSubmission, bind_eq_ok_iff, Pure.pure, Except.pure, Except.ok.injEq,
    Prod.mk.injEq] at h
  obtain ⟨uploadId, hupload, resourceId, hresource, statusId, hstatus, user, huser, statusId',
    hstatus', user', huser', rfl, rfl⟩ := h
  obtain rfl := required_ok hstatus'
  obtain rfl := requiredText_ok huser'
  exact ⟨_, rfl, rfl, hupload, hresource, hstatus, huser, rfl, rfl, rfl, rfl⟩

/-- A changed submission is another row in its place.  The stamp of its creation stays. -/
theorem changeSubmission_ok {n : Int} {x : SubmissionDraft} {done : Unit}
    (h : changeSubmission n x operator now d = .ok (done, d')) :
    ∃ change : SubmissionRow → SubmissionRow, (∀ r, (change r).id = r.id) ∧
      (∀ r, r.id ≠ n → change r = r) ∧
      (∀ r, r.id = n → ColumnKind.integer.stored x.uploadId = .ok (change r).uploadId ∧
        ColumnKind.integer.stored x.resourceId = .ok (change r).resourceId ∧
        ColumnKind.integer.stored x.statusId = .ok (change r).statusId ∧
        ColumnKind.text.stored operator = .ok (.text (change r).modifyUser) ∧
        (change r).modifyDate = .ofMoment now) ∧
      (∀ r, (change r).createUser = r.createUser ∧ (change r).createDate = r.createDate) ∧
      d' = { d with submissions := d.submissions.map change } := by
  simp only [changeSubmission, bind_eq_ok_iff, Pure.pure, Except.pure, Except.ok.injEq,
    Prod.mk.injEq] at h
  obtain ⟨uploadId, hupload, resourceId, hresource, statusId, hstatus, user, huser, statusId',
    hstatus', user', huser', -, rfl⟩ := h
  obtain rfl := required_ok hstatus'
  obtain rfl := requiredText_ok huser'
  refine ⟨_, fun r => ?_, fun r hr => ?_, fun r hr => ?_, fun r => ?_, rfl⟩
  · split <;> rfl
  · rw [if_neg hr]
  · rw [if_pos hr]
    exact ⟨hupload, hresource, hstatus, huser, rfl⟩
  · split <;> exact ⟨rfl, rfl⟩

theorem typeAndStatus_ok {u type status : Value} (h : typeAndStatus u = .ok (type, status)) :
    u.read "upload_type" = .ok type ∧ u.read "status" = .ok status := by
  simp only [typeAndStatus, bind_eq_ok_iff] at h
  obtain ⟨type', htype, h⟩ := h
  split at h
  · obtain ⟨status', hstatus, h⟩ := bind_eq_ok_iff.1 h
    obtain rfl := Except.ok.inj hstatus
    obtain ⟨_, _, hrefused⟩ := bind_eq_ok_iff.1 h
    cases hrefused
  · obtain ⟨status', hstatus, h⟩ := bind_eq_ok_iff.1 h
    split at h
    · obtain ⟨_, _, hrefused⟩ := bind_eq_ok_iff.1 h
      cases hrefused
    · obtain ⟨rfl, rfl⟩ := Prod.mk.inj (Except.ok.inj h)
      exact ⟨htype, hstatus⟩

theorem statusToStore_ok {x status : Value} {details : Fields}
    (h : statusToStore x details = .ok status) : x.read "status" = .ok status := by
  simp only [statusToStore, bind_eq_ok_iff] at h
  obtain ⟨status', hstatus, h⟩ := h
  split at h
  · cases h
  · exact Except.ok.inj h ▸ hstatus

theorem SubmissionDraft.of_ok {x status : Value} {draft : SubmissionDraft}
    (h : SubmissionDraft.of x status = .ok draft) :
    x.read "upload_id" = .ok draft.uploadId ∧ x.read "resource_id" = .ok draft.resourceId ∧
      status.read "id" = .ok draft.statusId := by
  simp only [SubmissionDraft.of, bind_eq_ok_iff, Pure.pure, Except.pure,
    Except.ok.injEq] at h
  obtain ⟨uploadId, hupload, resourceId, hresource, statusId, hstatus, rfl⟩ := h
  exact ⟨hupload, hresource, hstatus⟩

theorem UploadDraft.of_ok {u type status : Value} {draft : UploadDraft}
    (h : UploadDraft.of u type status = .ok draft) :
    u.read "project_id" = .ok draft.projectId ∧ u.read "owner" = .ok draft.owner ∧
      type.read "id" = .ok draft.typeId ∧ status.read "id" = .ok draft.statusId ∧
      u.read "parameter" = .ok draft.parameter := by
  simp only [UploadDraft.of, bind_eq_ok_iff, Pure.pure, Except.pure,
    Except.ok.injEq] at h
  obtain ⟨projectId, hproject, owner, howner, typeId, htype, statusId, hstatus, parameter,
    hparameter, rfl⟩ := h
  exact ⟨hproject, howner, htype, hstatus, hparameter⟩

/-- What is found by its id is a row whose id the key is compared with. -/
theorem find_ok {s : Session} {id : Value} {row : SubmissionRow}
    (h : s.find id = .ok (some row)) : row ∈ s.working.submissions ∧
      ∃ k, key id = .ok k ∧ Clause.compare (.integer row.id) .integer k = some true := by
  unfold find at h
  split at h
  · obtain ⟨-, -, h⟩ := bind_eq_ok_iff.1 h
    obtain ⟨-, -, hnone⟩ := bind_eq_ok_iff.1 h
    cases hnone
  · obtain ⟨k, hk, hfound⟩ := bind_eq_ok_iff.1 h
    simp only [query, bind_eq_ok_iff, Pure.pure, Except.pure, Except.ok.injEq] at hfound
    obtain ⟨-, -, -, -, hrow⟩ := hfound
    exact ⟨List.mem_of_find?_eq_some hrow, k, hk, by simpa using List.find?_some hrow⟩

theorem mem_of_find {s : Session} {id : Value} {row : SubmissionRow}
    (h : s.find id = .ok (some row)) : row ∈ s.working.submissions :=
  (find_ok h).1

/-- A submission is found to be changed only if it names a row. -/
theorem changing_ok {s : Session} {x status : Value} {row : SubmissionRow}
    (h : s.changing x = .ok (row, status)) :
    row ∈ s.working.submissions ∧ row.NamedBy x ∧
      ∃ details, statusToStore x details = .ok status := by
  simp only [changing, bind_eq_ok_iff] at h
  obtain ⟨id, hid, found, hfound, h⟩ := h
  rcases found with _ | row'
  · cases h
  · simp only [bind_eq_ok_iff, Pure.pure, Except.pure, Except.ok.injEq, Prod.mk.injEq] at h
    obtain ⟨status', hstatus, rfl, rfl⟩ := h
    obtain ⟨hmem, k, hk, hcompare⟩ := find_ok hfound
    exact ⟨hmem, ⟨id, k, hid, hk, hcompare⟩, _, hstatus⟩

/-- The row of a draft shows the submission that the draft was read from. -/
theorem shows_of_draft {x status : Value} {details : Fields} {draft : SubmissionDraft}
    {row : SubmissionRow} (hread : statusToStore x details = .ok status)
    (hdraft : SubmissionDraft.of x status = .ok draft)
    (hupload : ColumnKind.integer.stored draft.uploadId = .ok row.uploadId)
    (hresource : ColumnKind.integer.stored draft.resourceId = .ok row.resourceId)
    (hstatus : ColumnKind.integer.stored draft.statusId = .ok row.statusId) : row.Shows x := by
  obtain ⟨huploadRead, hresourceRead, hidRead⟩ := SubmissionDraft.of_ok hdraft
  exact ⟨⟨_, huploadRead, hupload⟩, ⟨_, hresourceRead, hresource⟩,
    ⟨_, statusToStore_ok hread, _, hidRead, hstatus⟩⟩

end Sql.Session

/-- What a call does to tables, it does row by row. -/
theorem CatalogCall.writes_of_effect {call : CatalogCall} {now : Moment} {d d' : Database}
    (h : call.effect now d = .ok d') : call.Writes now d d' := by
  cases call with
  | createUpload u operator =>
      simp only [effect, bind_eq_ok_iff, Pure.pure, Except.pure, Except.ok.injEq] at h
      obtain ⟨⟨type, status⟩, hread, draft, hdraft, ⟨id, after⟩, hinsert, rfl⟩ := h
      obtain ⟨row, hid, hproject, howner, htype, hstatus, hparameter, huser, hdate, hmodifyUser,
        hmodifyDate, rfl⟩ := Session.insertUpload_ok hinsert
      obtain ⟨htypeRead, hstatusRead⟩ := Session.typeAndStatus_ok hread
      obtain ⟨hprojectRead, hownerRead, htypeId, hstatusId, hparameterRead⟩ :=
        Session.UploadDraft.of_ok hdraft
      exact .upload hid
        { projectId := ⟨_, hprojectRead, hproject⟩
          owner := ⟨_, hownerRead, howner⟩
          typeId := ⟨_, htypeRead, _, htypeId, htype⟩
          statusId := ⟨_, hstatusRead, _, hstatusId, hstatus⟩
          parameter := ⟨_, hparameterRead, hparameter⟩
          createUser := huser
          createDate := hdate
          modifyUser := hmodifyUser
          modifyDate := hmodifyDate }
  | createSubmission x operator =>
      simp only [effect, bind_eq_ok_iff, Pure.pure, Except.pure, Except.ok.injEq] at h
      obtain ⟨status, hread, draft, hdraft, ⟨id, after⟩, hinsert, rfl⟩ := h
      obtain ⟨row, -, hid, hupload, hresource, hstatus, huser, hdate, hmodifyUser, hmodifyDate,
        rfl⟩ := Session.insertSubmission_ok hinsert
      exact .submission hid
        { shows := Session.shows_of_draft hread hdraft hupload hresource hstatus
          createUser := huser
          createDate := hdate
          modifyUser := hmodifyUser
          modifyDate := hmodifyDate }
  | updateSubmission x operator =>
      simp only [effect, bind_eq_ok_iff, Pure.pure, Except.pure, Except.ok.injEq] at h
      obtain ⟨⟨old, status⟩, hchanging, draft, hdraft, ⟨done, after⟩, hchange, rfl⟩ := h
      obtain ⟨hold, hnamed, details, hread⟩ := Session.changing_ok hchanging
      obtain ⟨-, -, hdraft⟩ := bind_eq_ok_iff.1 hdraft
      obtain ⟨change, hid, hothers, hown, hcreation, rfl⟩ := Session.changeSubmission_ok hchange
      refine .change hold hnamed (fun r hr => ?_) hothers
      obtain ⟨hupload, hresource, hstatus, huser, hdate⟩ := hown r hr
      exact
        { id := hid r
          shows := Session.shows_of_draft hread hdraft hupload hresource hstatus
          createUser := (hcreation r).1
          createDate := (hcreation r).2
          modifyUser := huser
          modifyDate := hdate }
  | _ =>
      obtain rfl := Except.ok.inj h
      exact .question rfl

/-- What a replay makes of tables, its writes make of them row by row, one after the other. -/
theorem Sql.Database.writtenBy_of_replay {d d' : Database} {writes : List (CatalogCall × Moment)}
    (h : d.replay writes = .ok d') : d.WrittenBy writes d' := by
  induction writes generalizing d with
  | nil =>
      obtain rfl := Except.ok.inj h
      exact .nothing d
  | cons write rest ih =>
      obtain ⟨middle, heffect, hrest⟩ := bind_eq_ok_iff.1 h
      exact .next (CatalogCall.writes_of_effect heffect) (ih hrest)

end ContestUploads
