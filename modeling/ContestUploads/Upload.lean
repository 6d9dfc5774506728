import ContestUploads.Record.Access

/-!
# Uploads and submissions

An upload records one artifact that came in; a submission is a competition entry that refers to
the upload it came with.  Neither has an id before a catalog has stored it.

* `read_id`, `write_status` and their like: what is read of such a record, and what becomes of it.
-/

namespace ContestUploads

/-- The record of one uploaded artifact. -/
structure Upload where
  /-- Null before the record is stored. -/
  id : Value := .null
  projectId : Value := .int 0
  owner : Value := .int 0
  type : Value := .null
  status : Value := .null
  /-- What was uploaded: the name of the file. -/
  parameter : Value := .text ""
  createdBy : Value := .null
  createdAt : Value := .null
  modifiedBy : Value := .null
  modifiedAt : Value := .null
  deriving DecidableEq, Repr, Inhabited

/-- A competition entry. -/
structure Submission where
  /-- Null before the record is stored. -/
  id : Value := .null
  status : Value := .null
  uploadId : Value := .null
  resourceId : Value := .null
  createdBy : Value := .null
  createdAt : Value := .null
  modifiedBy : Value := .null
  modifiedAt : Value := .null
  deriving DecidableEq, Repr, Inhabited

namespace Upload

/-- An upload as a value. -/
def value (u : Upload) : Value :=
  .record .upload
    [("upload_id", u.id), ("project_id", u.projectId), ("owner", u.owner),
     ("upload_type", u.type), ("status", u.status), ("parameter", u.parameter),
     ("created_by", u.createdBy), ("created_at", u.createdAt), ("modified_by", u.modifiedBy),
     ("modified_at", u.modifiedAt)]

@[simp] theorem read_id (u : Upload) : u.value.read "upload_id" = .ok u.id := rfl

@[simp] theorem read_projectId (u : Upload) : u.value.read "project_id" = .ok u.projectId := rfl

@[simp] theorem read_owner (u : Upload) : u.value.read "owner" = .ok u.owner := rfl

@[simp] theorem read_type (u : Upload) : u.value.read "upload_type" = .ok u.type := rfl

@[simp] theorem read_status (u : Upload) : u.value.read "status" = .ok u.status := rfl

@[simp] theorem read_parameter (u : Upload) : u.value.read "parameter" = .ok u.parameter := rfl

@[simp] theorem write_id (u : Upload) (v : Value) :
    u.value.write "upload_id" v = .ok { u with id := v }.value := rfl

end Upload

namespace Submission

/-- A submission as a value. -/
def value (s : Submission) : Value :=
  .record .submission
    [("submission_id", s.id), ("status", s.status), ("upload_id", s.uploadId),
     ("resource_id", s.resourceId), ("created_by", s.createdBy), ("created_at", s.createdAt),
     ("modified_by", s.modifiedBy), ("modified_at", s.modifiedAt)]

@[simp] theorem read_id (s : Submission) : s.value.read "submission_id" = .ok s.id := rfl

@[simp] theorem read_status (s : Submission) : s.value.read "status" = .ok s.status := rfl

@[simp] theorem read_uploadId (s : Submission) : s.value.read "upload_id" = .ok s.uploadId := rfl

@[simp] theorem read_resourceId (s : Submission) :
    s.value.read "resource_id" = .ok s.resourceId := rfl

@[simp] theorem write_id (s : Submission) (v : Value) :
    s.value.write "submission_id" v = .ok { s with id := v }.value := rfl

@[simp] theorem write_status (s : Submission) (v : Value) :
    s.value.write "status" v = .ok { s with status := v }.value := rfl

end Submission

end ContestUploads
