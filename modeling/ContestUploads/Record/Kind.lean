/-!
# Kinds of records

There are six kinds of records: the entries of lookup catalogs, projects, phases, resources,
uploads and submissions.  Each kind has a word, a description and fields with names.  A lookup is
fixed once it is made; the fields of all other records can be given other values.
-/

namespace ContestUploads

/-- The kinds of records. -/
inductive RecordKind
  | lookup
  | project
  | phase
  | resource
  | upload
  | submission
  deriving DecidableEq, Repr, Inhabited

namespace RecordKind

/-- The word for a kind. -/
def name : RecordKind → String
  | .lookup => "LookupValue"
  | .project => "Project"
  | .phase => "Phase"
  | .resource => "Resource"
  | .upload => "Upload"
  | .submission => "Submission"

/-- The names of the fields of a kind, in order. -/
def fieldNames : RecordKind → List String
  | .lookup => ["id", "name", "description"]
  | .project => ["project_id", "properties"]
  | .phase => ["phase_id", "project_id", "phase_type", "status"]
  | .resource =>
      ["resource_id", "project_id", "role_id", "extension_properties", "submissions",
       "modified_by", "modified_at"]
  | .upload =>
      ["upload_id", "project_id", "owner", "upload_type", "status", "parameter", "created_by",
       "created_at", "modified_by", "modified_at"]
  | .submission =>
      ["submission_id", "status", "upload_id", "resource_id", "created_by", "created_at",
       "modified_by", "modified_at"]

/-- Whether a record of a kind keeps the values that it was made with. -/
def isFixed (k : RecordKind) : Bool :=
  k == .lookup

/-- The names of what the operations of a kind take, by the name of the operation. -/
def operations : RecordKind → List (String × List String)
  | .project => [("get_property", ["name"]), ("flag", ["name"])]
  | .resource => [("add_submission", ["submission_id"]), ("get_extension_property", ["name"])]
  | .lookup | .upload | .submission => [("to_dict", [])]
  | .phase => []

/-- What a kind of record stands for, in the words in which it describes itself. -/
def description : RecordKind → String
  | .lookup =>
      "A named, id-bearing catalog entry.\n\n" ++
      "    Submission statuses, upload statuses, upload types and resource roles are\n" ++
      "    all small closed catalogs of these values owned by an external store.\n    "
  | .project => "A competition project and its named properties."
  | .phase => "A stage of a project's workflow."
  | .resource =>
      "A user's role assignment within a project.\n\n" ++
      "    The platform user id is not a field of its own; it lives in the\n" ++
      "    \x60\x60External Reference ID\x60\x60 extension property as a string.\n    "
  | .upload => "A persisted record of one file-bearing artifact."
  | .submission => "A competition entry, paired with the upload created alongside it."

theorem fieldNames_nodup (k : RecordKind) : k.fieldNames.Nodup := by
  cases k <;> decide

end RecordKind

end ContestUploads
