import ContestUploads.Reception.Intake

/-!
# The upload desk

The entry points for participants and administrators.  Each call binds its operation, its
operator and the ids it is about to the log context, and drops these again when it ends,
whatever the outcome; other fields of the context stay.
-/

namespace ContestUploads.Desk

open Program

/-- The names that a call binds to the log context and drops again. -/
def contextNames : List String :=
  ["operation", "operator", "project_id", "user_id", "submission_id"]

/-- Run a program as a call of the desk: within its context and between two entries. -/
def within {α : Type} (context entered : Fields) (body : Program α) : Program α := do
  inContext context
  note .debug "operation_entered" entered
  body.ensuring do
    note .debug "operation_exited" []
    leaveContext contextNames

/-- The context of an upload.  The category and the user are written out for it. -/
def uploadContext (category projectId userId : Value) : Except Failure Fields := do
  let label ← category.label.asText
  let operator ← userId.asText
  return Log.requestContext (.text ("upload_" ++ label)) (.text operator)
    [("project_id", projectId), ("user_id", userId)]

/-- Upload an artifact. -/
def upload (settings : Settings) (category projectId userId filename : Value) :
    Program Value := do
  let context ← ofExcept (uploadContext category projectId userId)
  within context [("filename", filename)]
    (Reception.takeIn settings category projectId userId filename)

/-- The context of a status change. -/
def statusContext (submissionId operator : Value) : Fields :=
  Log.requestContext (.text "set_submission_status") operator [("submission_id", submissionId)]

/-- Give a submission another status. -/
def setSubmissionStatus (settings : Settings) (submissionId statusId operator : Value) :
    Program Value :=
  within (statusContext submissionId operator) [("status_id", statusId)]
    (Reception.changeStatus settings submissionId statusId operator)

/-- The entry that is written when a desk is opened. -/
def openedEntry : LogEntry :=
  { level := .info, event := .text "upload_service_initialized" }

/-- Nobody has opened a desk yet. -/
def notOpened : Failure :=
  .foreign ⟨"RuntimeError",
    [.text "Upload service not initialized; call init_upload_service()"]⟩

end ContestUploads.Desk
