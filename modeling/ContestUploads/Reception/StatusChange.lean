import ContestUploads.Lookup.Search
import ContestUploads.Program.Guard
import ContestUploads.Record.Operation
import ContestUploads.Request
import ContestUploads.Settings
import ContestUploads.StatusTable

/-!
# Status changes

A submission gets the status with a given id.  Unless the settings ask for it, any status may
follow any other; otherwise the move has to be allowed by the table of moves.
-/

namespace ContestUploads.Reception

open Program

/-- Refuse a move that the table does not list. -/
def checkMove (submission status : Value) : Except Failure Unit := do
  let current ← (← submission.read "status").referredName
  StatusTable.checkMove current (← status.read "name")

/-- Store a submission with another status. -/
def applyStatus (settings : Settings) (submission status : Value) (which : Fields)
    (operator : String) : Program Value := do
  if settings.enforceMoves then
    ofExcept (checkMove submission status)
  let changed ← ofExcept (submission.write "status" status)
  let updated ← askGuarded "update submission" which
    (.catalog (.updateSubmission changed (.text operator)))
  let name ← ofExcept (status.read "name")
  note .info "submission_status_updated"
    (which ++ [("status", name), ("operator", .text operator)])
  return updated

/-- Give a submission another status.  The answer is the submission as updated. -/
def changeStatus (settings : Settings) (submissionId statusId operator : Value) :
    Program Value := do
  let request ← ofExcept <| StatusRequest.ofFields
    [("submission_id", submissionId), ("status_id", statusId), ("operator", operator)]
  let which : Fields := [("submission_id", .int request.submissionId)]
  let submission ← askGuarded "get submission" which
    (.catalog (.getSubmission (.int request.submissionId)))
  if submission.isNull then
    note .error "submission_not_found" which
    reject (.submissionNotFound (.int request.submissionId))
  else
    let statuses ← askGuarded "get submission statuses" which (.catalog .submissionStatuses)
    match ← ofExcept (Lookup.withId? statuses (.int request.statusId)) with
    | none =>
        note .error "submission_status_not_found"
          (which ++ [("status_id", .int request.statusId)])
        reject (.statusNotFound (.int request.statusId))
    | some status => applyStatus settings submission status which request.operator

end ContestUploads.Reception
