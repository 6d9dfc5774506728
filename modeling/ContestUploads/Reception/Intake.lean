import ContestUploads.Reception.ActingResource
import ContestUploads.Reception.GatingPhase
import ContestUploads.Reception.Superseded
import ContestUploads.Reception.Winner
import ContestUploads.Upload

/-!
# Taking in an upload

The steps always come in the same order: check the request, load the project, find the acting
resource, check the winner where the category asks for it, pass the phase gate, create the
upload; then, for general submissions, create the submission, link it to the resource and start
its screening; last, retire what the upload supersedes.

Nothing is written before the gate is passed.  After that the writes stand on their own: when a
later step fails, the earlier ones stay.
-/

namespace ContestUploads.Reception

open Program

/-- The project with an id, which must exist. -/
def loadProject (projectId : Int) : Program Value := do
  let which : Fields := [("project_id", .int projectId)]
  let project ← askGuarded "get project" which (.project (.int projectId))
  if project.isNull then
    note .error "project_not_found" which
    reject (.projectNotFound (.int projectId))
  else return project

/-- The open gating phase of a project.  A project without any gating phase is not eligible. -/
def eligiblePhase (projectId : Int) (rule : Rule) : Program Value :=
  (openPhase (.int projectId) (.ofTexts rule.phaseNames)).recover fun f =>
    match f.problem with
    | .service (.noMatchingPhase _ names) =>
        .fail ((ServiceProblem.projectNotEligible (.int projectId) names).failureFrom f)
    | _ => .fail f

/-- The fields that say who uploads where. -/
def uploader (request : UploadRequest) : Fields :=
  [("project_id", .int request.projectId), ("user_id", .int request.userId)]

/-- Store a new upload.  The types are looked through before the statuses. -/
def createUpload (settings : Settings) (request : UploadRequest) (rule : Rule) :
    Program Value := do
  let place : Fields := [("project_id", .int request.projectId)]
  let statuses ← askGuarded "get upload statuses" place (.catalog .uploadStatuses)
  let types ← askGuarded "get upload types" place (.catalog .uploadTypes)
  let type ← ofExcept (Lookup.require types (.text rule.uploadTypeName) (.text "upload type"))
  let status ← ofExcept
    (Lookup.require statuses (.text settings.activeStatus) (.text "upload status"))
  let upload : Upload :=
    { projectId := .int request.projectId
      owner := .int request.userId
      type
      status
      parameter := .text request.filename }
  askGuarded "create upload" (uploader request)
    (.catalog (.createUpload upload.value (.text request.operator)))

/-- The submission statuses of the catalog. -/
def submissionStatuses : Program Value :=
  askGuarded "get submission statuses" [] (.catalog .submissionStatuses)

/-- Link a new submission to the resource that it came through. -/
def linkSubmission (request : UploadRequest) (resource submissionId : Value) :
    Program Value := do
  let (_, linked) ← ofExcept (resource.carryOut "add_submission" [submissionId])
  let _ ← askGuarded "update resource" (uploader request)
    (.updateResource linked (.text request.operator))
  let resourceId ← ofExcept (linked.read "resource_id")
  note .info "resource_updated"
    [("resource_id", resourceId), ("submission_id", submissionId),
     ("operator", .text request.operator)]
  return linked

/-- Store a new submission for an upload, link it to the resource and start its screening. -/
def createSubmission (settings : Settings) (request : UploadRequest)
    (upload resource statuses : Value) : Program (Value × Value) := do
  let operator : Value := .text request.operator
  let status ← ofExcept
    (Lookup.require statuses (.text settings.activeStatus) Lookup.submissionStatusKind)
  let uploadId ← ofExcept (upload.read "upload_id")
  let resourceId ← ofExcept (resource.read "resource_id")
  let draft : Submission := { status, uploadId, resourceId }
  let submission ← askGuarded "create submission" (uploader request)
    (.catalog (.createSubmission draft.value operator))
  let id ← ofExcept (submission.read "submission_id")
  note .info "submission_created" (uploader request ++ [("submission_id", id)])
  let linked ← linkSubmission request resource id
  let _ ← askGuarded "initiate screening" [("submission_id", id)]
    (.initiateScreening id operator)
  note .info "screening_initiated" [("submission_id", id), ("operator", operator)]
  return (id, linked)

/-- Whether an upload supersedes the earlier submissions of its resource. -/
def supersedes (settings : Settings) (project : Value) (rule : Rule) : Except Failure Bool :=
  if rule.alwaysRetire then .ok true
  else (project.carryOut "flag" [.text settings.allowMultiple]).map fun (several, _) =>
    !several.truthy

/-- Take in an upload of a user who acts through a resource: pass the phase gate, create the
upload and what comes with it, and retire what it supersedes. -/
def receive (settings : Settings) (request : UploadRequest) (project resource : Value) :
    Program Value := do
  let rule := request.category.rule
  let phase ← eligiblePhase request.projectId rule
  let upload ← createUpload settings request rule
  let uploadId ← ofExcept (upload.read "upload_id")
  let phaseId ← ofExcept (phase.read "phase_id")
  note .info "upload_created"
    ([("category", .text request.category.text)] ++ uploader request ++
      [("upload_id", uploadId), ("phase_id", phaseId), ("filename", .text request.filename)])
  if rule.createsSubmission then
    let statuses ← submissionStatuses
    let (id, linked) ← createSubmission settings request upload resource statuses
    if ← ofExcept (supersedes settings project rule) then
      let _ ← retireSuperseded settings (.int request.userId) linked statuses (.list [id])
    return id
  else
    if ← ofExcept (supersedes settings project rule) then
      let statuses ← submissionStatuses
      let _ ← retireSuperseded settings (.int request.userId) resource statuses (.list [])
    return uploadId

/-- Take in an upload; the arguments may be of any kind.  The answer is the id of the submission
if one is created, otherwise the id of the upload. -/
def takeIn (settings : Settings) (category projectId userId filename : Value) :
    Program Value := do
  let request ← ofExcept <| UploadRequest.ofFields
    [("category", category), ("project_id", projectId), ("user_id", userId),
     ("filename", filename)]
  let rule := request.category.rule
  let project ← loadProject request.projectId
  let resource ← actingResource settings (.int request.projectId) (.int request.userId)
    (.ofTexts rule.roleNames)
  if rule.requiresWinner then
    requireWinner settings project request.userId
  receive settings request project resource

end ContestUploads.Reception
