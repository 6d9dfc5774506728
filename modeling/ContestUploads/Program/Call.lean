import ContestUploads.Log.Basic

/-!
# Calls to collaborators

The services own no records.  They ask five collaborators: a store of projects, a tracker of
phases, a directory of roles and resources, a catalog of uploads, and the trigger of screening.
Each call is a constructor.  What a collaborator answers is a value of any kind; whether it is what
was asked for shows only when it is used.

A record that is handed over to be stored is stamped where its owner has it.  Creating a record
answers with that record; updating a submission answers here with the submission as its owner has it
afterwards, and the other writes answer with null.
-/

namespace ContestUploads

/-- A call to the catalog of uploads. -/
inductive CatalogCall
  | uploadStatuses
  | uploadTypes
  | submissionStatuses
  | createUpload (upload operator : Value)
  | createSubmission (submission operator : Value)
  | updateSubmission (submission operator : Value)
  | getSubmission (id : Value)
  | searchSubmissions (filter : Value)
  deriving Repr, DecidableEq

/-- A call to a collaborator. -/
inductive Call
  | project (id : Value)
  | phases (projectId : Value)
  | resourceRoles
  | searchResources (filter : Value)
  | updateResource (resource operator : Value)
  | catalog (call : CatalogCall)
  | initiateScreening (submission operator : Value)
  deriving Repr, DecidableEq

/-- The operations of the collaborators, without their arguments. -/
inductive Method
  | project
  | phases
  | resourceRoles
  | searchResources
  | updateResource
  | uploadStatuses
  | uploadTypes
  | submissionStatuses
  | createUpload
  | createSubmission
  | updateSubmission
  | getSubmission
  | searchSubmissions
  | initiateScreening
  deriving DecidableEq, Repr

namespace Method

/-- All operations. -/
def all : List Method :=
  [.project, .phases, .resourceRoles, .searchResources, .updateResource, .uploadStatuses,
   .uploadTypes, .submissionStatuses, .createUpload, .createSubmission, .updateSubmission,
   .getSubmission, .searchSubmissions, .initiateScreening]

/-- The name of an operation in messages and entries. -/
def name : Method → String
  | .project => "get_project"
  | .phases => "get_phases"
  | .resourceRoles => "get_all_resource_roles"
  | .searchResources => "search_resources"
  | .updateResource => "update_resource"
  | .uploadStatuses => "get_all_upload_statuses"
  | .uploadTypes => "get_all_upload_types"
  | .submissionStatuses => "get_all_submission_statuses"
  | .createUpload => "create_upload"
  | .createSubmission => "create_submission"
  | .updateSubmission => "update_submission"
  | .getSubmission => "get_submission"
  | .searchSubmissions => "search_submissions"
  | .initiateScreening => "initiate_screening"

/-- The operation with a name. -/
def ofName? (s : String) : Option Method :=
  all.find? (·.name == s)

theorem ofName?_name (m : Method) : ofName? m.name = some m := by
  cases m <;> decide

/-- Whether an operation changes records. -/
def writes : Method → Bool
  | .updateResource | .createUpload | .createSubmission | .updateSubmission
  | .initiateScreening => true
  | _ => false

end Method

/-- The operation that a call asks for. -/
def Call.method : Call → Method
  | .project _ => .project
  | .phases _ => .phases
  | .resourceRoles => .resourceRoles
  | .searchResources _ => .searchResources
  | .updateResource .. => .updateResource
  | .catalog .uploadStatuses => .uploadStatuses
  | .catalog .uploadTypes => .uploadTypes
  | .catalog .submissionStatuses => .submissionStatuses
  | .catalog (.createUpload ..) => .createUpload
  | .catalog (.createSubmission ..) => .createSubmission
  | .catalog (.updateSubmission ..) => .updateSubmission
  | .catalog (.getSubmission _) => .getSubmission
  | .catalog (.searchSubmissions _) => .searchSubmissions
  | .initiateScreening .. => .initiateScreening

/-- The values that a call hands over. -/
def Call.arguments : Call → List Value
  | .project id => [id]
  | .phases projectId => [projectId]
  | .resourceRoles => []
  | .searchResources filter => [filter]
  | .updateResource resource operator => [resource, operator]
  | .catalog .uploadStatuses | .catalog .uploadTypes | .catalog .submissionStatuses => []
  | .catalog (.createUpload upload operator) => [upload, operator]
  | .catalog (.createSubmission submission operator) => [submission, operator]
  | .catalog (.updateSubmission submission operator) => [submission, operator]
  | .catalog (.getSubmission id) => [id]
  | .catalog (.searchSubmissions filter) => [filter]
  | .initiateScreening submission operator => [submission, operator]

/-- What comes of a call: a reply or a failure, the state afterwards, and what the collaborator
itself had to log. -/
structure Answer (σ : Type) where
  reply : Except Failure Value
  state : σ
  logged : List LogEntry := []

/-- How the collaborators behave, over their state `σ`. -/
abbrev Collaborators (σ : Type) := Call → σ → Answer σ

end ContestUploads
