import ContestUploads.Memory.Directory
import ContestUploads.Program.Basic

/-!
# The platform: the state of all collaborators

Projects, phases, resources and screening requests are kept in memory.  The catalog of uploads
is of a type `κ` that says how it answers calls.  All stamps come from one clock.
-/

namespace ContestUploads

/-- A kind of catalog: how it answers calls, given the clock for its stamps. -/
class UploadCatalog (κ : Type) where
  /-- The word for the kind in messages. -/
  word : String
  answer : CatalogCall → κ × Clock → Answer (κ × Clock)

instance : UploadCatalog Memory.Catalog where
  word := "InMemoryUploadCatalog"
  answer := Memory.Catalog.answer

/-- The state of all collaborators. -/
structure Platform (κ : Type) where
  projects : Register Value := {}
  phases : Memory.PhaseBoard := {}
  directory : Memory.Directory := {}
  catalog : κ
  screening : List Memory.ScreeningRequest := []
  clock : Clock := {}

namespace Platform

variable {κ : Type}

/-- Put in a project. -/
def addProject (p : Platform κ) (project : Value) : Except Failure (Platform κ) := do
  let projects ← p.projects.store (← project.read "project_id") project
  return { p with projects }

/-- Put in a phase. -/
def addPhase (p : Platform κ) (phase : Value) : Except Failure (Platform κ) := do
  let phases ← Memory.PhaseBoard.add p.phases phase
  return { p with phases }

/-- Put in a resource. -/
def addResource (p : Platform κ) (resource : Value) : Except Failure (Platform κ) := do
  let directory ← p.directory.add resource
  return { p with directory }

/-- Store a resource that is there already. -/
def updateResource (p : Platform κ) (r operator : Value) : Answer (Platform κ) :=
  match p.directory.storedId r with
  | .error e => ⟨.error e, p, []⟩
  | .ok id =>
      let p' := { p with clock := p.clock.tick.2 }
      match p.directory.update r id operator p.clock.tick.1 with
      | .error e => ⟨.error e, p', []⟩
      | .ok directory => ⟨.ok .null, { p' with directory }, []⟩

/-- Queue the screening of a submission, at most once for each. -/
def initiateScreening (p : Platform κ) (submission operator : Value) : Answer (Platform κ) :=
  if p.screening.any fun r => r.submission.equals submission then
    ⟨.error (StoreProblem.screeningTaskExists submission).failure, p, []⟩
  else
    { reply := .ok .null
      state := { p with screening := p.screening ++ [⟨submission, operator⟩] }
      logged :=
        [{ level := .debug
           event := .text "screening_task_queued"
           fields := [("submission_id", submission), ("operator", operator)] }] }

/-- How the platform answers calls. -/
def answer [UploadCatalog κ] : Collaborators (Platform κ)
  | .project id, p => ⟨(p.projects.find id).map (·.getD .null), p, []⟩
  | .phases projectId, p => ⟨(Memory.PhaseBoard.find p.phases projectId).map .list, p, []⟩
  | .resourceRoles, p => ⟨.ok (.list p.directory.roles), p, []⟩
  | .searchResources filter, p =>
      ⟨(Filter.select filter p.directory.resources.records).map .list, p, []⟩
  | .updateResource r operator, p => p.updateResource r operator
  | .catalog call, p =>
      let a := UploadCatalog.answer call (p.catalog, p.clock)
      ⟨a.reply, { p with catalog := a.state.1, clock := a.state.2 }, a.logged⟩
  | .initiateScreening submission operator, p => p.initiateScreening submission operator

end Platform

end ContestUploads
