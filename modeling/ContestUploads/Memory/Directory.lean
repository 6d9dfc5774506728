import ContestUploads.Memory.Catalog

/-!
# Projects, phases, resources and screening in memory

These four stores and a catalog make up a `Platform`, the state of all collaborators; the
catalog is a parameter, so that it can be one in memory or one over tables.
-/

namespace ContestUploads

namespace Memory

/-- The roles and resources of the platform, with an audit log of changes to resources. -/
structure Directory where
  roles : List Value := Lookup.catalog Defaults.resourceRoles
  resources : Register Value := {}
  audit : List AuditEntry := []
  deriving DecidableEq, Repr

namespace Directory

/-- Put in a resource from outside; nothing is stamped or audited. -/
def add (d : Directory) (r : Value) : Except Failure Directory := do
  let resources ← d.resources.store (← r.read "resource_id") r
  return { d with resources }

/-- The id of the first role with a name. -/
def roleId (d : Directory) (name : Value) : Except Failure Value := do
  (← Lookup.known d.roles name).read "id"

/-- A resource that should be stored is not. -/
def unknown (id : Value) : Failure :=
  Failure.mentioning id <| .store <|
    .persistence (.text ("Resource " ++ id.display ++ " does not exist"))
      (.dict [("resource_id", id)])

/-- The id of a resource, which must be stored. -/
def storedId (d : Directory) (r : Value) : Except Failure Value := do
  let id ← r.read "resource_id"
  id.demandFixed
  if d.resources.uses id then return id else .error (unknown id)

/-- Store a resource over the one with its id.  Only the stored copy is stamped. -/
def update (d : Directory) (r id operator : Value) (now : Moment) :
    Except Failure Directory := do
  let stored ← r.stamped operator now
  return { d with
    resources := d.resources.put id stored
    audit := d.audit ++ [⟨Method.updateResource.name, id, operator⟩] }

end Directory

/-- Phases by project, each list in the order in which its phases came. -/
abbrev PhaseBoard := Register (List Value)

namespace PhaseBoard

/-- The phases of a project. -/
def phasesOf (b : PhaseBoard) (projectId : Value) : List Value :=
  (Register.get? b projectId).getD []

/-- The phases of a project whose id may be no id at all. -/
def find (b : PhaseBoard) (projectId : Value) : Except Failure (List Value) := do
  projectId.demandFixed
  return phasesOf b projectId

/-- Add a phase after those its project already has. -/
def add (b : PhaseBoard) (p : Value) : Except Failure PhaseBoard := do
  let projectId ← p.read "project_id"
  Register.store b projectId (phasesOf b projectId ++ [p])

end PhaseBoard

/-- A request to screen a submission. -/
structure ScreeningRequest where
  submission : Value
  operator : Value
  deriving DecidableEq, Repr

end Memory

end ContestUploads
