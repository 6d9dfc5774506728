import ContestUploads.Desk
import ContestUploads.Platform
import ContestUploads.Proofs.Filing

/-!
# Worlds: platforms in memory whose records are what they should be

The stores take values of any kind.  A `World` is the state of all five stores when nothing but
records with fields of their declared types was ever put in: numbers are integers, names are texts,
a status is an entry of a catalog or absent.  Property values of projects stay arbitrary.

`World.platform` is the state of the collaborators that a world stands for.  Two facts hold of
every world that the operations of the stores can set up and are kept apart as `World.Coherent`: no
two records of a store have the same number, and the counters are ahead of the numbers drawn from
them.
-/

namespace ContestUploads

/-- An entry of a catalog of lookups. -/
structure StoredLookup where
  id : Int
  name : String
  description : String := ""
  deriving DecidableEq, Repr, Inhabited

/-- A project; its properties may be of any kind. -/
structure StoredProject where
  id : Int
  properties : Fields := []
  deriving DecidableEq, Repr, Inhabited

/-- A phase of a project; a phase may have no type. -/
structure StoredPhase where
  id : Int
  projectId : Int
  type : Option String := none
  status : PhaseStatus := .scheduled
  deriving DecidableEq, Repr, Inhabited

/-- A user's role in a project, with the numbers of the submissions made through it. -/
structure StoredResource where
  id : Int
  projectId : Int
  roleId : Int
  extensionProperties : List (String × String) := []
  submissions : List Int := []
  modifiedBy : Option String := none
  modifiedAt : Option Moment := none
  deriving DecidableEq, Repr, Inhabited

/-- An uploaded artifact. -/
structure StoredUpload where
  id : Int
  projectId : Int
  owner : Int
  type : Option StoredLookup := none
  status : Option StoredLookup := none
  parameter : String := ""
  createdBy : Option String := none
  createdAt : Option Moment := none
  modifiedBy : Option String := none
  modifiedAt : Option Moment := none
  deriving DecidableEq, Repr, Inhabited

/-- A competition entry. -/
structure StoredSubmission where
  id : Int
  status : Option StoredLookup := none
  uploadId : Option Int := none
  resourceId : Option Int := none
  createdBy : Option String := none
  createdAt : Option Moment := none
  modifiedBy : Option String := none
  modifiedAt : Option Moment := none
  deriving DecidableEq, Repr, Inhabited

/-- An optional part shows in a value that is null only if it is absent. -/
theorem Value.optional_injective {α : Type} {value : α → Value}
    (hvalue : Function.Injective value) (hnull : ∀ x, value x ≠ .null) :
    Function.Injective fun x : Option α => (x.map value).getD .null := by
  intro x y h
  rcases x with _ | x <;> rcases y with _ | y
  · rfl
  · exact absurd h.symm (hnull y)
  · exact absurd h (hnull x)
  · exact congrArg some (hvalue h)

namespace StoredLookup

/-- The entry as it is handed out. -/
def record (l : StoredLookup) : Lookup :=
  { id := .int l.id, name := .text l.name, description := .text l.description }

def value (l : StoredLookup) : Value := l.record.value

/-- A catalog of names, numbered from one. -/
def catalog (names : List String) : List StoredLookup :=
  names.mapIdx fun i name => { id := 1 + i, name }

theorem map_value_catalog (names : List String) :
    (catalog names).map value = Lookup.catalog names := by
  simp only [catalog, Lookup.catalog, Lookup.numbered, List.mapIdx_eq_zipIdx_map, List.zipIdx_map,
    List.map_map]
  rfl

theorem value_injective : Function.Injective value := by
  intro l m h
  cases l
  cases m
  simpa [value, record, Lookup.value] using h

/-- The numbers of a catalog of names go up to its length. -/
theorem mem_catalog {names : List String} {l : StoredLookup} (hl : l ∈ catalog names) :
    1 ≤ l.id ∧ l.id ≤ names.length := by
  rw [catalog, List.mapIdx_eq_zipIdx_map] at hl
  obtain ⟨⟨name, i⟩, hi, rfl⟩ := List.mem_map.1 hl
  have hlt := (List.mem_zipIdx' hi).1
  dsimp only
  omega

/-- An entry that may be absent, null if it is. -/
def optional (l : Option StoredLookup) : Value :=
  (l.map value).getD .null

@[simp] theorem read_id (l : StoredLookup) : l.value.read "id" = .ok (.int l.id) := rfl

@[simp] theorem read_name (l : StoredLookup) : l.value.read "name" = .ok (.text l.name) := rfl

end StoredLookup

namespace StoredProject

/-- The project as it is handed out. -/
def record (p : StoredProject) : Project :=
  { id := .int p.id, properties := p.properties }

def value (p : StoredProject) : Value := p.record.value

@[simp] theorem read_id (p : StoredProject) : p.value.read "project_id" = .ok (.int p.id) := rfl

/-- Whether a property of the project says yes. -/
def affirms (p : StoredProject) (name : String) : Bool :=
  (p.record.property name).saysYes

/-- Whether a property of the project names a user. -/
def names (p : StoredProject) (property : String) (userId : Int) : Bool :=
  (p.record.property property).names userId

theorem property_value (p : StoredProject) (name : String) :
    p.value.carryOut "get_property" [.text name] = .ok (p.record.property name, p.value) :=
  Project.property_value p.record name

theorem flag_value (p : StoredProject) (name : String) :
    p.value.carryOut "flag" [.text name] = .ok (.bool (p.affirms name), p.value) :=
  Project.flag_value p.record name

end StoredProject

namespace StoredPhase

/-- The phase as it is handed out. -/
def record (p : StoredPhase) : Phase :=
  { id := .int p.id
    projectId := .int p.projectId
    type := .ofText? p.type
    status := .phaseStatus p.status }

def value (p : StoredPhase) : Value := p.record.value

@[simp] theorem read_id (p : StoredPhase) : p.value.read "phase_id" = .ok (.int p.id) := rfl

@[simp] theorem read_type (p : StoredPhase) :
    p.value.read "phase_type" = .ok (.ofText? p.type) := rfl

@[simp] theorem read_status (p : StoredPhase) :
    p.value.read "status" = .ok (.phaseStatus p.status) := rfl

@[simp] theorem read_isOpen (p : StoredPhase) :
    p.value.read "is_open" = .ok (.bool (p.status == .opened)) := by
  show Except.ok (Value.bool (Value.equals (.phaseStatus p.status) (.phaseStatus .opened))) = _
  simp [Value.equals, Value.equalsAtom]

end StoredPhase

namespace StoredResource

/-- The resource as it is handed out. -/
def record (r : StoredResource) : Resource :=
  { id := .int r.id
    projectId := .int r.projectId
    roleId := .int r.roleId
    extensionProperties := r.extensionProperties.map fun e => (e.1, .text e.2)
    submissions := r.submissions.map .int
    modifiedBy := .ofText? r.modifiedBy
    modifiedAt := (r.modifiedAt.map .moment).getD .null }

def value (r : StoredResource) : Value := r.record.value

@[simp] theorem read_id (r : StoredResource) : r.value.read "resource_id" = .ok (.int r.id) := rfl

@[simp] theorem read_roleId (r : StoredResource) :
    r.value.read "role_id" = .ok (.int r.roleId) := rfl

end StoredResource

namespace StoredUpload

/-- The upload as it is handed out. -/
def record (u : StoredUpload) : Upload :=
  { id := .int u.id
    projectId := .int u.projectId
    owner := .int u.owner
    type := StoredLookup.optional u.type
    status := StoredLookup.optional u.status
    parameter := .text u.parameter
    createdBy := .ofText? u.createdBy
    createdAt := (u.createdAt.map .moment).getD .null
    modifiedBy := .ofText? u.modifiedBy
    modifiedAt := (u.modifiedAt.map .moment).getD .null }

def value (u : StoredUpload) : Value := u.record.value

@[simp] theorem read_id (u : StoredUpload) : u.value.read "upload_id" = .ok (.int u.id) := rfl

end StoredUpload

namespace StoredSubmission

/-- The submission as it is handed out. -/
def record (s : StoredSubmission) : Submission :=
  { id := .int s.id
    status := StoredLookup.optional s.status
    uploadId := (s.uploadId.map .int).getD .null
    resourceId := (s.resourceId.map .int).getD .null
    createdBy := .ofText? s.createdBy
    createdAt := (s.createdAt.map .moment).getD .null
    modifiedBy := .ofText? s.modifiedBy
    modifiedAt := (s.modifiedAt.map .moment).getD .null }

def value (s : StoredSubmission) : Value := s.record.value

/-- The name of the status of a submission, if it has one. -/
def statusName (s : StoredSubmission) : Option String :=
  s.status.map StoredLookup.name

@[simp] theorem read_id (s : StoredSubmission) :
    s.value.read "submission_id" = .ok (.int s.id) := rfl

@[simp] theorem read_status (s : StoredSubmission) :
    s.value.read "status" = .ok (StoredLookup.optional s.status) := rfl

@[simp] theorem write_status (s : StoredSubmission) (l : StoredLookup) :
    s.value.write "status" l.value = .ok { s with status := some l }.value := rfl

/-- What is handed out of a submission tells all of it. -/
theorem value_injective : Function.Injective value := by
  have hlookup := Value.optional_injective StoredLookup.value_injective (fun _ => nofun)
  have hint : Function.Injective fun x : Option Int => (x.map Value.int).getD .null :=
    Value.optional_injective (fun _ _ => Value.int.inj) (fun _ => nofun)
  have hmoment : Function.Injective fun x : Option Moment => (x.map Value.moment).getD .null :=
    Value.optional_injective (fun _ _ => Value.moment.inj) (fun _ => nofun)
  have htext : Function.Injective Value.ofText? := by
    intro x y h
    cases x <;> cases y <;> simp_all [Value.ofText?]
  rintro ⟨⟩ ⟨⟩ h
  simp only [value, record, Submission.value, Value.record.injEq, List.cons.injEq,
    Prod.mk.injEq, Value.int.injEq, true_and, and_true] at h
  obtain ⟨hid, hstatus, hupload, hresource, hcreatedBy, hcreatedAt, hmodifiedBy, hmodifiedAt⟩ := h
  obtain rfl := hid
  obtain rfl := hlookup hstatus
  obtain rfl := hint hupload
  obtain rfl := hint hresource
  obtain rfl := htext hcreatedBy
  obtain rfl := hmoment hcreatedAt
  obtain rfl := htext hmodifiedBy
  obtain rfl := hmoment hmodifiedAt
  rfl

end StoredSubmission

/-- The state of all stores in memory. -/
structure World where
  projects : List StoredProject := []
  /-- The phases of each project, in the order of the tracker. -/
  phases : List (Int × List StoredPhase) := []
  roles : List StoredLookup := []
  resources : List StoredResource := []
  directoryAudit : List AuditEntry := []
  uploadStatuses : List StoredLookup := []
  uploadTypes : List StoredLookup := []
  submissionStatuses : List StoredLookup := []
  uploads : List StoredUpload := []
  submissions : List StoredSubmission := []
  catalogAudit : List AuditEntry := []
  nextUpload : Int := 1
  nextSubmission : Int := 1
  /-- The submissions sent to screening, each with who sent it. -/
  screening : List (Int × String) := []
  clock : Clock := {}
  deriving Repr, Inhabited

namespace World

/-- The catalog of uploads of a world. -/
def catalog (w : World) : Memory.Catalog :=
  { uploadStatuses := w.uploadStatuses.map StoredLookup.value
    uploadTypes := w.uploadTypes.map StoredLookup.value
    submissionStatuses := w.submissionStatuses.map StoredLookup.value
    uploads := .filed StoredUpload.id StoredUpload.value w.uploads
    submissions := .filed StoredSubmission.id StoredSubmission.value w.submissions
    audit := w.catalogAudit
    nextUpload := w.nextUpload
    nextSubmission := w.nextSubmission }

/-- The directory of a world. -/
def directory (w : World) : Memory.Directory :=
  { roles := w.roles.map StoredLookup.value
    resources := .filed StoredResource.id StoredResource.value w.resources
    audit := w.directoryAudit }

/-- The board of phases of a world. -/
def board (w : World) : Memory.PhaseBoard :=
  .filed Prod.fst (fun e => e.2.map StoredPhase.value) w.phases

/-- The state of the collaborators with some catalog; the other stores hold what a world says. -/
def platformWith {κ : Type} (w : World) (catalog : κ) : Platform κ :=
  { projects := .filed StoredProject.id StoredProject.value w.projects
    phases := w.board
    directory := w.directory
    catalog
    screening := w.screening.map fun e => ⟨.int e.1, .text e.2⟩
    clock := w.clock }

/-- The state of the collaborators that a world stands for, with the catalog in memory. -/
def platform (w : World) : Platform Memory.Catalog :=
  w.platformWith w.catalog

/-- No two records of a store have the same number, and the counters are ahead of the numbers that
were drawn from them. -/
structure Coherent (w : World) : Prop where
  projects : (w.projects.map StoredProject.id).Nodup
  phases : (w.phases.map Prod.fst).Nodup
  resources : (w.resources.map StoredResource.id).Nodup
  submissions : (w.submissions.map StoredSubmission.id).Nodup
  uploads : ∀ u ∈ w.uploads, u.id < w.nextUpload
  nextSubmission : 0 ≤ w.nextSubmission

/-- A catalog of lookups in which every number is used once and none is negative. -/
structure Numbered (catalog : List StoredLookup) : Prop where
  distinct : (catalog.map StoredLookup.id).Nodup
  nonneg : ∀ l ∈ catalog, 0 ≤ l.id

/-- The first entry of a catalog with a name. -/
def named? (catalog : List StoredLookup) (name : String) : Option StoredLookup :=
  catalog.find? (·.name == name)

/-- The first entry of a catalog with a number. -/
def withId? (catalog : List StoredLookup) (id : Int) : Option StoredLookup :=
  catalog.find? (·.id == id)

/-- The project with a number. -/
def project? (w : World) (id : Int) : Option StoredProject :=
  w.projects.find? (·.id == id)

/-- The phases of a project, in the order of the tracker. -/
def phasesOf (w : World) (projectId : Int) : List StoredPhase :=
  ((w.phases.find? (·.1 == projectId)).map Prod.snd).getD []

/-- The submission with a number. -/
def submission? (w : World) (id : Int) : Option StoredSubmission :=
  w.submissions.find? (·.id == id)

theorem mem_of_submission? {w : World} {n : Int} {s : StoredSubmission}
    (h : w.submission? n = some s) : s ∈ w.submissions ∧ s.id = n :=
  ⟨List.mem_of_find?_eq_some h, by simpa using List.find?_some h⟩

/-- In a coherent world a stored submission is found under its number. -/
theorem submission?_of_mem {w : World} (h : w.Coherent) {s : StoredSubmission}
    (hs : s ∈ w.submissions) : w.submission? s.id = some s :=
  Register.find?_of_mem StoredSubmission.id h.submissions hs

/-- A catalog of names stands in the order of its numbers. -/
theorem pairwise_catalog (names : List String) :
    ((StoredLookup.catalog names).map StoredLookup.id).Pairwise (· < ·) := by
  have hids : (StoredLookup.catalog names).map StoredLookup.id =
      (List.range' 0 names.length).map fun i : Nat => (1 + i : Int) := by
    rw [← List.zipIdx_map_snd, StoredLookup.catalog, List.mapIdx_eq_zipIdx_map, List.map_map,
      List.map_map]
    rfl
  rw [hids, List.pairwise_map]
  refine (List.pairwise_lt_range' 1).imp fun {i j} hij => ?_
  omega

/-- In a catalog of names every number is used once. -/
theorem numbered_catalog (names : List String) : Numbered (StoredLookup.catalog names) where
  distinct := (pairwise_catalog names).imp Int.ne_of_lt
  nonneg l hl := by
    have hl := StoredLookup.mem_catalog hl
    omega

/-- A catalog in which every number is used once finds its entries by their numbers. -/
theorem Numbered.withId?_of_mem {catalog : List StoredLookup} (h : Numbered catalog)
    {l : StoredLookup} (hl : l ∈ catalog) : withId? catalog l.id = some l :=
  Register.find?_of_mem StoredLookup.id h.distinct hl

end World

end ContestUploads
