import ContestUploads.Proofs.Authorising

/-!
# What stands before the first write

An upload is let in by a project that exists, one acting resource, the winner where the category
asks for it, and an open gating phase; then its type and status are looked up.  Each of these steps
only reads, so in a world it comes to a question about lists, with an answer or a failure:
`knownProject`, `onlyCandidate`, `demandWinner`, `openGate` and `known`.  Each `outcome_` lemma
below says that a step of the services comes to its question and leaves the stores as they are,
whatever the catalog is; none of these steps asks it.
-/

namespace ContestUploads

open Program Reception

namespace ServiceProblem

theorem failure_noMatchingPhase (projectId : Int) (names : List String) :
    (noMatchingPhase (.int projectId) (.ofTexts names)).failure =
      if Text.writable projectId then .service (.noMatchingPhase (.int projectId) (.ofTexts names))
      else .foreign .tooManyDigits := by
  rw [failure_of_mentions [.int projectId]]
  · simp
  · simp [obstacle?, ForeignProblem.ofJoining?_ofTexts]

theorem failureFrom_projectNotEligible {projectId : Int} (hproject : Text.writable projectId)
    (names : List String) (origin : Failure) :
    (projectNotEligible (.int projectId) (.ofTexts names)).failureFrom origin =
      .raisedFrom (.service (.projectNotEligible (.int projectId) (.ofTexts names))) origin := by
  simp [failureFrom, obstacle?, ForeignProblem.ofJoining?_ofTexts, Value.unwritable?, hproject]

end ServiceProblem

namespace World

/-- The numbers of the roles with one of some names. -/
def roleIds (w : World) (names : List String) : List Int :=
  (w.roles.filter fun role => names.contains role.name).map StoredLookup.id

/-- The resources through which a user with one of some roles acts on a project. -/
def candidates (w : World) (settings : Settings) (projectId userId : Int) (names : List String) :
    List StoredResource :=
  w.resources.filter (·.actsFor (w.roleIds names) projectId settings.externalReference userId)

/-- The first phase of a project whose type is one of some names. -/
def gatingPhase? (w : World) (projectId : Int) (names : List String) : Option StoredPhase :=
  (w.phasesOf projectId).find? fun p => p.type.any names.contains

/-- The project with a number, which must exist. -/
def knownProject (w : World) (id : Int) : Except Failure StoredProject :=
  match w.project? id with
  | none => .error (ServiceProblem.projectNotFound (.int id)).failure
  | some p => .ok p

/-- The only resource through which a user with one of some roles acts on a project. -/
def onlyCandidate (w : World) (settings : Settings) (projectId userId : Int)
    (names : List String) : Except Failure StoredResource :=
  if w.roleIds names = [] then
    .error (ServiceProblem.noSuchRole (.ofTexts names) (.int userId)).failure
  else if Text.writable userId then
    match w.candidates settings projectId userId names with
    | [r] => .ok r
    | found =>
        .error (ServiceProblem.ambiguousOrMissingUser (.int userId) (.int projectId)
          (.int found.length)).failure
  else .error Resource.notSearched

/-- The failure of a project that has no gating phase.  It was raised from the one of the gate,
unless the number of the project cannot be written out. -/
def notEligible (projectId : Int) (names : List String) : Failure :=
  if Text.writable projectId then
    .raisedFrom (.service (.projectNotEligible (.int projectId) (.ofTexts names)))
      (.service (.noMatchingPhase (.int projectId) (.ofTexts names)))
  else .foreign .tooManyDigits

/-- The gating phase of a project, which must be there and open. -/
def openGate (w : World) (projectId : Int) (names : List String) :
    Except Failure StoredPhase :=
  match w.gatingPhase? projectId names with
  | none => .error (notEligible projectId names)
  | some p =>
      if p.status = .opened then .ok p
      else .error (ServiceProblem.phaseNotOpen (.int p.id) (.ofText? p.type)).failure

/-- The first entry of a catalog with a name, which must be there. -/
def known (catalog : List StoredLookup) (name : String) (kind : Value) :
    Except Failure StoredLookup :=
  match named? catalog name with
  | none => .error (ServiceProblem.noSuchStatus (.text name) kind).failure
  | some l => .ok l

/-- Refuse a user whom a project does not name as its winner. -/
def demandWinner (settings : Settings) (p : StoredProject) (userId : Int) :
    Except Failure Unit :=
  if p.names settings.winner userId then .ok ()
  else .error (ServiceProblem.notWinner (.int userId) (.int p.id)).failure

variable {κ : Type} [UploadCatalog κ] {c : κ}

theorem outcome_loadProject (w : World) (id : Int) :
    (loadProject id).outcome Platform.answer (w.platformWith c) =
      ((w.knownProject id).map StoredProject.value, w.platformWith c) := by
  unfold loadProject knownProject
  rw [outcome_bind_ok (outcome_askGuarded_ok rfl (by rw [answer_project])), answer_project]
  cases w.project? id <;>
    simp [outcome_bind, Value.isNull, StoredProject.value, Project.value, Except.map]

/-- The directory of a world holds its roles and resources. -/
theorem holds_directory (w : World) :
    w.directory.Holds w.roles (w.resources.map StoredResource.record) where
  roles := rfl
  resources := by
    rw [List.map_map]
    exact Register.records_filed _ _ _

theorem authorised_record (w : World) (settings : Settings) (projectId userId : Int)
    (names : List String) :
    Resource.authorised (w.resources.map StoredResource.record) w.roles names projectId
        settings.externalReference userId =
      (w.onlyCandidate settings projectId userId names).map StoredResource.record := by
  have hfound : (w.resources.map StoredResource.record).filter
      (·.actsFor (w.roleIds names) projectId settings.externalReference userId) =
        (w.candidates settings projectId userId names).map StoredResource.record := by
    rw [List.filter_map]
    refine congrArg _ (List.filter_congr fun r _ => ?_)
    exact r.actsFor_record _ projectId _ userId
  have hids : StoredLookup.idsNamed w.roles names = w.roleIds names := rfl
  rw [Resource.authorised, onlyCandidate, hids, hfound]
  split
  · rfl
  split
  · rcases w.candidates settings projectId userId names with _ | ⟨r, _ | ⟨r', rest⟩⟩
    · rfl
    · rfl
    · simp [Except.map]
  · rfl

/-- A user is let into a world by the only candidate there. -/
theorem outcome_actingResource (w : World) (settings : Settings) (projectId userId : Int)
    (names : List String) :
    (actingResource settings (.int projectId) (.int userId) (.ofTexts names)).outcome
        Platform.answer (w.platformWith c) =
      ((w.onlyCandidate settings projectId userId names).map StoredResource.value,
        w.platformWith c) := by
  rw [Platform.outcome_authorised (p := w.platformWith c) w.holds_directory, authorised_record]
  cases w.onlyCandidate settings projectId userId names <;> rfl

theorem outcome_requireWinner (w : World) (settings : Settings) (p : StoredProject)
    (userId : Int) :
    (requireWinner settings p.value userId).outcome Platform.answer (w.platformWith c) =
      (demandWinner settings p userId, w.platformWith c) := by
  unfold requireWinner demandWinner
  rw [StoredProject.property_value, outcome_bind_ok (outcome_ofExcept_ok _ _ _),
    StoredProject.names]
  cases h : (p.record.property settings.winner).names userId <;> simp [h, outcome_bind]

theorem gating?_stored (names : List String) (phases : List StoredPhase) :
    gating? (.ofTexts names) (phases.map StoredPhase.value) =
      .ok ((phases.find? fun p => p.type.any names.contains).map StoredPhase.value) := by
  have h := gating?_map_value names (phases.map StoredPhase.record)
  have htype : (fun p : StoredPhase => p.type.any names.contains) =
      (fun p : Phase => !p.type.isNull && Value.contains (names.map .text) p.type) ∘
        StoredPhase.record := by
    funext p
    cases ht : p.type with
    | none => simp [StoredPhase.record, ht, Value.ofText?, Value.isNull]
    | some t => simp [StoredPhase.record, ht, Value.ofText?, Value.isNull, Value.contains_ofTexts]
  rw [List.map_map, List.find?_map, Option.map_map] at h
  rw [htype]
  exact h

theorem outcome_openPhase (w : World) (projectId : Int) (names : List String) :
    (openPhase (.int projectId) (.ofTexts names)).outcome Platform.answer (w.platformWith c) =
      (match w.gatingPhase? projectId names with
        | none => .error (ServiceProblem.noMatchingPhase (.int projectId) (.ofTexts names)).failure
        | some p =>
            if p.status = .opened then .ok p.value
            else .error (ServiceProblem.phaseNotOpen (.int p.id) (.ofText? p.type)).failure,
        w.platformWith c) := by
  unfold openPhase
  rw [outcome_bind_ok (outcome_askGuarded_ok rfl (by rw [answer_phases])), answer_phases,
    Value.members_list, outcome_bind_ok (outcome_ofExcept_ok _ _ _), gating?_stored,
    outcome_bind_ok (outcome_ofExcept_ok _ _ _), ← gatingPhase?]
  cases w.gatingPhase? projectId names with
  | none =>
      simp only [Option.map_none, Value.members_ofTexts]
      rw [outcome_bind_ok (outcome_ofExcept_ok _ _ _), outcome_bind_ok (outcome_note _ _ _ _ _)]
      rfl
  | some p =>
      have hshown : (Value.phaseStatus p.status).read "value" = .ok (.text p.status.text) := rfl
      simp only [Option.map_some, StoredPhase.read_isOpen]
      rw [outcome_bind_ok (outcome_ofExcept_ok _ _ _)]
      by_cases h : p.status = .opened
      · simp [h, Value.truthy]
      · simp [h, Value.truthy, outcome_bind, hshown]

theorem outcome_eligiblePhase (w : World) (projectId : Int) (rule : Rule) :
    (eligiblePhase projectId rule).outcome Platform.answer (w.platformWith c) =
      ((w.openGate projectId rule.phaseNames).map StoredPhase.value, w.platformWith c) := by
  unfold eligiblePhase openGate
  rw [outcome_recover, outcome_openPhase]
  cases w.gatingPhase? projectId rule.phaseNames with
  | none =>
      simp only [ServiceProblem.failure_noMatchingPhase, notEligible]
      by_cases hproject : Text.writable projectId
      · simp only [if_pos hproject]
        show (Program.fail (ServiceProblem.failureFrom _ _)).outcome _ _ = _
        rw [ServiceProblem.failureFrom_projectNotEligible hproject]
        rfl
      · simp only [if_neg hproject]
        rfl
  | some p =>
      by_cases hopen : p.status = .opened
      · simp [hopen, Except.map]
      · -- a gate that is shut is no missing one, whatever its failure has become
        simp only [if_neg hopen]
        split
        next hmissing => cases ServiceProblem.eq_of_problem_failure hmissing
        next => rfl

/-- Looking for an entry by its name, which must be there. -/
theorem require_stored (catalog : List StoredLookup) (name : String) (kind : Value) :
    Lookup.require (.list (catalog.map StoredLookup.value)) (.text name) kind =
      (known catalog name kind).map StoredLookup.value := by
  have h := Lookup.named?_map_value (catalog.map StoredLookup.record) (.text name)
  have hname : (fun l : Lookup => l.name.equals (.text name)) ∘ StoredLookup.record =
      fun l => l.name == name := by
    funext l
    simp [StoredLookup.record]
  rw [List.map_map, List.find?_map, hname, Option.map_map] at h
  unfold Lookup.require
  rw [show catalog.map StoredLookup.value = catalog.map (Lookup.value ∘ StoredLookup.record)
    from rfl, h, known, named?]
  cases catalog.find? (·.name == name) <;> rfl

end World

end ContestUploads
