import ContestUploads.Proofs.Taking

/-!
# The states that the stores can be brought to

The stores start out with their lookups and nothing else, whatever the clock says.  From there on
records are put in from outside, and the calls that write create and change records.  `Reached` is
what comes of this, in any order and by whomever: of the arguments nothing is asked but that records
have fields of their declared types.  What a desk does is made up of such calls, so it leads from
reached states to reached states (`Reached.upload`, `Reached.setSubmissionStatus`).

`Reached.coherent` is the invariant: no number is used twice within a store, and the counters stay
ahead.
-/

namespace ContestUploads

open World

/-- A state that the stores can be brought to. -/
inductive Reached : Platform Memory.Catalog → Prop
  | opened (roles uploadStatuses uploadTypes submissionStatuses : List StoredLookup)
      (clock : Clock) :
      Reached (platform { roles, uploadStatuses, uploadTypes, submissionStatuses, clock })
  | addProject {p q : Platform Memory.Catalog} (h : Reached p) (x : StoredProject)
      (hx : p.addProject x.value = .ok q) : Reached q
  | addPhase {p q : Platform Memory.Catalog} (h : Reached p) (x : StoredPhase)
      (hx : p.addPhase x.value = .ok q) : Reached q
  | addResource {p q : Platform Memory.Catalog} (h : Reached p) (x : StoredResource)
      (hx : p.addResource x.value = .ok q) : Reached q
  | addSubmission {p : Platform Memory.Catalog} {stored : Value} {c : Memory.Catalog}
      (h : Reached p) (x : StoredSubmission)
      (hx : p.catalog.addSubmission x.value = .ok (stored, c)) : Reached { p with catalog := c }
  | addUnnumbered {p : Platform Memory.Catalog} {stored : Value} {c : Memory.Catalog}
      (h : Reached p) (x : StoredSubmission)
      (hx : p.catalog.addSubmission { x.record with id := .null }.value = .ok (stored, c)) :
      Reached { p with catalog := c }
  | createUpload {p : Platform Memory.Catalog} (h : Reached p) (x : StoredUpload) (id : Value)
      (operator : String) :
      Reached (Platform.answer
        (.catalog (.createUpload { x.record with id }.value (.text operator))) p).state
  | createSubmission {p : Platform Memory.Catalog} (h : Reached p) (x : StoredSubmission)
      (id : Value) (operator : String) :
      Reached (Platform.answer
        (.catalog (.createSubmission { x.record with id }.value (.text operator))) p).state
  | updateSubmission {p : Platform Memory.Catalog} (h : Reached p) (x : StoredSubmission)
      (operator : String) :
      Reached (Platform.answer (.catalog (.updateSubmission x.value (.text operator))) p).state
  | updateResource {p : Platform Memory.Catalog} (h : Reached p) (x : StoredResource)
      (operator : String) :
      Reached (Platform.answer (.updateResource x.value (.text operator)) p).state
  | initiateScreening {p : Platform Memory.Catalog} (h : Reached p) (n : Int)
      (operator : String) :
      Reached (Platform.answer (.initiateScreening (.int n) (.text operator)) p).state

namespace World

/-- The world with a project put in, under a number in use or not. -/
def withProject (w : World) (x : StoredProject) : World :=
  { w with projects := Register.filedIn StoredProject.id w.projects x }

/-- The world with a phase put in after those of its project. -/
def withPhase (w : World) (x : StoredPhase) : World :=
  { w with
    phases := Register.filedIn Prod.fst w.phases
      (x.projectId, w.phasesOf x.projectId ++ [x]) }

/-- The world with a resource put in, under a number in use or not. -/
def withResource (w : World) (x : StoredResource) : World :=
  { w with resources := Register.filedIn StoredResource.id w.resources x }

/-- The world with a submission put in, under a number in use or not. -/
def withSubmission (w : World) (x : StoredSubmission) : World :=
  { w with submissions := Register.filedIn StoredSubmission.id w.submissions x }

/-- The world with a submission put in that has no number.  It gets the next one, in use or not. -/
def withUnnumbered (w : World) (x : StoredSubmission) : World :=
  { w with
    submissions := Register.filedIn StoredSubmission.id w.submissions
      { x with id := w.nextSubmission }
    nextSubmission := w.nextSubmission + 1 }

variable {w : World}

theorem addProject_platform (h : w.Coherent) (x : StoredProject) :
    w.platform.addProject x.value = .ok (w.withProject x).platform := by
  have hput := Register.put_filed StoredProject.id StoredProject.value h.projects x
  have hstore : w.platform.projects.store (.int x.id) x.value =
      .ok (.filed StoredProject.id StoredProject.value (w.withProject x).projects) := by
    rw [withProject, Register.store, ← hput]
    simp [platform, platformWith, Bind.bind, Except.bind, Pure.pure, Except.pure]
  simp only [Platform.addProject, StoredProject.read_id, Bind.bind, Except.bind, hstore]
  rfl

theorem addPhase_platform (h : w.Coherent) (x : StoredPhase) :
    w.platform.addPhase x.value = .ok (w.withPhase x).platform := by
  have hput := Register.put_filed Prod.fst (fun e => e.2.map StoredPhase.value) h.phases
    (x.projectId, w.phasesOf x.projectId ++ [x])
  have hstore : Register.store w.board (.int x.projectId)
      (w.board.phasesOf (.int x.projectId) ++ [x.value]) = .ok (w.withPhase x).board := by
    rw [phasesOf_board, board, board, withPhase, ← hput]
    simp [Register.store, Bind.bind, Except.bind, Pure.pure, Except.pure]
  have hadd : w.platform.phases.add x.value = .ok (w.withPhase x).board := hstore
  simp only [Platform.addPhase, hadd, Bind.bind, Except.bind]
  rfl

theorem addResource_platform (h : w.Coherent) (x : StoredResource) :
    w.platform.addResource x.value = .ok (w.withResource x).platform := by
  have hput := Register.put_filed StoredResource.id StoredResource.value h.resources x
  have hadd : w.platform.directory.add x.value = .ok (w.withResource x).directory := by
    rw [Memory.Directory.add, StoredResource.read_id, directory, withResource, ← hput]
    simp [platform, platformWith, directory, Register.store, Bind.bind, Except.bind, Pure.pure,
      Except.pure]
  simp only [Platform.addResource, hadd, Bind.bind, Except.bind]
  rfl

theorem addSubmission_catalog (h : w.Coherent) (x : StoredSubmission) :
    w.platform.catalog.addSubmission x.value = .ok (x.value, (w.withSubmission x).catalog) := by
  have hput := Register.put_filed StoredSubmission.id StoredSubmission.value h.submissions x
  simp only [catalog, withSubmission, ← hput]
  rfl

theorem addUnnumbered_catalog (h : w.Coherent) (x : StoredSubmission) :
    w.platform.catalog.addSubmission { x.record with id := .null }.value =
      .ok ({ x with id := w.nextSubmission }.value, (w.withUnnumbered x).catalog) := by
  have hput := Register.put_filed StoredSubmission.id StoredSubmission.value h.submissions
    { x with id := w.nextSubmission }
  simp only [catalog, withUnnumbered, ← hput]
  rfl

namespace Coherent

theorem withProject (h : w.Coherent) (x : StoredProject) : (w.withProject x).Coherent :=
  { h with projects := Register.nodup_filedIn _ h.projects x }

theorem withPhase (h : w.Coherent) (x : StoredPhase) : (w.withPhase x).Coherent :=
  { h with phases := Register.nodup_filedIn _ h.phases _ }

theorem withResource (h : w.Coherent) (x : StoredResource) : (w.withResource x).Coherent :=
  { h with resources := Register.nodup_filedIn _ h.resources x }

theorem withSubmission (h : w.Coherent) (x : StoredSubmission) :
    (w.withSubmission x).Coherent :=
  { h with submissions := Register.nodup_filedIn _ h.submissions x }

theorem withUnnumbered (h : w.Coherent) (x : StoredSubmission) :
    (w.withUnnumbered x).Coherent :=
  { h with
    submissions := Register.nodup_filedIn _ h.submissions _
    nextSubmission := by
      have hnext := h.nextSubmission
      show 0 ≤ w.nextSubmission + 1
      omega }

end Coherent

theorem coherent_opened (roles uploadStatuses uploadTypes submissionStatuses :
    List StoredLookup) (clock : Clock) :
    Coherent { roles, uploadStatuses, uploadTypes, submissionStatuses, clock } := by
  constructor <;> simp

/-- Every reached state is that of a coherent world. -/
theorem exists_of_reached {p : Platform Memory.Catalog} (h : Reached p) :
    ∃ w : World, w.Coherent ∧ p = w.platform := by
  induction h with
  | opened roles uploadStatuses uploadTypes submissionStatuses clock =>
      exact ⟨_, coherent_opened roles uploadStatuses uploadTypes submissionStatuses clock, rfl⟩
  | addProject _ x hx ih =>
      obtain ⟨w, hw, rfl⟩ := ih
      obtain rfl := Except.ok.inj ((addProject_platform hw x).symm.trans hx)
      exact ⟨_, hw.withProject x, rfl⟩
  | addPhase _ x hx ih =>
      obtain ⟨w, hw, rfl⟩ := ih
      obtain rfl := Except.ok.inj ((addPhase_platform hw x).symm.trans hx)
      exact ⟨_, hw.withPhase x, rfl⟩
  | addResource _ x hx ih =>
      obtain ⟨w, hw, rfl⟩ := ih
      obtain rfl := Except.ok.inj ((addResource_platform hw x).symm.trans hx)
      exact ⟨_, hw.withResource x, rfl⟩
  | addSubmission _ x hx ih =>
      obtain ⟨w, hw, rfl⟩ := ih
      obtain ⟨-, rfl⟩ := Prod.mk.inj (Except.ok.inj ((addSubmission_catalog hw x).symm.trans hx))
      exact ⟨_, hw.withSubmission x, rfl⟩
  | addUnnumbered _ x hx ih =>
      obtain ⟨w, hw, rfl⟩ := ih
      obtain ⟨-, rfl⟩ := Prod.mk.inj (Except.ok.inj ((addUnnumbered_catalog hw x).symm.trans hx))
      exact ⟨_, hw.withUnnumbered x, rfl⟩
  | createUpload _ x id operator ih =>
      obtain ⟨w, hw, rfl⟩ := ih
      exact ⟨_, hw.addUpload x operator, by rw [answer_createUpload hw x id operator]⟩
  | createSubmission _ x id operator ih =>
      obtain ⟨w, hw, rfl⟩ := ih
      exact ⟨_, hw.addSubmission x operator, by rw [answer_createSubmission w x id operator]⟩
  | updateSubmission _ x operator ih =>
      obtain ⟨w, hw, rfl⟩ := ih
      by_cases hx : x.id ∈ w.submissions.map StoredSubmission.id
      · exact ⟨_, hw.putSubmission x operator, by rw [answer_updateSubmission hw hx operator]⟩
      · exact ⟨w, hw, by rw [answer_updateSubmission_of_notMem hx operator]⟩
  | updateResource _ x operator ih =>
      obtain ⟨w, hw, rfl⟩ := ih
      by_cases hx : x.id ∈ w.resources.map StoredResource.id
      · exact ⟨_, hw.putResource x operator,
          congrArg Answer.state (answer_updateResource w.catalog hw hx operator)⟩
      · exact ⟨w, hw, congrArg Answer.state (answer_updateResource_of_notMem w.catalog hx operator)⟩
  | initiateScreening _ n operator ih =>
      obtain ⟨w, hw, rfl⟩ := ih
      have hanswer := answer_initiateScreening w.catalog w n operator
      by_cases hn : w.screens n
      · rw [if_pos hn] at hanswer
        exact ⟨w, hw, congrArg Answer.state hanswer⟩
      · rw [if_neg hn] at hanswer
        exact ⟨_, hw.screen n operator, congrArg Answer.state hanswer⟩

/-- Whether a world is coherent shows in the state that it stands for. -/
theorem Coherent.of_platform_eq {u : World} (h : w.Coherent) (heq : w.platform = u.platform) :
    u.Coherent := by
  have hprojects := congrArg (fun p => p.projects.numbers) heq
  have hphases := congrArg (fun p => Register.numbers p.phases) heq
  have hresources := congrArg (fun p => p.directory.resources.numbers) heq
  have hsubmissions := congrArg (fun p => p.catalog.submissions.numbers) heq
  have huploads := congrArg (fun p => p.catalog.uploads.numbers) heq
  have hnextUpload : w.nextUpload = u.nextUpload :=
    congrArg (fun p => p.catalog.nextUpload) heq
  have hnextSubmission : w.nextSubmission = u.nextSubmission :=
    congrArg (fun p => p.catalog.nextSubmission) heq
  simp only [platform, platformWith, directory, catalog, board, Register.numbers_filed]
    at hprojects hphases hresources hsubmissions huploads
  refine ⟨hprojects ▸ h.projects, hphases ▸ h.phases, hresources ▸ h.resources,
    hsubmissions ▸ h.submissions, ?_, hnextSubmission ▸ h.nextSubmission⟩
  intro x hx
  have hmem : x.id ∈ w.uploads.map StoredUpload.id := by
    rw [huploads]
    exact List.mem_map.2 ⟨x, hx, rfl⟩
  obtain ⟨y, hy, hid⟩ := List.mem_map.1 hmem
  have hbelow := h.uploads y hy
  omega

end World

namespace Reached

variable {w : World} (settings : Settings)

/-- **The invariant of the stores.**  A world whose state can be reached is coherent. -/
theorem coherent (h : Reached w.platform) : w.Coherent := by
  obtain ⟨u, hu, heq⟩ := exists_of_reached h
  exact hu.of_platform_eq heq.symm

/-- A submission may be put in at any time. -/
theorem withSubmission (h : Reached w.platform) (x : StoredSubmission) :
    Reached (w.withSubmission x).platform :=
  h.addSubmission x (addSubmission_catalog h.coherent x)

/-- Every write leads from reached states to reached states. -/
theorem kept : Kept fun u => Reached u.platform where
  addUpload u draft operator h := by
    have hnext := h.createUpload draft .null operator
    rwa [answer_createUpload h.coherent draft .null operator] at hnext
  addSubmission u draft operator h := by
    have hnext := h.createSubmission draft .null operator
    rwa [answer_createSubmission u draft .null operator] at hnext
  putSubmission u s operator hs h := by
    have hnext := h.updateSubmission s operator
    rwa [answer_updateSubmission h.coherent hs.id_mem operator] at hnext
  putResource u r operator hr h := by
    have hnext := h.updateResource r operator
    rwa [platform, answer_updateResource u.catalog h.coherent hr operator] at hnext
  screen u n operator hn h := by
    have hnext := h.initiateScreening n operator
    rwa [platform, answer_initiateScreening, if_neg (by simp [hn])] at hnext

/-- An upload leads from reached states to reached states, whether it succeeds or not. -/
theorem upload {p : Platform Memory.Catalog} (h : Reached p)
    (category projectId userId filename : Value) :
    Reached ((Desk.upload settings category projectId userId filename).outcome
      Platform.answer p).2 := by
  obtain ⟨w, hw, rfl⟩ := exists_of_reached h
  rw [outcome_upload settings hw]
  exact kept.upload settings h category projectId userId filename

/-- A change of status leads from reached states to reached states, whether it succeeds or not. -/
theorem setSubmissionStatus {p : Platform Memory.Catalog} (h : Reached p)
    (submissionId statusId operator : Value) :
    Reached ((Desk.setSubmissionStatus settings submissionId statusId operator).outcome
      Platform.answer p).2 := by
  obtain ⟨w, hw, rfl⟩ := exists_of_reached h
  rw [outcome_setSubmissionStatus settings hw]
  exact kept.changeStatus settings h submissionId statusId operator

end Reached

namespace World

/-- A fresh world with one project that is open for submissions of user 10, who has one resource;
the resource was put in with some numbers listed. -/
def openContest (listed : List Int) : World :=
  ((World.withProject
      { roles := StoredLookup.catalog Defaults.resourceRoles
        uploadStatuses := StoredLookup.catalog Defaults.uploadStatuses
        uploadTypes := StoredLookup.catalog Defaults.uploadTypes
        submissionStatuses := StoredLookup.catalog Defaults.submissionStatuses }
      { id := 1 }).withPhase
    { id := 1, projectId := 1, type := some "Submission", status := .opened }).withResource
    { id := 1
      projectId := 1
      roleId := 1
      extensionProperties := [("External Reference ID", "10")]
      submissions := listed }

/-- The same contest where the statuses have other names. -/
def contestWith (uploadStatuses submissionStatuses : List String) (listed : List Int) : World :=
  { openContest listed with
    uploadStatuses := StoredLookup.catalog uploadStatuses
    submissionStatuses := StoredLookup.catalog submissionStatuses }

theorem reached_contestWith (uploadStatuses submissionStatuses : List String)
    (listed : List Int) :
    Reached (contestWith uploadStatuses submissionStatuses listed).platform := by
  have hopened := coherent_opened (StoredLookup.catalog Defaults.resourceRoles)
    (StoredLookup.catalog uploadStatuses) (StoredLookup.catalog Defaults.uploadTypes)
    (StoredLookup.catalog submissionStatuses) {}
  have hproject := hopened.withProject { id := 1 }
  have hphase := hproject.withPhase
    { id := 1, projectId := 1, type := some "Submission", status := .opened }
  exact (((Reached.opened _ _ _ _ _).addProject _ (addProject_platform hopened _)).addPhase _
    (addPhase_platform hproject _)).addResource _ (addResource_platform hphase _)

theorem reached_openContest (listed : List Int) : Reached (openContest listed).platform :=
  reached_contestWith Defaults.uploadStatuses Defaults.submissionStatuses listed

end World

end ContestUploads
