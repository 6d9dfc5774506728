import ContestUploads.Proofs.Questions

/-!
# Writing to the stores of a world

Creating appends a record under a new number; updating replaces the record that has the number, in
place.  Each of the two takes one stamp of the clock and makes one entry of an audit, and a request
for screening does neither.  Nothing else of a world changes: that is what the definitions below
say, and each `answer_` lemma says that the store does just this.

`Coherent` is what makes these answers plain: with numbers that are distinct and counters that are
ahead, storing a record never lands on another one.
-/

namespace ContestUploads

namespace Memory.Catalog

/-- Creating an upload stores it under the next number, stamped. -/
theorem answer_createUpload (c : Catalog) (clock : Clock) (u : Upload) (operator : Value) :
    answer (.createUpload u.value operator) (c, clock) =
      let stored : Upload :=
        { u with
          id := .int c.nextUpload
          createdBy := operator
          modifiedBy := operator
          createdAt := .moment clock.tick.1
          modifiedAt := .moment clock.tick.1 }
      ⟨.ok stored.value,
        ({ c with
            uploads := c.uploads.put (.int c.nextUpload) stored.value
            audit := c.audit ++ [⟨Method.createUpload.name, .int c.nextUpload, operator⟩]
            nextUpload := c.nextUpload + 1 }, clock.tick.2), []⟩ := rfl

/-- Creating a submission stores it under the first number that is free, stamped. -/
theorem answer_createSubmission (c : Catalog) (clock : Clock) (s : Submission)
    (operator : Value) :
    answer (.createSubmission s.value operator) (c, clock) =
      let free := Register.firstFree c.submissions.numbers c.nextSubmission
      let stored : Submission :=
        { s with
          id := .int free
          createdBy := operator
          modifiedBy := operator
          createdAt := .moment clock.tick.1
          modifiedAt := .moment clock.tick.1 }
      ⟨.ok stored.value,
        ({ c with
            submissions := c.submissions.put (.int free) stored.value
            audit := c.audit ++ [⟨Method.createSubmission.name, .int free, operator⟩]
            nextSubmission := free + 1 }, clock.tick.2), []⟩ := rfl

/-- Updating a submission whose number is in use stores it over the one that has it, stamped. -/
theorem answer_updateSubmission {c : Catalog} {n : Int} {s : Submission} (hid : s.id = .int n)
    (hused : c.submissions.uses (.int n)) (clock : Clock) (operator : Value) :
    answer (.updateSubmission s.value operator) (c, clock) =
      let stored : Submission :=
        { s with modifiedBy := operator, modifiedAt := .moment clock.tick.1 }
      ⟨.ok stored.value,
        ({ c with
            submissions := c.submissions.put (.int n) stored.value
            audit := c.audit ++ [⟨Method.updateSubmission.name, .int n, operator⟩] },
          clock.tick.2), []⟩ := by
  have hstored : c.storedId s.value = .ok (.int n) := by
    simp [storedId, hid, hused, Bind.bind, Except.bind, Pure.pure, Except.pure]
  simp only [answer, hstored]
  rfl

end Memory.Catalog

namespace StoredUpload

/-- The upload as it is stored at a moment under a number. -/
def created (u : StoredUpload) (id : Int) (operator : String) (now : Moment) : StoredUpload :=
  { u with
    id
    createdBy := some operator
    createdAt := some now
    modifiedBy := some operator
    modifiedAt := some now }

end StoredUpload

namespace StoredSubmission

/-- The submission as it is stored at a moment under a number. -/
def created (s : StoredSubmission) (id : Int) (operator : String) (now : Moment) :
    StoredSubmission :=
  { s with
    id
    createdBy := some operator
    createdAt := some now
    modifiedBy := some operator
    modifiedAt := some now }

/-- The submission as it is stored again at a moment. -/
def stamped (s : StoredSubmission) (operator : String) (now : Moment) : StoredSubmission :=
  { s with modifiedBy := some operator, modifiedAt := some now }

end StoredSubmission

namespace StoredResource

/-- The resource with a submission linked, once. -/
def link (r : StoredResource) (n : Int) : StoredResource :=
  if n ∈ r.submissions then r else { r with submissions := r.submissions ++ [n] }

/-- The resource as it is stored again at a moment. -/
def stamped (r : StoredResource) (operator : String) (now : Moment) : StoredResource :=
  { r with modifiedBy := some operator, modifiedAt := some now }

@[simp] theorem link_id (r : StoredResource) (n : Int) : (r.link n).id = r.id := by
  unfold link
  split <;> rfl

/-- The resource as it is stored again with a submission linked. -/
theorem stamped_link (r : StoredResource) (n : Int) (operator : String) (now : Moment) :
    (r.link n).stamped operator now =
      { r with
        submissions := if n ∈ r.submissions then r.submissions else r.submissions ++ [n]
        modifiedBy := some operator
        modifiedAt := some now } := by
  unfold link
  split <;> rfl

theorem link_value (r : StoredResource) (n : Int) :
    r.value.carryOut "add_submission" [.int n] = .ok (.null, (r.link n).value) := by
  have hlisted : Value.contains r.record.submissions (.int n) = r.submissions.contains n :=
    Value.contains_ofInts r.submissions n
  have hlink : r.record.link (.int n) = (r.link n).record := by
    unfold Resource.link link
    rw [hlisted]
    by_cases h : n ∈ r.submissions <;> simp [h, record]
  exact (Resource.link_value r.record (.int n)).trans (by rw [hlink]; rfl)

end StoredResource

namespace World

/-- The stamp that the next write takes. -/
def now (w : World) : Moment :=
  w.clock.tick.1

theorem offset_now (w : World) : w.now.offset = some 0 :=
  w.clock.offset_stamp _

/-- The world with one more upload. -/
def addUpload (w : World) (draft : StoredUpload) (operator : String) : World :=
  { w with
    uploads := w.uploads ++ [draft.created w.nextUpload operator w.now]
    catalogAudit := w.catalogAudit ++
      [⟨Method.createUpload.name, .int w.nextUpload, .text operator⟩]
    nextUpload := w.nextUpload + 1
    clock := w.clock.tick.2 }

/-- The number that the next new submission gets. -/
def freeSubmission (w : World) : Int :=
  Register.firstFree (w.submissions.map StoredSubmission.id) w.nextSubmission

/-- The world with one more submission. -/
def addSubmission (w : World) (draft : StoredSubmission) (operator : String) : World :=
  { w with
    submissions := w.submissions ++ [draft.created w.freeSubmission operator w.now]
    catalogAudit := w.catalogAudit ++
      [⟨Method.createSubmission.name, .int w.freeSubmission, .text operator⟩]
    nextSubmission := w.freeSubmission + 1
    clock := w.clock.tick.2 }

/-- The world with a submission stored over the one with its number. -/
def putSubmission (w : World) (s : StoredSubmission) (operator : String) : World :=
  { w with
    submissions := w.submissions.map fun x =>
      if x.id = s.id then s.stamped operator w.now else x
    catalogAudit := w.catalogAudit ++
      [⟨Method.updateSubmission.name, .int s.id, .text operator⟩]
    clock := w.clock.tick.2 }

/-- The world with a resource stored over the one with its number. -/
def putResource (w : World) (r : StoredResource) (operator : String) : World :=
  { w with
    resources := w.resources.map fun x => if x.id = r.id then r.stamped operator w.now else x
    directoryAudit := w.directoryAudit ++
      [⟨Method.updateResource.name, .int r.id, .text operator⟩]
    clock := w.clock.tick.2 }

/-- Whether the screening of a submission was asked for. -/
def screens (w : World) (n : Int) : Bool :=
  w.screening.any (·.1 == n)

/-- The world with the screening of one more submission asked for. -/
def screen (w : World) (n : Int) (operator : String) : World :=
  { w with screening := w.screening ++ [(n, operator)] }

/-- The number of a new submission was in no use. -/
theorem freeSubmission_notMem (w : World) :
    w.freeSubmission ∉ w.submissions.map StoredSubmission.id :=
  Register.firstFree_notMem _ _

variable {w : World}

theorem answer_createUpload (h : w.Coherent) (draft : StoredUpload) (id : Value)
    (operator : String) :
    Platform.answer
        (.catalog (.createUpload { draft.record with id }.value (.text operator))) w.platform =
      ⟨.ok (draft.created w.nextUpload operator w.now).value,
        (w.addUpload draft operator).platform, []⟩ := by
  have hnew : w.nextUpload ∉ w.uploads.map StoredUpload.id := by
    intro hmem
    obtain ⟨u, hu, hid⟩ := List.mem_map.1 hmem
    have hbelow := h.uploads u hu
    omega
  have hput := Register.put_filed_of_notMem StoredUpload.id StoredUpload.value
    (x := draft.created w.nextUpload operator w.now) rfl hnew
  simp only [Platform.answer, UploadCatalog.answer, Memory.Catalog.answer_createUpload]
  simp only [platform, platformWith, catalog, addUpload, ← hput]
  rfl

theorem answer_createSubmission (w : World) (draft : StoredSubmission) (id : Value)
    (operator : String) :
    Platform.answer
        (.catalog (.createSubmission { draft.record with id }.value (.text operator)))
        w.platform =
      ⟨.ok (draft.created w.freeSubmission operator w.now).value,
        (w.addSubmission draft operator).platform, []⟩ := by
  have hfree : Register.firstFree w.catalog.submissions.numbers w.nextSubmission =
      w.freeSubmission := by
    rw [catalog, Register.numbers_filed, freeSubmission]
  have hput := Register.put_filed_of_notMem StoredSubmission.id StoredSubmission.value
    (x := draft.created w.freeSubmission operator w.now) rfl w.freeSubmission_notMem
  simp only [Platform.answer, UploadCatalog.answer, Memory.Catalog.answer_createSubmission]
  simp only [platform, platformWith, catalog, addSubmission, ← hput]
  simp only [catalog] at hfree
  rw [hfree]
  rfl

/-- A submission that is stored is stored over. -/
theorem answer_updateSubmission (h : w.Coherent) {s : StoredSubmission}
    (hstored : s.id ∈ w.submissions.map StoredSubmission.id) (operator : String) :
    Platform.answer (.catalog (.updateSubmission s.value (.text operator))) w.platform =
      ⟨.ok (s.stamped operator w.now).value, (w.putSubmission s operator).platform, []⟩ := by
  have hused : w.catalog.submissions.uses (.int s.id) = true := by
    rw [catalog, Register.uses_filed]
    exact decide_eq_true hstored
  have hput := Register.put_filed_of_mem StoredSubmission.id StoredSubmission.value
    (x := s.stamped operator w.now) (n := s.id) rfl h.submissions hstored
  have hanswer := Memory.Catalog.answer_updateSubmission (s := s.record) rfl hused w.clock
    (.text operator)
  simp only [Platform.answer, UploadCatalog.answer]
  rw [show (w.platform.catalog, w.platform.clock) = (w.catalog, w.clock) from rfl,
    show s.value = s.record.value from rfl, hanswer]
  simp only [platform, platformWith, catalog, putSubmission, ← hput]
  rfl

/-- A submission that is not stored is refused. -/
theorem answer_updateSubmission_of_notMem {s : StoredSubmission}
    (hnew : s.id ∉ w.submissions.map StoredSubmission.id) (operator : String) :
    Platform.answer (.catalog (.updateSubmission s.value (.text operator))) w.platform =
      ⟨.error (Memory.Catalog.unknown (.int s.id)), w.platform, []⟩ := by
  have hused : w.catalog.submissions.uses (.int s.id) = false := by
    rw [catalog, Register.uses_filed]
    exact decide_eq_false hnew
  have hid : w.catalog.storedId s.value = .error (Memory.Catalog.unknown (.int s.id)) := by
    simp [Memory.Catalog.storedId, hused, Bind.bind, Except.bind]
  simp only [Platform.answer, UploadCatalog.answer]
  rw [show (w.platform.catalog, w.platform.clock) = (w.catalog, w.clock) from rfl,
    Memory.Catalog.answer, hid]
  rfl

section AnyCatalog

variable {κ : Type} [UploadCatalog κ] (c : κ)

/-- A resource that is stored is stored over, stamped. -/
theorem answer_updateResource (h : w.Coherent) {r : StoredResource}
    (hstored : r.id ∈ w.resources.map StoredResource.id) (operator : String) :
    Platform.answer (.updateResource r.value (.text operator)) (w.platformWith c) =
      ⟨.ok .null, (w.putResource r operator).platformWith c, []⟩ := by
  have hused : w.directory.resources.uses (.int r.id) = true := by
    rw [directory, Register.uses_filed]
    exact decide_eq_true hstored
  have hid : w.directory.storedId r.value = .ok (.int r.id) := by
    simp [Memory.Directory.storedId, hused, Bind.bind, Except.bind, Pure.pure, Except.pure]
  have hput := Register.put_filed_of_mem StoredResource.id StoredResource.value
    (x := r.stamped operator w.now) (n := r.id) rfl h.resources hstored
  show (w.platformWith c).updateResource r.value (.text operator) = _
  rw [Platform.updateResource, show (w.platformWith c).directory = w.directory from rfl, hid]
  simp only [platformWith, putResource, directory, ← hput]
  rfl

/-- A resource that is not stored is refused. -/
theorem answer_updateResource_of_notMem {r : StoredResource}
    (hnew : r.id ∉ w.resources.map StoredResource.id) (operator : String) :
    Platform.answer (.updateResource r.value (.text operator)) (w.platformWith c) =
      ⟨.error (Memory.Directory.unknown (.int r.id)), w.platformWith c, []⟩ := by
  have hused : w.directory.resources.uses (.int r.id) = false := by
    rw [directory, Register.uses_filed]
    exact decide_eq_false hnew
  have hid : w.directory.storedId r.value = .error (Memory.Directory.unknown (.int r.id)) := by
    simp [Memory.Directory.storedId, hused, Bind.bind, Except.bind]
  show (w.platformWith c).updateResource r.value (.text operator) = _
  rw [Platform.updateResource, show (w.platformWith c).directory = w.directory from rfl, hid]

theorem answer_initiateScreening (w : World) (n : Int) (operator : String) :
    Platform.answer (.initiateScreening (.int n) (.text operator)) (w.platformWith c) =
      if w.screens n then
        ⟨.error (StoreProblem.screeningTaskExists (.int n)).failure, w.platformWith c, []⟩
      else
        { reply := .ok .null
          state := (w.screen n operator).platformWith c
          logged :=
            [{ level := .debug
               event := .text "screening_task_queued"
               fields := [("submission_id", .int n), ("operator", .text operator)] }] } := by
  have hqueued : ((w.platformWith c).screening.any fun r => r.submission.equals (.int n)) =
      w.screens n := by
    simp [platformWith, screens, List.any_map, Function.comp_def]
  show (w.platformWith c).initiateScreening (.int n) (.text operator) = _
  rw [Platform.initiateScreening, hqueued]
  by_cases h : w.screens n
  · simp only [h, if_true]
  · rw [if_neg h, if_neg h]
    simp only [platformWith, screen, List.map_append]
    rfl

end AnyCatalog

namespace Coherent

theorem addUpload (h : w.Coherent) (draft : StoredUpload) (operator : String) :
    (w.addUpload draft operator).Coherent where
  projects := h.projects
  phases := h.phases
  resources := h.resources
  submissions := h.submissions
  uploads := by
    intro u hu
    show u.id < w.nextUpload + 1
    rcases List.mem_append.1 hu with hold | hnew
    · have hbelow := h.uploads u hold
      omega
    · obtain rfl := List.mem_singleton.1 hnew
      exact Int.lt_succ w.nextUpload
  nextSubmission := h.nextSubmission

/-- The first free number is not before the counter. -/
theorem freeSubmission_nonneg (h : w.Coherent) : 0 ≤ w.freeSubmission :=
  Int.le_trans h.nextSubmission (Register.le_firstFree _ _)

theorem addSubmission (h : w.Coherent) (draft : StoredSubmission) (operator : String) :
    (w.addSubmission draft operator).Coherent where
  projects := h.projects
  phases := h.phases
  resources := h.resources
  submissions := by
    have hnew := w.freeSubmission_notMem
    simp only [World.addSubmission, List.map_append, List.nodup_append]
    refine ⟨h.submissions, by simp, ?_⟩
    rintro n hn m hm rfl
    obtain rfl := List.mem_singleton.1 hm
    exact hnew hn
  uploads := h.uploads
  nextSubmission := by
    have hfree := h.freeSubmission_nonneg
    show 0 ≤ w.freeSubmission + 1
    omega

theorem putSubmission (h : w.Coherent) (s : StoredSubmission) (operator : String) :
    (w.putSubmission s operator).Coherent where
  projects := h.projects
  phases := h.phases
  resources := h.resources
  submissions := by
    have hids := Register.map_number_replace StoredSubmission.id w.submissions
      (x := s.stamped operator w.now) (n := s.id) rfl
    simpa only [World.putSubmission, hids] using h.submissions
  uploads := h.uploads
  nextSubmission := h.nextSubmission

theorem putResource (h : w.Coherent) (r : StoredResource) (operator : String) :
    (w.putResource r operator).Coherent where
  projects := h.projects
  phases := h.phases
  resources := by
    have hids := Register.map_number_replace StoredResource.id w.resources
      (x := r.stamped operator w.now) (n := r.id) rfl
    simpa only [World.putResource, hids] using h.resources
  submissions := h.submissions
  uploads := h.uploads
  nextSubmission := h.nextSubmission

theorem screen (h : w.Coherent) (n : Int) (operator : String) : (w.screen n operator).Coherent :=
  ⟨h.projects, h.phases, h.resources, h.submissions, h.uploads, h.nextSubmission⟩

end Coherent

/-- A submission that is a version of a stored one: it has its number and the stamp of its
creation. -/
def IsVersion (w : World) (s : StoredSubmission) : Prop :=
  ∃ x ∈ w.submissions, x.id = s.id ∧ x.createdBy = s.createdBy ∧ x.createdAt = s.createdAt

theorem isVersion_of_mem {s : StoredSubmission} (hs : s ∈ w.submissions) : w.IsVersion s :=
  ⟨s, hs, rfl, rfl, rfl⟩

/-- The number of a version is in use. -/
theorem IsVersion.id_mem {s : StoredSubmission} (h : w.IsVersion s) :
    s.id ∈ w.submissions.map StoredSubmission.id := by
  obtain ⟨x, hx, hid, -⟩ := h
  exact List.mem_map.2 ⟨x, hx, hid⟩

/-- A statement about worlds that every write keeps.  A submission is only stored over one that it
is a version of, a resource under a number in use, and no screening is asked for twice. -/
structure Kept (holds : World → Prop) : Prop where
  addUpload : ∀ (u : World) (draft : StoredUpload) (operator : String),
    holds u → holds (u.addUpload draft operator)
  addSubmission : ∀ (u : World) (draft : StoredSubmission) (operator : String),
    holds u → holds (u.addSubmission draft operator)
  putSubmission : ∀ (u : World) (s : StoredSubmission) (operator : String),
    u.IsVersion s → holds u → holds (u.putSubmission s operator)
  putResource : ∀ (u : World) (r : StoredResource) (operator : String),
    r.id ∈ u.resources.map StoredResource.id → holds u → holds (u.putResource r operator)
  screen : ∀ (u : World) (n : Int) (operator : String),
    u.screens n = false → holds u → holds (u.screen n operator)

theorem kept_coherent : Kept Coherent where
  addUpload _ draft operator h := h.addUpload draft operator
  addSubmission _ draft operator h := h.addSubmission draft operator
  putSubmission _ s operator _ h := h.putSubmission s operator
  putResource _ r operator _ h := h.putResource r operator
  screen _ n operator _ h := h.screen n operator

/-- What was a version of a stored submission stays one, whatever is written. -/
theorem kept_isVersion (x : StoredSubmission) : Kept fun u => u.Coherent ∧ u.IsVersion x where
  addUpload u draft operator h := ⟨h.1.addUpload draft operator, h.2⟩
  addSubmission u draft operator h := by
    obtain ⟨hcoherent, y, hy, hsame⟩ := h
    exact ⟨hcoherent.addSubmission draft operator, y, List.mem_append_left _ hy, hsame⟩
  putSubmission u s operator hversion h := by
    obtain ⟨hcoherent, y, hy, hid, hcreated⟩ := h
    obtain ⟨z, hz, hnumber, hstamp⟩ := hversion
    refine ⟨hcoherent.putSubmission s operator, ?_⟩
    by_cases hsame : y.id = s.id
    · -- Numbers are distinct, so `s` is a version of the same submission.
      have hfound := submission?_of_mem hcoherent hy
      rw [hsame, ← hnumber, submission?_of_mem hcoherent hz] at hfound
      obtain rfl := Option.some.inj hfound
      exact ⟨s.stamped operator u.now, List.mem_map.2 ⟨z, hz, if_pos hnumber⟩,
        hnumber.symm.trans hid, hstamp.1.symm.trans hcreated.1, hstamp.2.symm.trans hcreated.2⟩
    · exact ⟨y, List.mem_map.2 ⟨y, hy, if_neg hsame⟩, hid, hcreated⟩
  putResource u r operator _ h := ⟨h.1.putResource r operator, h.2⟩
  screen u n operator _ h := ⟨h.1.screen n operator, h.2⟩

/-- What no write looks at: projects, phases, roles and lookups. -/
structure SameSetting (w u : World) : Prop where
  projects : u.projects = w.projects
  phases : u.phases = w.phases
  roles : u.roles = w.roles
  uploadStatuses : u.uploadStatuses = w.uploadStatuses
  uploadTypes : u.uploadTypes = w.uploadTypes
  submissionStatuses : u.submissionStatuses = w.submissionStatuses

theorem SameSetting.refl (w : World) : SameSetting w w :=
  ⟨rfl, rfl, rfl, rfl, rfl, rfl⟩

/-- No write changes projects, phases, roles or lookups. -/
theorem kept_sameSetting (w : World) : Kept (SameSetting w) where
  addUpload _ _ _ h := { h with }
  addSubmission _ _ _ h := { h with }
  putSubmission _ _ _ _ h := { h with }
  putResource _ _ _ _ h := { h with }
  screen _ _ _ _ h := { h with }

end World

end ContestUploads
