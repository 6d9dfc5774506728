import ContestUploads.Proofs.Reached
import ContestUploads.Proofs.Retirement

/-!
# The complete effect of a successful upload

When the intake of an upload answers with a number, the stores afterwards differ from those before
in one way only, which is `Effect`: one upload more; for a general submission one submission more,
linked to the resource of the user and sent to screening; the earlier submissions of that resource
retired, unless the project keeps them; and the audits, counters and stamps that go with this.
Everything else is as it was.

The exact statement is `effect_of_takeIn`.  A number is linked to a resource once.  A resource that
was put in with a number that no submission has yet does not get it a second time, so there nothing
is appended (`not_appended_if_listed`).
-/

namespace ContestUploads

open World

namespace World

variable {w : World} (settings : Settings) (request : UploadRequest)

/-- The submissions of a world as an upload leaves them that comes after some stamps. -/
def leftBy (w : World) (a : Admission) (stamps : Nat) : List StoredSubmission :=
  match named? w.submissionStatuses settings.deletedStatus with
  | some deleted =>
      if a.supersedes settings request then
        retireFrom (·.resourceId == some a.resource.id) deleted request.operator
          (w.clock.after stamps) w.submissions
      else w.submissions
  | none => w.submissions

/-- The submissions of a world that an upload retires. -/
def retiredBy (w : World) (a : Admission) : List StoredSubmission :=
  if a.supersedes settings request then w.ofResource a.resource.id else []

end World

/-- **What a successful upload changes.**  The upload was admitted with `a` in the world `w`, its
answer is `n`, and `u` is the world afterwards. -/
structure Effect (settings : Settings) (request : UploadRequest) (a : Admission) (w u : World)
    (n : Int) : Prop where
  project : w.project? request.projectId = some a.project
  /-- The user acts through one resource alone. -/
  resource : w.candidates settings request.projectId request.userId request.rule.roleNames =
    [a.resource]
  type : named? w.uploadTypes request.rule.uploadTypeName = some a.type
  status : named? w.uploadStatuses settings.activeStatus = some a.status
  unused : w.nextUpload ∉ w.uploads.map StoredUpload.id
  uploads : u.uploads = w.uploads ++
    [{ id := w.nextUpload
       projectId := request.projectId
       owner := request.userId
       type := some a.type
       status := some a.status
       parameter := request.filename
       createdBy := some (toString request.userId)
       createdAt := some (w.clock.stamp (w.clock.given + 1))
       modifiedBy := some (toString request.userId)
       modifiedAt := some (w.clock.stamp (w.clock.given + 1)) }]
  /-- A general submission is entered under the first number that is free, and the answer is this
  number; the earlier ones come before it. -/
  entered : request.rule.createsSubmission → n = w.freeSubmission ∧
    n ∉ w.submissions.map StoredSubmission.id ∧
      ∃ active, named? w.submissionStatuses settings.activeStatus = some active ∧
      u.submissions = w.leftBy settings request a 3 ++
        [{ id := n
           status := some active
           uploadId := some w.nextUpload
           resourceId := some a.resource.id
           createdBy := some (toString request.userId)
           createdAt := some (w.clock.stamp (w.clock.given + 2))
           modifiedBy := some (toString request.userId)
           modifiedAt := some (w.clock.stamp (w.clock.given + 2)) }]
  /-- The number is linked to the resource, which keeps its place. -/
  linked : request.rule.createsSubmission → u.resources = w.resources.map fun x =>
    if x.id = a.resource.id then
      { a.resource with
        submissions := if n ∈ a.resource.submissions then a.resource.submissions
          else a.resource.submissions ++ [n]
        modifiedBy := some (toString request.userId)
        modifiedAt := some (w.clock.stamp (w.clock.given + 3)) }
    else x
  /-- Its screening was not asked for before, and is now. -/
  screened : request.rule.createsSubmission → (∀ e ∈ w.screening, e.1 ≠ n) ∧
    u.screening = w.screening ++ [(n, toString request.userId)]
  /-- Other uploads are answered with their own number, and enter nothing. -/
  other : request.rule.createsSubmission = false → n = w.nextUpload ∧
    u.submissions = w.leftBy settings request a 1 ∧ u.resources = w.resources ∧
    u.screening = w.screening
  /-- The retired submissions are there to be retired: the deleted status is in the catalog. -/
  deleted : a.supersedes settings request →
    ∃ l, named? w.submissionStatuses settings.deletedStatus = some l
  catalogAudit : u.catalogAudit = w.catalogAudit ++
    [⟨Method.createUpload.name, .int w.nextUpload, .text (toString request.userId)⟩] ++
    (if request.rule.createsSubmission then
      [⟨Method.createSubmission.name, .int n, .text (toString request.userId)⟩] else []) ++
    (w.retiredBy settings request a).flatMap fun s => List.replicate 2
      ⟨Method.updateSubmission.name, .int s.id, .text (toString request.userId)⟩
  directoryAudit : u.directoryAudit = w.directoryAudit ++
    if request.rule.createsSubmission then
      [⟨Method.updateResource.name, .int a.resource.id, .text (toString request.userId)⟩] else []
  nextUpload : u.nextUpload = w.nextUpload + 1
  nextSubmission : u.nextSubmission =
    if request.rule.createsSubmission then n + 1 else w.nextSubmission
  clock : u.clock.given = w.clock.given + (if request.rule.createsSubmission then 3 else 1) +
    2 * (w.retiredBy settings request a).length
  setting : SameSetting w u

namespace World

variable {w : World} (settings : Settings) (request : UploadRequest)

/-- A submission is entered if the active status is in the catalog and its number is not in
screening. -/
theorem enter_eq_ok_iff {a : Admission} {uploadId n : Int} {u : World} :
    w.enter settings request a uploadId = (.ok n, u) ↔
      ∃ active, named? w.submissionStatuses settings.activeStatus = some active ∧
        (w.entered request a active uploadId).screens w.freeSubmission = false ∧
        n = w.freeSubmission ∧
        u = (w.entered request a active uploadId).screen w.freeSubmission request.operator := by
  unfold enter known
  rcases named? w.submissionStatuses settings.activeStatus with _ | active
  · simp
  · simp only [Option.some.injEq, exists_eq_left']
    by_cases hscreened : (w.entered request a active uploadId).screens w.freeSubmission
    · simp [hscreened]
    · simp only [hscreened, if_false, Prod.mk.injEq, Except.ok.injEq, Bool.false_eq_true]
      constructor
      · rintro ⟨rfl, rfl⟩
        simp
      · rintro ⟨-, rfl, rfl⟩
        simp

/-- The last step goes through if it has nothing to retire or its retirement goes through. -/
theorem supersede_eq_ok_iff (h : w.Coherent) (hstatuses : Numbered w.submissionStatuses)
    (hids : ∀ s ∈ w.submissions, 0 ≤ s.id) {a : Admission} {spared : List Int} {id n : Int}
    {u : World} :
    w.supersede settings request a spared id = (.ok n, u) ↔
      n = id ∧
        if a.supersedes settings request then
          Text.writable request.userId ∧
          ∃ deleted, named? w.submissionStatuses settings.deletedStatus = some deleted ∧
            (∀ s ∈ w.submissions, supersededBy a.resource.id spared s →
              s.checkMove settings deleted = .ok ()) ∧
            u = w.retired (supersededBy a.resource.id spared) deleted request.operator
        else u = w := by
  have hretired := retireSuperseded_eq_ok_iff settings h hstatuses hids request.userId
    a.resource.id spared
  unfold supersede
  by_cases hold : a.supersedes settings request
  · rw [if_pos hold, if_pos hold]
    rcases hresult : w.retireSuperseded settings request.userId a.resource.id spared
      with ⟨e | ids, v⟩
    · simp only [Prod.mk.injEq, reduceCtorEq, false_and, false_iff, not_and]
      rintro - huser ⟨deleted, hnamed, hmoves, -⟩
      have hgone := (hretired _ _).2 ⟨huser, deleted, hnamed, hmoves, rfl, rfl⟩
      simp [hresult] at hgone
    · obtain ⟨huser, deleted, hnamed, hmoves, -, rfl⟩ := (hretired ids v).1 hresult
      simp only [Prod.mk.injEq, Except.ok.injEq, huser, true_and, hnamed, Option.some.injEq,
        exists_eq_left']
      constructor
      · rintro ⟨rfl, rfl⟩
        exact ⟨rfl, hmoves, rfl⟩
      · rintro ⟨rfl, -, rfl⟩
        exact ⟨rfl, rfl⟩
  · rw [if_neg hold, if_neg hold]
    simp only [Prod.mk.injEq, Except.ok.injEq]
    exact and_congr eq_comm eq_comm

/-- The last step of the intake in a world `v` that has the submissions of `w` and, behind them,
those that are spared. -/
theorem eq_of_supersede_ok {v : World} (hv : v.Coherent) (hstatuses : Numbered v.submissionStatuses)
    (hids : ∀ s ∈ v.submissions, 0 ≤ s.id) {a : Admission} {spared : List Int}
    {entered : List StoredSubmission} (hentered : v.submissions = w.submissions ++ entered)
    (hold : ∀ s ∈ w.submissions, s.id ∉ spared) (hnew : ∀ s ∈ entered, s.id ∈ spared)
    (hcatalog : v.submissionStatuses = w.submissionStatuses) (stamps : Nat)
    (hclock : v.clock = w.clock.after stamps) {id n : Int} {u : World}
    (hok : v.supersede settings request a spared id = (.ok n, u)) :
    n = id ∧ (a.supersedes settings request →
        ∃ l, named? w.submissionStatuses settings.deletedStatus = some l) ∧
      u = { v with
        submissions := w.leftBy settings request a stamps ++ entered
        catalogAudit := v.catalogAudit ++ (w.retiredBy settings request a).flatMap fun s =>
          List.replicate 2
            ⟨Method.updateSubmission.name, .int s.id, .text (toString request.userId)⟩
        clock := v.clock.after (2 * (w.retiredBy settings request a).length) } := by
  obtain ⟨rfl, hlast⟩ := (supersede_eq_ok_iff settings request hv hstatuses hids).1 hok
  refine ⟨rfl, ?_⟩
  by_cases hsupersedes : a.supersedes settings request
  · rw [if_pos hsupersedes] at hlast
    obtain ⟨-, deleted, hnamed, -, rfl⟩ := hlast
    rw [hcatalog] at hnamed
    have hchosen : ∀ s ∈ w.submissions,
        supersededBy a.resource.id spared s = (s.resourceId == some a.resource.id) := by
      intro s hs
      simp [supersededBy, hold s hs]
    have hspared : ∀ s ∈ entered, supersededBy a.resource.id spared s = false := by
      intro s hs
      simp [supersededBy, hnew s hs]
    have hnone : entered.filter (supersededBy a.resource.id spared) = [] :=
      List.filter_eq_nil_iff.2 (by simpa using hspared)
    have hfilter : v.submissions.filter (supersededBy a.resource.id spared) =
        w.ofResource a.resource.id := by
      rw [hentered, List.filter_append, List.filter_congr hchosen, hnone, List.append_nil,
        ofResource]
    refine ⟨fun _ => ⟨deleted, hnamed⟩, ?_⟩
    simp only [retired, leftBy, retiredBy, hnamed, if_pos hsupersedes, hfilter]
    rw [hentered, retireFrom_append _ hspared, retireFrom_congr hchosen, hclock]
    rfl
  · rw [if_neg hsupersedes] at hlast
    subst hlast
    refine ⟨fun h => absurd h hsupersedes, ?_⟩
    have hleft : u.submissions = w.leftBy settings request a stamps ++ entered := by
      unfold leftBy
      split <;> simp [hsupersedes, hentered]
    rw [← hleft]
    simp [retiredBy, hsupersedes]

theorem knownProject_eq_ok_iff {id : Int} {p : StoredProject} :
    w.knownProject id = .ok p ↔ w.project? id = some p := by
  unfold knownProject
  cases w.project? id <;> simp

theorem candidates_of_onlyCandidate {projectId userId : Int} {names : List String}
    {r : StoredResource} (h : w.onlyCandidate settings projectId userId names = .ok r) :
    w.candidates settings projectId userId names = [r] :=
  ((onlyCandidate_eq_ok_iff settings).1 h).2.2

theorem Coherent.nextUpload_notMem (h : w.Coherent) :
    w.nextUpload ∉ w.uploads.map StoredUpload.id := by
  intro hmem
  obtain ⟨x, hx, hid⟩ := List.mem_map.1 hmem
  have hbelow := h.uploads x hx
  omega

/-- What was not asked to be screened is not in the list. -/
theorem ne_of_screens_eq_false {n : Int} (h : w.screens n = false) :
    ∀ e ∈ w.screening, e.1 ≠ n := by
  intro e he hsame
  have hthere : w.screens n = true := List.any_eq_true.2 ⟨e, he, by simpa using hsame⟩
  exact Bool.eq_false_iff.1 h hthere

section Finish

variable (h : w.Coherent) (hstatuses : Numbered w.submissionStatuses)
  (hids : ∀ s ∈ w.submissions, 0 ≤ s.id) {a : Admission}
  (ha : w.admission settings request = .ok a) {n : Int} {u : World}
  (hok : w.finish settings request a = (.ok n, u))

include h hstatuses hids ha hok

/-- What becomes of a general submission that was admitted, if it succeeds: it is entered, and then
the earlier ones are retired. -/
theorem effect_of_creates (hcreates : request.rule.createsSubmission) :
    Effect settings request a w u n := by
  obtain ⟨hproject, hresource, -, -, htype, hstatus⟩ :=
    (admission_eq_ok_iff settings request).1 ha
  have hr := mem_of_onlyCandidate settings hresource
  have hreceived : (w.received request a).Coherent := h.addUpload _ _
  unfold finish at hok
  dsimp only at hok
  rw [if_pos hcreates] at hok
  rcases henter : (w.received request a).enter settings request a w.nextUpload with ⟨e | m, v⟩
  · rw [henter] at hok
    simp at hok
  · have hv := kept_coherent.enter settings request hreceived (a := a) hr w.nextUpload
    rw [henter] at hok hv
    obtain ⟨active, hactive, hfree, rfl, rfl⟩ := (enter_eq_ok_iff settings request).1 henter
    have hnew : w.freeSubmission ∉ w.submissions.map StoredSubmission.id :=
      w.freeSubmission_notMem
    have hidsAfter : ∀ s ∈ (((w.received request a).entered request a active
        w.nextUpload).screen w.freeSubmission request.operator).submissions, 0 ≤ s.id := by
      intro s hs
      rcases List.mem_append.1 hs with hs | hs
      · exact hids s hs
      · obtain rfl := List.mem_singleton.1 hs
        exact h.freeSubmission_nonneg
    have hearlier : ∀ s ∈ w.submissions, s.id ∉ [w.freeSubmission] := by
      intro s hs hmem
      obtain hsame := List.mem_singleton.1 hmem
      exact hnew (hsame ▸ List.mem_map.2 ⟨s, hs, rfl⟩)
    obtain ⟨rfl, hdeleted, rfl⟩ := eq_of_supersede_ok (w := w) settings request hv hstatuses
      hidsAfter rfl hearlier (by
        intro s hs
        obtain rfl := List.mem_singleton.1 hs
        exact List.mem_singleton.2 rfl) rfl 3 rfl hok
    have hlinked : (w.resources.map fun x =>
        if x.id = (a.resource.link w.freeSubmission).id then
          (a.resource.link w.freeSubmission).stamped (toString request.userId)
            (w.clock.stamp (w.clock.given + 3))
        else x) = w.resources.map fun x =>
          if x.id = a.resource.id then
            { a.resource with
              submissions := if w.freeSubmission ∈ a.resource.submissions
                then a.resource.submissions else a.resource.submissions ++ [w.freeSubmission]
              modifiedBy := some (toString request.userId)
              modifiedAt := some (w.clock.stamp (w.clock.given + 3)) }
          else x := by
      rw [StoredResource.link_id, StoredResource.stamped_link]
    exact
      { project := knownProject_eq_ok_iff.1 hproject
        resource := candidates_of_onlyCandidate settings hresource
        type := known_eq_ok_iff.1 htype
        status := known_eq_ok_iff.1 hstatus
        unused := h.nextUpload_notMem
        uploads := rfl
        entered := fun _ => ⟨rfl, hnew, active, hactive, rfl⟩
        linked := fun _ => hlinked
        screened := fun _ => ⟨ne_of_screens_eq_false (w := w) hfree, rfl⟩
        other := fun hother => absurd hcreates (by simp [hother])
        deleted := hdeleted
        catalogAudit := by
          rw [if_pos hcreates]
          rfl
        directoryAudit := by
          rw [if_pos hcreates, ← StoredResource.link_id a.resource w.freeSubmission]
          rfl
        nextUpload := rfl
        nextSubmission := by
          rw [if_pos hcreates]
          rfl
        clock := by
          rw [if_pos hcreates]
          rfl
        setting := ⟨rfl, rfl, rfl, rfl, rfl, rfl⟩ }

/-- What becomes of any other upload that was admitted, if it succeeds. -/
theorem effect_of_other (hcreates : ¬request.rule.createsSubmission) :
    Effect settings request a w u n := by
  obtain ⟨hproject, hresource, -, -, htype, hstatus⟩ :=
    (admission_eq_ok_iff settings request).1 ha
  have hreceived : (w.received request a).Coherent := h.addUpload _ _
  unfold finish at hok
  dsimp only at hok
  rw [if_neg hcreates] at hok
  obtain ⟨rfl, hdeleted, rfl⟩ := eq_of_supersede_ok (w := w) settings request hreceived hstatuses
    hids (List.append_nil _).symm (by simp) (by simp) rfl 1 rfl hok
  exact
    { project := knownProject_eq_ok_iff.1 hproject
      resource := candidates_of_onlyCandidate settings hresource
      type := known_eq_ok_iff.1 htype
      status := known_eq_ok_iff.1 hstatus
      unused := h.nextUpload_notMem
      uploads := rfl
      entered := fun h => absurd h hcreates
      linked := fun h => absurd h hcreates
      screened := fun h => absurd h hcreates
      other := fun _ => ⟨rfl, List.append_nil _, rfl, rfl⟩
      deleted := hdeleted
      catalogAudit := by
        rw [if_neg hcreates, List.append_nil (w.catalogAudit ++ _)]
        rfl
      directoryAudit := by
        rw [if_neg hcreates, List.append_nil w.directoryAudit]
        rfl
      nextUpload := rfl
      nextSubmission := by
        rw [if_neg hcreates]
        rfl
      clock := by
        rw [if_neg hcreates]
        rfl
      setting := ⟨rfl, rfl, rfl, rfl, rfl, rfl⟩ }

/-- What becomes of an upload that was admitted, if it succeeds. -/
theorem effect_of_finish : Effect settings request a w u n := by
  by_cases hcreates : request.rule.createsSubmission
  · exact effect_of_creates settings request h hstatuses hids ha hok hcreates
  · exact effect_of_other settings request h hstatuses hids ha hok hcreates

end Finish

/-- The intake of an upload, if it succeeds. -/
theorem effect_of_takeIn_ok (h : w.Coherent) (hstatuses : Numbered w.submissionStatuses)
    (hids : ∀ s ∈ w.submissions, 0 ≤ s.id) {category projectId userId filename : Value} {n : Int}
    {u : World} (hok : w.takeIn settings category projectId userId filename = (.ok n, u)) :
    ∃ request a,
      UploadRequest.ofFields [("category", category), ("project_id", projectId),
        ("user_id", userId), ("filename", filename)] = .ok request ∧
      w.admission settings request = .ok a ∧ Effect settings request a w u n := by
  unfold takeIn at hok
  split at hok
  · simp at hok
  · rename_i request hrequest
    split at hok
    · simp at hok
    · rename_i a ha
      exact ⟨request, a, hrequest, ha, effect_of_finish settings request h hstatuses hids ha hok⟩

end World

/-- **The complete effect of a successful upload.**  In any state that the stores can be brought to,
with submission statuses whose numbers are distinct and not negative and with submissions whose
numbers are not negative: if the intake answers, the answer is a number, and the state afterwards
differs from the one before by `Effect` alone. -/
theorem effect_of_takeIn {w : World} (hreached : Reached w.platform)
    (hstatuses : Numbered w.submissionStatuses) (hids : ∀ s ∈ w.submissions, 0 ≤ s.id)
    (settings : Settings) (category : Category) (projectId userId : Int) (filename : String)
    {t : Trail (Platform Memory.Catalog)} (ht : t.state = w.platform) {answer : Value}
    (hok : ((Reception.takeIn settings (.category category) (.int projectId) (.int userId)
      (.text filename)).run Platform.answer t).1 = .ok answer) :
    ∃ (n : Int) (a : Admission) (u : World), answer = .int n ∧
      ((Reception.takeIn settings (.category category) (.int projectId) (.int userId)
        (.text filename)).run Platform.answer t).2.state = u.platform ∧
      Effect settings { category, projectId, userId, filename } a w u n := by
  have houtcome := outcome_takeIn settings hreached.coherent (.category category)
    (.int projectId) (.int userId) (.text filename)
  rw [Program.run_result, ht, houtcome] at hok
  rcases hresult : w.takeIn settings (.category category) (.int projectId) (.int userId)
    (.text filename) with ⟨e | n, u⟩
  · rw [hresult] at hok
    cases hok
  · rw [hresult] at hok
    obtain ⟨request, a, hrequest, -, heffect⟩ :=
      effect_of_takeIn_ok settings hreached.coherent hstatuses hids hresult
    obtain ⟨hcategory, ⟨hproject, -⟩, ⟨huser, -⟩, hfilename, -⟩ :=
      UploadRequest.ofFields_eq_ok_iff.1 hrequest
    have hsame : request = { category, projectId, userId, filename } := by
      obtain ⟨c, p, u, f⟩ := request
      simp only [Value.category.injEq, Value.int.injEq, Value.text.injEq, reduceCtorEq, false_and,
        exists_false, or_false] at hcategory hproject huser hfilename
      rw [hcategory, hproject, huser, hfilename]
    refine ⟨n, a, u, (Except.ok.inj hok).symm, ?_, hsame ▸ heffect⟩
    rw [Program.run_state, ht, houtcome, hresult]

theorem numbered_openContest (listed : List Int) :
    Numbered (openContest listed).submissionStatuses :=
  numbered_catalog _

theorem run_openContest (listed : List Int) :
    ((Reception.takeIn {} (.category .submission) (.int 1) (.int 10) (.text "f.zip")).run
      Platform.answer { state := (openContest listed).platform }).1 =
      .ok (.int 1) := by
  rw [Program.run_result, outcome_takeIn {} (reached_openContest listed).coherent]
  rfl

/-- The first submission to an open contest. -/
theorem effect_of_takeIn_openContest :
    ((Reception.takeIn {} (.category .submission) (.int 1) (.int 10) (.text "f.zip")).run
      Platform.answer { state := (openContest []).platform }).1 = .ok (.int 1) ∧
    ∃ (n : Int) (a : Admission) (u : World), (.int 1 : Value) = .int n ∧
      ((Reception.takeIn {} (.category .submission) (.int 1) (.int 10) (.text "f.zip")).run
        Platform.answer { state := (openContest []).platform }).2.state = u.platform ∧
      Effect {} { category := .submission, projectId := 1, userId := 10, filename := "f.zip" } a
        (openContest []) u n :=
  ⟨run_openContest [],
    effect_of_takeIn (reached_openContest []) (numbered_openContest []) (by simp [openContest,
      withProject, withPhase, withResource]) {} .submission 1 10 "f.zip" rfl (run_openContest [])⟩

/-- **A number that is listed is not appended.**  The resource was put in with the number 1 listed,
which no submission has.  The first submission gets this number, and the resource lists it once, not
twice. -/
theorem not_appended_if_listed :
    Reached (openContest [1]).platform ∧
      (openContest [1]).submissions.map StoredSubmission.id = [] ∧
      (openContest [1]).resources.map StoredResource.submissions = [[1]] ∧
      ((Reception.takeIn {} (.category .submission) (.int 1) (.int 10) (.text "f.zip")).run
        Platform.answer { state := (openContest [1]).platform }).1 = .ok (.int 1) ∧
      ∃ u : World,
        ((Reception.takeIn {} (.category .submission) (.int 1) (.int 10) (.text "f.zip")).run
          Platform.answer { state := (openContest [1]).platform }).2.state = u.platform ∧
        u.resources.map StoredResource.submissions = [[1]] ∧
        u.resources.map StoredResource.submissions ≠ [[1] ++ [1]] := by
  refine ⟨reached_openContest [1], rfl, rfl, run_openContest [1],
    ((openContest [1]).takeIn {} (.category .submission) (.int 1) (.int 10)
      (.text "f.zip")).2, ?_, rfl, by decide⟩
  rw [Program.run_state, outcome_takeIn {} (reached_openContest [1]).coherent]

end ContestUploads
