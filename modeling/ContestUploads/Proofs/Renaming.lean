import ContestUploads.Proofs.Acceptance
import ContestUploads.Proofs.Following

/-!
# Statuses with other names

The names of the active and of the deleted status are settings, and may be any that the catalog has.
The table of moves goes by fixed names.  Where moves are enforced, the retirement of an active
submission is a move from the one name to the other, and it is refused unless the table lists it.

So the first general submission of a resource is taken in whatever the names are, since it retires
nothing.  From the second on all hangs on the table (`retiring_renamed`): if it lists the move, the
new submission is the only active one, and if not, the call fails when the new one has long been
entered, and two are active.
-/

namespace ContestUploads

open Program World

/-- A submission of a resource is active, under the name that the settings give. -/
def StoredSubmission.isActive (settings : Settings) (resourceId : Int) (s : StoredSubmission) :
    Bool :=
  s.resourceId == some resourceId && s.statusName == some settings.activeStatus

namespace World

/-- The catalog has the two statuses under different names, and moves between them are checked. -/
structure Renamed (settings : Settings) (catalog : List StoredLookup)
    (active deleted : StoredLookup) : Prop where
  numbered : Numbered catalog
  active : named? catalog settings.activeStatus = some active
  deleted : named? catalog settings.deletedStatus = some deleted
  distinct : settings.activeStatus ≠ settings.deletedStatus
  enforced : settings.enforceMoves = true

namespace Renamed

variable {settings : Settings} {catalog : List StoredLookup} {active deleted : StoredLookup}
  (h : Renamed settings catalog active deleted)

include h

theorem active_name : active.name = settings.activeStatus :=
  (mem_of_named? h.active).2

theorem deleted_name : deleted.name = settings.deletedStatus :=
  (mem_of_named? h.deleted).2

/-- An active submission may be retired if the table lists the move. -/
theorem checkMove_active {s : StoredSubmission} (hs : s.status = some active) :
    s.checkMove settings deleted =
      if settings.deletedStatus ∈ StatusTable.listed settings.activeStatus then .ok ()
      else .error (.service (.illegalTransition (.text settings.activeStatus)
        (.text settings.deletedStatus) (.ofTexts (StatusTable.listed settings.activeStatus)))) := by
  rw [StoredSubmission.checkMove, if_pos h.enforced, StoredSubmission.statusName, hs,
    Option.map_some, h.active_name, h.deleted_name]
  split
  · rename_i hlisted
    rw [StatusTable.checkMove_eq_ok_iff, StatusTable.canMove_iff]
    exact .inr (.inr ⟨_, rfl, hlisted⟩)
  · rename_i hlisted
    exact StatusTable.checkMove_of_not_listed h.distinct hlisted

/-- A retired submission may be retired once more. -/
theorem checkMove_deleted {s : StoredSubmission} (hs : s.status = some deleted) :
    s.checkMove settings deleted = .ok () := by
  rw [StoredSubmission.checkMove, if_pos h.enforced, StoredSubmission.statusName, hs,
    StatusTable.checkMove_eq_ok_iff, StatusTable.canMove_iff]
  exact .inr (.inl rfl)

end Renamed

/-- One submission of a resource is active, and those before it are retired, which the table has to
list if there are any. -/
def SoleActive (settings : Settings) (active deleted : StoredLookup) (resourceId : Int)
    (w : World) : Prop :=
  ∃ retired s, w.ofResource resourceId = retired ++ [s] ∧ s.status = some active ∧ 0 ≤ s.id ∧
    (∀ x ∈ retired, x.status = some deleted ∧ 0 ≤ x.id) ∧
    (retired = [] ∨ settings.deletedStatus ∈ StatusTable.listed settings.activeStatus)

/-- The world with a general submission entered and sent to screening. -/
def sent (w : World) (request : UploadRequest) (a : Admission) (active : StoredLookup) : World :=
  ((w.received request a).entered request a active w.nextUpload).screen w.freeSubmission
    request.operator

/-- The submission that an upload enters. -/
def fresh (w : World) (request : UploadRequest) (a : Admission) (active : StoredLookup) :
    StoredSubmission :=
  (a.submission active w.nextUpload).created w.freeSubmission request.operator
    (w.received request a).now

variable {w : World} {settings : Settings} {request : UploadRequest} {a : Admission}
  {active deleted : StoredLookup}

theorem submissions_sent : (w.sent request a active).submissions =
    w.submissions ++ [w.fresh request a active] :=
  rfl

theorem coherent_sent (h : w.Coherent) : (w.sent request a active).Coherent :=
  (((h.addUpload _ _).addSubmission _ _).putResource _ _).screen _ _

/-- The new submission is spared, and all others of its resource are taken. -/
theorem filter_supersededBy_sent (w : World) (request : UploadRequest) (a : Admission)
    (active : StoredLookup) :
    (w.sent request a active).submissions.filter
        (supersededBy a.resource.id [w.freeSubmission]) = w.ofResource a.resource.id := by
  have hold : ∀ s ∈ w.submissions, supersededBy a.resource.id [w.freeSubmission] s =
      (s.resourceId == some a.resource.id) := by
    intro s hs
    have hother : s.id ≠ w.freeSubmission := fun hsame =>
      w.freeSubmission_notMem (hsame ▸ List.mem_map.2 ⟨s, hs, rfl⟩)
    simp [supersededBy, hother]
  have hnew : supersededBy a.resource.id [w.freeSubmission] (w.fresh request a active) = false := by
    simp [supersededBy, fresh, StoredSubmission.created]
  rw [submissions_sent, List.filter_append, List.filter_congr hold, List.filter_singleton, hnew]
  exact List.append_nil _

/-- What becomes of a general submission that was admitted, where it supersedes the earlier ones. -/
theorem finish_of_creates (huser : Text.writable request.userId)
    (hcreates : request.rule.createsSubmission) (hsupersedes : a.supersedes settings request)
    (hactive : named? w.submissionStatuses settings.activeStatus = some active)
    (hdeleted : named? w.submissionStatuses settings.deletedStatus = some deleted) :
    w.finish settings request a =
      if w.screens w.freeSubmission then
        (.error (screeningConflict w.freeSubmission),
          (w.received request a).entered request a active w.nextUpload)
      else
        match retireEach settings deleted request.operator [w.freeSubmission]
          (w.ofResource a.resource.id) (w.sent request a active) with
        | (.error e, v) => (.error e, v)
        | (.ok _, v) => (.ok w.freeSubmission, v) := by
  have hentered : (w.received request a).enter settings request a w.nextUpload =
      if w.screens w.freeSubmission then
        (.error (screeningConflict w.freeSubmission),
          (w.received request a).entered request a active w.nextUpload)
      else (.ok w.freeSubmission, w.sent request a active) := by
    rw [enter, show (w.received request a).submissionStatuses = w.submissionStatuses from rfl,
      known, hactive]
    rfl
  unfold finish
  dsimp only
  rw [if_pos hcreates, hentered]
  by_cases hscreened : w.screens w.freeSubmission
  · rw [if_pos hscreened, if_pos hscreened]
  · rw [if_neg hscreened, if_neg hscreened]
    dsimp only
    rw [supersede, if_pos hsupersedes,
      retireSuperseded_eq_retireEach settings (w := w.sent request a active) hdeleted huser,
      filter_supersededBy_sent]
    rfl

/-- What was retired comes from a submission of before. -/
theorem mem_retireFrom_chosen {chosen : StoredSubmission → Bool} {operator : String}
    {clock : Clock} {xs : List StoredSubmission} {y : StoredSubmission}
    (hy : y ∈ retireFrom chosen deleted operator clock xs) :
    (y ∈ xs ∧ chosen y = false) ∨
      ∃ s ∈ xs, chosen s ∧ y.id = s.id ∧ y.resourceId = s.resourceId ∧
        y.status = some deleted := by
  induction xs generalizing clock with
  | nil => cases hy
  | cons s rest ih =>
      rw [retireFrom] at hy
      have hlater (hrest : (y ∈ rest ∧ chosen y = false) ∨ ∃ s ∈ rest, chosen s ∧ y.id = s.id ∧
          y.resourceId = s.resourceId ∧ y.status = some deleted) :
          (y ∈ s :: rest ∧ chosen y = false) ∨ ∃ s' ∈ s :: rest, chosen s' ∧ y.id = s'.id ∧
            y.resourceId = s'.resourceId ∧ y.status = some deleted := by
        rcases hrest with ⟨hmem, hnot⟩ | ⟨x, hx, h⟩
        · exact .inl ⟨List.mem_cons_of_mem s hmem, hnot⟩
        · exact .inr ⟨x, List.mem_cons_of_mem s hx, h⟩
      split at hy
      · rename_i hs
        rcases List.mem_cons.1 hy with rfl | hy
        · exact .inr ⟨s, List.mem_cons_self, hs, rfl, rfl, rfl⟩
        · exact hlater (ih hy)
      · rename_i hs
        rcases List.mem_cons.1 hy with rfl | hy
        · exact .inl ⟨List.mem_cons_self, Bool.eq_false_iff.2 hs⟩
        · exact hlater (ih hy)

/-- The earlier submissions as an upload leaves them that supersedes those of its resource. -/
def outdated (w : World) (request : UploadRequest) (a : Admission) (active deleted : StoredLookup) :
    List StoredSubmission :=
  retireFrom (supersededBy a.resource.id [w.freeSubmission]) deleted request.operator
    (w.sent request a active).clock w.submissions

/-- The earlier submissions of the resource are retired. -/
theorem status_of_outdated {x : StoredSubmission}
    (hx : x ∈ w.outdated request a active deleted) (hresource : x.resourceId = some a.resource.id) :
    x.status = some deleted ∧ ∃ s ∈ w.ofResource a.resource.id, x.id = s.id := by
  rcases mem_retireFrom_chosen hx with ⟨hold, hnot⟩ | ⟨s, hs, hchosen, hid, -, hstatus⟩
  · have hother : x.id ≠ w.freeSubmission := fun hsame =>
      w.freeSubmission_notMem (hsame ▸ List.mem_map.2 ⟨x, hold, rfl⟩)
    simp [supersededBy, hresource, hother] at hnot
  · simp only [supersededBy, Bool.and_eq_true] at hchosen
    exact ⟨hstatus, s, List.mem_filter.2 ⟨hs, hchosen.1⟩, hid⟩

theorem submissions_retired_sent (w : World) (request : UploadRequest) (a : Admission)
    (active deleted : StoredLookup) :
    ((w.sent request a active).retired (supersededBy a.resource.id [w.freeSubmission]) deleted
        request.operator).submissions =
      w.outdated request a active deleted ++ [w.fresh request a active] := by
  have hspared : ∀ s ∈ [w.fresh request a active],
      supersededBy a.resource.id [w.freeSubmission] s = false := by
    intro s hs
    obtain rfl := List.mem_singleton.1 hs
    simp [supersededBy, fresh, StoredSubmission.created]
  rw [retired, submissions_sent, retireFrom_append _ hspared]
  rfl

section Further

variable (hw : w.Coherent) (hnames : Renamed settings w.submissionStatuses active deleted)

include hnames

theorem isActive_fresh : (w.fresh request a active).isActive settings a.resource.id = true := by
  have hname : (w.fresh request a active).statusName = some settings.activeStatus :=
    congrArg some hnames.active_name
  rw [StoredSubmission.isActive, hname]
  simp [fresh, StoredSubmission.created, Admission.submission]

/-- After a retirement only the new submission is active. -/
theorem filter_isActive_retired :
    (w.outdated request a active deleted ++ [w.fresh request a active]).filter
      (·.isActive settings a.resource.id) = [w.fresh request a active] := by
  have hnone : (w.outdated request a active deleted).filter
      (·.isActive settings a.resource.id) = [] := by
    rw [List.filter_eq_nil_iff]
    intro x hx hactive
    simp only [StoredSubmission.isActive, Bool.and_eq_true, beq_iff_eq] at hactive
    obtain ⟨hstatus, -⟩ := status_of_outdated hx hactive.1
    rw [StoredSubmission.statusName, hstatus, Option.map_some, hnames.deleted_name] at hactive
    exact hnames.distinct (Option.some.inj hactive.2).symm
  rw [List.filter_append, hnone, List.filter_singleton, isActive_fresh hnames]
  rfl

include hw

/-- Where all earlier submissions of its resource may be retired, a general submission is answered,
and it is the only active one. -/
theorem finish_of_movable (huser : Text.writable request.userId)
    (hcreates : request.rule.createsSubmission) (hsupersedes : a.supersedes settings request)
    (hfresh : w.screens w.freeSubmission = false)
    (hids : ∀ s ∈ w.ofResource a.resource.id, 0 ≤ s.id)
    (hmoves : ∀ s ∈ w.ofResource a.resource.id, s.checkMove settings deleted = .ok ()) :
    w.finish settings request a = (.ok w.freeSubmission,
      (w.sent request a active).retired (supersededBy a.resource.id [w.freeSubmission]) deleted
        request.operator) := by
  have hchosen : ∀ s ∈ (w.sent request a active).submissions,
      supersededBy a.resource.id [w.freeSubmission] s → s ∈ w.ofResource a.resource.id := by
    intro s hs hchosen
    rw [← filter_supersededBy_sent w request a active]
    exact List.mem_filter.2 ⟨hs, hchosen⟩
  have hspared : ∀ s ∈ (w.sent request a active).submissions,
      supersededBy a.resource.id [w.freeSubmission] s →
        s.id ∉ [w.freeSubmission] ∧ 0 ≤ s.id := by
    intro s hs hs'
    have hid := hids s (hchosen s hs hs')
    simp only [supersededBy, Bool.and_eq_true, decide_eq_true_eq] at hs'
    exact ⟨hs'.2, hid⟩
  have hretired := retireEach_eq settings (w := w.sent request a active) (coherent_sent hw)
    hnames.numbered (mem_of_named? hnames.deleted).1 request.userId (List.nil_append _).symm
    hspared (fun s hs hs' => hmoves s (hchosen s hs hs'))
  rw [filter_supersededBy_sent] at hretired
  have hdone : retireEach settings deleted request.operator [w.freeSubmission]
      (w.ofResource a.resource.id) (w.sent request a active) =
        (.ok ((w.ofResource a.resource.id).map StoredSubmission.id),
          (w.sent request a active).retired (supersededBy a.resource.id [w.freeSubmission]) deleted
            request.operator) := by
    refine hretired.trans ?_
    rw [retired, filter_supersededBy_sent]
    rfl
  rw [finish_of_creates huser hcreates hsupersedes hnames.active hnames.deleted,
    if_neg (by simp [hfresh]), hdone]

/-- Where the first of the earlier submissions is active and the table does not list its move, a
general submission fails after it was entered. -/
theorem finish_of_refused (huser : Text.writable request.userId)
    (hcreates : request.rule.createsSubmission) (hsupersedes : a.supersedes settings request)
    (hfresh : w.screens w.freeSubmission = false)
    {s : StoredSubmission} (hown : w.ofResource a.resource.id = [s]) (hid : 0 ≤ s.id)
    (hs : s.status = some active)
    (hlisted : settings.deletedStatus ∉ StatusTable.listed settings.activeStatus) :
    w.finish settings request a =
        (.error (.service (.illegalTransition (.text settings.activeStatus)
          (.text settings.deletedStatus) (.ofTexts (StatusTable.listed settings.activeStatus)))),
        w.sent request a active) ∧
      (w.sent request a active).submissions.filter (·.isActive settings a.resource.id) =
        [s, w.fresh request a active] := by
  have hmem : s ∈ w.ofResource a.resource.id := hown ▸ List.mem_cons_self
  obtain ⟨hstored, hresource⟩ := List.mem_filter.1 hmem
  have hmove := hnames.checkMove_active hs
  rw [if_neg hlisted] at hmove
  have hspared : s.id ∉ [w.freeSubmission] := by
    intro hsame
    exact w.freeSubmission_notMem (List.mem_singleton.1 hsame ▸ List.mem_map.2 ⟨s, hstored, rfl⟩)
  constructor
  · rw [finish_of_creates huser hcreates hsupersedes hnames.active hnames.deleted,
      if_neg (by simp [hfresh]), hown, show request.operator = toString request.userId from rfl,
      retireEach_cons settings (coherent_sent hw) (List.mem_append_left _ hstored) hnames.numbered
        (mem_of_named? hnames.deleted).1 hid hspared, hmove]
  · have hactive : s.isActive settings a.resource.id = true := by
      rw [StoredSubmission.isActive, StoredSubmission.statusName, hs, Option.map_some,
        hnames.active_name, hresource]
      simp
    have hold : w.submissions.filter (·.isActive settings a.resource.id) = [s] := by
      have hwithin : w.submissions.filter (·.isActive settings a.resource.id) =
          (w.ofResource a.resource.id).filter (·.isActive settings a.resource.id) := by
        rw [ofResource, List.filter_filter]
        refine List.filter_congr fun x _ => ?_
        cases hx : x.isActive settings a.resource.id with
        | false => simp
        | true =>
            simp only [StoredSubmission.isActive, Bool.and_eq_true] at hx
            simp [hx.1]
      rw [hwithin, hown, List.filter_singleton, hactive]
      rfl
    rw [submissions_sent, List.filter_append, hold, List.filter_singleton, isActive_fresh hnames]
    rfl

end Further

section Acting

/-- Storing a resource with a submission linked leaves everybody the resources to act through. -/
theorem candidates_relink (settings : Settings) (h : w.Coherent) {r : StoredResource}
    (hr : r ∈ w.resources) (n : Int) (operator : String) (projectId userId : Int)
    (names : List String) :
    ((w.putResource (r.link n) operator).candidates settings projectId userId names).map
        StoredResource.id =
      (w.candidates settings projectId userId names).map StoredResource.id := by
  have hacts : ∀ x ∈ w.resources, ∀ ids : List Int,
      (w.relink r n operator x).actsFor ids projectId settings.externalReference userId =
        x.actsFor ids projectId settings.externalReference userId := by
    intro x hx ids
    rcases relink_eq h hr hx n operator with hsame | ⟨rfl, hsame⟩
    · rw [hsame]
    · rw [hsame, StoredResource.stamped_link]
      rfl
  have hfilter := List.filter_congr fun x hx => hacts x hx (w.roleIds names)
  show (((w.putResource (r.link n) operator).resources.filter _).map _) = _
  rw [resources_relink, List.filter_map, List.map_map]
  refine (congrArg _ hfilter).trans (List.map_congr_left fun x hx => ?_)
  exact (relink_identity h hr (List.mem_of_mem_filter hx) n operator).1

end Acting

/-- What is asked of a world in which a user makes general submissions through a resource, and
holds throughout. -/
structure Standing (settings : Settings) (projectId userId resourceId : Int)
    (active deleted : StoredLookup) (w : World) : Prop where
  coherent : w.Coherent
  names : Renamed settings w.submissionStatuses active deleted
  /-- The project does not allow multiple submissions. -/
  single : ∀ p, w.project? projectId = some p → p.affirms settings.allowMultiple = false
  /-- The user acts in the project through the resource alone. -/
  acting : (w.candidates settings projectId userId Category.submission.rule.roleNames).map
    StoredResource.id = [resourceId]

namespace Standing

variable {projectId userId resourceId : Int}
  (h : Standing settings projectId userId resourceId active deleted w)
  {filename : String}
  (ha : w.admission settings ⟨.submission, projectId, userId, filename⟩ = .ok a)

include h ha

/-- An upload is admitted with this resource. -/
theorem resource_id : a.resource.id = resourceId := by
  have hresource := ((admission_eq_ok_iff settings _).1 ha).2.1
  have hcandidates : w.candidates settings projectId userId Category.submission.rule.roleNames =
      [a.resource] := candidates_of_onlyCandidate settings hresource
  have hacting := h.acting
  rw [hcandidates] at hacting
  exact List.head_eq_of_cons_eq hacting

theorem supersedes : a.supersedes settings ⟨.submission, projectId, userId, filename⟩ = true := by
  have hproject := knownProject_eq_ok_iff.1 ((admission_eq_ok_iff settings _).1 ha).1
  rw [Admission.supersedes, h.single a.project hproject]
  rfl

/-- An upload that enters a submission leaves everything as it was that is asked for. -/
theorem finish (hresources : (w.finish settings ⟨.submission, projectId, userId, filename⟩
      a).2.resources = (w.sent ⟨.submission, projectId, userId, filename⟩ a active).resources) :
    Standing settings projectId userId resourceId active deleted
      (w.finish settings ⟨.submission, projectId, userId, filename⟩ a).2 := by
  have hr := (resource_of_admission settings ha).1
  have hcoherent := kept_coherent.finish settings ⟨.submission, projectId, userId, filename⟩
    h.coherent hr
  have hsetting := (kept_sameSetting w).finish settings
    ⟨.submission, projectId, userId, filename⟩ (.refl w) hr
  refine ⟨hcoherent, hsetting.submissionStatuses ▸ h.names, ?_, ?_⟩
  · intro p hp
    rw [project?, hsetting.projects] at hp
    exact h.single p hp
  · let v := (w.received ⟨.submission, projectId, userId, filename⟩ a).addSubmission
      (a.submission active w.nextUpload) (toString userId)
    have hv : v.Coherent := (h.coherent.addUpload _ _).addSubmission _ _
    have hrelinked := candidates_relink settings hv (r := a.resource) hr
      w.freeSubmission (toString userId) projectId userId Category.submission.rule.roleNames
    rw [candidates, roleIds, hresources, hsetting.roles]
    exact hrelinked.trans h.acting

/-- **The next general submission.**  Its resource has no submission, or one that is active and
before it only retired ones.  Then it is answered, and afterwards it is the one that is active; or
it fails, and two are. -/
theorem next (hown : w.ofResource resourceId = [] ∨
      SoleActive settings active deleted resourceId w)
    (hfresh : w.screens w.freeSubmission = false) :
    let request : UploadRequest := ⟨.submission, projectId, userId, filename⟩
    if w.ofResource resourceId = [] ∨
        settings.deletedStatus ∈ StatusTable.listed settings.activeStatus then
      ∃ v, w.finish settings request a = (.ok w.freeSubmission, v) ∧
        Standing settings projectId userId resourceId active deleted v ∧
        SoleActive settings active deleted resourceId v ∧
        v.submissions.filter (·.isActive settings resourceId) = [w.fresh request a active]
    else
      ∃ s v, w.finish settings request a =
          (.error (.service (.illegalTransition (.text settings.activeStatus)
            (.text settings.deletedStatus)
            (.ofTexts (StatusTable.listed settings.activeStatus)))), v) ∧
        v.submissions.filter (·.isActive settings resourceId) = [s, w.fresh request a active] := by
  intro request
  obtain rfl := h.resource_id ha
  have hcreates : request.rule.createsSubmission = true := rfl
  have hsupersedes : a.supersedes settings request = true := h.supersedes ha
  have huser : Text.writable userId := writable_of_admission settings request ha
  split
  · rename_i hmovable
    have hids : ∀ s ∈ w.ofResource a.resource.id, 0 ≤ s.id := by
      intro s hs
      rcases hown with hnone | ⟨retired, x, hlist, -, hx, hretired, -⟩
      · rw [hnone] at hs
        cases hs
      · rw [hlist] at hs
        rcases List.mem_append.1 hs with hs | hs
        · exact (hretired s hs).2
        · exact List.mem_singleton.1 hs ▸ hx
    have hmoves : ∀ s ∈ w.ofResource a.resource.id, s.checkMove settings deleted = .ok () := by
      intro s hs
      rcases hown with hnone | ⟨retired, x, hlist, hactive, -, hretired, -⟩
      · rw [hnone] at hs
        cases hs
      · have hlisted : settings.deletedStatus ∈ StatusTable.listed settings.activeStatus :=
          hmovable.resolve_left fun hnone => by simp [hlist] at hnone
        rw [hlist] at hs
        rcases List.mem_append.1 hs with hs | hs
        · exact h.names.checkMove_deleted (hretired s hs).1
        · rw [List.mem_singleton.1 hs, h.names.checkMove_active hactive, if_pos hlisted]
    have hfinish := finish_of_movable h.coherent h.names huser hcreates hsupersedes hfresh hids
      hmoves
    have hstanding := h.finish ha (by rw [hfinish]; rfl)
    rw [hfinish] at hstanding
    refine ⟨_, hfinish, hstanding, ?_, ?_⟩
    · refine ⟨(w.outdated request a active deleted).filter (·.resourceId == some a.resource.id),
        w.fresh request a active, ?_, rfl, h.coherent.freeSubmission_nonneg, ?_, ?_⟩
      · rw [ofResource, submissions_retired_sent, List.filter_append, List.filter_singleton]
        simp [fresh, StoredSubmission.created, Admission.submission]
      · intro x hx
        obtain ⟨hx, hresource⟩ := List.mem_filter.1 hx
        obtain ⟨hstatus, s, hs, hid⟩ := status_of_outdated hx (by simpa using hresource)
        exact ⟨hstatus, hid ▸ hids s hs⟩
      · refine hmovable.imp_left fun hnone => List.filter_eq_nil_iff.2 fun x hx hresource => ?_
        obtain ⟨-, s, hs, -⟩ := status_of_outdated hx (by simpa using hresource)
        rw [hnone] at hs
        cases hs
    · rw [submissions_retired_sent]
      exact filter_isActive_retired h.names
  · rename_i hrefused
    obtain ⟨hsome, hlisted⟩ := not_or.1 hrefused
    obtain ⟨retired, s, hlist, hactive, hid, -, hnone⟩ := hown.resolve_left hsome
    rw [hnone.resolve_right hlisted, List.nil_append] at hlist
    obtain ⟨hfinish, htwo⟩ := finish_of_refused h.coherent h.names huser hcreates hsupersedes
      hfresh hlist hid hactive hlisted
    exact ⟨s, _, hfinish, htwo⟩

omit ha

/-- A general submission that is answered keeps everything that is asked for, and is the active one
afterwards. -/
theorem of_takeIn_ok (hown : w.ofResource resourceId = [] ∨
      SoleActive settings active deleted resourceId w) {filename : Value} {n : Int} {v : World}
    (hok : w.takeIn settings (.category .submission) (.int projectId) (.int userId) filename =
      (.ok n, v)) :
    Standing settings projectId userId resourceId active deleted v ∧
      SoleActive settings active deleted resourceId v := by
  unfold World.takeIn at hok
  split at hok
  · simp at hok
  · rename_i request hrequest
    split at hok
    · simp at hok
    · rename_i a ha
      obtain ⟨hcategory, ⟨hproject, -⟩, ⟨huser, -⟩, -⟩ :=
        UploadRequest.ofFields_eq_ok_iff.1 hrequest
      obtain ⟨c, p, q, f⟩ := request
      obtain rfl := Value.category.inj hcategory
      obtain rfl := Value.int.inj hproject
      obtain rfl := Value.int.inj huser
      have hfresh : w.screens w.freeSubmission = false := by
        rw [Bool.eq_false_iff]
        intro hscreened
        rw [finish_of_creates (writable_of_admission settings _ ha) rfl (h.supersedes ha)
          h.names.active h.names.deleted, if_pos hscreened] at hok
        simp at hok
      have hnext := h.next ha hown hfresh
      dsimp only at hnext
      split at hnext
      · obtain ⟨v', hfinish, hstanding, hsole, -⟩ := hnext
        obtain ⟨-, rfl⟩ := Prod.mk.inj (hfinish.symm.trans hok)
        exact ⟨hstanding, hsole⟩
      · obtain ⟨s, v', hfinish, -⟩ := hnext
        rw [hfinish] at hok
        simp at hok

end Standing

end World

/-- Take in general submissions of a user, one after the other; the first that fails ends it. -/
def Reception.takeInEach (settings : Settings) (projectId userId : Int) :
    List Value → Program Unit
  | [] => pure ()
  | filename :: rest => do
      let _ ← takeIn settings (.category .submission) (.int projectId) (.int userId) filename
      takeInEach settings projectId userId rest

namespace World

variable {w : World} {settings : Settings} {projectId userId resourceId : Int}
  {active deleted : StoredLookup}

/-- The world after some general submissions of a user. -/
def submitted (w : World) (settings : Settings) (projectId userId : Int)
    (filenames : List Value) : World :=
  filenames.foldl (fun u filename => (u.takeIn settings (.category .submission) (.int projectId)
    (.int userId) filename).2) w

/-- After general submissions that were all answered, the last is the active one. -/
theorem Standing.submitted (h : Standing settings projectId userId resourceId active deleted w)
    (hown : w.ofResource resourceId = [] ∨ SoleActive settings active deleted resourceId w)
    (filenames : List Value) {s : Platform Memory.Catalog}
    (hdone : (Reception.takeInEach settings projectId userId filenames).outcome Platform.answer
      w.platform = (.ok (), s)) :
    s = (w.submitted settings projectId userId filenames).platform ∧
      Standing settings projectId userId resourceId active deleted
        (w.submitted settings projectId userId filenames) ∧
      (filenames = [] ∨ SoleActive settings active deleted resourceId
        (w.submitted settings projectId userId filenames)) := by
  induction filenames generalizing w with
  | nil => exact ⟨(Prod.mk.inj hdone).2.symm, h, .inl rfl⟩
  | cons filename rest ih =>
      have hfirst := outcome_takeIn settings h.coherent (.category .submission) (.int projectId)
        (.int userId) filename
      rcases htaken : w.takeIn settings (.category .submission) (.int projectId) (.int userId)
        filename with ⟨e | n, v⟩
      · rw [htaken] at hfirst
        rw [Reception.takeInEach, outcome_bind_error hfirst] at hdone
        cases (Prod.mk.inj hdone).1
      · rw [htaken] at hfirst
        rw [Reception.takeInEach, outcome_bind_ok hfirst] at hdone
        obtain ⟨hstanding, hsole⟩ := h.of_takeIn_ok hown htaken
        obtain ⟨hs, hlast, hsoleLast⟩ := ih hstanding (.inr hsole) hdone
        have hv : (w.takeIn settings (.category .submission) (.int projectId) (.int userId)
          filename).2 = v := congrArg Prod.snd htaken
        rw [World.submitted, List.foldl_cons, hv]
        refine ⟨hs, hlast, .inr ?_⟩
        rcases hsoleLast with rfl | hsoleLast
        · exact hsole
        · exact hsoleLast

end World

/-- **Where statuses are renamed.**  Moves are enforced, the names of the two statuses are different
and in the catalog, the project does not allow multiple submissions, and the user's resource has no
submission at the start.  Then some general submissions of the user are taken in, all with success,
and one more is admitted.  Unless its number was sent to screening before, it is answered and is the
only active one exactly if it is the first or the table lists the move from the one name to the
other.  Otherwise it fails with this move when it has been entered, and two are active. -/
theorem retiring_renamed {w : World} (hreached : Reached w.platform) {settings : Settings}
    {active deleted : StoredLookup}
    (hnames : Renamed settings w.submissionStatuses active deleted) {projectId userId : Int}
    (hsingle : ∀ p, w.project? projectId = some p → p.affirms settings.allowMultiple = false)
    {r : StoredResource}
    (hacting : w.candidates settings projectId userId Category.submission.rule.roleNames = [r])
    (hnone : ∀ s ∈ w.submissions, s.resourceId ≠ some r.id) (filenames : List Value)
    {t t' : Trail (Platform Memory.Catalog)} (ht : t.state = w.platform)
    (hdone : (Reception.takeInEach settings projectId userId filenames).run Platform.answer t =
      (.ok (), t'))
    {filename : Value} {request : UploadRequest} {a : Admission}
    (hrequest : UploadRequest.ofFields [("category", .category .submission),
      ("project_id", .int projectId), ("user_id", .int userId), ("filename", filename)] =
        .ok request)
    (hadmitted : (w.submitted settings projectId userId filenames).admission settings request =
      .ok a) :
    let u := w.submitted settings projectId userId filenames
    let ran := (Reception.takeIn settings (.category .submission) (.int projectId) (.int userId)
      filename).run Platform.answer t'
    t'.state = u.platform ∧ ∃ v : World, ran.2.state = v.platform ∧
      if u.screens u.freeSubmission then
        ran.1 = .error (screeningConflict u.freeSubmission)
      else if filenames = [] ∨
          settings.deletedStatus ∈ StatusTable.listed settings.activeStatus then
        ∃ n s, ran.1 = .ok (.int n) ∧
          v.submissions.filter (·.isActive settings r.id) = [s] ∧ s.id = n
      else
        ran.1 = .error (.service (.illegalTransition (.text settings.activeStatus)
            (.text settings.deletedStatus)
            (.ofTexts (StatusTable.listed settings.activeStatus)))) ∧
          ∃ s s', v.submissions.filter (·.isActive settings r.id) = [s, s'] := by
  intro u ran
  have hstart : Standing settings projectId userId r.id active deleted w :=
    ⟨hreached.coherent, hnames, hsingle, by rw [hacting]; rfl⟩
  have hown : w.ofResource r.id = [] :=
    List.filter_eq_nil_iff.2 fun s hs howner => hnone s hs (by simpa using howner)
  have houtcome : (Reception.takeInEach settings projectId userId filenames).outcome
      Platform.answer w.platform = (.ok (), t'.state) := by
    rw [← ht, ← run_outcome, hdone]
  obtain ⟨hstate, hstanding, hsole⟩ := hstart.submitted (.inl hown) filenames houtcome
  have hownLast : (filenames = [] ∧ u.ofResource r.id = []) ∨
      SoleActive settings active deleted r.id u := by
    rcases hsole with rfl | hsole
    · exact .inl ⟨rfl, hown⟩
    · exact .inr hsole
  have hfirst : u.ofResource r.id = [] ↔ filenames = [] := by
    constructor
    · intro hempty
      rcases hownLast with ⟨hnil, -⟩ | ⟨retired, s, hlist, -⟩
      · exact hnil
      · simp [hlist] at hempty
    · rintro rfl
      exact hown
  obtain ⟨hcategory, ⟨hproject, -⟩, ⟨huser, -⟩, -⟩ := UploadRequest.ofFields_eq_ok_iff.1 hrequest
  obtain ⟨c, p, q, f⟩ := request
  obtain rfl := Value.category.inj hcategory
  obtain rfl := Value.int.inj hproject
  obtain rfl := Value.int.inj huser
  have htaken : u.takeIn settings (.category .submission) (.int projectId) (.int userId)
      filename = u.finish settings ⟨.submission, projectId, userId, f⟩ a := by
    rw [World.takeIn, hrequest]
    dsimp only
    rw [hadmitted]
  have hran := outcome_takeIn settings hstanding.coherent (.category .submission) (.int projectId)
    (.int userId) filename
  rw [htaken] at hran
  refine ⟨hstate, (u.finish settings ⟨.submission, projectId, userId, f⟩ a).2, ?_, ?_⟩
  · rw [run_state, hstate, hran]
  have hresult : ran.1 = (u.finish settings ⟨.submission, projectId, userId, f⟩ a).1.map .int := by
    rw [run_result, hstate, hran]
  rw [hresult]
  by_cases hscreened : u.screens u.freeSubmission
  · rw [if_pos hscreened, finish_of_creates (writable_of_admission settings _ hadmitted) rfl
      (hstanding.supersedes hadmitted) hstanding.names.active hstanding.names.deleted,
      if_pos hscreened]
    rfl
  · have hnext := hstanding.next hadmitted (hownLast.imp_left And.right)
      (Bool.eq_false_iff.2 hscreened)
    dsimp only at hnext
    rw [if_neg hscreened]
    by_cases hmovable : filenames = [] ∨
      settings.deletedStatus ∈ StatusTable.listed settings.activeStatus
    · rw [if_pos (hmovable.imp_left hfirst.2)] at hnext
      obtain ⟨v, hfinish, -, -, hlive⟩ := hnext
      rw [if_pos hmovable, hfinish]
      exact ⟨_, _, rfl, hlive, rfl⟩
    · rw [if_neg (mt (Or.imp_left hfirst.1) hmovable)] at hnext
      obtain ⟨s, v, hfinish, htwo⟩ := hnext
      rw [if_neg hmovable, hfinish]
      exact ⟨rfl, s, _, htwo⟩

/-- Two submissions under the default names: the table lists the move, and the second submission is
the only active one. -/
theorem retiring_renamed_openContest :
    let settings : Settings := { enforceMoves := true }
    let u := (openContest []).submitted settings 1 10 [.text "a.zip"]
    let first := (Reception.takeInEach settings 1 10 [.text "a.zip"]).run Platform.answer
      { state := (openContest []).platform }
    let second := (Reception.takeIn settings (.category .submission) (.int 1) (.int 10)
      (.text "b.zip")).run Platform.answer first.2
    first.1 = .ok () ∧ u.screens u.freeSubmission = false ∧
      ∃ (n : Int) (v : World) (s : StoredSubmission), second.1 = .ok (.int n) ∧
        second.2.state = v.platform ∧
        v.submissions.filter (·.isActive settings 1) = [s] ∧ s.id = n := by
  intro settings u first second
  have hnames : Renamed settings (openContest []).submissionStatuses
      { id := 1, name := "Active" } { id := 5, name := "Deleted" } :=
    ⟨numbered_openContest [], rfl, rfl, by decide, rfl⟩
  have hfirst : first.1 = .ok () := by
    rw [run_result]
    decide +kernel
  have hfresh : u.screens u.freeSubmission = false := by decide +kernel
  have hpasses : (u.admission settings ⟨.submission, 1, 10, "b.zip"⟩).isOk = true := by
    decide +kernel
  have hrequest : UploadRequest.ofFields [("category", .category .submission),
      ("project_id", .int 1), ("user_id", .int 10), ("filename", .text "b.zip")] =
        .ok ⟨.submission, 1, 10, "b.zip"⟩ := rfl
  rcases hadmitted : u.admission settings ⟨.submission, 1, 10, "b.zip"⟩ with e | a
  · rw [hadmitted] at hpasses
    cases hpasses
  · obtain ⟨-, v, hv, hran⟩ := retiring_renamed (reached_openContest []) hnames
      (by
        intro p hp
        obtain rfl := Option.some.inj hp
        rfl)
      (r := { id := 1, projectId := 1, roleId := 1,
              extensionProperties := [("External Reference ID", "10")] })
      rfl (by simp [openContest, withProject, withPhase, withResource]) [.text "a.zip"]
      (t := { state := (openContest []).platform }) rfl (Prod.ext hfirst rfl)
      hrequest hadmitted
    rw [if_neg (by rw [hfresh]; decide), if_pos (by decide)] at hran
    obtain ⟨n, s, hn, hlive, hid⟩ := hran
    exact ⟨hfirst, hfresh, n, v, s, hn, hv, hlive, hid⟩

/-- **A renamed status may not be retired.**  The active status is called "Live" and the deleted one
"Gone", and moves are enforced.  The table does not know "Live", so the second submission fails when
it has been entered, and both are live. -/
theorem second_refused_if_renamed :
    let settings : Settings :=
      { activeStatus := "Live", deletedStatus := "Gone", enforceMoves := true }
    let w := contestWith ["Live"] ["Live", "Gone"] []
    let submit (filename : String) := Reception.takeIn settings (.category .submission) (.int 1)
      (.int 10) (.text filename)
    let first := (submit "a.zip").run Platform.answer { state := w.platform }
    let second := (submit "b.zip").run Platform.answer first.2
    Reached w.platform ∧ first.1 = .ok (.int 1) ∧
      second.1 = .error (.service
        (.illegalTransition (.text "Live") (.text "Gone") (.ofTexts []))) ∧
      second.2.state.catalog.submissions.numbers = [1, 2] ∧
      second.2.state.catalog.statusName? 1 = some "Live" ∧
      second.2.state.catalog.statusName? 2 = some "Live" := by
  intro settings w submit first second
  refine ⟨reached_contestWith _ _ _, ?_, ?_, ?_, ?_, ?_⟩ <;> decide +kernel

end ContestUploads
