import ContestUploads.Proofs.Numerals
import ContestUploads.Proofs.Warranted

/-!
# What an upload leaves alone

All that an upload writes is about the one resource that it was admitted with: its submissions, its
list, and new records.  `Write.Concerns` says this of a write, and `World.SameBut` of two worlds
that differ about one resource at most.

What another user sees of the stores is `World.SameFor`: the setting, the resources through which
the user acts, and the submissions of these.  Since a resource is tied to its user by the decimal
numeral of the user's number, and different numbers have different numerals, an upload of one user
leaves all of this alone for every other (`sameFor_takeIn`).
-/

namespace ContestUploads

/-- A write is about a resource, if it is about any. -/
def Write.Concerns (resourceId : Int) : Write → Prop
  | .submission draft _ => draft.resourceId = some resourceId
  | .again s _ => s.resourceId = some resourceId
  | .resource r _ => r.id = resourceId
  | .upload .. => True
  | .screening .. => True

namespace World

/-- A world is the same as another but for what is about a resource. -/
structure SameBut (resourceId : Int) (w u : World) : Prop where
  setting : SameSetting w u
  resources : u.resources.filter (·.id != resourceId) = w.resources.filter (·.id != resourceId)
  /-- Also the resource itself belongs to whom it belonged. -/
  identities : ∀ y ∈ u.resources, ∃ x ∈ w.resources, x.id = y.id ∧
    x.extensionProperties = y.extensionProperties
  submissions : u.submissions.filter (·.resourceId != some resourceId) =
    w.submissions.filter (·.resourceId != some resourceId)

/-- A world looks the same to a user as another. -/
structure SameFor (settings : Settings) (userId : Int) (w u : World) : Prop where
  setting : SameSetting w u
  candidates : ∀ projectId names,
    u.candidates settings projectId userId names = w.candidates settings projectId userId names
  /-- The user's resources are as they were, and so are their submissions. -/
  held : ∀ r ∈ w.resources,
    r.extensionProperties.lookup settings.externalReference = some (toString userId) →
      r ∈ u.resources ∧ u.ofResource r.id = w.ofResource r.id

variable {w u v : World} {settings : Settings} {resourceId : Int}

theorem SameSetting.trans (h : SameSetting w u) (h' : SameSetting u v) : SameSetting w v where
  projects := h'.projects.trans h.projects
  phases := h'.phases.trans h.phases
  roles := h'.roles.trans h.roles
  uploadStatuses := h'.uploadStatuses.trans h.uploadStatuses
  uploadTypes := h'.uploadTypes.trans h.uploadTypes
  submissionStatuses := h'.submissionStatuses.trans h.submissionStatuses

theorem SameBut.refl (resourceId : Int) (w : World) : SameBut resourceId w w where
  setting := .refl w
  resources := rfl
  identities y hy := ⟨y, hy, rfl, rfl⟩
  submissions := rfl

theorem SameBut.trans (h : SameBut resourceId w u) (h' : SameBut resourceId u v) :
    SameBut resourceId w v where
  setting := h.setting.trans h'.setting
  resources := h'.resources.trans h.resources
  submissions := h'.submissions.trans h.submissions
  identities z hz := by
    obtain ⟨y, hy, hid, hproperties⟩ := h'.identities z hz
    obtain ⟨x, hx, hid', hproperties'⟩ := h.identities y hy
    exact ⟨x, hx, hid'.trans hid, hproperties'.trans hproperties⟩

theorem SameFor.refl (settings : Settings) (userId : Int) (w : World) :
    SameFor settings userId w w where
  setting := .refl w
  candidates _ _ := rfl
  held _ hr _ := ⟨hr, rfl⟩

/-- A change of what is left out anyway does not show in what is left. -/
theorem filter_map_eq {α : Type} {f : α → α} {chosen : α → Bool} {xs : List α}
    (hkept : ∀ x ∈ xs, f x = x ∨ chosen x = false ∧ chosen (f x) = false) :
    (xs.map f).filter chosen = xs.filter chosen := by
  induction xs with
  | nil => rfl
  | cons x rest ih =>
      have hrest := ih fun y hy => hkept y (List.mem_cons_of_mem x hy)
      rw [List.map_cons]
      rcases hkept x List.mem_cons_self with hsame | ⟨hx, hfx⟩
      · rw [hsame, List.filter_cons, List.filter_cons, hrest]
      · rw [List.filter_cons_of_neg (by simp [hfx]), List.filter_cons_of_neg (by simp [hx]), hrest]

/-- **A warranted write leaves alone what it is not about.** -/
theorem sameBut_onto (h : w.Coherent) {x : Write} (hx : x.Warranted settings w)
    (hconcerns : x.Concerns resourceId) : SameBut resourceId w (x.onto w) := by
  have hsame := SameBut.refl resourceId w
  cases hx with
  | upload draft operator =>
      exact ⟨⟨rfl, rfl, rfl, rfl, rfl, rfl⟩, rfl, hsame.identities, rfl⟩
  | @submission upload r active hu hr hactive hthrough =>
      refine ⟨⟨rfl, rfl, rfl, rfl, rfl, rfl⟩, rfl, hsame.identities, ?_⟩
      have howner : some r.id = some resourceId := hconcerns
      show (w.submissions ++ [_]).filter _ = _
      rw [List.filter_append]
      simp [StoredSubmission.created, howner]
  | @again s l hs hl operator =>
      rw [onto_again hs]
      refine ⟨⟨rfl, rfl, rfl, rfl, rfl, rfl⟩, rfl, hsame.identities, ?_⟩
      have howner : s.resourceId = some resourceId := hconcerns
      rw [submissions_restatus]
      apply filter_map_eq
      intro y hy
      unfold restatus
      by_cases hid : y.id = s.id
      · have hys : y = s := List.inj_on_of_nodup_map h.submissions hy hs hid
        right
        rw [if_pos hid, hys]
        simp [StoredSubmission.withStatus, StoredSubmission.stamped, howner]
      · left
        exact if_neg hid
  | @resource r s hr hs howner operator =>
      have hid : (r.link s.id).id = resourceId := hconcerns
      rw [StoredResource.link_id] at hid
      rw [onto_link hr]
      refine ⟨⟨rfl, rfl, rfl, rfl, rfl, rfl⟩, ?_, ?_, rfl⟩
      · rw [resources_relink]
        apply filter_map_eq
        intro y hy
        rcases relink_eq h hr hy s.id operator with hy | ⟨rfl, hy⟩
        · exact .inl hy
        · right
          rw [hy]
          simp [StoredResource.stamped, hid]
      · intro y hy
        rw [resources_relink] at hy
        obtain ⟨x, hx, rfl⟩ := List.mem_map.1 hy
        obtain ⟨hsameId, -, hproperties, -⟩ := relink_identity h hr hx s.id operator
        exact ⟨x, hx, hsameId.symm, hproperties.symm⟩
  | @screening r s hr hs howner hlinked operator =>
      rw [Write.onto]
      split
      · exact hsame
      · exact ⟨⟨rfl, rfl, rfl, rfl, rfl, rfl⟩, rfl, hsame.identities, rfl⟩

section Concerning

/-! What an upload writes is about the resource that it was admitted with. -/

/-- Whatever is stored under a number belongs to a resource. -/
def Assigns (w : World) (resourceId n : Int) : Prop :=
  ∀ s ∈ w.submissions, s.id = n → s.resourceId = some resourceId

theorem Assigns.putSubmission {n : Int} (h : w.Assigns resourceId n) {s : StoredSubmission}
    (hs : s.resourceId = some resourceId) (operator : String) :
    (w.putSubmission s operator).Assigns resourceId n := by
  intro y hy hid
  obtain ⟨x, hx, rfl⟩ := List.mem_map.1 hy
  by_cases hsame : x.id = s.id
  · rw [if_pos hsame]
    exact hs
  · rw [if_neg hsame] at hid ⊢
    exact h x hx hid

/-- The submissions of a resource belong to it. -/
theorem assigns_of_mem (h : w.Coherent) {s : StoredSubmission}
    (hs : s ∈ w.ofResource resourceId) : w.Assigns resourceId s.id := by
  intro x hx hid
  obtain ⟨hmem, howner⟩ := List.mem_filter.1 hs
  have hsame : x = s := List.inj_on_of_nodup_map h.submissions hx hmem hid
  rw [hsame]
  simpa using howner

variable (settings)

theorem concerns_retireEachWrites (deleted : StoredLookup) (operator : String)
    (spared : List Int) {listed : List StoredSubmission}
    (hlisted : ∀ s ∈ listed, w.Assigns resourceId s.id) :
    ∀ x ∈ retireEachWrites settings deleted operator spared listed w, x.Concerns resourceId := by
  induction listed generalizing w with
  | nil => intro x hx; cases hx
  | cons s rest ih =>
      have hrest := fun y hy => hlisted y (List.mem_cons_of_mem s hy)
      rw [retireEachWrites]
      by_cases hs : s.id ∈ spared
      · rw [if_pos hs]
        exact ih hrest
      · rw [if_neg hs]
        rcases changeStatus_cases settings w (.int s.id) (.int deleted.id) (.text operator) with
          ⟨e, hresult, hwrites⟩ | ⟨request, y, l, hrequest, hfound, -, -, hresult, hwrites⟩
        · rw [hresult, hwrites]
          intro x hx
          cases hx
        · have hid := (StatusRequest.ofFields_eq_ok_iff.1 hrequest).1.1
          obtain ⟨hy, hfoundId⟩ := mem_of_submission? hfound
          have howner : y.resourceId = some resourceId := by
            apply hlisted s List.mem_cons_self y hy
            rw [hfoundId, Value.int.inj hid]
          let changed := (y.withStatus l).stamped request.operator w.now
          let v := w.putSubmission (y.withStatus l) request.operator
          have hlater : ∀ z ∈ rest,
              (v.putSubmission changed operator).Assigns resourceId z.id := by
            intro z hz
            have honce : v.Assigns resourceId z.id :=
              (hrest z hz).putSubmission (s := y.withStatus l) howner request.operator
            exact honce.putSubmission (s := changed) howner operator
          rw [hresult, hwrites]
          intro x hx
          rcases List.mem_append.1 hx with hx | hx
          · obtain rfl := List.mem_singleton.1 hx
            exact howner
          · rcases List.mem_cons.1 hx with rfl | hx
            · exact howner
            · exact ih hlater x hx

theorem concerns_supersedeWrites (h : w.Coherent) (request : UploadRequest) (a : Admission)
    (spared : List Int) :
    ∀ x ∈ w.supersedeWrites settings request a spared, x.Concerns a.resource.id := by
  intro x hx
  unfold supersedeWrites retireSupersededWrites at hx
  split at hx
  · split at hx
    · cases hx
    · exact concerns_retireEachWrites settings _ _ spared (fun s hs => assigns_of_mem h hs) x hx
  · cases hx

theorem concerns_enterWrites (request : UploadRequest) (a : Admission) (uploadId : Int) :
    ∀ x ∈ w.enterWrites settings request a uploadId, x.Concerns a.resource.id := by
  intro x hx
  unfold enterWrites at hx
  split at hx
  · cases hx
  · simp only [List.mem_cons, List.not_mem_nil, or_false] at hx
    rcases hx with rfl | rfl | rfl
    · exact rfl
    · exact StoredResource.link_id _ _
    · trivial

theorem concerns_finishWrites (h : w.Coherent) (request : UploadRequest) {a : Admission}
    (hr : a.resource ∈ w.resources) :
    ∀ x ∈ w.finishWrites settings request a, x.Concerns a.resource.id := by
  intro x hx
  have hreceived : (w.received request a).Coherent := h.addUpload _ _
  rcases List.mem_cons.1 hx with rfl | hx
  · trivial
  · unfold followUpWrites at hx
    by_cases hcreates : request.rule.createsSubmission
    · rw [if_pos hcreates] at hx
      rcases List.mem_append.1 hx with hx | hx
      · exact concerns_enterWrites settings request a w.nextUpload x hx
      · have hcoherent := hreceived.after
          ((w.received request a).enterWrites settings request a w.nextUpload)
        have hkept : a.resource ∈ (w.received request a).resources := hr
        rw [after_enterWrites settings request hkept] at hcoherent
        rcases hentered : (w.received request a).enter settings request a w.nextUpload
          with ⟨e | n, v⟩
        · rw [hentered] at hx
          cases hx
        · rw [hentered] at hx hcoherent
          exact concerns_supersedeWrites settings hcoherent request a [n] x hx
    · rw [if_neg hcreates] at hx
      exact concerns_supersedeWrites settings hreceived request a [] x hx

/-- An upload that was admitted leaves alone all that is not about its resource, whether it goes
through or not. -/
theorem sameBut_finish (h : w.Coherent) {request : UploadRequest} {a : Admission}
    (ha : w.admission settings request = .ok a) :
    SameBut a.resource.id w (w.finish settings request a).2 := by
  have hr := (resource_of_admission settings ha).1
  have hconcerns := concerns_finishWrites settings h request hr
  have hkept := (warrants_finishWrites settings ha).kept (p := SameBut a.resource.id w) h
    (.refl _ w) (fun v x hx hv hwarranted hsame =>
      hsame.trans (sameBut_onto hv hwarranted (hconcerns x hx)))
    (w.finishWrites settings request a).length
  rw [List.take_length, after_finishWrites settings request hr] at hkept
  exact hkept

end Concerning

/-- None of a user's resources has a number. -/
def Foreign (settings : Settings) (userId : Int) (w : World) (resourceId : Int) : Prop :=
  ∀ x ∈ w.resources,
    x.extensionProperties.lookup settings.externalReference = some (toString userId) →
      x.id ≠ resourceId

/-- A resource of one user is none of another: different numbers have different numerals. -/
theorem foreign_of_owner (h : w.Coherent) {r : StoredResource} (hr : r ∈ w.resources)
    {ownerId userId : Int} (hne : ownerId ≠ userId)
    (howner : r.extensionProperties.lookup settings.externalReference = some (toString ownerId)) :
    Foreign settings userId w r.id := by
  intro x hx hlookup hid
  have hxr : x = r := List.inj_on_of_nodup_map h.resources hx hr hid
  rw [hxr, howner] at hlookup
  exact Text.toString_injective.ne hne (Option.some.inj hlookup)

/-- A foreign resource is not looked at when a user is to act. -/
theorem candidates_of_foreign {userId : Int} (h : Foreign settings userId w resourceId)
    (projectId : Int) (names : List String) :
    w.candidates settings projectId userId names =
      (w.resources.filter (·.id != resourceId)).filter
        (·.actsFor (w.roleIds names) projectId settings.externalReference userId) := by
  rw [candidates, List.filter_filter]
  apply List.filter_congr
  intro x hx
  by_cases hacts : x.actsFor (w.roleIds names) projectId settings.externalReference userId = true
  · have hlookup := hacts
    simp only [StoredResource.actsFor, Bool.and_eq_true, beq_iff_eq] at hlookup
    simp [hacts, h x hx hlookup.2]
  · simp [hacts]

theorem ofResource_of_ne {n : Int} (hne : n ≠ resourceId) :
    w.ofResource n = (w.submissions.filter (·.resourceId != some resourceId)).filter
      (·.resourceId == some n) := by
  rw [ofResource, List.filter_filter]
  apply List.filter_congr
  intro s _
  by_cases hs : s.resourceId = some n
  · simp [hs, hne]
  · simp [hs]

/-- **What is about a foreign resource is nothing to a user.** -/
theorem SameBut.sameFor {userId : Int} (h : Foreign settings userId w resourceId)
    (hsame : SameBut resourceId w u) : SameFor settings userId w u := by
  have hu : Foreign settings userId u resourceId := by
    intro y hy hlookup
    obtain ⟨x, hx, hid, hproperties⟩ := hsame.identities y hy
    rw [← hproperties] at hlookup
    rw [← hid]
    exact h x hx hlookup
  refine ⟨hsame.setting, ?_, ?_⟩
  · intro projectId names
    rw [candidates_of_foreign hu, candidates_of_foreign h, roleIds, roleIds, hsame.setting.roles,
      hsame.resources]
  · intro x hx hlookup
    have hne := h x hx hlookup
    constructor
    · have hmem : x ∈ w.resources.filter (·.id != resourceId) :=
        List.mem_filter.2 ⟨hx, by simpa using hne⟩
      rw [← hsame.resources] at hmem
      exact List.mem_of_mem_filter hmem
    · rw [ofResource_of_ne hne, ofResource_of_ne hne, hsame.submissions]

/-- **An upload leaves alone what other users see**, whether it goes through or not. -/
theorem sameFor_takeIn (h : w.Coherent) {ownerId userId : Int} (hne : ownerId ≠ userId)
    (category projectId filename : Value) :
    SameFor settings userId w
      (w.takeIn settings category projectId (.int ownerId) filename).2 := by
  unfold takeIn
  rcases hrequest : UploadRequest.ofFields [("category", category), ("project_id", projectId),
      ("user_id", .int ownerId), ("filename", filename)] with e | request
  · exact .refl settings userId w
  · dsimp only
    rcases ha : w.admission settings request with e | a
    · exact .refl settings userId w
    · obtain ⟨-, -, ⟨huser, -⟩, -⟩ := UploadRequest.ofFields_eq_ok_iff.1 hrequest
      obtain ⟨hr, -, howner⟩ := resource_of_admission settings ha
      rw [← Value.int.inj huser] at howner
      exact (sameBut_finish settings h ha).sameFor (foreign_of_owner h hr hne howner)

end World

end ContestUploads
