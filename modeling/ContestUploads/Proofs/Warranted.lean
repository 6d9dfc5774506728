import ContestUploads.Proofs.Effect
import ContestUploads.Proofs.Written

/-!
# Writes that the stores warrant

A call at the desk hands over nothing that it makes up.  A new submission names an upload and a
resource that are stored, a submission that is stored once more is a stored one with a status of the
catalog, and a number is linked or sent to screening only if it is that of a stored submission of
the resource.  `Write.Warranted` says this of one write, in the world that the write finds, and
`World.Warrants` of several, each in the world that the writes before it left.

Nothing is asked of the start (`DeskCall.warrants_writes`), so whatever warranted writes keep is
kept at every point of a call (`World.Warrants.kept`).
-/

namespace ContestUploads

/-- An upload that was made through a resource, as a general submission. -/
structure StoredUpload.SubmittedThrough (settings : Settings) (u : StoredUpload)
    (r : StoredResource) : Prop where
  type : u.type.map StoredLookup.name = some "Submission"
  project : u.projectId = r.projectId
  owner : r.extensionProperties.lookup settings.externalReference = some (toString u.owner)

/-- A write in a world that warrants it. -/
inductive Write.Warranted (settings : Settings) (w : World) : Write → Prop
  | upload (draft : StoredUpload) (operator : String) :
      Warranted settings w (.upload draft operator)
  | submission {u : StoredUpload} {r : StoredResource} {active : StoredLookup}
      (hu : u ∈ w.uploads) (hr : r ∈ w.resources) (hactive : active ∈ w.submissionStatuses)
      (hthrough : u.SubmittedThrough settings r) :
      Warranted settings w (.submission
        { id := 0, status := some active, uploadId := some u.id, resourceId := some r.id }
        (toString u.owner))
  | again {s : StoredSubmission} {l : StoredLookup} (hs : s ∈ w.submissions)
      (hl : l ∈ w.submissionStatuses) (operator : String) :
      Warranted settings w (.again (s.withStatus l) operator)
  | resource {r : StoredResource} {s : StoredSubmission} (hr : r ∈ w.resources)
      (hs : s ∈ w.submissions) (howner : s.resourceId = some r.id) (operator : String) :
      Warranted settings w (.resource (r.link s.id) operator)
  | screening {r : StoredResource} {s : StoredSubmission} (hr : r ∈ w.resources)
      (hs : s ∈ w.submissions) (howner : s.resourceId = some r.id)
      (hlinked : s.id ∈ r.submissions) (operator : String) :
      Warranted settings w (.screening s.id operator)

namespace World

/-- Each of some writes is warranted in the world that it finds. -/
def Warrants (settings : Settings) : World → List Write → Prop
  | _, [] => True
  | w, x :: rest => x.Warranted settings w ∧ Warrants settings (x.onto w) rest

theorem after_append (w : World) (first later : List Write) :
    w.after (first ++ later) = (w.after first).after later :=
  List.foldl_append

variable {w : World} {settings : Settings}

theorem Warrants.append {first later : List Write} (hfirst : w.Warrants settings first)
    (hlater : (w.after first).Warrants settings later) :
    w.Warrants settings (first ++ later) := by
  induction first generalizing w with
  | nil => exact hlater
  | cons x rest ih => exact ⟨hfirst.1, ih hfirst.2 hlater⟩

/-- **Along warranted writes.**  What each warranted write keeps, any first part of them keeps. -/
theorem Warrants.kept {p : World → Prop} {writes : List Write}
    (hwrites : w.Warrants settings writes) (hcoherent : w.Coherent) (h : p w)
    (hstep : ∀ (v : World), ∀ x ∈ writes, v.Coherent → x.Warranted settings v → p v →
      p (x.onto v)) (j : Nat) : p (w.after (writes.take j)) := by
  induction writes generalizing w j with
  | nil =>
      rw [List.take_nil]
      exact h
  | cons x rest ih =>
      cases j with
      | zero => exact h
      | succ j =>
          have hx := hstep w x List.mem_cons_self hcoherent hwrites.1 h
          have hlater := fun v y hy => hstep v y (List.mem_cons_of_mem x hy)
          exact ih hwrites.2 (Write.coherent_onto hcoherent x) hx hlater j

section Storing

/-! Storing a record over another one: what was there is there in a new form, and what is there has
an old form. -/

theorem onto_again {s : StoredSubmission} (hs : s ∈ w.submissions) (l : StoredLookup)
    (operator : String) : (Write.again (s.withStatus l) operator).onto w =
      w.putSubmission (s.withStatus l) operator := by
  have hstored : (s.withStatus l).id ∈ w.submissions.map StoredSubmission.id :=
    List.mem_map.2 ⟨s, hs, rfl⟩
  exact if_pos hstored

theorem onto_link {r : StoredResource} (hr : r ∈ w.resources) (n : Int) (operator : String) :
    (Write.resource (r.link n) operator).onto w = w.putResource (r.link n) operator := by
  have hstored : (r.link n).id ∈ w.resources.map StoredResource.id := by
    rw [StoredResource.link_id]
    exact List.mem_map.2 ⟨r, hr, rfl⟩
  exact if_pos hstored

/-- What a submission becomes when it is stored again with another status. -/
def restatus (w : World) (s : StoredSubmission) (l : StoredLookup) (operator : String)
    (x : StoredSubmission) : StoredSubmission :=
  if x.id = s.id then (s.withStatus l).stamped operator w.now else x

theorem submissions_restatus (s : StoredSubmission) (l : StoredLookup) (operator : String) :
    (w.putSubmission (s.withStatus l) operator).submissions =
      w.submissions.map (w.restatus s l operator) := rfl

/-- All but the status and the stamp of a change stays as it was. -/
theorem restatus_eq (h : w.Coherent) {s x : StoredSubmission} (hs : s ∈ w.submissions)
    (hx : x ∈ w.submissions) (l : StoredLookup) (operator : String) :
    w.restatus s l operator x = x ∨
      w.restatus s l operator x = (x.withStatus l).stamped operator w.now := by
  unfold restatus
  by_cases hid : x.id = s.id
  · have hsame : x = s := by
      have hfound := submission?_of_mem h hx
      rw [hid, submission?_of_mem h hs] at hfound
      exact (Option.some.inj hfound).symm
    right
    rw [if_pos hid, hsame]
  · left
    exact if_neg hid

/-- What a resource becomes when one is stored with a submission linked. -/
def relink (w : World) (r : StoredResource) (n : Int) (operator : String)
    (x : StoredResource) : StoredResource :=
  if x.id = (r.link n).id then (r.link n).stamped operator w.now else x

theorem resources_relink (r : StoredResource) (n : Int) (operator : String) :
    (w.putResource (r.link n) operator).resources = w.resources.map (w.relink r n operator) := rfl

/-- A resource stays whose it was, and its list only grows. -/
theorem relink_eq (h : w.Coherent) {r x : StoredResource} (hr : r ∈ w.resources)
    (hx : x ∈ w.resources) (n : Int) (operator : String) :
    w.relink r n operator x = x ∨
      x = r ∧ w.relink r n operator x = (r.link n).stamped operator w.now := by
  unfold relink
  rw [StoredResource.link_id]
  by_cases hid : x.id = r.id
  · have hsame : x = r := List.inj_on_of_nodup_map h.resources hx hr hid
    right
    exact ⟨hsame, if_pos hid⟩
  · left
    exact if_neg hid

theorem relink_identity (h : w.Coherent) {r x : StoredResource} (hr : r ∈ w.resources)
    (hx : x ∈ w.resources) (n : Int) (operator : String) :
    (w.relink r n operator x).id = x.id ∧
      (w.relink r n operator x).projectId = x.projectId ∧
      (w.relink r n operator x).extensionProperties = x.extensionProperties ∧
      ∀ m ∈ x.submissions, m ∈ (w.relink r n operator x).submissions := by
  rcases relink_eq h hr hx n operator with hsame | ⟨rfl, hsame⟩
  · rw [hsame]
    exact ⟨rfl, rfl, rfl, fun m hm => hm⟩
  · rw [hsame, StoredResource.stamped_link]
    refine ⟨rfl, rfl, rfl, fun m hm => ?_⟩
    dsimp only
    split
    · exact hm
    · exact List.mem_append_left _ hm

end Storing

section Leading

/-! The writes of a service lead to the world that the service leaves. -/

variable (settings)

theorem after_changeStatusWrites (w : World) (submissionId statusId operator : Value) :
    w.after (w.changeStatusWrites settings submissionId statusId operator) =
      (w.changeStatus settings submissionId statusId operator).2 := by
  rcases changeStatus_cases settings w submissionId statusId operator with
    ⟨e, hresult, hwrites⟩ | ⟨request, s, l, -, hfound, -, -, hresult, hwrites⟩
  · rw [hresult, hwrites]
    rfl
  · rw [hresult, hwrites]
    exact onto_again (mem_of_submission? hfound).1 l _

theorem after_retireEachWrites (deleted : StoredLookup) (operator : String) (spared : List Int)
    (listed : List StoredSubmission) (w : World) :
    w.after (retireEachWrites settings deleted operator spared listed w) =
      (retireEach settings deleted operator spared listed w).2 := by
  induction listed generalizing w with
  | nil => rfl
  | cons s rest ih =>
      rw [retireEachWrites, retireEach]
      by_cases hs : s.id ∈ spared
      · rw [if_pos hs, if_pos hs]
        exact ih w
      · have hchanged := after_changeStatusWrites settings w (.int s.id) (.int deleted.id)
          (.text operator)
        rw [if_neg hs, if_neg hs, after_append, hchanged]
        rcases hresult : w.changeStatus settings (.int s.id) (.int deleted.id) (.text operator)
          with ⟨e | changed, u⟩
        · rfl
        · have hstored := (isVersion_of_mem (mem_of_changeStatus settings hresult).1).id_mem
          have honce : (Write.again changed operator).onto u = u.putSubmission changed operator :=
            if_pos hstored
          show World.after ((Write.again changed operator).onto u) _ = _
          dsimp only
          rw [honce, ih]
          rcases retireEach settings deleted operator spared rest (u.putSubmission changed operator)
            with ⟨e | later, v⟩ <;> rfl

theorem after_supersedeWrites (w : World) (request : UploadRequest) (a : Admission)
    (spared : List Int) (id : Int) :
    w.after (w.supersedeWrites settings request a spared) =
      (w.supersede settings request a spared id).2 := by
  unfold supersedeWrites supersede retireSupersededWrites retireSuperseded
  split
  · rcases w.demandDeleted settings request.userId with e | deleted
    · rfl
    · dsimp only
      rw [after_retireEachWrites]
      rcases retireEach settings deleted (toString request.userId) spared
        (w.ofResource a.resource.id) w with ⟨e | ids, u⟩ <;> rfl
  · rfl

theorem after_enterWrites (request : UploadRequest) {a : Admission}
    (hr : a.resource ∈ w.resources) (uploadId : Int) :
    w.after (w.enterWrites settings request a uploadId) =
      (w.enter settings request a uploadId).2 := by
  unfold enterWrites enter
  rcases known w.submissionStatuses settings.activeStatus Lookup.submissionStatusKind
    with e | active
  · rfl
  · let v := w.addSubmission (a.submission active uploadId) request.operator
    have hlinked : (Write.resource (a.resource.link w.freeSubmission) request.operator).onto v =
        w.entered request a active uploadId := onto_link (w := v) hr _ _
    show (Write.screening w.freeSubmission request.operator).onto (Write.onto _ v) = _
    rw [hlinked, Write.onto]
    dsimp only
    split <;> rfl

theorem after_finishWrites (request : UploadRequest) {a : Admission}
    (hr : a.resource ∈ w.resources) :
    w.after (w.finishWrites settings request a) = (w.finish settings request a).2 := by
  show (w.received request a).after _ = _
  unfold followUpWrites finish
  dsimp only
  split
  · have hentered := after_enterWrites settings (w := w.received request a) request hr w.nextUpload
    rw [after_append, hentered]
    rcases (w.received request a).enter settings request a w.nextUpload with ⟨e | n, v⟩
    · rfl
    · exact after_supersedeWrites settings v request a [n] n
  · exact after_supersedeWrites settings _ request a [] w.nextUpload

/-- The writes of an upload lead to the world that it leaves. -/
theorem after_takeInWrites (w : World) (category projectId userId filename : Value) :
    w.after (w.takeInWrites settings category projectId userId filename) =
      (w.takeIn settings category projectId userId filename).2 := by
  unfold takeInWrites takeIn
  rcases UploadRequest.ofFields [("category", category), ("project_id", projectId),
      ("user_id", userId), ("filename", filename)] with e | request
  · rfl
  · dsimp only
    rcases ha : w.admission settings request with e | a
    · rfl
    · have hr := mem_of_onlyCandidate settings ((admission_eq_ok_iff settings request).1 ha).2.1
      exact after_finishWrites settings request hr

end Leading

section Warranting

variable (settings)

theorem warrants_changeStatusWrites (w : World) (submissionId statusId operator : Value) :
    w.Warrants settings (w.changeStatusWrites settings submissionId statusId operator) := by
  rcases changeStatus_cases settings w submissionId statusId operator with
    ⟨e, -, hwrites⟩ | ⟨request, s, l, -, hfound, hstatus, -, -, hwrites⟩
  · rw [hwrites]
    trivial
  · rw [hwrites]
    exact ⟨.again (mem_of_submission? hfound).1 (List.mem_of_find?_eq_some hstatus) _, trivial⟩

theorem warrants_retireEachWrites (deleted : StoredLookup) (operator : String)
    (spared : List Int) (listed : List StoredSubmission) (w : World) :
    w.Warrants settings (retireEachWrites settings deleted operator spared listed w) := by
  induction listed generalizing w with
  | nil => trivial
  | cons s rest ih =>
      rw [retireEachWrites]
      by_cases hs : s.id ∈ spared
      · rw [if_pos hs]
        exact ih w
      · rw [if_neg hs]
        refine (warrants_changeStatusWrites settings w _ _ _).append ?_
        rw [after_changeStatusWrites]
        rcases hresult : w.changeStatus settings (.int s.id) (.int deleted.id) (.text operator)
          with ⟨e | changed, u⟩
        · trivial
        · obtain ⟨hmem, l, hl, hstatus⟩ := mem_of_changeStatus settings hresult
          -- the second time, the submission is stored with the status that it has
          have hsame : changed.withStatus l = changed := by
            rw [StoredSubmission.withStatus, ← hstatus]
          have hagain : (Write.again changed operator).Warranted settings u :=
            hsame ▸ .again hmem hl operator
          have honce : (Write.again changed operator).onto u = u.putSubmission changed operator :=
            if_pos (isVersion_of_mem hmem).id_mem
          refine ⟨hagain, ?_⟩
          rw [honce]
          exact ih _

theorem warrants_supersedeWrites (w : World) (request : UploadRequest) (a : Admission)
    (spared : List Int) :
    w.Warrants settings (w.supersedeWrites settings request a spared) := by
  unfold supersedeWrites retireSupersededWrites
  split
  · split
    · trivial
    · exact warrants_retireEachWrites settings _ _ _ _ w
  · trivial

/-- What is entered for an upload names that upload and the resource it was made through. -/
theorem warrants_enterWrites (request : UploadRequest) {a : Admission}
    (hr : a.resource ∈ w.resources) {u : StoredUpload} (hu : u ∈ w.uploads)
    (howner : u.owner = request.userId) (hthrough : u.SubmittedThrough settings a.resource) :
    w.Warrants settings (w.enterWrites settings request a u.id) := by
  unfold enterWrites
  rcases hactive : known w.submissionStatuses settings.activeStatus Lookup.submissionStatusKind
    with e | active
  · trivial
  · let n := w.freeSubmission
    let v := w.addSubmission (a.submission active u.id) request.operator
    let s := (a.submission active u.id).created n request.operator w.now
    let x := w.entered request a active u.id
    have hoperator : request.operator = toString u.owner := by
      rw [howner]
      rfl
    have hs : s ∈ v.submissions := List.mem_append_right _ List.mem_cons_self
    have hlinked : (Write.resource (a.resource.link n) request.operator).onto v = x :=
      onto_link (w := v) hr n request.operator
    have hresource : (a.resource.link n).stamped request.operator v.now ∈ x.resources :=
      List.mem_map.2 ⟨a.resource, hr, if_pos (StoredResource.link_id a.resource n).symm⟩
    have hlists : n ∈ ((a.resource.link n).stamped request.operator v.now).submissions := by
      rw [StoredResource.stamped_link]
      dsimp only
      split
      · assumption
      · exact List.mem_append_right _ List.mem_cons_self
    have hkept : a.resource ∈ v.resources := hr
    have hlink : (Write.resource (a.resource.link n) request.operator).Warranted settings v :=
      .resource (s := s) hkept hs rfl _
    have hscreening : (Write.screening n request.operator).Warranted settings x :=
      .screening (s := s) hresource hs (congrArg some (StoredResource.link_id a.resource n).symm)
        hlists _
    refine ⟨?_, hlink, ?_, trivial⟩
    · rw [hoperator]
      exact .submission hu hr (mem_of_known hactive) hthrough
    · show (Write.screening n request.operator).Warranted settings
        ((Write.resource (a.resource.link n) request.operator).onto v)
      rw [hlinked]
      exact hscreening

/-- An upload is admitted with a resource of its user, in its project. -/
theorem resource_of_admission {request : UploadRequest} {a : Admission}
    (ha : w.admission settings request = .ok a) :
    a.resource ∈ w.resources ∧ a.resource.projectId = request.projectId ∧
      a.resource.extensionProperties.lookup settings.externalReference =
        some (toString request.userId) := by
  have hresource := ((admission_eq_ok_iff settings request).1 ha).2.1
  have hcandidate : a.resource ∈ w.candidates settings request.projectId request.userId
      request.rule.roleNames := by
    rw [candidates_of_onlyCandidate settings hresource]
    exact List.mem_cons_self
  have hacts := (List.mem_filter.1 hcandidate).2
  simp only [StoredResource.actsFor, Bool.and_eq_true, beq_iff_eq] at hacts
  exact ⟨mem_of_onlyCandidate settings hresource, hacts.1.2, hacts.2⟩

/-- An upload that creates a submission has the type of submissions and was made through the one
resource of its owner. -/
theorem submittedThrough_of_admission {request : UploadRequest} {a : Admission}
    (ha : w.admission settings request = .ok a) (hcreates : request.rule.createsSubmission)
    (id : Int) (operator : String) (now : Moment) :
    ((request.upload a.type a.status).created id operator now).SubmittedThrough settings
      a.resource := by
  obtain ⟨-, -, -, -, htype, -⟩ := (admission_eq_ok_iff settings request).1 ha
  obtain ⟨-, hproject, howner⟩ := resource_of_admission settings ha
  have hname : a.type.name = "Submission" := by
    rw [(mem_of_named? (known_eq_ok_iff.1 htype)).2]
    revert hcreates
    rw [UploadRequest.rule]
    cases request.category <;> decide
  exact
    { type := congrArg some hname
      project := hproject.symm
      owner := howner }

theorem warrants_finishWrites {request : UploadRequest} {a : Admission}
    (ha : w.admission settings request = .ok a) :
    w.Warrants settings (w.finishWrites settings request a) := by
  have hr := (resource_of_admission settings ha).1
  refine ⟨.upload _ _, ?_⟩
  show (w.received request a).Warrants settings _
  unfold followUpWrites
  by_cases hcreates : request.rule.createsSubmission
  · let u := (request.upload a.type a.status).created w.nextUpload request.operator w.now
    have hu : u ∈ (w.received request a).uploads := List.mem_append_right _ List.mem_cons_self
    have hthrough := submittedThrough_of_admission settings ha hcreates w.nextUpload
      request.operator w.now
    have hkept : a.resource ∈ (w.received request a).resources := hr
    rw [if_pos hcreates]
    have hentering : (w.received request a).Warrants settings
        ((w.received request a).enterWrites settings request a w.nextUpload) :=
      warrants_enterWrites settings request hkept hu rfl hthrough
    have hafter := after_enterWrites settings request hkept w.nextUpload
    refine hentering.append ?_
    rw [hafter]
    rcases (w.received request a).enter settings request a w.nextUpload with ⟨e | n, v⟩
    · trivial
    · exact warrants_supersedeWrites settings v request a [n]
  · rw [if_neg hcreates]
    exact warrants_supersedeWrites settings _ request a []

theorem warrants_takeInWrites (w : World) (category projectId userId filename : Value) :
    w.Warrants settings (w.takeInWrites settings category projectId userId filename) := by
  unfold takeInWrites
  split
  · trivial
  · split
    · trivial
    · rename_i ha
      exact warrants_finishWrites settings ha

end Warranting

end World

/-- **Every write of a call is warranted**, whatever the world holds. -/
theorem DeskCall.warrants_writes (settings : Settings) (w : World) (call : DeskCall) :
    w.Warrants settings (call.writes settings w) := by
  cases call with
  | upload category projectId userId filename =>
      exact World.warrants_takeInWrites settings w category projectId userId filename
  | setSubmissionStatus submissionId statusId operator =>
      exact World.warrants_changeStatusWrites settings w submissionId statusId operator

end ContestUploads
