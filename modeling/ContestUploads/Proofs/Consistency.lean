import ContestUploads.Proofs.Reached
import ContestUploads.Proofs.Refusing
import ContestUploads.Proofs.Warranted

/-!
# What the stores say of each other

Submissions are in one store, the lists of the resources in a second, requests for screening in a
third and uploads in a fourth, and a call at the desk that is stopped has written to some of them
only.  `World.Consistent` says that they do not contradict each other all the same, and
`World.Founds` that a submission can be followed back to the upload and to the user that it came
from.

Both are kept by every write that the stores warrant: a new submission is stored before it is listed
and listed before it is sent to screening, its number is fresh, and what is written over a resource
or a submission leaves it to whom it was.  So they hold wherever a call is stopped, and
`consistent_throughout` is the statement about whole runs.
-/

namespace ContestUploads

open World

namespace World

/-- A number is that of a stored submission of a resource. -/
def Owns (w : World) (r : StoredResource) (n : Int) : Prop :=
  ∃ s ∈ w.submissions, s.id = n ∧ s.resourceId = some r.id

/-- The stores do not contradict each other. -/
structure Consistent (w : World) : Prop where
  /-- A resource lists submissions of its own, each once. -/
  listed : ∀ r ∈ w.resources, r.submissions.Nodup ∧ ∀ n ∈ r.submissions, w.Owns r n
  /-- No submission was sent to screening twice. -/
  once : (w.screening.map Prod.fst).Nodup
  /-- What was sent to screening is listed by the resource that it belongs to. -/
  screened : ∀ n ∈ w.screening.map Prod.fst, ∃ r ∈ w.resources, w.Owns r n ∧ n ∈ r.submissions
  /-- A submission has a status of the catalog, or none. -/
  statuses : ∀ s ∈ w.submissions, ∀ l, s.status = some l → l ∈ w.submissionStatuses

/-- A submission came with a stored upload, which its creator made through its resource. -/
def Founds (settings : Settings) (w : World) (s : StoredSubmission) : Prop :=
  ∃ u ∈ w.uploads, ∃ r ∈ w.resources, s.uploadId = some u.id ∧ s.resourceId = some r.id ∧
    u.SubmittedThrough settings r ∧ s.createdBy = some (toString u.owner)

/-- Every submission can be followed back, but for some old ones. -/
def FoundsNew (settings : Settings) (old : List Int) (w : World) : Prop :=
  ∀ s ∈ w.submissions, s.id ∉ old → w.Founds settings s

variable {w u : World} {settings : Settings} {old : List Int}

/-- Submissions that stay, each with its resource, belong to the same resources as before. -/
theorem Owns.imp {r x : StoredResource} {n : Int} (h : w.Owns r n) (hid : x.id = r.id)
    (hstay : ∀ s ∈ w.submissions, ∃ y ∈ u.submissions,
      y.id = s.id ∧ y.resourceId = s.resourceId) : u.Owns x n := by
  obtain ⟨s, hs, hn, howner⟩ := h
  obtain ⟨y, hy, hsame, hresource⟩ := hstay s hs
  refine ⟨y, hy, hsame.trans hn, ?_⟩
  rw [hresource, howner, hid]

/-- Uploads and resources that stay found what they founded before. -/
theorem Founds.imp {s y : StoredSubmission} (h : w.Founds settings s)
    (huploads : ∀ x ∈ w.uploads, x ∈ u.uploads)
    (hresources : ∀ r ∈ w.resources, ∃ x ∈ u.resources, x.id = r.id ∧
      x.projectId = r.projectId ∧ x.extensionProperties = r.extensionProperties)
    (hupload : y.uploadId = s.uploadId) (hresource : y.resourceId = s.resourceId)
    (hcreator : y.createdBy = s.createdBy) : u.Founds settings y := by
  obtain ⟨x, hx, r, hr, hx', hr', hthrough, howner⟩ := h
  obtain ⟨r', hmem, hid, hproject, hproperties⟩ := hresources r hr
  refine ⟨x, huploads x hx, r', hmem, hupload.trans hx', ?_, ?_, hcreator.trans howner⟩
  · rw [hresource, hr', hid]
  · exact ⟨hthrough.type, hthrough.project.trans hproject.symm, hproperties ▸ hthrough.owner⟩

/-- A resource has a new submission linked once, and nothing else. -/
theorem nodup_link {r : StoredResource} (h : r.submissions.Nodup) (n : Int) :
    (r.link n).submissions.Nodup ∧ ∀ m ∈ (r.link n).submissions, m ∈ r.submissions ∨ m = n := by
  unfold StoredResource.link
  by_cases hn : n ∈ r.submissions
  · rw [if_pos hn]
    exact ⟨h, fun m hm => .inl hm⟩
  · rw [if_neg hn]
    refine ⟨?_, ?_⟩
    · apply List.Nodup.append h (List.nodup_singleton n)
      exact List.disjoint_singleton.2 hn
    · intro m hm
      rcases List.mem_append.1 hm with hold | hnew
      · exact .inl hold
      · exact .inr (List.mem_singleton.1 hnew)

namespace Consistent

/-- A submission that is stored again with a status of the catalog. -/
theorem restatus (h : w.Consistent) (hcoherent : w.Coherent) {s : StoredSubmission}
    (hs : s ∈ w.submissions) {l : StoredLookup} (hl : l ∈ w.submissionStatuses)
    (operator : String) : (w.putSubmission (s.withStatus l) operator).Consistent := by
  have hstay : ∀ x ∈ w.submissions,
      ∃ y ∈ (w.putSubmission (s.withStatus l) operator).submissions,
        y.id = x.id ∧ y.resourceId = x.resourceId := by
    intro x hx
    refine ⟨_, List.mem_map.2 ⟨x, hx, rfl⟩, ?_⟩
    show (w.restatus s l operator x).id = x.id ∧ (w.restatus s l operator x).resourceId = _
    rcases restatus_eq hcoherent hs hx l operator with hsame | hsame <;> rw [hsame] <;>
      exact ⟨rfl, rfl⟩
  refine ⟨?_, h.once, ?_, ?_⟩
  · intro r hr
    obtain ⟨hnodup, howns⟩ := h.listed r hr
    exact ⟨hnodup, fun n hn => (howns n hn).imp rfl hstay⟩
  · intro n hn
    obtain ⟨r, hr, howns, hlisted⟩ := h.screened n hn
    exact ⟨r, hr, howns.imp rfl hstay, hlisted⟩
  · intro y hy m hm
    rw [submissions_restatus] at hy
    obtain ⟨x, hx, rfl⟩ := List.mem_map.1 hy
    rcases restatus_eq hcoherent hs hx l operator with hsame | hsame
    · rw [hsame] at hm
      exact h.statuses x hx m hm
    · rw [hsame] at hm
      obtain rfl := Option.some.inj hm
      exact hl

/-- A resource that is stored with a submission of its own linked. -/
theorem relink (h : w.Consistent) (hcoherent : w.Coherent) {r : StoredResource}
    (hr : r ∈ w.resources) {n : Int} (hn : w.Owns r n) (operator : String) :
    (w.putResource (r.link n) operator).Consistent := by
  have hstay : ∀ s ∈ w.submissions, ∃ y ∈ (w.putResource (r.link n) operator).submissions,
      y.id = s.id ∧ y.resourceId = s.resourceId :=
    fun s hs => ⟨s, hs, rfl, rfl⟩
  refine ⟨?_, h.once, ?_, h.statuses⟩
  · intro y hy
    rw [resources_relink] at hy
    obtain ⟨x, hx, rfl⟩ := List.mem_map.1 hy
    obtain ⟨hnodup, howns⟩ := h.listed x hx
    rcases relink_eq hcoherent hr hx n operator with hsame | ⟨rfl, hsame⟩
    · rw [hsame]
      exact ⟨hnodup, fun m hm => (howns m hm).imp rfl hstay⟩
    · rw [hsame]
      obtain ⟨hlinked, hmembers⟩ := nodup_link hnodup n
      refine ⟨hlinked, fun m hm => ?_⟩
      have hm' : w.Owns x m := by
        rcases hmembers m hm with hold | rfl
        · exact howns m hold
        · exact hn
      exact hm'.imp (StoredResource.link_id x n) hstay
  · intro m hm
    obtain ⟨x, hx, howns, hlisted⟩ := h.screened m hm
    obtain ⟨hid, -, -, hgrows⟩ := relink_identity hcoherent hr hx n operator
    exact ⟨_, List.mem_map.2 ⟨x, hx, rfl⟩, howns.imp hid hstay, hgrows m hlisted⟩

/-- **A warranted write keeps the stores consistent.** -/
theorem onto (h : w.Consistent) (hcoherent : w.Coherent) {x : Write}
    (hx : x.Warranted settings w) : (x.onto w).Consistent := by
  cases hx with
  | upload draft operator => exact ⟨h.listed, h.once, h.screened, h.statuses⟩
  | @submission upload r active hu hr hactive hthrough =>
      have hstay {new : StoredSubmission} {v : World}
          (hv : v.submissions = w.submissions ++ [new]) : ∀ s ∈ w.submissions,
          ∃ y ∈ v.submissions, y.id = s.id ∧ y.resourceId = s.resourceId :=
        fun s hs => ⟨s, hv ▸ List.mem_append_left _ hs, rfl, rfl⟩
      refine ⟨?_, h.once, ?_, ?_⟩
      · intro x hx
        obtain ⟨hnodup, howns⟩ := h.listed x hx
        exact ⟨hnodup, fun n hn => (howns n hn).imp rfl (hstay rfl)⟩
      · intro n hn
        obtain ⟨x, hx, howns, hlisted⟩ := h.screened n hn
        exact ⟨x, hx, howns.imp rfl (hstay rfl), hlisted⟩
      · intro s hs l hl
        rcases List.mem_append.1 hs with hold | hnew
        · exact h.statuses s hold l hl
        · obtain rfl := List.mem_singleton.1 hnew
          obtain rfl := Option.some.inj hl
          exact hactive
  | @again s l hs hl operator =>
      rw [onto_again hs]
      exact h.restatus hcoherent hs hl operator
  | @resource r s hr hs howner operator =>
      rw [onto_link hr]
      exact h.relink hcoherent hr ⟨s, hs, rfl, howner⟩ operator
  | @screening r s hr hs howner hlinked operator =>
      rw [Write.onto]
      by_cases hscreens : w.screens s.id
      · rw [if_pos hscreens]
        exact h
      · rw [if_neg hscreens]
        have hnew : s.id ∉ w.screening.map Prod.fst := by
          intro hmem
          obtain ⟨e, he, hid⟩ := List.mem_map.1 hmem
          exact hscreens (List.any_eq_true.2 ⟨e, he, by simp [hid]⟩)
        refine ⟨h.listed, ?_, ?_, h.statuses⟩
        · rw [World.screen, List.map_append]
          apply List.Nodup.append h.once (List.nodup_singleton _)
          exact List.disjoint_singleton.2 hnew
        · intro n hn
          rw [World.screen, List.map_append] at hn
          rcases List.mem_append.1 hn with hold | hn
          · exact h.screened n hold
          · obtain rfl := List.mem_singleton.1 hn
            exact ⟨r, hr, ⟨s, hs, rfl, howner⟩, hlinked⟩

end Consistent

/-- **A warranted write founds what it adds**, and takes no foundation away. -/
theorem FoundsNew.onto (h : FoundsNew settings old w) (hcoherent : w.Coherent) {x : Write}
    (hx : x.Warranted settings w) : FoundsNew settings old (x.onto w) := by
  have hsame : ∀ r ∈ w.resources, ∃ x ∈ w.resources, x.id = r.id ∧
      x.projectId = r.projectId ∧ x.extensionProperties = r.extensionProperties :=
    fun r hr => ⟨r, hr, rfl, rfl, rfl⟩
  cases hx with
  | upload draft operator =>
      intro s hs hnew
      exact (h s hs hnew).imp (fun x hx => List.mem_append_left _ hx) hsame rfl rfl rfl
  | @submission u r active hu hr hactive hthrough =>
      intro s hs hnew
      rcases List.mem_append.1 hs with hold | hadded
      · exact (h s hold hnew).imp (fun x hx => hx) hsame rfl rfl rfl
      · obtain rfl := List.mem_singleton.1 hadded
        exact ⟨u, hu, r, hr, rfl, rfl, hthrough, rfl⟩
  | @again s l hs hl operator =>
      rw [onto_again hs]
      intro y hy hnew
      rw [submissions_restatus] at hy
      obtain ⟨x, hx, rfl⟩ := List.mem_map.1 hy
      rcases restatus_eq hcoherent hs hx l operator with hy | hy
      · rw [hy] at hnew ⊢
        exact (h x hx hnew).imp (fun x hx => hx) hsame rfl rfl rfl
      · rw [hy] at hnew ⊢
        exact (h x hx hnew).imp (fun x hx => hx) hsame rfl rfl rfl
  | @resource r s hr hs howner operator =>
      rw [onto_link hr]
      intro y hy hnew
      refine (h y hy hnew).imp (fun x hx => hx) ?_ rfl rfl rfl
      intro x hx
      obtain ⟨hid, hproject, hproperties, -⟩ := relink_identity hcoherent hr hx s.id operator
      exact ⟨_, List.mem_map.2 ⟨x, hx, rfl⟩, hid, hproject, hproperties⟩
  | @screening r s hr hs howner hlinked operator =>
      rw [Write.onto]
      split
      · exact h
      · intro y hy hnew
        exact (h y hy hnew).imp (fun x hx => hx) hsame rfl rfl rfl

end World

variable {σ : Type}

/-- Carry out calls at the desk one after the other over some collaborators, whatever comes of
each. -/
def DeskCall.over (settings : Settings) (team : Collaborators σ) (calls : List DeskCall)
    (t : Trail σ) : Trail σ :=
  calls.foldl (fun t c => ((c.program settings).run team t).2) t

section Runs

variable {w : World} {settings : Settings} {old : List Int} {view : σ → Platform Memory.Catalog}
  {faulty : Collaborators σ}

/-- A call at the desk that is refused something stops in a consistent state. -/
theorem World.Consistent.step (hfaulty : Collaborators.Refuses Platform.answer view faulty)
    (hcoherent : w.Coherent) (h : w.Consistent) (hnew : FoundsNew settings old w)
    (call : DeskCall) {t : Trail σ} (ht : view t.state = w.platform) :
    ∃ u : World, view ((call.program settings).run faulty t).2.state = u.platform ∧
      u.Coherent ∧ u.Consistent ∧ FoundsNew settings old u := by
  obtain ⟨-, k, hstopped⟩ := (call.surfaces settings).of_refuses hfaulty t.state
  have hmakes := call.makes_program settings w hcoherent
  obtain ⟨j, hstate⟩ := after_calls_take hcoherent hmakes k
  have hkept := (call.warrants_writes settings w).kept
    (p := fun v => v.Consistent ∧ FoundsNew settings old v) hcoherent ⟨h, hnew⟩
    (fun v x _ hv hx hp => ⟨hp.1.onto hv hx, hp.2.onto hv hx⟩) j
  rw [ht] at hstopped
  refine ⟨w.after ((call.writes settings w).take j), ?_, hcoherent.after _, hkept⟩
  rw [Program.run_state, hstopped, hstate]

/-- So does any sequence of calls. -/
theorem World.Consistent.over (hfaulty : Collaborators.Refuses Platform.answer view faulty)
    (hcoherent : w.Coherent) (h : w.Consistent) (hnew : FoundsNew settings old w)
    (calls : List DeskCall) {t : Trail σ} (ht : view t.state = w.platform) :
    ∃ u : World, view (DeskCall.over settings faulty calls t).state = u.platform ∧
      u.Consistent ∧ FoundsNew settings old u := by
  induction calls generalizing w t with
  | nil => exact ⟨w, ht, h, hnew⟩
  | cons call rest ih =>
      obtain ⟨u, hu, hnext, hconsistent, hfounds⟩ := h.step hfaulty hcoherent hnew call ht
      exact ih hnext hconsistent hfounds hu

/-- **The stores stay consistent, throughout.**  The start is a consistent state that the stores can
be brought to.  After any calls at the desk, with arguments of any kind, and whatever the
collaborators refuse in the course of them, the stores are consistent, and every submission that was
not there at the start came with an upload that its creator made through its resource. -/
theorem consistent_throughout (hreached : Reached w.platform) (hstart : w.Consistent)
    (hfaulty : Collaborators.Refuses Platform.answer view faulty) (settings : Settings)
    (calls : List DeskCall) {t : Trail σ} (ht : view t.state = w.platform) :
    ∃ u : World, view (DeskCall.over settings faulty calls t).state = u.platform ∧
      u.Consistent ∧
      ∀ s ∈ u.submissions, s.id ∉ w.submissions.map StoredSubmission.id →
        u.Founds settings s := by
  have hnone : FoundsNew settings (w.submissions.map StoredSubmission.id) w :=
    fun s hs hnew => absurd (List.mem_map.2 ⟨s, hs, rfl⟩) hnew
  exact hstart.over hfaulty hreached.coherent hnone calls ht

end Runs

/-- A fresh contest is consistent. -/
theorem consistent_openContest : (openContest []).Consistent where
  listed r hr := by
    obtain rfl := List.mem_singleton.1 hr
    exact ⟨List.nodup_nil, nofun⟩
  once := List.nodup_nil
  screened _ hn := nomatch hn
  statuses _ hs := nomatch hs

/-- The first submission to an open contest, with its screening cancelled: the stores are
consistent, and the submission can be followed back. -/
theorem consistent_throughout_openContest :
    let cancelled : Fault :=
      { method := .initiateScreening, effect := .refuse (.plain (.cancelled [])) }
    let calls := [DeskCall.upload (.category .submission) (.int 1) (.int 10) (.text "f.zip")]
    ∃ u : World,
      (DeskCall.over {} (Rehearsal.following [cancelled] Platform.answer) calls
        { state := { state := (openContest []).platform } }).state.state = u.platform ∧
      u.Consistent ∧ ∃ s ∈ u.submissions, s.id = 1 ∧ u.Founds {} s := by
  intro cancelled calls
  have hrefuses : ∀ f ∈ [cancelled], ∃ e, f.effect = .refuse e := by
    intro f hf
    obtain rfl := List.mem_singleton.1 hf
    exact ⟨_, rfl⟩
  obtain ⟨u, hu, hconsistent, hfounds⟩ := consistent_throughout (reached_openContest [])
    consistent_openContest (Rehearsal.following_refuses Platform.answer hrefuses) {} calls
    (t := { state := { state := (openContest []).platform } }) rfl
  have hnumbers : u.submissions.map StoredSubmission.id = [1] := by
    have hstored := congrArg (fun p => p.catalog.submissions.numbers) hu
    simp only [platform, platformWith, catalog, Register.numbers_filed] at hstored
    rw [← hstored]
    decide +kernel
  obtain ⟨s, hs⟩ := List.map_eq_singleton_iff.1 hnumbers
  have hmem : s ∈ u.submissions := by simp [hs.1]
  exact ⟨u, hu, hconsistent, s, hmem, hs.2, hfounds s hmem List.not_mem_nil⟩

end ContestUploads
