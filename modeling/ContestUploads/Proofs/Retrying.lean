import ContestUploads.Proofs.Acceptance
import ContestUploads.Proofs.Blocks
import ContestUploads.Proofs.Renaming
import ContestUploads.Proofs.Seeding

/-!
# Uploads in blocks of their own

Every upload has a block of its own over the tables.  If it fails, the tables are rolled back; the
resources and the screening are not part of the block and keep what they were told.

What is kept besides the tables should stand on the tables: behind every number that a resource
lists or that was sent to screening there is a stored submission of that user, `World.Backed`.  An
upload over backed stores is not refused for its screening, since the number of its submission is
new.  If it is answered, its own number is backed as well.  If it fails, what counts is when: until
its submission is sent to screening, neither the resources nor the screening have changed
(`World.Backed.takeIn`); after that, the rows are taken back and the link and the request are not.

So the stores stay backed over any number of blocks as long as no upload fails too late
(`blocks_backed`), and where every earlier submission can be retired, none does
(`World.Retirable.throughout`).  Otherwise the next upload gets the number that was rolled back, and
is refused (`retry_refused_after_rollback`).
-/

namespace ContestUploads

open Sql World

namespace Failure

/-- A failure is not that of a screening which had been asked for. -/
def NoConflict (f : Failure) : Prop :=
  ∀ n, f ≠ screeningConflict n

/-- A conflict is what a guard makes of another failure. -/
theorem screeningConflict_cases (n : Int) :
    let words := Value.text "Failed to initiate screening"
    ∃ p origin, screeningConflict n = .raisedFrom (.service p) origin ∧
      (p = .orchestrationFailure words .null ∨ p = .persistenceFailure words .null) := by
  unfold screeningConflict
  dsimp only
  split
  · exact ⟨_, _, rfl, .inl rfl⟩
  · exact ⟨_, _, rfl, .inr rfl⟩

/-- What is not raised from another failure is no conflict. -/
theorem NoConflict.plain (p : Problem) : NoConflict (.plain p) := by
  intro n h
  obtain ⟨q, origin, hconflict, -⟩ := screeningConflict_cases n
  rw [hconflict] at h
  cases h

theorem NoConflict.of_problem {f : Failure} {p : ServiceProblem} (h : f.problem = .service p)
    (horchestration :
      p ≠ .orchestrationFailure (.text "Failed to initiate screening") .null)
    (hpersistence :
      p ≠ .persistenceFailure (.text "Failed to initiate screening") .null) : f.NoConflict := by
  rintro n rfl
  obtain ⟨q, origin, hconflict, hq⟩ := screeningConflict_cases n
  rw [hconflict] at h
  obtain rfl := Problem.service.inj h
  rcases hq with hq | hq
  · exact horchestration hq
  · exact hpersistence hq

theorem NoConflict.failure (p : ServiceProblem) : p.failure.NoConflict := by
  unfold ServiceProblem.failure
  split
  · exact .plain _
  · exact .plain _

theorem NoConflict.of_invalidArgument {f : Failure} {words field : Value}
    (h : f.problem = .service (.invalidArgument words field)) : f.NoConflict :=
  .of_problem h nofun nofun

theorem NoConflict.notSearched : Resource.notSearched.NoConflict := by
  refine .of_problem rfl nofun fun hsame => ?_
  have hwords := Value.text.inj (ServiceProblem.persistenceFailure.inj hsame).1
  exact absurd hwords (by decide)

theorem NoConflict.notEligible (projectId : Int) (names : List String) :
    (notEligible projectId names).NoConflict := by
  unfold World.notEligible
  split
  · exact .of_problem rfl nofun nofun
  · exact .plain _

end Failure

namespace World

variable {w u v : World} {settings : Settings} {request : UploadRequest} {a : Admission}
  {e : Failure}

section Failures

/-! No failure but that of a screening is a conflict. -/

theorem known_error {catalog : List StoredLookup} {name : String} {kind : Value}
    (h : known catalog name kind = .error e) : e.NoConflict := by
  unfold known at h
  split at h
  · obtain rfl := Except.error.inj h
    exact .failure _
  · cases h

theorem onlyCandidate_error {projectId userId : Int} {names : List String}
    (h : w.onlyCandidate settings projectId userId names = .error e) : e.NoConflict := by
  unfold onlyCandidate at h
  split at h
  · obtain rfl := Except.error.inj h
    exact .failure _
  · split at h
    · split at h
      · cases h
      · obtain rfl := Except.error.inj h
        exact .failure _
    · obtain rfl := Except.error.inj h
      exact .notSearched

theorem openGate_error {projectId : Int} {names : List String}
    (h : w.openGate projectId names = .error e) : e.NoConflict := by
  unfold openGate at h
  split at h
  · obtain rfl := Except.error.inj h
    exact .notEligible _ _
  · split at h
    · cases h
    · obtain rfl := Except.error.inj h
      exact .failure _

theorem passWinner_error {project : StoredProject}
    (h : passWinner settings request project = .error e) : e.NoConflict := by
  unfold passWinner demandWinner at h
  split at h
  · split at h
    · cases h
    · obtain rfl := Except.error.inj h
      exact .failure _
  · cases h

theorem admission_error (h : w.admission settings request = .error e) : e.NoConflict := by
  simp only [admission, passGate, bind_eq_error_iff, Pure.pure, Except.pure, reduceCtorEq,
    and_false, exists_false, or_false] at h
  rcases h with hproject | ⟨project, -, hresource | ⟨resource, -, hwinner | ⟨_, -, hphase |
    ⟨phase, -, htype | ⟨type, -, hstatus⟩⟩⟩⟩⟩
  · unfold knownProject at hproject
    split at hproject
    · obtain rfl := Except.error.inj hproject
      exact .failure _
    · cases hproject
  · exact onlyCandidate_error hresource
  · exact passWinner_error hwinner
  · exact openGate_error hphase
  · exact known_error htype
  · exact known_error hstatus

theorem ofFields_error {fields : Fields} (h : UploadRequest.ofFields fields = .error e) :
    e.NoConflict := by
  obtain ⟨words, field, hproblem⟩ := UploadRequest.problem_of_ofFields_eq_error h
  exact .of_invalidArgument hproblem

theorem checkMove_error {s : StoredSubmission} {l : StoredLookup}
    (h : s.checkMove settings l = .error e) : e.NoConflict := by
  unfold StoredSubmission.checkMove at h
  split at h
  · unfold StatusTable.checkMove StatusTable.mayMove at h
    have hfixed : (Value.ofText? s.statusName).demandFixed = .ok () := by
      cases s.statusName <;> rfl
    split at h
    · cases h
    · rw [hfixed] at h
      obtain rfl := Except.error.inj h
      exact .failure _
  · cases h

theorem changeStatus_error_kind {submissionId statusId operator : Value}
    (h : w.changeStatus settings submissionId statusId operator = (.error e, u)) :
    e.NoConflict := by
  unfold changeStatus at h
  split at h
  · rename_i hrequest
    obtain ⟨words, field, hproblem⟩ := StatusRequest.problem_of_ofFields_eq_error hrequest
    obtain rfl := Except.error.inj (Prod.mk.inj h).1
    exact .of_invalidArgument hproblem
  · split at h
    · obtain rfl := Except.error.inj (Prod.mk.inj h).1
      exact .failure _
    · split at h
      · obtain rfl := Except.error.inj (Prod.mk.inj h).1
        exact .failure _
      · split at h
        · rename_i hmove
          obtain rfl := Except.error.inj (Prod.mk.inj h).1
          exact checkMove_error hmove
        · cases (Prod.mk.inj h).1

theorem retireEach_error {deleted : StoredLookup} {operator : String} {spared : List Int}
    {listed : List StoredSubmission}
    (h : retireEach settings deleted operator spared listed w = (.error e, u)) :
    e.NoConflict := by
  induction listed generalizing w u with
  | nil => cases (Prod.mk.inj h).1
  | cons s rest ih =>
      rw [retireEach] at h
      split at h
      · exact ih h
      · split at h
        · rename_i hchange
          obtain rfl := Except.error.inj (Prod.mk.inj h).1
          exact changeStatus_error_kind hchange
        · split at h
          · rename_i hrest
            obtain rfl := Except.error.inj (Prod.mk.inj h).1
            exact ih hrest
          · cases (Prod.mk.inj h).1

theorem demandDeleted_error {userId : Int} (h : w.demandDeleted settings userId = .error e) :
    e.NoConflict := by
  rcases bind_eq_error_iff.1 h with hname | ⟨deleted, -, huser⟩
  · exact known_error hname
  · split at huser
    · cases huser
    · obtain rfl := Except.error.inj huser
      exact .plain _

theorem supersede_error {spared : List Int} {id : Int}
    (h : w.supersede settings request a spared id = (.error e, u)) : e.NoConflict := by
  unfold supersede retireSuperseded at h
  split at h
  · split at h
    · rename_i hretire
      obtain rfl := Except.error.inj (Prod.mk.inj h).1
      split at hretire
      · rename_i hdeleted
        obtain rfl := Except.error.inj (Prod.mk.inj hretire).1
        exact demandDeleted_error hdeleted
      · exact retireEach_error hretire
    · cases (Prod.mk.inj h).1
  · cases (Prod.mk.inj h).1

end Failures

/-- A world that comes of another by changing statuses: the resources and the screening requests are
the same, and every submission is there, of the same resource and creator. -/
structure Follows (w u : World) : Prop where
  resources : u.resources = w.resources
  screening : u.screening = w.screening
  submissions : ∀ s ∈ w.submissions, ∃ x ∈ u.submissions,
    x.id = s.id ∧ x.resourceId = s.resourceId ∧ x.createdBy = s.createdBy

theorem Follows.refl (w : World) : w.Follows w :=
  ⟨rfl, rfl, fun s hs => ⟨s, hs, rfl, rfl, rfl⟩⟩

theorem Follows.trans (h : w.Follows u) (h' : u.Follows v) : w.Follows v where
  resources := h'.resources.trans h.resources
  screening := h'.screening.trans h.screening
  submissions s hs := by
    obtain ⟨x, hx, hid, hresource, hcreator⟩ := h.submissions s hs
    obtain ⟨y, hy, hid', hresource', hcreator'⟩ := h'.submissions x hx
    exact ⟨y, hy, hid'.trans hid, hresource'.trans hresource, hcreator'.trans hcreator⟩

theorem follows_restatus (h : w.Coherent) {s : StoredSubmission} (hs : s ∈ w.submissions)
    (l : StoredLookup) (operator : String) :
    w.Follows (w.putSubmission (s.withStatus l) operator) where
  resources := rfl
  screening := rfl
  submissions x hx := by
    refine ⟨_, List.mem_map.2 ⟨x, hx, rfl⟩, ?_⟩
    show (w.restatus s l operator x).id = x.id ∧
      (w.restatus s l operator x).resourceId = x.resourceId ∧
      (w.restatus s l operator x).createdBy = x.createdBy
    rcases restatus_eq h hs hx l operator with hsame | hsame <;> rw [hsame] <;>
      exact ⟨rfl, rfl, rfl⟩

/-- A retirement only stores submissions once more. -/
theorem follows_retireEach (settings : Settings) (h : w.Coherent) (deleted : StoredLookup)
    (operator : String) (spared : List Int) (listed : List StoredSubmission) :
    w.Follows (retireEach settings deleted operator spared listed w).2 := by
  induction listed generalizing w with
  | nil => exact .refl w
  | cons s rest ih =>
      rw [retireEach]
      by_cases hs : s.id ∈ spared
      · rw [if_pos hs]
        exact ih h
      · rw [if_neg hs]
        rcases hresult : w.changeStatus settings (.int s.id) (.int deleted.id) (.text operator)
          with ⟨_ | changed, u⟩
        · obtain rfl := changeStatus_error settings hresult
          exact .refl _
        · obtain ⟨hmem, l, -, hstatus⟩ := mem_of_changeStatus settings hresult
          obtain ⟨request, x, l', -, hfound, -, -, -, rfl⟩ := changeStatus_ok settings hresult
          have hx := (mem_of_submission? hfound).1
          have hchanged : w.Follows _ := follows_restatus h hx l' request.operator
          have hcoherent := h.putSubmission (x.withStatus l') request.operator
          -- the second time, the submission is stored with the status that it has
          have hsame : changed.withStatus l = changed := by
            rw [StoredSubmission.withStatus, ← hstatus]
          have hagain := follows_restatus hcoherent hmem l operator
          rw [hsame] at hagain
          have hrest := ih (hcoherent.putSubmission changed operator)
          dsimp only
          rcases hlater : retireEach settings deleted operator spared rest
            ((w.putSubmission (x.withStatus l') request.operator).putSubmission changed operator)
            with ⟨_ | later, v⟩ <;>
          · rw [hlater] at hrest
            exact hchanged.trans (hagain.trans hrest)

theorem follows_supersede (settings : Settings) (h : w.Coherent) (request : UploadRequest)
    (a : Admission) (spared : List Int) (id : Int) :
    w.Follows (w.supersede settings request a spared id).2 := by
  unfold supersede retireSuperseded
  split
  · rcases w.demandDeleted settings request.userId with e | deleted
    · exact .refl w
    · have hretired := follows_retireEach settings h deleted
        (toString request.userId) spared (w.ofResource a.resource.id)
      dsimp only
      rcases hresult : retireEach settings deleted (toString request.userId) spared
        (w.ofResource a.resource.id) w with ⟨_ | ids, v⟩ <;>
      · rw [hresult] at hretired
        exact hretired
  · exact .refl w

/-- A number is that of a stored submission of a resource, and the user of the resource created
it. -/
def Vouched (settings : Settings) (w : World) (r : StoredResource) (n : Int) : Prop :=
  ∃ s ∈ w.submissions, s.id = n ∧ s.resourceId = some r.id ∧
    ∃ user, s.createdBy = some user ∧
      r.extensionProperties.lookup settings.externalReference = some user

/-- Behind everything that is listed or was sent to screening there is a stored submission. -/
structure Backed (settings : Settings) (w : World) : Prop where
  /-- A resource lists submissions of its own that its user created. -/
  listed : ∀ r ∈ w.resources, ∀ n ∈ r.submissions, w.Vouched settings r n
  /-- What was sent to screening is listed by a resource of the user who sent it. -/
  screened : ∀ e ∈ w.screening, ∃ r ∈ w.resources, e.1 ∈ r.submissions ∧
    r.extensionProperties.lookup settings.externalReference = some e.2

namespace Backed

/-- Where nothing is listed and nothing was sent to screening, nothing needs backing. -/
theorem of_none (hlisted : ∀ r ∈ w.resources, r.submissions = []) (hscreened : w.screening = []) :
    w.Backed settings where
  listed r hr n hn := by
    rw [hlisted r hr] at hn
    cases hn
  screened e he := by
    rw [hscreened] at he
    cases he

theorem follows (h : w.Backed settings) (hu : w.Follows u) : u.Backed settings where
  listed r hr n hn := by
    rw [hu.resources] at hr
    obtain ⟨s, hs, hid, hresource, user, hcreator, huser⟩ := h.listed r hr n hn
    obtain ⟨x, hx, hid', hresource', hcreator'⟩ := hu.submissions s hs
    exact ⟨x, hx, hid'.trans hid, hresource'.trans hresource, user, hcreator'.trans hcreator,
      huser⟩
  screened e he := by
    rw [hu.screening] at he
    rw [hu.resources]
    exact h.screened e he

theorem received (h : w.Backed settings) : (w.received request a).Backed settings :=
  ⟨h.listed, h.screened⟩

/-- What was sent to screening is stored. -/
theorem screened_mem (h : w.Backed settings) :
    ∀ e ∈ w.screening, e.1 ∈ w.submissions.map StoredSubmission.id := by
  intro e he
  obtain ⟨r, hr, hlisted, -⟩ := h.screened e he
  obtain ⟨s, hs, hid, -⟩ := h.listed r hr e.1 hlisted
  exact hid ▸ List.mem_map.2 ⟨s, hs, rfl⟩

/-- A submission that is entered and sent to screening backs its own number. -/
theorem sent (h : w.Backed settings) (hcoherent : w.Coherent)
    (ha : w.admission settings request = .ok a) (active : StoredLookup) :
    (w.sent request a active).Backed settings := by
  obtain ⟨hr, -, howner⟩ := resource_of_admission settings ha
  let v := (w.received request a).addSubmission (a.submission active w.nextUpload)
    request.operator
  have hv : v.Coherent := (hcoherent.addUpload _ _).addSubmission _ _
  have hold {r x : StoredResource} {n : Int} (hn : w.Vouched settings r n) (hid : x.id = r.id)
      (hproperties : x.extensionProperties = r.extensionProperties) :
      (w.sent request a active).Vouched settings x n := by
    obtain ⟨s, hs, hsid, hresource, user, hcreator, huser⟩ := hn
    exact ⟨s, List.mem_append_left _ hs, hsid, hid ▸ hresource, user, hcreator,
      hproperties ▸ huser⟩
  have hstays {x : StoredResource} (hx : x ∈ w.resources) :
      v.relink a.resource w.freeSubmission request.operator x ∈
        (w.sent request a active).resources :=
    List.mem_map.2 ⟨x, hx, rfl⟩
  refine ⟨?_, ?_⟩
  · intro y hy n hn
    obtain ⟨x, hx, rfl⟩ := List.mem_map.1 hy
    change n ∈ (v.relink a.resource w.freeSubmission request.operator x).submissions at hn
    obtain ⟨hid, -, hproperties, -⟩ := relink_identity hv hr hx w.freeSubmission request.operator
    have hlisted : n ∈ x.submissions ∨ x = a.resource ∧ n = w.freeSubmission := by
      rcases relink_eq hv hr hx w.freeSubmission request.operator with hsame | ⟨rfl, hsame⟩
      · rw [hsame] at hn
        exact .inl hn
      · rw [hsame, StoredResource.stamped_link] at hn
        dsimp only at hn
        split at hn
        · exact .inl hn
        · rcases List.mem_append.1 hn with hn | hn
          · exact .inl hn
          · exact .inr ⟨rfl, List.mem_singleton.1 hn⟩
    rcases hlisted with hlisted | ⟨rfl, rfl⟩
    · exact hold (h.listed x hx n hlisted) hid hproperties
    · refine ⟨w.fresh request a active, List.mem_append_right _ List.mem_cons_self, rfl, ?_,
        toString request.userId, rfl, ?_⟩
      · exact congrArg some hid.symm
      · exact hproperties ▸ howner
  · intro e he
    rcases List.mem_append.1 he with he | he
    · obtain ⟨x, hx, hlisted, huser⟩ := h.screened e he
      obtain ⟨-, -, hproperties, hgrows⟩ :=
        relink_identity hv hr hx w.freeSubmission request.operator
      exact ⟨_, hstays hx, hgrows _ hlisted, hproperties ▸ huser⟩
    · obtain rfl := List.mem_singleton.1 he
      have hstored : v.relink a.resource w.freeSubmission request.operator a.resource =
          (a.resource.link w.freeSubmission).stamped request.operator v.now :=
        if_pos (StoredResource.link_id a.resource w.freeSubmission).symm
      have hmem := hstays hr
      rw [hstored, StoredResource.stamped_link] at hmem
      refine ⟨_, hmem, ?_, howner⟩
      dsimp only
      split
      · assumption
      · exact List.mem_append_right _ List.mem_cons_self

end Backed

/-- What becomes of an upload that was admitted, where only stored submissions were sent to
screening: it ends when the upload was stored, or only a retirement is left to do. -/
theorem finish_cases (hscreened : ∀ e ∈ w.screening, e.1 ∈ w.submissions.map StoredSubmission.id)
    (settings : Settings) (request : UploadRequest) (a : Admission) :
    (∃ e, e.NoConflict ∧
      w.finish settings request a = (.error e, w.received request a)) ∨
    (∃ active, w.finish settings request a =
      (w.sent request a active).supersede settings request a [w.freeSubmission]
        w.freeSubmission) ∨
    w.finish settings request a =
      (w.received request a).supersede settings request a [] w.nextUpload := by
  have henter := enter_by_name (w := w.received request a) settings request hscreened a
    w.nextUpload
  unfold finish
  dsimp only
  by_cases hcreates : request.rule.createsSubmission
  · rw [if_pos hcreates]
    rcases hnamed : named? (w.received request a).submissionStatuses settings.activeStatus
      with _ | active
    · rw [hnamed] at henter
      rw [henter]
      exact .inl ⟨_, .plain _, rfl⟩
    · rw [hnamed] at henter
      rw [henter]
      exact .inr (.inl ⟨active, rfl⟩)
  · rw [if_neg hcreates]
    exact .inr (.inr rfl)

namespace Backed

/-- The last step of the intake leaves backed stores backed, and where it fails the resources and
the screening requests are as they were. -/
theorem supersede (h : w.Backed settings) (hcoherent : w.Coherent) (request : UploadRequest)
    (a : Admission) (spared : List Int) (id : Int) :
    match w.supersede settings request a spared id with
    | (.ok _, u) => u.Backed settings
    | (.error e, u) => e.NoConflict ∧ u.screening = w.screening ∧
        u.resources = w.resources := by
  have hfollows := follows_supersede settings hcoherent request a spared id
  rcases hlast : w.supersede settings request a spared id with ⟨e | n, u⟩
  · rw [hlast] at hfollows
    exact ⟨supersede_error hlast, hfollows.screening, hfollows.resources⟩
  · rw [hlast] at hfollows
    exact h.follows hfollows

/-- **An upload over backed stores** is not refused for its screening.  If it is answered, the
stores are backed afterwards; if it fails, the resources are as they were, unless it was sent to
screening. -/
theorem takeIn (h : w.Backed settings) (hcoherent : w.Coherent)
    (category projectId userId filename : Value) :
    match w.takeIn settings category projectId userId filename with
    | (.ok _, u) => u.Backed settings
    | (.error e, u) => e.NoConflict ∧
        (u.screening = w.screening → u.resources = w.resources) := by
  unfold World.takeIn
  rcases hrequest : UploadRequest.ofFields [("category", category), ("project_id", projectId),
      ("user_id", userId), ("filename", filename)] with e | request
  · exact ⟨ofFields_error hrequest, fun _ => rfl⟩
  dsimp only
  rcases ha : w.admission settings request with e | a
  · exact ⟨admission_error ha, fun _ => rfl⟩
  dsimp only
  rcases finish_cases h.screened_mem settings request a with
    ⟨e, he, hfinish⟩ | ⟨active, hfinish⟩ | hfinish
  · rw [hfinish]
    exact ⟨he, fun _ => rfl⟩
  · have hlast := (h.sent hcoherent ha active).supersede (coherent_sent hcoherent) request a
      [w.freeSubmission] w.freeSubmission
    rw [hfinish]
    split at hlast
    · exact hlast
    · obtain ⟨he, hscreening, -⟩ := hlast
      refine ⟨he, fun hsame => ?_⟩
      have hgrown : w.screening ++ [(w.freeSubmission, request.operator)] = w.screening :=
        hscreening.symm.trans hsame
      simp at hgrown
  · have hreceived : (w.received request a).Coherent := hcoherent.addUpload _ _
    have hlast := (h.received (a := a)).supersede hreceived request a [] w.nextUpload
    rw [hfinish]
    split at hlast
    · exact hlast
    · exact ⟨hlast.1, fun _ => hlast.2.2⟩

/-- The same of an upload at the desk. -/
theorem upload (h : w.Backed settings) (hcoherent : w.Coherent)
    (category projectId userId filename : Value) :
    match w.upload settings category projectId userId filename with
    | (.ok _, u) => u.Backed settings
    | (.error e, u) => e.NoConflict ∧ (u.screening = w.screening → u.resources = w.resources) := by
  have htaken := h.takeIn hcoherent category projectId userId filename
  unfold World.upload
  rcases hcontext : Desk.uploadContext category projectId userId with e | context
  · obtain rfl := uploadContext_error hcontext
    exact ⟨.plain _, fun _ => rfl⟩
  · exact htaken

end Backed

/-- The world after a block that was rolled back: what the tables hold is as it was, and the stores
besides them have moved on. -/
def rolledBack (w u : World) : World :=
  { w with
    resources := u.resources
    directoryAudit := u.directoryAudit
    screening := u.screening
    clock := u.clock }

/-- The world that a block leaves. -/
def afterBlock (w : World) : Except Failure Int × World → World
  | (.ok _, u) => u
  | (.error _, u) => w.rolledBack u

/-- The platform whose committed tables are the rows of a world. -/
def overTables (w : World) : Platform Session :=
  w.platformWith (.opened w.tables)

theorem platformWith_rolledBack {κ : Type} (h : SameSetting w u) (c : κ) :
    (w.rolledBack u).platformWith c = u.platformWith c := by
  simp only [platformWith, board, directory, rolledBack, h.projects, h.phases, h.roles]

theorem Tabled.rolledBack (h : w.Tabled) (hu : u.Tabled) : (w.rolledBack u).Tabled where
  coherent := { h.coherent with resources := hu.coherent.resources }
  nextUpload := h.nextUpload
  nextSubmission := h.nextSubmission
  statuses := h.statuses
  fitting := h.fitting
  readable s hs := (h.readable s hs).of_statuses rfl
  resources := hu.resources
  ordered := h.ordered
  lookups := h.lookups

end World

/-- The arguments of an upload. -/
structure UploadCall where
  category : Value
  projectId : Value
  userId : Value
  filename : Value

namespace UploadCall

/-- What an upload comes to in a world. -/
def takenIn (settings : Settings) (c : UploadCall) (w : World) : Except Failure Int × World :=
  w.upload settings c.category c.projectId c.userId c.filename

/-- An upload at the desk, in a block of its own; the database refuses nothing. -/
def block (settings : Settings) (c : UploadCall) (p : Platform Session) :
    Except Failure Value × Platform Session :=
  p.block (fun _ => none) (Desk.upload settings c.category c.projectId c.userId c.filename)

/-- Uploads in blocks of their own, one after the other: what each comes to, and what its block
leaves. -/
def blocks (settings : Settings) :
    List UploadCall → Platform Session → List (Except Failure Value × Platform Session)
  | [], _ => []
  | c :: rest, p => c.block settings p :: blocks settings rest (c.block settings p).2

/-- The integers that an upload is about are not too large, nor are those that the next rows get.
A negative one is refused before it is stored. -/
structure Fits (c : UploadCall) (p : Platform Session) : Prop where
  projectId : ∀ n, c.projectId = .int n → 0 ≤ n → fits n = true
  userId : ∀ n, c.userId = .int n → 0 ≤ n → fits n = true
  upload : fits (Database.nextId (p.catalog.committed.uploads.map UploadRow.id)) = true
  submission :
    fits (Database.nextId (p.catalog.committed.submissions.map SubmissionRow.id)) = true

theorem Fits.of_int {category filename : Value} {projectId userId : Int} {p : Platform Session}
    (hproject : fits projectId = true) (huser : fits userId = true)
    (hupload : fits (Database.nextId (p.catalog.committed.uploads.map UploadRow.id)) = true)
    (hsubmission :
      fits (Database.nextId (p.catalog.committed.submissions.map SubmissionRow.id)) = true) :
    Fits ⟨category, .int projectId, .int userId, filename⟩ p where
  projectId _ hn _ := Value.int.inj hn ▸ hproject
  userId _ hn _ := Value.int.inj hn ▸ huser
  upload := hupload
  submission := hsubmission

/-- If an upload fails in its block, it was not sent to screening before. -/
def Timely (settings : Settings) (c : UploadCall) (p : Platform Session) : Prop :=
  ∀ e, (c.block settings p).1 = .error e → (c.block settings p).2.screening = p.screening

/-- Something holds of each of some uploads where its block begins. -/
def Throughout (settings : Settings) (holds : UploadCall → Platform Session → Prop) :
    List UploadCall → Platform Session → Prop
  | [], _ => True
  | c :: rest, p => holds c p ∧ Throughout settings holds rest (c.block settings p).2

end UploadCall

namespace World

variable {w : World} {settings : Settings} {c : UploadCall}

/-- An upload leaves projects, phases, roles and lookups as they are. -/
theorem sameSetting_takenIn (settings : Settings) (c : UploadCall) (w : World) :
    SameSetting w (c.takenIn settings w).2 :=
  (kept_sameSetting w).upload settings (.refl w) c.category c.projectId c.userId c.filename

/-- An upload over the tables of a world. -/
theorem Tabled.outcome_upload (settings : Settings) (h : w.Tabled) (hc : c.Fits w.overTables) :
    (Desk.upload settings c.category c.projectId c.userId c.filename).outcome Platform.answer
        w.overTables =
      ((c.takenIn settings w).1.map .int,
        (c.takenIn settings w).2.platformWith ((c.takenIn settings w).2.session w.tables)) ∧
      (c.takenIn settings w).2.Tabled := by
  rcases hrequest : UploadRequest.ofFields [("category", c.category), ("project_id", c.projectId),
      ("user_id", c.userId), ("filename", c.filename)] with e | request
  · -- nothing is asked of the tables here, so no integer needs to fit
    have htaken : w.takeIn settings c.category c.projectId c.userId c.filename = (.error e, w) := by
      rw [takeIn, hrequest]
    have hworld : (c.takenIn settings w).2 = w := by
      rw [UploadCall.takenIn, upload_snd, htaken]
    refine ⟨?_, by rwa [hworld]⟩
    rw [hworld, UploadCall.takenIn]
    unfold Desk.upload World.upload
    rcases Desk.uploadContext c.category c.projectId c.userId with f | context
    · rfl
    · rw [Program.outcome_bind_ok (Program.outcome_ofExcept_ok _ _ _), Desk.outcome_within,
        Reception.takeIn, hrequest, htaken]
      rfl
  · obtain ⟨-, ⟨hproject, hprojectId⟩, ⟨huser, huserId⟩, -⟩ :=
      UploadRequest.ofFields_eq_ok_iff.1 hrequest
    have huploads : w.tables.uploads.map UploadRow.id = w.uploads.map StoredUpload.id :=
      List.map_map
    have hsubmissions : w.tables.submissions.map SubmissionRow.id =
        w.submissions.map StoredSubmission.id := List.map_map
    have hupload : fits (Database.nextId (w.tables.uploads.map UploadRow.id)) = true := hc.upload
    have hsubmission : fits (Database.nextId (w.tables.submissions.map SubmissionRow.id)) = true :=
      hc.submission
    rw [huploads, h.nextUpload] at hupload
    rw [hsubmissions, h.nextSubmission, ← h.freeSubmission] at hsubmission
    refine does_upload settings (k := .tables w.tables) ?_ ?_ hupload hsubmission c.category
      c.filename h
    · intro n hn
      obtain rfl := Value.int.inj (hproject.symm.trans hn)
      exact hc.projectId _ hn hprojectId
    · intro n hn
      obtain rfl := Value.int.inj (huser.symm.trans hn)
      exact hc.userId _ hn huserId

/-- **A block over the tables of a world.**  It comes to what the upload comes to, and leaves the
tables of the world afterwards if the upload was answered, those from before if it failed. -/
theorem Tabled.block (settings : Settings) (h : w.Tabled) (hc : c.Fits w.overTables) :
    c.block settings w.overTables =
        ((c.takenIn settings w).1.map .int, (w.afterBlock (c.takenIn settings w)).overTables) ∧
      (w.afterBlock (c.takenIn settings w)).Tabled := by
  obtain ⟨houtcome, htabled⟩ := h.outcome_upload settings hc
  have hsetting : SameSetting w (c.takenIn settings w).2 := sameSetting_takenIn settings c w
  rw [← Platform.exposed_never] at houtcome
  rw [UploadCall.block, Platform.block_eq (p := w.overTables) houtcome]
  generalize c.takenIn settings w = taken at htabled hsetting
  obtain ⟨_ | n, u⟩ := taken
  · refine ⟨?_, h.rolledBack htabled⟩
    rw [afterBlock, overTables, platformWith_rolledBack hsetting]
    rfl
  · exact ⟨rfl, htabled⟩

/-- **A block over backed stores.**  It is not refused for its screening, and it leaves backed
stores if it does not fail too late. -/
theorem Backed.block (h : w.Backed settings) (htabled : w.Tabled) (hc : c.Fits w.overTables)
    (htimely : c.Timely settings w.overTables) :
    (∀ n, (c.block settings w.overTables).1 ≠ .error (screeningConflict n)) ∧
      (w.afterBlock (c.takenIn settings w)).Backed settings := by
  have htaken := h.upload htabled.coherent c.category c.projectId c.userId c.filename
  rw [UploadCall.Timely, (htabled.block settings hc).1] at htimely
  rw [(htabled.block settings hc).1]
  change match c.takenIn settings w with | (.ok _, u) => _ | (.error e, u) => _ at htaken
  generalize c.takenIn settings w = taken at htaken htimely
  obtain ⟨e | n, u⟩ := taken
  · obtain ⟨hkind, hresources⟩ := htaken
    have hscreening : u.screening = w.screening := by
      have hrequest : Function.Injective fun e : Int × String =>
          (⟨.int e.1, .text e.2⟩ : Memory.ScreeningRequest) := by
        rintro ⟨n, s⟩ ⟨m, t⟩ hsame
        simpa using hsame
      exact List.map_injective_iff.2 hrequest (htimely e rfl)
    have hfollows : w.Follows (w.rolledBack u) :=
      ⟨hresources hscreening, hscreening, fun s hs => ⟨s, hs, rfl, rfl, rfl⟩⟩
    refine ⟨?_, h.follows hfollows⟩
    rintro n hrefused
    obtain rfl := Except.error.inj hrefused
    exact hkind n rfl
  · exact ⟨fun n => nofun, htaken⟩

/-- Along uploads of which none fails too late. -/
theorem Backed.blocks (h : w.Backed settings) (htabled : w.Tabled) {calls : List UploadCall}
    (hfits : UploadCall.Throughout settings UploadCall.Fits calls w.overTables)
    (htimely : UploadCall.Throughout settings (UploadCall.Timely settings) calls w.overTables) :
    ∀ done ∈ UploadCall.blocks settings calls w.overTables,
      (∃ u : World, done.2 = u.overTables ∧ u.Backed settings) ∧
        ∀ n, done.1 ≠ .error (screeningConflict n) := by
  induction calls generalizing w with
  | nil => exact fun done hdone => nomatch hdone
  | cons c rest ih =>
      obtain ⟨hc, hfits⟩ := hfits
      obtain ⟨hfirst, htimely⟩ := htimely
      obtain ⟨hrefused, hbacked⟩ := h.block htabled hc hfirst
      obtain ⟨hblock, htabledAfter⟩ := htabled.block settings hc
      intro done hdone
      rw [UploadCall.blocks] at hdone
      rw [hblock] at hfits htimely hdone
      rcases List.mem_cons.1 hdone with rfl | hdone
      · rw [hblock] at hrefused
        exact ⟨⟨_, rfl, hbacked⟩, hrefused⟩
      · exact ih hbacked htabledAfter hfits htimely done hdone

section Retiring

/-! An upload fails late only where an earlier submission cannot be retired. -/

/-- No submission gets a negative number. -/
theorem kept_nonneg : Kept fun u => u.Coherent ∧ ∀ s ∈ u.submissions, 0 ≤ s.id where
  addUpload _ draft operator h := ⟨h.1.addUpload draft operator, h.2⟩
  addSubmission _ draft operator h := by
    obtain ⟨hcoherent, hids⟩ := h
    refine ⟨hcoherent.addSubmission draft operator, fun s hs => ?_⟩
    rcases List.mem_append.1 hs with hs | hs
    · exact hids s hs
    · obtain rfl := List.mem_singleton.1 hs
      exact hcoherent.freeSubmission_nonneg
  putSubmission _ s operator hversion h := by
    obtain ⟨hcoherent, hids⟩ := h
    obtain ⟨x, hx, hid, -⟩ := hversion
    refine ⟨hcoherent.putSubmission s operator, fun y hy => ?_⟩
    obtain ⟨z, hz, rfl⟩ := List.mem_map.1 hy
    by_cases hsame : z.id = s.id
    · rw [if_pos hsame]
      exact hid ▸ hids x hx
    · rw [if_neg hsame]
      exact hids z hz
  putResource _ r operator _ h := ⟨h.1.putResource r operator, h.2⟩
  screen _ n operator _ h := ⟨h.1.screen n operator, h.2⟩

/-- Every submission can be retired: no moves are enforced, the deleted status is in the catalog,
and no submission has a number that a change of its status would refuse. -/
structure Retirable (settings : Settings) (w : World) : Prop where
  free : settings.enforceMoves = false
  deleted : (named? w.submissionStatuses settings.deletedStatus).isSome
  ids : ∀ s ∈ w.submissions, 0 ≤ s.id

/-- A block leaves every submission retirable. -/
theorem Retirable.afterBlock (h : w.Retirable settings) (hcoherent : w.Coherent) :
    (w.afterBlock (c.takenIn settings w)).Retirable settings := by
  have hsetting : SameSetting w (c.takenIn settings w).2 := sameSetting_takenIn settings c w
  have hids : ∀ s ∈ (c.takenIn settings w).2.submissions, 0 ≤ s.id :=
    (kept_nonneg.upload settings ⟨hcoherent, h.ids⟩ c.category c.projectId c.userId
      c.filename).2
  generalize c.takenIn settings w = taken at hsetting hids
  obtain ⟨_ | _, u⟩ := taken
  · exact ⟨h.free, h.deleted, h.ids⟩
  · refine ⟨h.free, ?_, hids⟩
    rw [World.afterBlock, hsetting.submissionStatuses]
    exact h.deleted

/-- Where every submission can be retired, the last step of the intake does not fail. -/
theorem supersede_of_retirable (hcoherent : w.Coherent) (huser : Text.writable request.userId)
    (hstatuses : Numbered w.submissionStatuses) (h : w.Retirable settings) (a : Admission)
    (spared : List Int) (id : Int) :
    ∃ u, w.supersede settings request a spared id = (.ok id, u) := by
  obtain ⟨deleted, hdeleted⟩ := Option.isSome_iff_exists.1 h.deleted
  by_cases hold : a.supersedes settings request
  · refine ⟨w.retired (supersededBy a.resource.id spared) deleted request.operator,
      (supersede_eq_ok_iff settings request hcoherent hstatuses h.ids).2 ⟨rfl, ?_⟩⟩
    rw [if_pos hold]
    exact ⟨huser, deleted, hdeleted, fun s _ _ => checkMove_of_free h.free s deleted, rfl⟩
  · exact ⟨w, by rw [supersede, if_neg hold]⟩

/-- Where every submission can be retired, no upload fails too late. -/
theorem Retirable.timely (h : w.Retirable settings) (hbacked : w.Backed settings)
    (htabled : w.Tabled) (hc : c.Fits w.overTables) : c.Timely settings w.overTables := by
  rw [UploadCall.Timely, (htabled.block settings hc).1, UploadCall.takenIn]
  unfold World.upload
  split
  · exact fun _ _ => rfl
  unfold World.takeIn
  rcases UploadRequest.ofFields [("category", c.category), ("project_id", c.projectId),
      ("user_id", c.userId), ("filename", c.filename)] with e | request
  · exact fun _ _ => rfl
  dsimp only
  rcases ha : w.admission settings request with e | a
  · exact fun _ _ => rfl
  have huser : Text.writable request.userId := writable_of_admission settings request ha
  dsimp only
  rcases finish_cases hbacked.screened_mem settings request a with
    ⟨e, -, hfinish⟩ | ⟨active, hfinish⟩ | hfinish
  · rw [hfinish]
    exact fun _ _ => rfl
  · have hsent : (w.sent request a active).Retirable settings := by
      refine ⟨h.free, h.deleted, fun s hs => ?_⟩
      rcases List.mem_append.1 hs with hs | hs
      · exact h.ids s hs
      · obtain rfl := List.mem_singleton.1 hs
        exact htabled.coherent.freeSubmission_nonneg
    obtain ⟨u, hlast⟩ := supersede_of_retirable (coherent_sent htabled.coherent) huser
      htabled.statuses hsent a [w.freeSubmission] w.freeSubmission
    rw [hfinish, hlast]
    exact fun _ hfailed => nomatch hfailed
  · have hreceived : (w.received request a).Retirable settings := ⟨h.free, h.deleted, h.ids⟩
    have hcoherent : (w.received request a).Coherent := htabled.coherent.addUpload _ _
    obtain ⟨u, hlast⟩ := supersede_of_retirable hcoherent huser htabled.statuses hreceived a []
      w.nextUpload
    rw [hfinish, hlast]
    exact fun _ hfailed => nomatch hfailed

theorem Retirable.throughout (h : w.Retirable settings) (hbacked : w.Backed settings)
    (htabled : w.Tabled) {calls : List UploadCall}
    (hfits : UploadCall.Throughout settings UploadCall.Fits calls w.overTables) :
    UploadCall.Throughout settings (UploadCall.Timely settings) calls w.overTables := by
  induction calls generalizing w with
  | nil => trivial
  | cons c rest ih =>
      obtain ⟨hc, hfits⟩ := hfits
      have hfirst := h.timely hbacked htabled hc
      obtain ⟨hblock, htabledAfter⟩ := htabled.block settings hc
      refine ⟨hfirst, ?_⟩
      rw [hblock] at hfits ⊢
      exact ih (h.afterBlock htabled.coherent) (hbacked.block htabled hc hfirst).2 htabledAfter
        hfits

end Retiring

end World

/-- **A retry is not refused.**  At the start the resources list nothing and nothing was sent to
screening.  Then uploads come, each in a block of its own, and none of them fails once its
submission was sent to screening.  After every block the committed tables back what the resources
list and what was sent to screening, and no upload is refused because its screening had been asked
for. -/
theorem blocks_backed {w : World} (htabled : w.Tabled)
    (hlisted : ∀ r ∈ w.resources, r.submissions = []) (hscreened : w.screening = [])
    {settings : Settings} {calls : List UploadCall}
    (hfits : UploadCall.Throughout settings UploadCall.Fits calls w.overTables)
    (htimely : UploadCall.Throughout settings (UploadCall.Timely settings) calls w.overTables) :
    ∀ done ∈ UploadCall.blocks settings calls w.overTables,
      (∃ u : World, done.2 = u.overTables ∧ u.Backed settings) ∧
        ∀ n, done.1 ≠ .error (screeningConflict n) :=
  (World.Backed.of_none hlisted hscreened).blocks htabled hfits htimely

/-- Three uploads at an open contest.  That of a stranger fails and is rolled back; the two of the
user are answered. -/
theorem blocks_backed_openContest :
    let calls : List UploadCall :=
      [⟨.category .submission, .int 1, .int 11, .text "a.zip"⟩,
        ⟨.category .submission, .int 1, .int 10, .text "a.zip"⟩,
        ⟨.category .submission, .int 1, .int 10, .text "b.zip"⟩]
    let done := UploadCall.blocks {} calls (openContest []).overTables
    done.map (fun x => x.1.toOption) = [none, some (.int 1), some (.int 2)] ∧
      ∀ x ∈ done, (∃ u : World, x.2 = u.overTables ∧ u.Backed {}) ∧
        ∀ n, x.1 ≠ .error (screeningConflict n) := by
  intro calls done
  have hnew : (openContest []).New .defaults := ⟨rfl, rfl, rfl, rfl, rfl, rfl, rfl⟩
  have htabled : (openContest []).Tabled :=
    hnew.tabled LookupNames.valid_defaults (reached_openContest []).coherent (by decide)
  have hlisted : ∀ r ∈ (openContest []).resources, r.submissions = [] := by decide
  have hfits : UploadCall.Throughout {} UploadCall.Fits calls (openContest []).overTables := by
    simp only [calls, UploadCall.Throughout, and_true]
    refine ⟨?_, ?_, ?_⟩
    all_goals refine .of_int ?_ ?_ ?_ ?_
    all_goals decide +kernel
  have hretirable : (openContest []).Retirable {} := ⟨rfl, by decide, by decide⟩
  exact ⟨by decide +kernel, blocks_backed htabled hlisted rfl hfits
    (hretirable.throughout (.of_none hlisted rfl) htabled hfits)⟩

/-- **A late failure is not undone besides the tables.**  The catalog lacks the deleted status.  The
first upload fails for that when its submission was sent to screening; its rows are rolled back, and
neither the link nor the request.  The retry gets the same number and is refused. -/
theorem retry_refused_after_rollback :
    let call : UploadCall := ⟨.category .submission, .int 1, .int 10, .text "f.zip"⟩
    let w := contestWith Defaults.uploadStatuses ["Active"] []
    let first := call.block {} w.overTables
    let second := call.block {} first.2
    w.Tabled ∧ (∀ r ∈ w.resources, r.submissions = []) ∧ w.screening = [] ∧
      first.1 = .error (.service (.noSuchStatus (.text "Deleted") Lookup.submissionStatusKind)) ∧
      first.2.catalog.committed.submissions = [] ∧
      first.2.screening = [⟨.int 1, .text "10"⟩] ∧
      second.1 = .error (screeningConflict 1) := by
  intro call w first second
  let names : LookupNames := { LookupNames.defaults with submissionStatuses := ["Active"] }
  have hnew : w.New names := ⟨rfl, rfl, rfl, rfl, rfl, rfl, rfl⟩
  have hvalid : names.Valid :=
    { LookupNames.valid_defaults with submissionStatuses := ⟨by decide, by decide, by decide⟩ }
  have htabled : w.Tabled :=
    hnew.tabled hvalid (reached_contestWith _ _ _).coherent (by decide)
  refine ⟨htabled, by decide, rfl, ?_, ?_, ?_, ?_⟩
  all_goals decide +kernel

end ContestUploads
