import ContestUploads.Proofs.Admission
import ContestUploads.Proofs.Writing

/-!
# Catalogs that carry worlds

The services do the same over every catalog that does what a world says.  What is asked of such a
catalog is a `Carrier`: a state for each world, and that it answers the calls that the services
make, and those of other users, as the world answers them.  A carrier may ask for worlds that it
fits, and for numbers within its reach; calls that are well meant lead from fitting worlds to
fitting worlds.

`Carrier.Does` says that a program comes to a result in a world, over a carrier.  Services are
followed with it, one step after the other, for all carriers at once.  The first carrier is
`Carrier.memory`, the catalog in memory: it fits every coherent world, and everything is within its
reach.
-/

namespace ContestUploads

open Program

/-- An upload that may be stored: its type and status are in the catalogs of a world, and its
numbers are within reach. -/
structure StoredUpload.Proper (w : World) (reach : Int → Prop) (u : StoredUpload) : Prop where
  projectId : reach u.projectId
  owner : reach u.owner
  type : ∃ l ∈ w.uploadTypes, u.type = some l
  status : ∃ l ∈ w.uploadStatuses, u.status = some l

/-- A submission that may be stored: its status is in the catalog of a world, and its references are
within reach. -/
structure StoredSubmission.Proper (w : World) (reach : Int → Prop) (s : StoredSubmission) :
    Prop where
  status : ∃ l ∈ w.submissionStatuses, s.status = some l
  uploadId : ∀ n ∈ s.uploadId, reach n
  resourceId : ∀ n ∈ s.resourceId, reach n

section Imp

variable {w u : World} {reach reach' : Int → Prop} (hsetting : World.SameSetting w u)
  (hreach : ∀ n, reach n → reach' n)

include hsetting hreach

/-- What may be stored of an upload is asked of the lookups only, and more may be within reach. -/
theorem StoredUpload.Proper.imp {draft : StoredUpload} (h : draft.Proper w reach) :
    draft.Proper u reach' where
  projectId := hreach _ h.projectId
  owner := hreach _ h.owner
  type := hsetting.uploadTypes ▸ h.type
  status := hsetting.uploadStatuses ▸ h.status

theorem StoredSubmission.Proper.imp {s : StoredSubmission} (h : s.Proper w reach) :
    s.Proper u reach' where
  status := hsetting.submissionStatuses ▸ h.status
  uploadId n hn := hreach n (h.uploadId n hn)
  resourceId n hn := hreach n (h.resourceId n hn)

end Imp

/-- A catalog that does what worlds say. -/
structure Carrier (κ : Type) [UploadCatalog κ] where
  /-- The state of the catalog for a world. -/
  catalog : World → κ
  fits : World → Prop
  reach : Int → Prop
  coherent {w : World} : fits w → w.Coherent
  reach_submission {w : World} {s : StoredSubmission} : fits w → s ∈ w.submissions →
    reach s.id ∧ (∀ n ∈ s.uploadId, reach n) ∧ ∀ n ∈ s.resourceId, reach n
  reach_resource {w : World} {r : StoredResource} : fits w → r ∈ w.resources → reach r.id
  /-- Other stores are no concern of the catalog. -/
  putResource {w : World} {r : StoredResource} (operator : String) : fits w →
    r.id ∈ w.resources.map StoredResource.id →
    fits (w.putResource r operator) ∧ catalog (w.putResource r operator) = catalog w
  screen {w : World} (n : Int) (operator : String) : fits w →
    fits (w.screen n operator) ∧ catalog (w.screen n operator) = catalog w
  uploadStatuses {w : World} : fits w →
    Platform.answer (.catalog .uploadStatuses) (w.platformWith (catalog w)) =
      ⟨.ok (.list (w.uploadStatuses.map StoredLookup.value)), w.platformWith (catalog w), []⟩
  uploadTypes {w : World} : fits w →
    Platform.answer (.catalog .uploadTypes) (w.platformWith (catalog w)) =
      ⟨.ok (.list (w.uploadTypes.map StoredLookup.value)), w.platformWith (catalog w), []⟩
  submissionStatuses {w : World} : fits w →
    Platform.answer (.catalog .submissionStatuses) (w.platformWith (catalog w)) =
      ⟨.ok (.list (w.submissionStatuses.map StoredLookup.value)), w.platformWith (catalog w), []⟩
  getSubmission {w : World} {n : Int} : fits w → reach n →
    Platform.answer (.catalog (.getSubmission (.int n))) (w.platformWith (catalog w)) =
      ⟨.ok (((w.submission? n).map StoredSubmission.value).getD .null),
        w.platformWith (catalog w), []⟩
  searchSubmissions {w : World} {x : Sought} : fits w → x.Within reach →
    Platform.answer (.catalog (.searchSubmissions (.filter x.filter)))
        (w.platformWith (catalog w)) =
      ⟨.ok (.list ((w.submissions.filter (x.picks ·)).map StoredSubmission.value)),
        w.platformWith (catalog w), []⟩
  createUpload {w : World} {draft : StoredUpload} (id : Value) (operator : String) : fits w →
    draft.Proper w reach →
    Platform.answer (.catalog (.createUpload { draft.record with id }.value (.text operator)))
        (w.platformWith (catalog w)) =
      ⟨.ok (draft.created w.nextUpload operator w.now).value,
        (w.addUpload draft operator).platformWith (catalog (w.addUpload draft operator)), []⟩ ∧
      fits (w.addUpload draft operator)
  createSubmission {w : World} {draft : StoredSubmission} (id : Value) (operator : String) :
    fits w → draft.Proper w reach → reach w.freeSubmission →
    Platform.answer (.catalog (.createSubmission { draft.record with id }.value (.text operator)))
        (w.platformWith (catalog w)) =
      ⟨.ok (draft.created w.freeSubmission operator w.now).value,
        (w.addSubmission draft operator).platformWith (catalog (w.addSubmission draft operator)),
        []⟩ ∧
      fits (w.addSubmission draft operator)
  updateSubmission {w : World} {s : StoredSubmission} (operator : String) : fits w →
    s.Proper w reach → w.IsVersion s →
    Platform.answer (.catalog (.updateSubmission s.value (.text operator)))
        (w.platformWith (catalog w)) =
      ⟨.ok (s.stamped operator w.now).value,
        (w.putSubmission s operator).platformWith (catalog (w.putSubmission s operator)), []⟩ ∧
      fits (w.putSubmission s operator)

namespace Carrier

/-- The catalog in memory carries every coherent world. -/
def memory : Carrier Memory.Catalog where
  catalog := World.catalog
  fits := World.Coherent
  reach _ := True
  coherent h := h
  reach_submission _ _ := by simp
  reach_resource _ _ := trivial
  putResource operator h _ := ⟨h.putResource _ operator, rfl⟩
  screen n operator h := ⟨h.screen n operator, rfl⟩
  uploadStatuses _ := rfl
  uploadTypes _ := rfl
  submissionStatuses _ := rfl
  getSubmission {w n} _ _ := w.answer_getSubmission n
  searchSubmissions {w x} _ _ := w.answer_searchSubmissions x
  createUpload {_ draft} id operator h _ :=
    ⟨World.answer_createUpload h draft id operator, h.addUpload draft operator⟩
  createSubmission {w draft} id operator h _ _ :=
    ⟨w.answer_createSubmission draft id operator, h.addSubmission draft operator⟩
  updateSubmission {_ s} operator h _ hversion :=
    ⟨World.answer_updateSubmission h hversion.id_mem operator, h.putSubmission s operator⟩

variable {κ : Type} [UploadCatalog κ] (k : Carrier κ) {α β : Type} {w u : World}

/-- The state of the collaborators that a world stands for, with the catalog of a carrier. -/
def platform (w : World) : Platform κ :=
  w.platformWith (k.catalog w)

/-- A result in a world, handed on in another form. -/
def shown (f : α → β) (r : Except Failure α × World) : Except Failure β × World :=
  (r.1.map f, r.2)

/-- A program comes to a result in a world, and leaves another world that fits. -/
def Does (p : Program α) (w : World) (r : Except Failure α × World) : Prop :=
  k.fits w → p.outcome Platform.answer (k.platform w) = (r.1, k.platform r.2) ∧ k.fits r.2

variable {k}

theorem does_pure (a : α) : k.Does (Pure.pure a) w (.ok a, w) :=
  fun h => ⟨rfl, h⟩

theorem does_ofExcept (x : Except Failure α) : k.Does (ofExcept x) w (x, w) := by
  intro h
  cases x <;> exact ⟨rfl, h⟩

theorem does_note (level : Level) (event : String) (fields : Fields) :
    k.Does (note level event fields) w (.ok (), w) :=
  fun h => ⟨rfl, h⟩

theorem does_reject (p : ServiceProblem) :
    k.Does (reject p : Program α) w (.error p.failure, w) :=
  fun h => ⟨rfl, h⟩

/-- A step that asks the catalog nothing. -/
theorem does_of_outcome {p : Program α} {x : Except Failure α}
    (hp : p.outcome Platform.answer (k.platform w) = (x, k.platform w)) : k.Does p w (x, w) :=
  fun h => ⟨hp, h⟩

/-- One program after another. -/
theorem Does.bind {p : Program α} {f : α → Program β} {a : α} {r : Except Failure β × World}
    (hp : k.Does p w (.ok a, u)) (hf : k.Does (f a) u r) : k.Does (p >>= f) w r := by
  intro h
  obtain ⟨hfirst, hu⟩ := hp h
  obtain ⟨hrest, hr⟩ := hf hu
  exact ⟨(outcome_bind_ok hfirst).trans hrest, hr⟩

/-- A failure of the first program ends both. -/
theorem Does.bind_error {p : Program α} {f : α → Program β} {e : Failure}
    (hp : k.Does p w (.error e, u)) : k.Does (p >>= f) w (.error e, u) := by
  intro h
  obtain ⟨hfirst, hu⟩ := hp h
  exact ⟨outcome_bind_error hfirst, hu⟩

/-- Nothing is said of worlds that do not fit. -/
theorem does_of_fits {p : Program α} {r : Except Failure α × World}
    (hp : k.fits w → k.Does p w r) : k.Does p w r :=
  fun h => hp h h

/-- A call that is answered. -/
theorem does_call {c : Call} {v : Value}
    (hc : k.fits w → Platform.answer c (k.platform w) = ⟨.ok v, k.platform u, []⟩ ∧ k.fits u) :
    k.Does (call c) w (.ok v, u) := by
  intro h
  obtain ⟨hanswer, hu⟩ := hc h
  refine ⟨?_, hu⟩
  rw [outcome_call_ok (by rw [hanswer]), hanswer]

section Asking

variable {action : String} {context : Fields} (free : context.lookup "action" = none)

include free

/-- A guarded call that is answered. -/
theorem does_askGuarded {c : Call} {v : Value}
    (hc : k.fits w → Platform.answer c (k.platform w) = ⟨.ok v, k.platform u, []⟩ ∧ k.fits u) :
    k.Does (askGuarded action context c) w (.ok v, u) := by
  intro h
  obtain ⟨hanswer, hu⟩ := hc h
  refine ⟨?_, hu⟩
  rw [outcome_askGuarded_ok free (by rw [hanswer]), hanswer]

theorem does_uploadStatuses :
    k.Does (askGuarded action context (.catalog .uploadStatuses)) w
      (.ok (.list (w.uploadStatuses.map StoredLookup.value)), w) :=
  does_askGuarded free fun h => ⟨k.uploadStatuses h, h⟩

theorem does_uploadTypes :
    k.Does (askGuarded action context (.catalog .uploadTypes)) w
      (.ok (.list (w.uploadTypes.map StoredLookup.value)), w) :=
  does_askGuarded free fun h => ⟨k.uploadTypes h, h⟩

theorem does_submissionStatuses :
    k.Does (askGuarded action context (.catalog .submissionStatuses)) w
      (.ok (.list (w.submissionStatuses.map StoredLookup.value)), w) :=
  does_askGuarded free fun h => ⟨k.submissionStatuses h, h⟩

theorem does_getSubmission {n : Int} (hn : k.reach n) :
    k.Does (askGuarded action context (.catalog (.getSubmission (.int n)))) w
      (.ok (((w.submission? n).map StoredSubmission.value).getD .null), w) :=
  does_askGuarded free fun h => ⟨k.getSubmission h hn, h⟩

theorem does_searchOfResource {n : Int} (hn : k.reach n) :
    k.Does (askGuarded action context
        (.catalog (.searchSubmissions (.filter (.ofResource (.int n)))))) w
      (.ok (.list ((w.submissions.filter (·.resourceId == some n)).map
        StoredSubmission.value)), w) := by
  refine does_askGuarded free fun h => ⟨?_, h⟩
  exact k.searchSubmissions (x := .ofResource (some n)) h fun m hm => Option.some.inj hm ▸ hn

theorem does_createUpload {draft : StoredUpload} (hdraft : draft.Proper w k.reach) (id : Value)
    (operator : String) :
    k.Does (askGuarded action context
        (.catalog (.createUpload { draft.record with id }.value (.text operator)))) w
      (.ok (draft.created w.nextUpload operator w.now).value, w.addUpload draft operator) :=
  does_askGuarded free fun h => k.createUpload id operator h hdraft

theorem does_createSubmission {draft : StoredSubmission} (hdraft : draft.Proper w k.reach)
    (hfree : k.reach w.freeSubmission) (id : Value) (operator : String) :
    k.Does (askGuarded action context
        (.catalog (.createSubmission { draft.record with id }.value (.text operator)))) w
      (.ok (draft.created w.freeSubmission operator w.now).value,
        w.addSubmission draft operator) :=
  does_askGuarded free fun h => k.createSubmission id operator h hdraft hfree

theorem does_updateSubmission {s : StoredSubmission} (hs : s.Proper w k.reach)
    (hversion : w.IsVersion s) (operator : String) :
    k.Does (askGuarded action context (.catalog (.updateSubmission s.value (.text operator)))) w
      (.ok (s.stamped operator w.now).value, w.putSubmission s operator) :=
  does_askGuarded free fun h => k.updateSubmission operator h hs hversion

theorem does_updateResource {r : StoredResource} (hr : r.id ∈ w.resources.map StoredResource.id)
    (operator : String) :
    k.Does (askGuarded action context (.updateResource r.value (.text operator))) w
      (.ok .null, w.putResource r operator) := by
  refine does_askGuarded free fun h => ?_
  obtain ⟨hfits, hcatalog⟩ := k.putResource operator h hr
  refine ⟨?_, hfits⟩
  rw [platform, platform, hcatalog]
  exact World.answer_updateResource _ (k.coherent h) hr operator

end Asking

end Carrier

end ContestUploads
