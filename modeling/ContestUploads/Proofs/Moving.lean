import ContestUploads.Proofs.Carrying
import ContestUploads.Proofs.Requests

/-!
# Status changes and retirement in a world

`World.changeStatus` and `World.retireSuperseded` say what the two services come to in a world:
their result, and the world afterwards, for arguments of any kind.  The `does_` lemmas say that
the services do just this over every carrier.

Retiring a submission is a change to the deleted status after which the submission is stored once
more, so it takes two stamps.  The first submission that may not be changed ends the retirement;
those before it stay retired.
-/

namespace ContestUploads

open Program

namespace StoredSubmission

/-- The submission with another status. -/
def withStatus (s : StoredSubmission) (l : StoredLookup) : StoredSubmission :=
  { s with status := some l }

/-- The check before a submission takes a status; only some settings ask for it. -/
def checkMove (settings : Settings) (s : StoredSubmission) (l : StoredLookup) :
    Except Failure Unit :=
  if settings.enforceMoves then StatusTable.checkMove (.ofText? s.statusName) (.text l.name)
  else .ok ()

theorem checkMove_value (s : StoredSubmission) (l : StoredLookup) :
    Reception.checkMove s.value l.value =
      StatusTable.checkMove (.ofText? s.statusName) (.text l.name) := by
  have hname : (StoredLookup.optional s.status).referredName =
      .ok (.ofText? s.statusName) := by
    rcases h : s.status with _ | l <;> simp only [statusName, h] <;> rfl
  simp only [Reception.checkMove, read_status, StoredLookup.read_name, Bind.bind, Except.bind,
    hname]

end StoredSubmission

namespace World

/-- The first entry with a number, of a catalog of lookups. -/
theorem withId?_stored (catalog : List StoredLookup) (id : Int) :
    Lookup.withId? (.list (catalog.map StoredLookup.value)) (.int id) =
      .ok ((withId? catalog id).map StoredLookup.value) := by
  have h := Lookup.withId?_map_value (catalog.map StoredLookup.record) (.int id)
  have hid : (fun l : Lookup => l.id.equals (.int id)) ∘ StoredLookup.record =
      fun l => l.id == id := by
    funext l
    simp [StoredLookup.record]
  rw [List.map_map, List.find?_map, hid, Option.map_map] at h
  exact h

/-- What a change of status comes to. -/
def changeStatus (w : World) (settings : Settings) (submissionId statusId operator : Value) :
    Except Failure StoredSubmission × World :=
  match StatusRequest.ofFields
      [("submission_id", submissionId), ("status_id", statusId), ("operator", operator)] with
  | .error e => (.error e, w)
  | .ok request =>
      match w.submission? request.submissionId with
      | none => (.error (ServiceProblem.submissionNotFound (.int request.submissionId)).failure, w)
      | some s =>
          match withId? w.submissionStatuses request.statusId with
          | none => (.error (ServiceProblem.statusNotFound (.int request.statusId)).failure, w)
          | some l =>
              match s.checkMove settings l with
              | .error e => (.error e, w)
              | .ok () =>
                  (.ok ((s.withStatus l).stamped request.operator w.now),
                    w.putSubmission (s.withStatus l) request.operator)

variable {w : World} (settings : Settings) {κ : Type} [UploadCatalog κ] {k : Carrier κ}

theorem does_applyStatus {s : StoredSubmission} (hs : s ∈ w.submissions) {l : StoredLookup}
    (hl : l ∈ w.submissionStatuses) (which : Fields) (operator : String)
    (free : which.lookup "action" = none) :
    k.Does (Reception.applyStatus settings s.value l.value which operator) w
      (match s.checkMove settings l with
        | .error e => (.error e, w)
        | .ok () =>
            (.ok ((s.withStatus l).stamped operator w.now).value,
              w.putSubmission (s.withStatus l) operator)) := by
  refine Carrier.does_of_fits fun hfits => ?_
  have hreach := (k.reach_submission hfits hs).2
  have hproper : (s.withStatus l).Proper w k.reach := ⟨⟨l, hl, rfl⟩, hreach.1, hreach.2⟩
  have hwritten : k.Does (do
      let changed ← ofExcept (s.value.write "status" l.value)
      let updated ← askGuarded "update submission" which
        (.catalog (.updateSubmission changed (.text operator)))
      let name ← ofExcept (l.value.read "name")
      note .info "submission_status_updated"
        (which ++ [("status", name), ("operator", .text operator)])
      return updated : Program Value) w
      (.ok ((s.withStatus l).stamped operator w.now).value,
        w.putSubmission (s.withStatus l) operator) := by
    refine (Carrier.does_ofExcept (.ok (s.withStatus l).value)).bind ?_
    refine (Carrier.does_updateSubmission free hproper ⟨s, hs, rfl, rfl, rfl⟩ operator).bind ?_
    refine (Carrier.does_ofExcept (.ok (Value.text l.name))).bind ?_
    exact (Carrier.does_note _ _ _).bind (Carrier.does_pure _)
  unfold Reception.applyStatus StoredSubmission.checkMove
  cases hmoves : settings.enforceMoves with
  | false => exact hwritten
  | true =>
      rw [StoredSubmission.checkMove_value]
      cases hcheck : StatusTable.checkMove (.ofText? s.statusName) (.text l.name) with
      | error e => exact (Carrier.does_ofExcept (.error e)).bind_error
      | ok _ => exact (Carrier.does_ofExcept (.ok ())).bind hwritten

/-- A change of status does what it comes to in a world.  The number of the submission has to be
within reach. -/
theorem does_changeStatus {submissionId : Value} (hreach : ∀ n, submissionId = .int n → k.reach n)
    (statusId operator : Value) :
    k.Does (Reception.changeStatus settings submissionId statusId operator) w
      (Carrier.shown StoredSubmission.value
        (w.changeStatus settings submissionId statusId operator)) := by
  unfold Reception.changeStatus changeStatus
  rcases hrequest : StatusRequest.ofFields
      [("submission_id", submissionId), ("status_id", statusId), ("operator", operator)]
    with e | request
  · exact (Carrier.does_ofExcept (.error e)).bind_error
  · have hid := (StatusRequest.ofFields_eq_ok_iff.1 hrequest).1.1
    refine (Carrier.does_ofExcept (.ok request)).bind ?_
    refine (Carrier.does_getSubmission rfl (hreach _ hid)).bind ?_
    dsimp only
    rcases hfound : w.submission? request.submissionId with _ | s
    · exact (Carrier.does_note _ _ _).bind (Carrier.does_reject _)
    · refine (Carrier.does_submissionStatuses rfl).bind ?_
      rw [withId?_stored]
      refine (Carrier.does_ofExcept (.ok _)).bind ?_
      dsimp only
      rcases hstatus : withId? w.submissionStatuses request.statusId with _ | l
      · exact (Carrier.does_note _ _ _).bind (Carrier.does_reject _)
      · have hdone := does_applyStatus settings (k := k) (mem_of_submission? hfound).1
          (List.mem_of_find?_eq_some hstatus) [("submission_id", .int request.submissionId)]
          request.operator rfl
        dsimp only
        rcases hmove : s.checkMove settings l with e | ⟨⟩
        · rw [hmove] at hdone
          exact hdone
        · rw [hmove] at hdone
          exact hdone

/-- A change of status that goes through has found a submission, an entry of the catalog and a move
that is allowed; it has stored the submission with this status. -/
theorem changeStatus_ok {submissionId statusId operator : Value} {changed : StoredSubmission}
    {u : World}
    (h : w.changeStatus settings submissionId statusId operator = (.ok changed, u)) :
    ∃ request s l,
      StatusRequest.ofFields [("submission_id", submissionId), ("status_id", statusId),
        ("operator", operator)] = .ok request ∧
      w.submission? request.submissionId = some s ∧
      withId? w.submissionStatuses request.statusId = some l ∧
      s.checkMove settings l = .ok () ∧
      changed = (s.withStatus l).stamped request.operator w.now ∧
      u = w.putSubmission (s.withStatus l) request.operator := by
  unfold changeStatus at h
  split at h
  · simp at h
  · rename_i request hrequest
    split at h
    · simp at h
    · rename_i s hfound
      split at h
      · simp at h
      · rename_i l hstatus
        split at h
        · simp at h
        · rename_i hmove
          obtain ⟨hchanged, hu⟩ := Prod.mk.inj h
          exact ⟨request, s, l, hrequest, hfound, hstatus, hmove, (Except.ok.inj hchanged).symm,
            hu.symm⟩

/-- A change of status that does not go through changes nothing. -/
theorem changeStatus_error {submissionId statusId operator : Value} {e : Failure} {u : World}
    (h : w.changeStatus settings submissionId statusId operator = (.error e, u)) : u = w := by
  unfold changeStatus at h
  split at h
  · exact (Prod.mk.inj h).2.symm
  · split at h
    · exact (Prod.mk.inj h).2.symm
    · split at h
      · exact (Prod.mk.inj h).2.symm
      · split at h
        · exact (Prod.mk.inj h).2.symm
        · simp at h

/-- What every write keeps is kept by a change of status. -/
theorem Kept.changeStatus {holds : World → Prop} (hkept : Kept holds) (h : holds w)
    (submissionId statusId operator : Value) :
    holds (w.changeStatus settings submissionId statusId operator).2 := by
  rcases hresult : w.changeStatus settings submissionId statusId operator with ⟨_ | changed, u⟩
  · obtain rfl := changeStatus_error settings hresult
    exact h
  · obtain ⟨request, s, l, -, hfound, -, -, -, rfl⟩ := changeStatus_ok settings hresult
    exact hkept.putSubmission _ _ _ ⟨s, (mem_of_submission? hfound).1, rfl, rfl, rfl⟩ h

/-- The answer to a change of status is stored as it is, with a status of the catalog. -/
theorem mem_of_changeStatus {submissionId statusId operator : Value} {changed : StoredSubmission}
    {u : World}
    (h : w.changeStatus settings submissionId statusId operator = (.ok changed, u)) :
    changed ∈ u.submissions ∧ ∃ l ∈ u.submissionStatuses, changed.status = some l := by
  obtain ⟨request, s, l, -, hfound, hstatus, -, rfl, rfl⟩ := changeStatus_ok settings h
  refine ⟨List.mem_map.2 ⟨s, (mem_of_submission? hfound).1, if_pos rfl⟩, l, ?_, rfl⟩
  exact List.mem_of_find?_eq_some hstatus

/-- Retire submissions one after the other, but not the spared ones; the answer is their numbers.
The first that may not be changed ends it. -/
def retireEach (deleted : StoredLookup) (operator : String) (spared : List Int) :
    List StoredSubmission → World → Except Failure (List Int) × World
  | [], w => (.ok [], w)
  | s :: rest, w =>
      if s.id ∈ spared then retireEach deleted operator spared rest w
      else
        match w.changeStatus settings (.int s.id) (.int deleted.id) (.text operator) with
        | (.error e, u) => (.error e, u)
        | (.ok changed, u) =>
            match retireEach deleted operator spared rest (u.putSubmission changed operator) with
            | (.error e, v) => (.error e, v)
            | (.ok later, v) => (.ok (s.id :: later), v)

/-- A retirement does what it comes to in a world.  The numbers of those that are listed have to be
within reach. -/
theorem does_retireEach (deleted : StoredLookup) (operator : String) (spared : List Int)
    {listed : List StoredSubmission} (hreach : ∀ s ∈ listed, k.reach s.id) :
    k.Does (Reception.retireEach settings deleted.value operator (.list (spared.map .int))
        (listed.map StoredSubmission.value)) w
      (Carrier.shown (List.map Value.int)
        (retireEach settings deleted operator spared listed w)) := by
  induction listed generalizing w with
  | nil => exact Carrier.does_pure _
  | cons s rest ih =>
      have hlater := fun x hx => hreach x (List.mem_cons_of_mem s hx)
      have hspared : (Value.list (spared.map .int)).holds (.int s.id) =
          .ok (spared.contains s.id) := by
        rw [Value.holds_list, Value.contains_ofInts]
      rw [List.map_cons, Reception.retireEach, retireEach]
      refine (Carrier.does_ofExcept (.ok (Value.int s.id))).bind ?_
      rw [hspared]
      refine (Carrier.does_ofExcept (.ok _)).bind ?_
      by_cases hs : s.id ∈ spared
      · simpa [hs] using ih hlater
      · rw [if_neg (by simpa using hs), if_neg hs]
        refine (Carrier.does_ofExcept (.ok (Value.int deleted.id))).bind ?_
        have hchange := does_changeStatus settings (k := k) (w := w)
          (fun n hn => Value.int.inj hn ▸ hreach s List.mem_cons_self) (.int deleted.id)
          (.text operator)
        rcases hresult : w.changeStatus settings (.int s.id) (.int deleted.id) (.text operator)
          with ⟨e | changed, u⟩
        · rw [hresult] at hchange
          exact hchange.bind_error
        · rw [hresult] at hchange
          obtain ⟨hmem, hstatus⟩ := mem_of_changeStatus settings hresult
          refine hchange.bind (Carrier.does_of_fits fun hfits => ?_)
          have hreachChanged := (k.reach_submission hfits hmem).2
          refine (Carrier.does_updateSubmission rfl
            ⟨hstatus, hreachChanged.1, hreachChanged.2⟩ (isVersion_of_mem hmem)
            operator).bind ?_
          have hrest := ih (w := u.putSubmission changed operator) hlater
          dsimp only
          rcases hretired : retireEach settings deleted operator spared rest
            (u.putSubmission changed operator) with ⟨e | later, v⟩
          · rw [hretired] at hrest
            exact hrest.bind_error
          · rw [hretired] at hrest
            exact hrest.bind (Carrier.does_pure _)

/-- What every write keeps is kept by a retirement, even if that was ended by a failure. -/
theorem Kept.retireEach {holds : World → Prop} (hkept : Kept holds) (h : holds w)
    (deleted : StoredLookup) (operator : String) (spared : List Int)
    (listed : List StoredSubmission) :
    holds (retireEach settings deleted operator spared listed w).2 := by
  induction listed generalizing w with
  | nil => exact h
  | cons s rest ih =>
      rw [World.retireEach]
      by_cases hs : s.id ∈ spared
      · rw [if_pos hs]
        exact ih h
      · rw [if_neg hs]
        have hchanged := hkept.changeStatus settings h (.int s.id) (.int deleted.id)
          (.text operator)
        rcases hresult : w.changeStatus settings (.int s.id) (.int deleted.id) (.text operator)
          with ⟨_ | changed, u⟩
        · rw [hresult] at hchanged
          exact hchanged
        · rw [hresult] at hchanged
          have hversion := isVersion_of_mem (mem_of_changeStatus settings hresult).1
          have hlater := ih (hkept.putSubmission u changed operator hversion hchanged)
          rcases hrest : World.retireEach settings deleted operator spared rest
            (u.putSubmission changed operator) with ⟨_ | later, v⟩ <;> simpa [hrest] using hlater

/-- The submissions of a resource, in order. -/
def ofResource (w : World) (resourceId : Int) : List StoredSubmission :=
  w.submissions.filter (·.resourceId == some resourceId)

/-- The status of what is retired.  It must be there, and the user has to be written out. -/
def demandDeleted (w : World) (userId : Int) : Except Failure StoredLookup := do
  let deleted ← known w.submissionStatuses settings.deletedStatus Lookup.submissionStatusKind
  if Text.writable userId then .ok deleted else .error (.foreign .tooManyDigits)

/-- What retiring the submissions of a resource comes to. -/
def retireSuperseded (w : World) (userId resourceId : Int) (spared : List Int) :
    Except Failure (List Int) × World :=
  match w.demandDeleted settings userId with
  | .error e => (.error e, w)
  | .ok deleted =>
      retireEach settings deleted (toString userId) spared (w.ofResource resourceId) w

theorem demandDeleted_of_writable {userId : Int} (huser : Text.writable userId) :
    w.demandDeleted settings userId =
      known w.submissionStatuses settings.deletedStatus Lookup.submissionStatusKind := by
  unfold demandDeleted
  cases known w.submissionStatuses settings.deletedStatus Lookup.submissionStatusKind with
  | error e => rfl
  | ok deleted => exact if_pos huser

theorem demandDeleted_eq_ok_iff {userId : Int} {deleted : StoredLookup} :
    w.demandDeleted settings userId = .ok deleted ↔
      Text.writable userId ∧
        known w.submissionStatuses settings.deletedStatus Lookup.submissionStatusKind =
          .ok deleted := by
  unfold demandDeleted
  rcases known w.submissionStatuses settings.deletedStatus Lookup.submissionStatusKind with e | l
  · simp [Bind.bind, Except.bind]
  · by_cases huser : Text.writable userId <;> simp [Bind.bind, Except.bind, huser]

/-- Retiring the submissions of a resource does what it comes to in a world.  The number of the
resource has to be within reach. -/
theorem does_retireSuperseded (userId : Int) {r : StoredResource} (hr : k.reach r.id)
    (spared : List Int) :
    k.Does (Reception.retireSuperseded settings (.int userId) r.value
        (.list (w.submissionStatuses.map StoredLookup.value)) (.list (spared.map .int))) w
      (Carrier.shown (List.map Value.int) (w.retireSuperseded settings userId r.id spared)) := by
  refine Carrier.does_of_fits fun hfits => ?_
  unfold Reception.retireSuperseded retireSuperseded demandDeleted
  rw [require_stored]
  rcases known w.submissionStatuses settings.deletedStatus Lookup.submissionStatusKind
    with e | deleted
  · exact (Carrier.does_ofExcept (.error e)).bind_error
  refine (Carrier.does_ofExcept (.ok deleted.value)).bind ?_
  dsimp only [Bind.bind, Except.bind]
  by_cases huser : Text.writable userId
  · have hreach : ∀ s ∈ w.ofResource r.id, k.reach s.id := fun s hs =>
      (k.reach_submission hfits (List.mem_of_mem_filter hs)).1
    have hretire := does_retireEach settings (w := w) deleted (toString userId) spared hreach
    rw [Value.asText_of_writable (by simpa using huser), Value.display_int, if_pos huser]
    refine (Carrier.does_ofExcept (.ok (toString userId))).bind ?_
    refine (Carrier.does_ofExcept (.ok (Value.int r.id))).bind ?_
    refine (Carrier.does_searchOfResource rfl hr).bind ?_
    refine (Carrier.does_ofExcept (.ok _)).bind ?_
    dsimp only
    rcases hretired : retireEach settings deleted (toString userId) spared (w.ofResource r.id) w
      with ⟨e | ids, u⟩
    · rw [hretired] at hretire
      exact hretire.bind_error
    · rw [hretired] at hretire
      exact hretire.bind ((Carrier.does_note _ _ _).bind (Carrier.does_pure _))
  · rw [Value.asText_of_unwritable (by simpa using huser), if_neg huser]
    exact (Carrier.does_ofExcept (.error _)).bind_error

theorem Kept.retireSuperseded {holds : World → Prop} (hkept : Kept holds) (h : holds w)
    (userId resourceId : Int) (spared : List Int) :
    holds (w.retireSuperseded settings userId resourceId spared).2 := by
  unfold World.retireSuperseded
  cases w.demandDeleted settings userId with
  | error e => exact h
  | ok deleted => exact hkept.retireEach settings h deleted _ spared _

end World

end ContestUploads
