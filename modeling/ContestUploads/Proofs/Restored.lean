import ContestUploads.Proofs.FailStop
import ContestUploads.Proofs.Warranted

/-!
# What is stored once more

Submissions are retired by being stored once more with another status.  `Call.restored?` reads off a
call which submission that is, `Write.restored?` off a write, and `World.Warrants.statusOf_after`
says that nothing else changes the status of a submission that is there.
-/

namespace ContestUploads

/-- What a call hands over of a submission that it stores once more: its number and its status. -/
def Call.restored? : Call → Option (Except Failure Value × Except Failure Value)
  | .catalog (.updateSubmission s _) => some (s.read "submission_id", s.read "status")
  | _ => none

/-- The submission that a write stores once more, and the status that it gets. -/
def Write.restored? : Write → Option (Int × Option StoredLookup)
  | .again s _ => some (s.id, s.status)
  | _ => none

theorem Write.restored_call (x : Write) : x.call.restored? =
    x.restored?.map fun e => (.ok (.int e.1), .ok (StoredLookup.optional e.2)) := by
  cases x <;> rfl

/-- Calls that store a submission once more are calls that write. -/
theorem Call.filterMap_restored {calls : List Call} {writes : List Write}
    (h : calls.filter (·.method.writes) = writes.map Write.call) :
    calls.filterMap Call.restored? = (writes.filterMap Write.restored?).map
      fun e => (.ok (.int e.1), .ok (StoredLookup.optional e.2)) := by
  have hwriting : (fun c : Call => if c.method.writes then c.restored? else none) =
      Call.restored? := by
    funext c
    rcases c with _ | _ | _ | _ | _ | ⟨_ | _ | _ | _ | _ | _ | _ | _⟩ | _ <;> rfl
  rw [← hwriting, ← List.filterMap_filter, h, List.filterMap_map, List.map_filterMap]
  congr 1
  funext x
  exact x.restored_call

namespace World

variable {w : World} (settings : Settings)

/-- The status of the submission with a number, if there is one. -/
def statusOf (w : World) (n : Int) : Option (Option StoredLookup) :=
  (w.submission? n).map StoredSubmission.status

theorem statusOf_of_mem (h : w.Coherent) {s : StoredSubmission} (hs : s ∈ w.submissions) :
    w.statusOf s.id = some s.status := by
  rw [statusOf, submission?_of_mem h hs]
  rfl

theorem statusOf_putSubmission (w : World) (s : StoredSubmission) (operator : String) (n : Int) :
    (w.putSubmission s operator).statusOf n =
      if n = s.id then (w.statusOf n).map fun _ => s.status else w.statusOf n := by
  have hnumber : (fun x : StoredSubmission => x.id == n) ∘
      (fun x => if x.id = s.id then s.stamped operator w.now else x) = fun x => x.id == n := by
    funext x
    by_cases hid : x.id = s.id
    · simp [hid, StoredSubmission.stamped]
    · simp [hid]
  have hfind : (w.putSubmission s operator).submission? n = (w.submission? n).map
      fun x => if x.id = s.id then s.stamped operator w.now else x := by
    rw [submission?, putSubmission, List.find?_map, hnumber]
    rfl
  rw [statusOf, statusOf, hfind]
  rcases hfound : w.submission? n with _ | x
  · simp
  · have hx := (mem_of_submission? hfound).2
    by_cases hn : n = s.id
    · simp [hn, hx, StoredSubmission.stamped]
    · simp [hn, hx]

/-- What becomes of the status of submission `n` when one is stored once more. -/
def restatused (n : Int) (status : Option (Option StoredLookup)) (x : Int × Option StoredLookup) :
    Option (Option StoredLookup) :=
  if n = x.1 then status.map fun _ => x.2 else status

theorem isSome_restatused (n : Int) (status : Option (Option StoredLookup))
    (x : Int × Option StoredLookup) : (restatused n status x).isSome = status.isSome := by
  unfold restatused
  split
  · exact Option.isSome_map
  · rfl

/-- A submission that is there has its status changed only by being stored once more. -/
theorem statusOf_onto {x : Write} (hx : x.Warranted settings w) {n : Int}
    (hn : (w.statusOf n).isSome) :
    (x.onto w).statusOf n = x.restored?.toList.foldl (restatused n) (w.statusOf n) := by
  cases hx with
  | upload draft operator => rfl
  | submission hu hr hactive hthrough =>
      obtain ⟨s, hs⟩ : ∃ s, w.submissions.find? (fun x => x.id == n) = some s := by
        unfold statusOf at hn
        rwa [Option.isSome_map, Option.isSome_iff_exists] at hn
      show ((w.submissions ++ [_]).find? _).map _ = (w.submissions.find? _).map _
      rw [List.find?_append, hs]
      rfl
  | @again s l hs hl operator =>
      rw [onto_again hs]
      exact statusOf_putSubmission w (s.withStatus l) operator n
  | resource hr hs howner operator =>
      rw [Write.onto]
      split <;> rfl
  | screening hr hs howner hlinked operator =>
      rw [Write.onto]
      split <;> rfl

/-- So warranted writes leave it the status with which it was stored last. -/
theorem Warrants.statusOf_after {writes : List Write} (h : w.Warrants settings writes) {n : Int}
    (hn : (w.statusOf n).isSome) :
    (w.after writes).statusOf n =
      (writes.filterMap Write.restored?).foldl (restatused n) (w.statusOf n) := by
  induction writes generalizing w with
  | nil => rfl
  | cons x rest ih =>
      have hx := statusOf_onto settings h.1 hn
      have hn' : ((x.onto w).statusOf n).isSome := by
        rw [hx]
        rcases x.restored? with _ | e
        · exact hn
        · exact (isSome_restatused n _ e).trans hn
      show ((x.onto w).after rest).statusOf n = _
      rw [ih h.2 hn', hx, List.filterMap_cons]
      rcases x.restored? with _ | e <;> rfl

variable (request : UploadRequest) {a : Admission}

/-- Entering a submission stores none once more. -/
theorem restored_enterWrites (w : World) (request : UploadRequest) (a : Admission)
    (uploadId : Int) :
    (w.enterWrites settings request a uploadId).filterMap Write.restored? = [] := by
  unfold enterWrites
  split <;> rfl

/-- What is planned to be stored once more belongs to the resource of the upload. -/
theorem mem_of_admittedPlan {n : Int}
    (hn : (Method.updateSubmission, some n) ∈ w.admittedPlan settings request a) :
    ∃ s ∈ w.ofResource a.resource.id, s.id = n := by
  have hretired : (Method.updateSubmission, some n) ∈ retirePlan (w.ofResource a.resource.id) := by
    unfold admittedPlan at hn
    rcases List.mem_append.1 hn with hfiled | hretired
    · by_cases hcreates : request.rule.createsSubmission
      · simp [hcreates] at hfiled
      · simp [hcreates] at hfiled
    · by_cases hsupersedes : a.supersedes settings request
      · rwa [if_pos hsupersedes] at hretired
      · simp [hsupersedes] at hretired
  obtain ⟨s, hs, hmem⟩ := List.mem_flatMap.1 hretired
  have hstep := List.eq_of_mem_replicate hmem
  exact ⟨s, hs, (Option.some.inj (Prod.mk.inj hstep).2).symm⟩

/-- An upload stores none once more that was not there before. -/
theorem mem_of_restored {category projectId userId filename : Value}
    {x : Int × Option StoredLookup}
    (hx : x ∈ (w.takeInWrites settings category projectId userId filename).filterMap
      Write.restored?) : x.1 ∈ w.submissions.map StoredSubmission.id := by
  obtain ⟨write, hwrite, hrestored⟩ := List.mem_filterMap.1 hx
  have hstep : write.step = (.updateSubmission, some x.1) := by
    cases write with
    | again s operator =>
        obtain rfl := Option.some.inj hrestored
        rfl
    | _ => cases hrestored
  have hplanned : (Method.updateSubmission, some x.1) ∈
      w.uploadPlan settings category projectId userId filename := by
    rw [← hstep]
    exact (steps_takeInWrites settings category projectId userId filename).subset
      (List.mem_map.2 ⟨write, hwrite, rfl⟩)
  unfold uploadPlan at hplanned
  split at hplanned
  · cases hplanned
  · split at hplanned
    · cases hplanned
    · rename_i a _
      obtain ⟨s, hs, hid⟩ := mem_of_admittedPlan settings _ hplanned
      exact List.mem_map.2 ⟨s, List.mem_of_mem_filter hs, hid⟩

end World

end ContestUploads
