import ContestUploads.Proofs.Consistency
import ContestUploads.Proofs.Failing
import ContestUploads.Proofs.Restored

/-!
# Statuses follow the table

Where moves are enforced, a status is stored in three places: with a new submission, by a change of
status that the table was asked about, and once more by a retirement, which stores the submission
that the change has answered with and asks nobody.  A new submission takes a number that is free,
and the second write of a retirement repeats the status of the first.  So each write leaves every
submission the status that it has, or gives it one that is listed for it (`DeskCall.heeds_writes`).

Nothing is asked of the catalog of statuses, nor of the names in the settings.  A failure stops a
call between two writes (`Surfaces.point_of_fails`), so a run with failures goes from status to
status along the table too: `statuses_follow_table`.
-/

namespace ContestUploads

open Program World

namespace StatusTable

/-- What the name of a stored status may be next: the same, one that is listed for it, and any
where there was none. -/
def Allows (now next : Option String) : Prop :=
  ∀ a, now = some a → next = some a ∨ ∃ b ∈ listed a, next = some b

theorem Allows.refl (now : Option String) : Allows now now :=
  fun _ h => .inl h

/-- Names that lead to each other only are not left. -/
theorem stays {names : List String} (hclosed : ∀ a ∈ names, ∀ b ∈ listed a, b ∈ names)
    {status : Nat → Option String} (hpath : ∀ k, Allows (status k) (status (k + 1))) {k : Nat}
    (hk : ∃ a ∈ names, status k = some a) : ∀ j ≥ k, ∃ a ∈ names, status j = some a := by
  intro j hj
  obtain ⟨d, rfl⟩ := Nat.exists_eq_add_of_le hj
  induction d with
  | zero => exact hk
  | succ d ih =>
      obtain ⟨a, ha, hnow⟩ := ih (Nat.le_add_right k d)
      rcases hpath (k + d) a hnow with hsame | ⟨b, hb, hnext⟩
      · exact ⟨a, ha, hsame⟩
      · exact ⟨b, hclosed a ha b hb, hnext⟩

end StatusTable

open StatusTable (Allows)

/-- The name of the status under which a submission is stored, if it is stored and has one. -/
def Memory.Catalog.statusName? (c : Memory.Catalog) (n : Int) : Option String :=
  (c.submissions.get? (.int n)).bind fun s =>
    ((s.read "status").bind Value.referredName).toOption.bind Value.textual?

namespace World

variable {w u : World} (settings : Settings)

/-- The name of the status of the submission with a number, if there is one and it has one. -/
def statusName? (w : World) (n : Int) : Option String :=
  (w.submission? n).bind StoredSubmission.statusName

theorem statusName?_catalog (w : World) (n : Int) :
    w.catalog.statusName? n = w.statusName? n := by
  have hname (s : StoredSubmission) :
      ((s.value.read "status").bind Value.referredName).toOption.bind Value.textual? =
        s.statusName := by
    rw [StoredSubmission.read_status, StoredSubmission.statusName]
    rcases s.status with _ | l <;> rfl
  rw [Memory.Catalog.statusName?, catalog, Register.get?_filed, Option.bind_map]
  exact Option.bind_congr fun s _ => hname s

/-- A submission that is there has the status with which it is stored once more; no other changes
its status. -/
theorem statusName?_again {s : StoredSubmission} (hs : s.id ∈ w.submissions.map StoredSubmission.id)
    (operator : String) (n : Int) : ((Write.again s operator).onto w).statusName? n =
      if n = s.id then s.statusName else w.statusName? n := by
  rw [Write.onto, if_pos hs]
  have hstatus := statusOf_putSubmission w s operator n
  have hread (v : World) : v.statusName? n =
      (v.statusOf n).bind fun l => l.map StoredLookup.name := by
    rw [statusName?, statusOf, Option.bind_map]
    rfl
  rw [hread, hread w, hstatus]
  split
  · rename_i hn
    obtain ⟨x, hx⟩ : ∃ x, w.submissions.find? (fun x => x.id == n) = some x := by
      obtain ⟨x, hx, hid⟩ := List.mem_map.1 hs
      rw [← Option.isSome_iff_exists, List.find?_isSome]
      exact ⟨x, hx, by simp [hid, hn]⟩
    rw [statusOf, submission?, hx]
    rfl
  · rfl

/-- Each of some writes leaves every submission a status that the table allows. -/
def Heeds : World → List Write → Prop
  | _, [] => True
  | w, x :: rest =>
      (∀ n, Allows (w.statusName? n) ((x.onto w).statusName? n)) ∧ Heeds (x.onto w) rest

theorem Heeds.append {first later : List Write} (hfirst : w.Heeds first)
    (hlater : (w.after first).Heeds later) : w.Heeds (first ++ later) := by
  induction first generalizing w with
  | nil => exact hlater
  | cons x rest ih => exact ⟨hfirst.1, ih hfirst.2 hlater⟩

/-- From each write to the next, statuses go along the table. -/
theorem Heeds.step {writes : List Write} (h : w.Heeds writes) (i : Nat) (n : Int) :
    Allows ((w.after (writes.take i)).statusName? n)
      ((w.after (writes.take (i + 1))).statusName? n) := by
  induction writes generalizing w i with
  | nil =>
      rw [List.take_nil, List.take_nil]
      exact .refl _
  | cons x rest ih =>
      cases i with
      | zero => exact h.1 n
      | succ i => exact ih h.2 i

/-- Only a submission that is stored once more has its status changed. -/
theorem allows_of_not_again {x : Write} (hx : x.restored? = none) (n : Int) :
    Allows (w.statusName? n) ((x.onto w).statusName? n) := by
  cases x with
  | upload draft operator => exact .refl _
  | submission draft operator =>
      intro a ha
      left
      obtain ⟨s, hs, hname⟩ := Option.bind_eq_some_iff.1 ha
      show Option.bind ((w.submissions ++ [_]).find? _) _ = some a
      rw [List.find?_append, show w.submissions.find? _ = some s from hs]
      exact hname
  | again s operator => cases hx
  | resource r operator =>
      rw [Write.onto]
      split <;> exact .refl _
  | screening m operator =>
      rw [Write.onto]
      split <;> exact .refl _

theorem heeds_of_not_again {writes : List Write} (h : writes.filterMap Write.restored? = []) :
    w.Heeds writes := by
  induction writes generalizing w with
  | nil => trivial
  | cons x rest ih =>
      rw [List.filterMap_eq_nil_iff] at h
      have hlater : rest.filterMap Write.restored? = [] :=
        List.filterMap_eq_nil_iff.2 fun y hy => h y (List.mem_cons_of_mem x hy)
      exact ⟨allows_of_not_again (h x List.mem_cons_self), ih hlater⟩

/-- A submission that is stored once more with a status that is allowed for it. -/
theorem allows_again {s : StoredSubmission} (hs : s.id ∈ w.submissions.map StoredSubmission.id)
    (hallows : Allows (w.statusName? s.id) s.statusName) (operator : String) (n : Int) :
    Allows (w.statusName? n) (((Write.again s operator).onto w).statusName? n) := by
  rw [statusName?_again hs]
  split
  · rename_i hn
    rwa [hn]
  · exact .refl _

variable {settings} (hmoves : settings.enforceMoves = true)

include hmoves

/-- A check that is passed allows the move. -/
theorem allows_of_checkMove {s : StoredSubmission} {l : StoredLookup}
    (h : s.checkMove settings l = .ok ()) : Allows s.statusName (some l.name) := by
  rw [StoredSubmission.checkMove, if_pos hmoves, StatusTable.checkMove_eq_ok_iff,
    StatusTable.canMove_iff] at h
  intro a ha
  rcases h with hnone | hsame | ⟨name, hname, hlisted⟩
  · rw [ha] at hnone
    cases hnone
  · exact .inl (hsame.symm.trans ha)
  · obtain rfl := Option.some.inj (hname.symm.trans ha)
    exact .inr ⟨l.name, hlisted, rfl⟩

theorem heeds_changeStatusWrites (w : World) (submissionId statusId operator : Value) :
    w.Heeds (w.changeStatusWrites settings submissionId statusId operator) := by
  rcases changeStatus_cases settings w submissionId statusId operator with
    ⟨e, -, hwrites⟩ | ⟨request, s, l, -, hfound, -, hmove, -, hwrites⟩
  · rw [hwrites]
    trivial
  · rw [hwrites]
    obtain ⟨hs, hid⟩ := mem_of_submission? hfound
    have hname : w.statusName? (s.withStatus l).id = s.statusName := by
      show (w.submission? s.id).bind _ = _
      rw [hid, hfound]
      rfl
    have hstored : (s.withStatus l).id ∈ w.submissions.map StoredSubmission.id :=
      List.mem_map.2 ⟨s, hs, rfl⟩
    refine ⟨allows_again hstored ?_ request.operator, trivial⟩
    rw [hname]
    exact allows_of_checkMove hmoves hmove

/-- A retirement stores each submission a second time with the status that it was given. -/
theorem heeds_retireEachWrites (deleted : StoredLookup) (operator : String) (spared : List Int)
    (listed : List StoredSubmission) (w : World) :
    w.Heeds (retireEachWrites settings deleted operator spared listed w) := by
  induction listed generalizing w with
  | nil => trivial
  | cons s rest ih =>
      rw [retireEachWrites]
      by_cases hs : s.id ∈ spared
      · rw [if_pos hs]
        exact ih w
      · rw [if_neg hs]
        refine (heeds_changeStatusWrites hmoves w _ _ _).append ?_
        rw [after_changeStatusWrites]
        rcases changeStatus_cases settings w (.int s.id) (.int deleted.id) (.text operator) with
          ⟨e, hresult, -⟩ | ⟨request, x, l, -, hfound, -, -, hresult, -⟩
        · rw [hresult]
          trivial
        · rw [hresult]
          let changed := (x.withStatus l).stamped request.operator w.now
          let u := w.putSubmission (x.withStatus l) request.operator
          have hx : (x.withStatus l).id ∈ w.submissions.map StoredSubmission.id :=
            List.mem_map.2 ⟨x, (mem_of_submission? hfound).1, rfl⟩
          have hchanged : changed.id ∈ u.submissions.map StoredSubmission.id :=
            (isVersion_of_mem (mem_of_changeStatus settings hresult).1).id_mem
          have hrepeats : u.statusName? changed.id = changed.statusName := by
            have hagain := statusName?_again hx request.operator (x.withStatus l).id
            rw [Write.onto, if_pos hx, if_pos rfl] at hagain
            exact hagain
          have honce : (Write.again changed operator).onto u = u.putSubmission changed operator :=
            if_pos hchanged
          refine ⟨allows_again hchanged ?_ operator, ?_⟩
          · rw [hrepeats]
            exact .refl _
          · rw [honce]
            exact ih _

theorem heeds_supersedeWrites (w : World) (request : UploadRequest) (a : Admission)
    (spared : List Int) : w.Heeds (w.supersedeWrites settings request a spared) := by
  unfold supersedeWrites retireSupersededWrites
  split
  · split
    · trivial
    · exact heeds_retireEachWrites hmoves _ _ _ _ w
  · trivial

theorem heeds_finishWrites {request : UploadRequest} {a : Admission}
    (ha : w.admission settings request = .ok a) :
    w.Heeds (w.finishWrites settings request a) := by
  refine ⟨allows_of_not_again rfl, ?_⟩
  show (w.received request a).Heeds _
  unfold followUpWrites
  split
  · have hr : a.resource ∈ (w.received request a).resources :=
      (resource_of_admission settings ha).1
    refine (heeds_of_not_again (restored_enterWrites settings _ _ _ _)).append ?_
    rw [after_enterWrites settings request hr]
    rcases (w.received request a).enter settings request a w.nextUpload with ⟨e | n, v⟩
    · trivial
    · exact heeds_supersedeWrites hmoves v request a [n]
  · exact heeds_supersedeWrites hmoves _ request a []

end World

/-- **The writes of a call keep to the table**, whatever the world holds. -/
theorem DeskCall.heeds_writes {settings : Settings} (hmoves : settings.enforceMoves = true)
    (w : World) (call : DeskCall) : w.Heeds (call.writes settings w) := by
  cases call with
  | upload category projectId userId filename =>
      show w.Heeds (w.takeInWrites settings category projectId userId filename)
      unfold World.takeInWrites
      split
      · trivial
      · split
        · trivial
        · rename_i ha
          exact World.heeds_finishWrites hmoves ha
  | setSubmissionStatus submissionId statusId operator =>
      exact World.heeds_changeStatusWrites hmoves w submissionId statusId operator

/-- Calls go from world to world between writes: each makes the next write, or none. -/
theorem World.after_calls_step {w : World} (h : w.Coherent) {calls : List Call}
    {writes : List Write} (hwrites : calls.filter (·.method.writes) = writes.map Write.call)
    (k : Nat) :
    ∃ i, Collaborators.after Platform.answer w.platform (calls.take k) =
        (w.after (writes.take i)).platform ∧
      (Collaborators.after Platform.answer w.platform (calls.take (k + 1)) =
          (w.after (writes.take i)).platform ∨
        Collaborators.after Platform.answer w.platform (calls.take (k + 1)) =
          (w.after (writes.take (i + 1))).platform) := by
  induction calls generalizing w writes k with
  | nil =>
      rw [List.take_nil, List.take_nil]
      exact ⟨0, rfl, .inl rfl⟩
  | cons c rest ih =>
      have hfirst : Collaborators.after Platform.answer w.platform ((c :: rest).take 1) =
        (Platform.answer c w.platform).state := rfl
      have hlater (i : Nat) : Collaborators.after Platform.answer w.platform
          ((c :: rest).take (i + 1)) =
        Collaborators.after Platform.answer (Platform.answer c w.platform).state (rest.take i) :=
          rfl
      rcases hc : c.method.writes with _ | _
      · rw [List.filter_cons, if_neg (by simp [hc])] at hwrites
        have hsame := Platform.answer_of_reads hc w.platform
        cases k with
        | zero => exact ⟨0, rfl, .inl (hfirst.trans hsame)⟩
        | succ k =>
            rw [hlater, hlater, hsame]
            exact ih h hwrites k
      · rw [List.filter_cons, if_pos hc] at hwrites
        obtain ⟨x, later, rfl, rfl, hrest⟩ := List.map_eq_cons_iff.1 hwrites.symm
        have hmade := Write.answer_call h x
        cases k with
        | zero => exact ⟨0, rfl, .inr (hfirst.trans hmade)⟩
        | succ k =>
            obtain ⟨i, hnow, hnext⟩ := ih (Write.coherent_onto h x) hrest.symm k
            rw [hlater, hlater, hmade]
            exact ⟨i + 1, hnow, hnext⟩

section Runs

variable {σ : Type} {w : World} {settings : Settings} {view : σ → Platform Memory.Catalog}
  {faulty : Collaborators σ}

/-- A call at the desk goes from world to world between its writes, with failures as well. -/
theorem DeskCall.point_of_fails (hfaulty : Collaborators.Fails Platform.answer view faulty)
    (hcoherent : w.Coherent) (settings : Settings) (call : DeskCall) {s : σ}
    (hs : view s = w.platform) (k : Nat) :
    ∃ i, view ((call.program settings).point faulty s k) =
        (w.after ((call.writes settings w).take i)).platform ∧
      (view ((call.program settings).point faulty s (k + 1)) =
          (w.after ((call.writes settings w).take i)).platform ∨
        view ((call.program settings).point faulty s (k + 1)) =
          (w.after ((call.writes settings w).take (i + 1))).platform) := by
  obtain ⟨j, hnow, hnext⟩ := (call.surfaces settings).point_of_fails hfaulty s k
  rw [hs] at hnow hnext
  obtain ⟨i, hi, hstep⟩ := after_calls_step hcoherent (call.makes_program settings w hcoherent) j
  refine ⟨i, hnow.trans hi, ?_⟩
  rcases hnext with hnext | hnext
  · exact .inl (hnext.trans hi)
  · exact hstep.imp hnext.trans hnext.trans

/-- In a call with failures, statuses go along the table from point to point. -/
theorem DeskCall.allows_point (hfaulty : Collaborators.Fails Platform.answer view faulty)
    (hcoherent : w.Coherent) (hmoves : settings.enforceMoves = true) (call : DeskCall) {s : σ}
    (hs : view s = w.platform) (k : Nat) (n : Int) :
    Allows ((view ((call.program settings).point faulty s k)).catalog.statusName? n)
      ((view ((call.program settings).point faulty s (k + 1))).catalog.statusName? n) := by
  obtain ⟨i, hnow, hnext⟩ := call.point_of_fails hfaulty hcoherent settings hs k
  have hname (u : World) : u.platform.catalog.statusName? n = u.statusName? n :=
    u.statusName?_catalog n
  rw [hnow, hname]
  rcases hnext with hnext | hnext
  · rw [hnext, hname]
    exact .refl _
  · rw [hnext, hname]
    exact (call.heeds_writes hmoves w).step i n

/-- So they do in a run of calls. -/
theorem DeskCall.allows_over (hfaulty : Collaborators.Fails Platform.answer view faulty)
    (hcoherent : w.Coherent) (hmoves : settings.enforceMoves = true) (calls : List DeskCall)
    {t : Trail σ} (ht : view t.state = w.platform) :
    ∃ made, (DeskCall.over settings faulty calls t).calls = t.calls ++ made ∧
      ∀ k n, Allows ((view (faulty.after t.state (made.take k))).catalog.statusName? n)
        ((view (faulty.after t.state (made.take (k + 1)))).catalog.statusName? n) := by
  induction calls generalizing w t with
  | nil =>
      refine ⟨[], (List.append_nil _).symm, fun k n => ?_⟩
      rw [List.take_nil, List.take_nil]
      exact .refl _
  | cons call rest ih =>
      let p := call.program settings
      let first := (p.asked faulty t.state).map Prod.fst
      have hstate : (p.run faulty t).2.state = faulty.after t.state first := by
        rw [run_state, outcome_state]
      obtain ⟨i, hlast, -⟩ := call.point_of_fails hfaulty hcoherent settings ht first.length
      rw [Program.point, List.take_length] at hlast
      obtain ⟨later, hcalls, hlater⟩ :=
        ih (hcoherent.after _) ((congrArg view hstate).trans hlast)
      refine ⟨first ++ later, ?_, fun k n => ?_⟩
      · show (DeskCall.over settings faulty rest (p.run faulty t).2).calls = _
        rw [hcalls, run_calls, List.append_assoc]
      · rw [hstate] at hlater
        exact faulty.steps_append
          (R := fun x y => Allows ((view x).catalog.statusName? n) ((view y).catalog.statusName? n))
          (fun k => call.allows_point hfaulty hcoherent hmoves ht k n) (fun k => hlater k n) k

/-- **Stored statuses follow the table, throughout.**  The start is any state that the stores can be
brought to, and the collaborators may fail at any of the calls, before it has taken effect or after
it.  Where moves are enforced, a submission that has a status at one point of a run has it at the
next point too, or one that is listed for it.  So a submission that is deleted stays deleted, and
one that was completed without a win stays so or is deleted. -/
theorem statuses_follow_table {s : σ} (hreached : Reached (view s))
    (hfaulty : Collaborators.Fails Platform.answer view faulty)
    (hmoves : settings.enforceMoves = true) (calls : List DeskCall) :
    let made := (DeskCall.over settings faulty calls { state := s }).calls
    let status (n : Int) (k : Nat) :=
      (view (faulty.after s (made.take k))).catalog.statusName? n
    ∀ n k,
      (∀ a, status n k = some a →
        status n (k + 1) = some a ∨
          ∃ b ∈ StatusTable.listed a, status n (k + 1) = some b) ∧
      (status n k = some "Deleted" → ∀ j ≥ k, status n j = some "Deleted") ∧
      (status n k = some "Completed Without Win" → ∀ j ≥ k,
        status n j = some "Completed Without Win" ∨ status n j = some "Deleted") := by
  obtain ⟨w, hw, hs⟩ := exists_of_reached hreached
  obtain ⟨made, hmade, hpath⟩ :=
    DeskCall.allows_over hfaulty hw hmoves calls (t := { state := s }) hs
  rw [List.nil_append] at hmade
  rw [hmade]
  intro _ status n k
  refine ⟨hpath k n, fun hdeleted j hj => ?_, fun hcompleted j hj => ?_⟩
  · have hclosed : ∀ a ∈ ["Deleted"], ∀ b ∈ StatusTable.listed a, b ∈ ["Deleted"] := by
      decide
    obtain ⟨a, ha, hstatus⟩ := StatusTable.stays hclosed (fun k => hpath k n)
      ⟨"Deleted", List.mem_cons_self, hdeleted⟩ j hj
    rwa [List.mem_singleton.1 ha] at hstatus
  · have hclosed : ∀ a ∈ ["Completed Without Win", "Deleted"], ∀ b ∈ StatusTable.listed a,
        b ∈ ["Completed Without Win", "Deleted"] := by
      decide
    obtain ⟨a, ha, hstatus⟩ := StatusTable.stays hclosed (fun k => hpath k n)
      ⟨"Completed Without Win", List.mem_cons_self, hcompleted⟩ j hj
    simp only [List.mem_cons, List.not_mem_nil, or_false] at ha
    rcases ha with rfl | rfl
    · exact .inl hstatus
    · exact .inr hstatus

end Runs

/-- Two submissions to an open contest; the reply to the first retirement is lost.  The earlier
submission is deleted all the same, and whoever tries to make it active again is refused. -/
theorem statuses_follow_table_openContest :
    let lost : Fault :=
      { method := .updateSubmission, nth := 1, effect := .loseReply (.plain (.cancelled [])) }
    let faulty := Rehearsal.following [lost] Platform.answer
    let calls :=
      [DeskCall.upload (.category .submission) (.int 1) (.int 10) (.text "a.zip"),
        .upload (.category .submission) (.int 1) (.int 10) (.text "b.zip"),
        .setSubmissionStatus (.int 1) (.int 1) (.text "10")]
    let start : Rehearsal (Platform Memory.Catalog) := { state := (openContest []).platform }
    let made := (DeskCall.over { enforceMoves := true } faulty calls { state := start }).calls
    let status (k : Nat) := (faulty.after start (made.take k)).state.catalog.statusName? 1
    status 26 = some "Active" ∧ status 27 = some "Deleted" ∧
      ∀ j ≥ 27, status j = some "Deleted" := by
  intro lost faulty calls start made status
  have hfails : ∀ f ∈ [lost], ∃ e, f.effect = .refuse e ∨ f.effect = .loseReply e := by
    intro f hf
    obtain rfl := List.mem_singleton.1 hf
    exact ⟨_, .inr rfl⟩
  have hactive : status 26 = some "Active" := by decide +kernel
  have hdeleted : status 27 = some "Deleted" := by decide +kernel
  have hfaulty : Collaborators.Fails Platform.answer Rehearsal.state faulty :=
    Rehearsal.following_fails Platform.answer hfails
  have hmoves : ({ enforceMoves := true } : Settings).enforceMoves = true := rfl
  have hreached : Reached start.state := reached_openContest []
  have hstays (k : Nat) : status k = some "Deleted" → ∀ j ≥ k, status j = some "Deleted" :=
    (statuses_follow_table hreached hfaulty hmoves calls 1 k).2.1
  exact ⟨hactive, hdeleted, hstays 27 hdeleted⟩

end ContestUploads
