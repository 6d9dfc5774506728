import ContestUploads.Proofs.Interrupted

/-!
# Status changes are exact and atomic

A change of status asks for the submission, then for the statuses, and then makes its one write.  So
each failure comes before the write (`writesLast_changeStatus`), and whatever is refused on the way,
nothing has been stored.

`StatusRequest.AskedBy` says which arguments ask for a change and `StoredSubmission.MayTake` which
moves are open.  With them it is said exactly when a change goes through, what it stores then, and
which failure comes first otherwise.
-/

namespace ContestUploads

open Program World

/-- The arguments of a change that are accepted: two integers that are not negative, and a text with
a character that is not blank. -/
structure StatusRequest.AskedBy (submissionId statusId operator : Value) (r : StatusRequest) :
    Prop where
  submission : submissionId = .int r.submissionId ∧ 0 ≤ r.submissionId
  status : statusId = .int r.statusId ∧ 0 ≤ r.statusId
  operator : operator = .text r.operator ∨
    ∃ c : Category, operator = .category c ∧ c.text = r.operator
  visible : ∃ c ∈ r.operator.toList, Text.isBlank c = false

/-- The request is the one that the arguments make. -/
theorem StatusRequest.askedBy_iff {submissionId statusId operator : Value} {r : StatusRequest} :
    r.AskedBy submissionId statusId operator ↔
      StatusRequest.ofFields [("submission_id", submissionId), ("status_id", statusId),
        ("operator", operator)] = .ok r := by
  have hvisible : Text.allBlank r.operator = false ↔
      ∃ c ∈ r.operator.toList, Text.isBlank c = false := by
    simp [Text.allBlank, List.all_eq_false]
  rw [StatusRequest.ofFields_eq_ok_iff, hvisible]
  constructor
  · intro h
    exact ⟨h.submission, h.status, h.operator, h.visible⟩
  · rintro ⟨hsubmission, hstatus, hoperator, hshown⟩
    exact ⟨hsubmission, hstatus, hoperator, hshown⟩

namespace StoredSubmission

/-- Whether a submission may take a status.  If moves are enforced, it has none, one of the same
name, or one under which the table lists the name. -/
def MayTake (settings : Settings) (s : StoredSubmission) (l : StoredLookup) : Prop :=
  settings.enforceMoves = true → s.statusName = none ∨ s.statusName = some l.name ∨
    ∃ name, s.statusName = some name ∧ l.name ∈ StatusTable.listed name

variable {settings : Settings} {s : StoredSubmission} {l : StoredLookup}

theorem checkMove_eq_ok_iff : s.checkMove settings l = .ok () ↔ s.MayTake settings l := by
  unfold checkMove MayTake
  cases settings.enforceMoves with
  | false => simp
  | true =>
      rw [if_pos rfl, StatusTable.checkMove_eq_ok_iff, StatusTable.canMove_iff]
      simp

/-- A move that is not open is refused with what the table lists. -/
theorem checkMove_of_not_mayTake (h : ¬ s.MayTake settings l) :
    ∃ name, s.statusName = some name ∧
      s.checkMove settings l = .error (.service (.illegalTransition (.text name) (.text l.name)
        (.ofTexts (StatusTable.listed name)))) := by
  unfold MayTake at h
  push Not at h
  obtain ⟨henforced, hnone, hsame, hlisted⟩ := h
  obtain ⟨name, hname⟩ := Option.ne_none_iff_exists'.1 hnone
  refine ⟨name, hname, ?_⟩
  rw [checkMove, if_pos henforced, hname]
  refine StatusTable.checkMove_of_not_listed ?_ (hlisted name hname)
  rintro rfl
  exact hsame hname

end StoredSubmission

namespace World

variable {w : World} (settings : Settings) (submissionId statusId operator : Value)

/-- Before its only write, a program that writes last has changed nothing. -/
theorem WritesLast.untouched {α : Type} {p : Program α} {writes : List Write}
    (hp : WritesLast p w writes) (honce : writes.length ≤ 1) (h : w.Coherent) {k : Nat}
    (hk : k < ((p.asked Platform.answer w.platform).map Prod.fst).length) :
    Collaborators.after Platform.answer w.platform
      (((p.asked Platform.answer w.platform).map Prod.fst).take k) = w.platform := by
  obtain ⟨reads, hreads, hcalls⟩ := hp h
  rw [hcalls] at hk ⊢
  rw [List.length_append, List.length_map] at hk
  rw [List.take_append_of_le_length (by omega)]
  have hnone : (reads.take k).filter (·.method.writes) = ([] : List Write).map Write.call :=
    List.filter_eq_nil_iff.2 fun c hc => by simp [hreads c (List.mem_of_mem_take hc)]
  exact after_calls h hnone

/-- A change of status makes one write at most. -/
theorem length_changeStatusWrites_le :
    (w.changeStatusWrites settings submissionId statusId operator).length ≤ 1 := by
  rcases changeStatus_cases settings w submissionId statusId operator
    with ⟨e, -, hwrites⟩ | ⟨request, s, l, -, -, -, -, -, hwrites⟩
  · simp [hwrites]
  · simp [hwrites]

theorem outcome_changeStatus (h : w.Coherent) :
    (Reception.changeStatus settings submissionId statusId operator).outcome Platform.answer
        w.platform =
      ((w.changeStatus settings submissionId statusId operator).1.map StoredSubmission.value,
        (w.changeStatus settings submissionId statusId operator).2.platform) :=
  (does_changeStatus (k := .memory) settings (fun _ _ => trivial) statusId operator h).1

/-- A call that is refused ends the change, and nothing was stored by then. -/
theorem changeStatus_refused (h : w.Coherent) :
    let change := Reception.changeStatus settings submissionId statusId operator
    let calls := (change.run Platform.answer { state := w.platform }).2.calls
    ∀ (k : Nat) (hk : k < calls.length) (e : Failure),
      let fault := Fault.refusing ((calls.take k).map Call.method) calls[k] e
      let faulty := change.run (Rehearsal.following [fault] Platform.answer)
        { state := { state := w.platform } }
      faulty.1 = .error (e.wrapped calls[k].method.action) ∧
        faulty.2.calls = calls.take (k + 1) ∧ faulty.2.state.state = w.platform := by
  intro change calls k hk e fault faulty
  have hsurfaces : change.Surfaces fun c e => e.wrapped c.method.action :=
    Reception.surfaces_changeStatus (fun _ _ _ => rfl) settings submissionId statusId operator
  obtain ⟨hfailure, hcalls, hleft⟩ := hsurfaces.run_of_fault w.platform k e hk
  have hasked : calls = (change.asked Platform.answer w.platform).map Prod.fst :=
    run_calls Platform.answer change { state := w.platform }
  have hbefore : Collaborators.after Platform.answer w.platform (calls.take k) = w.platform := by
    rw [hasked] at hk ⊢
    exact (writesLast_changeStatus settings submissionId statusId operator).untouched
      (length_changeStatusWrites_le settings submissionId statusId operator) h hk
  exact ⟨hfailure, hcalls, hleft.trans hbefore⟩

/-- Collaborators that fail now and then leave the world as it was, or as the undisturbed change
leaves it. -/
theorem changeStatus_of_fails {σ : Type} {view : σ → Platform Memory.Catalog}
    {faulty : Collaborators σ} (h : w.Coherent)
    (hfaulty : Collaborators.Fails Platform.answer view faulty) {t : σ}
    (ht : view t = w.platform) :
    let left := view ((Reception.changeStatus settings submissionId statusId operator).outcome
      faulty t).2
    left = w.platform ∨
      left = (w.changeStatus settings submissionId statusId operator).2.platform := by
  intro left
  have honce := length_changeStatusWrites_le (w := w) settings submissionId statusId operator
  obtain ⟨j, hleft⟩ := (makes_changeStatus settings submissionId statusId operator).left_of_fails h
    (Reception.surfaces_changeStatus (fun _ _ _ => rfl) settings submissionId statusId operator)
    hfaulty ht
  cases j with
  | zero => exact .inl hleft
  | succ j =>
      rw [List.take_of_length_le (by omega), after_changeStatusWrites] at hleft
      exact .inr hleft

/-! ## How a change ends -/

section Ends

variable {settings submissionId statusId operator} {r : StatusRequest} {s : StoredSubmission}
  {l : StoredLookup}

/-- Arguments that ask for nothing are refused. -/
theorem changeStatus_of_not_asked
    (h : ∀ r, ¬ StatusRequest.AskedBy submissionId statusId operator r) :
    ∃ f words field, w.changeStatus settings submissionId statusId operator = (.error f, w) ∧
      f.problem = .service (.invalidArgument words field) := by
  rcases hrequest : StatusRequest.ofFields
      [("submission_id", submissionId), ("status_id", statusId), ("operator", operator)]
    with f | r
  · obtain ⟨words, field, hproblem⟩ := StatusRequest.problem_of_ofFields_eq_error hrequest
    refine ⟨f, words, field, ?_, hproblem⟩
    rw [changeStatus, hrequest]
  · exact absurd (StatusRequest.askedBy_iff.2 hrequest) (h r)

theorem changeStatus_of_no_submission (hr : r.AskedBy submissionId statusId operator)
    (hs : w.submission? r.submissionId = none) :
    w.changeStatus settings submissionId statusId operator =
      (.error (if Text.writable r.submissionId then
          .service (.submissionNotFound (.int r.submissionId))
        else .foreign .tooManyDigits), w) := by
  simp only [changeStatus, StatusRequest.askedBy_iff.1 hr, hs,
    ServiceProblem.failure_submissionNotFound]

theorem changeStatus_of_no_status (hr : r.AskedBy submissionId statusId operator)
    (hs : w.submission? r.submissionId = some s)
    (hl : withId? w.submissionStatuses r.statusId = none) :
    w.changeStatus settings submissionId statusId operator =
      (.error (if Text.writable r.statusId then .service (.statusNotFound (.int r.statusId))
        else .foreign .tooManyDigits), w) := by
  simp only [changeStatus, StatusRequest.askedBy_iff.1 hr, hs, hl,
    ServiceProblem.failure_statusNotFound]

theorem changeStatus_of_not_mayTake (hr : r.AskedBy submissionId statusId operator)
    (hs : w.submission? r.submissionId = some s)
    (hl : withId? w.submissionStatuses r.statusId = some l) (hmove : ¬ s.MayTake settings l) :
    ∃ name, s.statusName = some name ∧
      w.changeStatus settings submissionId statusId operator =
        (.error (.service (.illegalTransition (.text name) (.text l.name)
          (.ofTexts (StatusTable.listed name)))), w) := by
  obtain ⟨name, hname, hrefused⟩ := StoredSubmission.checkMove_of_not_mayTake hmove
  refine ⟨name, hname, ?_⟩
  simp only [changeStatus, StatusRequest.askedBy_iff.1 hr, hs, hl, hrefused]

theorem changeStatus_of_mayTake (hr : r.AskedBy submissionId statusId operator)
    (hs : w.submission? r.submissionId = some s)
    (hl : withId? w.submissionStatuses r.statusId = some l) (hmove : s.MayTake settings l) :
    w.changeStatus settings submissionId statusId operator =
      (.ok ((s.withStatus l).stamped r.operator w.now),
        w.putSubmission (s.withStatus l) r.operator) := by
  have hopen := StoredSubmission.checkMove_eq_ok_iff.2 hmove
  simp only [changeStatus, StatusRequest.askedBy_iff.1 hr, hs, hl, hopen]

/-- What was stored over a submission is found under its number. -/
theorem submission?_putSubmission (hs : w.submission? r.submissionId = some s) (h : w.Coherent)
    (l : StoredLookup) (operator : String) :
    (w.putSubmission (s.withStatus l) operator).submission? r.submissionId =
      some ((s.withStatus l).stamped operator w.now) := by
  obtain ⟨hmem, hid⟩ := mem_of_submission? hs
  have hstored : (s.withStatus l).stamped operator w.now ∈
      (w.putSubmission (s.withStatus l) operator).submissions :=
    List.mem_map.2 ⟨s, hmem, if_pos rfl⟩
  rw [← hid]
  exact submission?_of_mem (h.putSubmission _ _) hstored

end Ends

end World

/-- **A change of status is exact and atomic.**  In every world, with every settings and for
arguments of any kind:

* it returns if and only if the arguments ask for a change, the submission is stored, the catalog
  has an entry with the number of the status, and the move is open;
* otherwise the first of these that fails decides how it ends, and nothing is changed; a number that
  is missing is reported unless it cannot be written out;
* if it returns, the submission has the first entry with this number as its status and a new
  modification stamp, the audit log has one entry more, nothing else is changed, and the answer is
  the submission as it is stored;
* if a call is refused, the change ends with what the refusal is shown as, asks nothing more and
  leaves everything as it was;
* and whatever calls fail in whatever way, also after they took effect, everything is left as it
  was, or as it is if none fails. -/
theorem change_exact_and_atomic {w : World} (hw : w.Coherent) (settings : Settings)
    (submissionId statusId operator : Value) :
    let change := Reception.changeStatus settings submissionId statusId operator
    let run := change.run Platform.answer { state := w.platform }
    let asked (r : StatusRequest) := r.AskedBy submissionId statusId operator
    ((∃ v, run.1 = .ok v) ↔ ∃ r, asked r ∧ ∃ s ∈ w.submission? r.submissionId,
      ∃ l ∈ withId? w.submissionStatuses r.statusId, s.MayTake settings l) ∧
    ((∀ v, run.1 ≠ .ok v) → run.2.state = w.platform) ∧
    ((∀ r, ¬ asked r) → ∃ f words field, run.1 = .error f ∧
      f.problem = .service (.invalidArgument words field)) ∧
    (∀ r, asked r → w.submission? r.submissionId = none →
      run.1 = .error (if Text.writable r.submissionId then
        .service (.submissionNotFound (.int r.submissionId)) else .foreign .tooManyDigits)) ∧
    (∀ r, asked r → ∀ s ∈ w.submission? r.submissionId,
      withId? w.submissionStatuses r.statusId = none →
      run.1 = .error (if Text.writable r.statusId then
        .service (.statusNotFound (.int r.statusId)) else .foreign .tooManyDigits)) ∧
    (∀ r, asked r → ∀ s ∈ w.submission? r.submissionId,
      ∀ l ∈ withId? w.submissionStatuses r.statusId, ¬ s.MayTake settings l →
      ∃ name, s.statusName = some name ∧
        run.1 = .error (.service (.illegalTransition (.text name) (.text l.name)
          (.ofTexts (StatusTable.listed name))))) ∧
    (∀ r, asked r → ∀ s ∈ w.submission? r.submissionId,
      ∀ l ∈ withId? w.submissionStatuses r.statusId, s.MayTake settings l →
      let changed : StoredSubmission :=
        { s with status := some l, modifiedBy := some r.operator, modifiedAt := some w.now }
      let u : World :=
        { w with
          submissions := w.submissions.map fun x => if x.id = s.id then changed else x
          catalogAudit := w.catalogAudit ++
            [⟨"update_submission", .int s.id, .text r.operator⟩]
          clock := w.clock.tick.2 }
      run.1 = .ok changed.value ∧ run.2.state = u.platform ∧
        u.submission? r.submissionId = some changed) ∧
    (∀ (k : Nat) (hk : k < run.2.calls.length) (e : Failure),
      let fault := Fault.refusing ((run.2.calls.take k).map Call.method) run.2.calls[k] e
      let faulty := change.run (Rehearsal.following [fault] Platform.answer)
        { state := { state := w.platform } }
      faulty.1 = .error (e.wrapped run.2.calls[k].method.action) ∧
        faulty.2.calls = run.2.calls.take (k + 1) ∧ faulty.2.state.state = w.platform) ∧
    (∀ {σ : Type} {view : σ → Platform Memory.Catalog} {faulty : Collaborators σ},
      Collaborators.Fails Platform.answer view faulty → ∀ t : Trail σ, view t.state = w.platform →
      view (change.run faulty t).2.state = w.platform ∨
        view (change.run faulty t).2.state = run.2.state) := by
  intro change run asked
  have hresult : run.1 =
      (w.changeStatus settings submissionId statusId operator).1.map StoredSubmission.value :=
    (run_result Platform.answer change _).trans (congrArg Prod.fst
      (outcome_changeStatus settings submissionId statusId operator hw))
  have hstate : run.2.state =
      (w.changeStatus settings submissionId statusId operator).2.platform :=
    (run_state Platform.answer change _).trans (congrArg Prod.snd
      (outcome_changeStatus settings submissionId statusId operator hw))
  refine ⟨⟨?_, ?_⟩, ?_, ?_, ?_, ?_, ?_, ?_, ?_, ?_⟩
  · rintro ⟨v, hv⟩
    rcases hcomes : w.changeStatus settings submissionId statusId operator with ⟨e | changed, u⟩
    · rw [hresult, hcomes] at hv
      cases hv
    · obtain ⟨r, s, l, hr, hs, hl, hmove, -, -⟩ := changeStatus_ok settings hcomes
      exact ⟨r, StatusRequest.askedBy_iff.2 hr, s, hs, l, hl,
        StoredSubmission.checkMove_eq_ok_iff.1 hmove⟩
  · rintro ⟨r, hr, s, hs, l, hl, hmove⟩
    rw [hresult, changeStatus_of_mayTake hr hs hl hmove]
    exact ⟨_, rfl⟩
  · intro hfails
    rcases hcomes : w.changeStatus settings submissionId statusId operator with ⟨e | changed, u⟩
    · rw [hstate, hcomes, changeStatus_error settings hcomes]
    · exact absurd (by rw [hresult, hcomes]; rfl) (hfails changed.value)
  · intro hnot
    obtain ⟨f, words, field, hcomes, hproblem⟩ := changeStatus_of_not_asked (w := w) hnot
    exact ⟨f, words, field, by rw [hresult, hcomes]; rfl, hproblem⟩
  · intro r hr hs
    rw [hresult, changeStatus_of_no_submission hr hs]
    rfl
  · intro r hr s hs hl
    rw [hresult, changeStatus_of_no_status hr hs hl]
    rfl
  · intro r hr s hs l hl hmove
    obtain ⟨name, hname, hcomes⟩ := changeStatus_of_not_mayTake hr hs hl hmove
    exact ⟨name, hname, by rw [hresult, hcomes]; rfl⟩
  · intro r hr s hs l hl hmove changed u
    rw [hresult, hstate, changeStatus_of_mayTake hr hs hl hmove]
    exact ⟨rfl, rfl, submission?_putSubmission hs hw l r.operator⟩
  · exact changeStatus_refused settings submissionId statusId operator hw
  · intro σ view faulty hfaulty t ht
    rw [run_state, hstate]
    exact changeStatus_of_fails settings submissionId statusId operator hw hfaulty ht

/-- An open contest with an active submission and one whose status the table does not know. -/
def World.oddContest : World :=
  let submission (id : Int) (name : String) : StoredSubmission :=
    { id, status := some { id := 1, name } }
  ((openContest []).withSubmission (submission 7 "Active")).withSubmission (submission 8 "Odd")

theorem World.coherent_oddContest : World.oddContest.Coherent :=
  (((reached_openContest []).withSubmission _).withSubmission _).coherent

/-- Where moves are enforced, the active submission is deleted, the other one is not, and a change
that is cancelled in its third call leaves all as it was. -/
theorem change_exact_and_atomic_oddContest :
    let w := World.oddContest
    let settings : Settings := { enforceMoves := true }
    let change (n : Int) :=
      Reception.changeStatus settings (.int n) (.int 5) (.text "10")
    let run (n : Int) := (change n).run Platform.answer { state := w.platform }
    let cancelled : Fault :=
      { method := .updateSubmission, nth := 1, effect := .refuse (.plain (.cancelled [])) }
    let faulty := (change 7).run (Rehearsal.following [cancelled] Platform.answer)
      { state := { state := w.platform } }
    (∃ v, (run 7).1 = .ok v) ∧
      (run 8).1 = .error (.service (.illegalTransition (.text "Odd") (.text "Deleted")
        (.ofTexts []))) ∧
      (run 8).2.state = w.platform ∧ faulty.2.state.state = w.platform := by
  intro w settings change run cancelled faulty
  have hasked (n : Int) (hn : 0 ≤ n) :
      (StatusRequest.mk n 5 "10").AskedBy (.int n) (.int 5) (.text "10") :=
    ⟨⟨rfl, hn⟩, ⟨rfl, by simp⟩, .inl rfl, '1', by simp, by decide⟩
  have hmove : World.oddContest.submissions[0].MayTake settings { id := 5, name := "Deleted" } :=
    fun _ => .inr (.inr ⟨"Active", rfl, by decide⟩)
  have hstuck : ¬ World.oddContest.submissions[1].MayTake settings
      { id := 5, name := "Deleted" } := by
    intro h
    rcases h rfl with hnone | hsame | ⟨name, hname, hlisted⟩
    · exact absurd hnone (by decide)
    · exact absurd hsame (by decide)
    · obtain rfl : "Odd" = name := Option.some.inj hname
      exact absurd hlisted (by decide)
  obtain ⟨hreturns, -, -, -, -, -, -, hrefused, -⟩ := change_exact_and_atomic
    World.coherent_oddContest settings (.int 7) (.int 5) (.text "10")
  obtain ⟨-, huntouched, -, -, -, hillegal, -⟩ := change_exact_and_atomic
    World.coherent_oddContest settings (.int 8) (.int 5) (.text "10")
  obtain ⟨name, hname, hfailure⟩ := hillegal _ (hasked 8 (by decide)) _ rfl _ rfl hstuck
  obtain rfl := Option.some.inj hname
  refine ⟨hreturns.2 ⟨_, hasked 7 (by decide), _, rfl, _, rfl, hmove⟩, hfailure,
    huntouched fun v => ?_, ?_⟩
  · rw [hfailure]
    nofun
  · have hthird : 2 < (run 7).2.calls.length := by decide +kernel
    have hmethods : (run 7).2.calls.map Call.method =
        [.getSubmission, .submissionStatuses, .updateSubmission] := by decide +kernel
    have hwrite : (run 7).2.calls[2].method = .updateSubmission := by
      have hlast : ((run 7).2.calls.map Call.method)[2]? = some .updateSubmission := by
        rw [hmethods]
        rfl
      rw [List.getElem?_map, List.getElem?_eq_getElem hthird] at hlast
      exact Option.some.inj hlast
    have hfault : Fault.refusing (((run 7).2.calls.take 2).map Call.method) (run 7).2.calls[2]
        (.plain (.cancelled [])) = cancelled := by
      rw [Fault.refusing, hwrite, List.map_take, hmethods]
      rfl
    have hleft := (hrefused 2 hthird (.plain (.cancelled []))).2.2
    rwa [hfault] at hleft

end ContestUploads
