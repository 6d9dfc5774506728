import ContestUploads.Proofs.Tables

/-!
# Sessions that work on the tables of a world

A session in which nothing went wrong works on the rows of a world; what was committed before makes
no difference.  Each lemma says what one operation of such a session comes to: a question is
answered from the rows as the catalog in memory answers it from its records, and a write leaves the
rows of the world after it.

`Carrier.tables` collects them: over tables the catalog carries every world of `World.Tabled`, and
within its reach are the numbers that fit.
-/

namespace ContestUploads

open Sql

/-- A reference that fits is stored as it is. -/
theorem Sql.stored_optional {n : Option Int} (h : ∀ m ∈ n, fits m = true) :
    ColumnKind.integer.stored ((n.map Value.int).getD .null) = .ok (.ofOptional n) := by
  rcases n with _ | m
  · rfl
  · exact stored_int (h m rfl)

namespace Sql.Session

/-- Integers that fit are handed over. -/
theorem demandParameters_of_fits {values : List (ColumnKind × Value)}
    (h : ∀ v ∈ values, ∃ n, fits n = true ∧ v = (.integer, .int n)) :
    demandParameters values = .ok () := by
  have hhanded : ∀ p ∈ values.map fun v => v.1.parameter v.2,
      ∃ n, fits n = true ∧ p = .ok (.integer n) := by
    intro p hp
    obtain ⟨v, hv, rfl⟩ := List.mem_map.1 hp
    obtain ⟨n, hn, rfl⟩ := h v hv
    exact ⟨n, hn, rfl⟩
  unfold demandParameters
  generalize values.map (fun v => v.1.parameter v.2) = parameters at hhanded
  dsimp only
  rw [if_neg]
  · induction parameters with
    | nil => rfl
    | cons p rest ih =>
        obtain ⟨n, hn, rfl⟩ := hhanded p List.mem_cons_self
        have hrest := ih fun q hq => hhanded q (List.mem_cons_of_mem _ hq)
        simpa [List.forM_cons, handOver, hn, Except.map, Bind.bind, Except.bind] using hrest
  · rw [Bool.not_eq_true, List.any_eq_false]
    intro p hp
    obtain ⟨n, -, rfl⟩ := hhanded p hp
    exact Bool.false_ne_true

/-- A draft that could be read and is written. -/
theorem writeDraft_ok {δ α : Type} {s : Session} (usable : s.usable = true) {draft : δ}
    {write : δ → Database → Except Failure (α × Database)} {x : α} {d : Database}
    (hwrite : write draft s.working = .ok (x, d)) (clock : Clock)
    (stamp : α → Except Failure Value) :
    s.writeDraft clock (.ok draft) write stamp = ⟨stamp x, { s with working := d }, clock⟩ := by
  simp only [writeDraft, flush, usable, if_true, hwrite]
  rfl

end Sql.Session

namespace World

variable {w : World} (committed : Database)

/-- The session that works on the rows of a world. -/
def session (w : World) : Session :=
  { committed, working := w.tables }

theorem query_session {α : Type} {values : List (ColumnKind × Value)}
    (h : ∀ v ∈ values, ∃ n, fits n = true ∧ v = (.integer, .int n)) (look : Database → α) :
    (w.session committed).query values look = .ok (look w.tables) := by
  rw [Session.query, Session.demandParameters_of_fits h]
  rfl

/-- Lookups are read from their rows. -/
theorem lookups_session (table : Database → List LookupRow) {catalog : List StoredLookup}
    (h : table w.tables = catalog.map StoredLookup.row)
    (hordered : (catalog.map StoredLookup.id).Pairwise (· < ·)) :
    (w.session committed).lookups table = .ok (.list (catalog.map StoredLookup.value)) := by
  have hrows : ((catalog.map StoredLookup.row).map LookupRow.id).Pairwise (· < ·) := by
    rwa [List.map_map]
  rw [Session.lookups, query_session committed (by simp), h, inOrder_eq_self _ hrows, List.map_map]
  rfl

theorem find_session {n : Int} (hn : fits n = true) :
    (w.session committed).find (.int n) = .ok ((w.submission? n).map StoredSubmission.row) := by
  rw [Session.find_int, query_session committed (by simp [hn]), Database.submission?, tables,
    List.find?_map]
  rfl

theorem get_session (h : w.Tabled) {n : Int} (hn : fits n = true) :
    (w.session committed).getSubmission (.int n) =
      .ok (((w.submission? n).map StoredSubmission.value).getD .null) := by
  rw [Session.getSubmission, find_session committed hn]
  rcases hfound : w.submission? n with _ | s
  · rfl
  · exact congrArg Except.ok (h.submissionOf_row (h.readable s (mem_of_submission? hfound).1))

/-- A search finds the rows of the submissions that it picks. -/
theorem search_session (h : w.Tabled) {x : Sought} (hx : x.Within (fits · = true)) :
    (w.session committed).search (.filter x.filter) =
      .ok (.list ((w.submissions.filter (x.picks ·)).map StoredSubmission.value)) := by
  obtain ⟨c, hc, hrenders⟩ := Sought.exists_clause x hx
  have hpicked : w.tables.submissions.filter (fun r => c.eval r.cell == some true) =
      (w.submissions.filter (x.picks ·)).map StoredSubmission.row := by
    rw [tables, List.filter_map]
    refine congrArg _ (List.filter_congr fun s _ => ?_)
    exact Except.ok.inj ((hrenders.holds s.shows_row).symm.trans (Sought.holds_filter s x))
  have hordered : (((w.submissions.filter (x.picks ·)).map StoredSubmission.row).map
      SubmissionRow.id).Pairwise (· < ·) := by
    rw [List.map_map]
    exact h.ordered.sublist (List.filter_sublist.map _)
  have hread : ∀ s ∈ w.submissions.filter (x.picks ·),
      (Session.submissionOf w.tables.submissionStatuses s.row).value = s.value := by
    intro s hs
    exact h.submissionOf_row (h.readable s (List.mem_of_mem_filter hs))
  show ((clause .submission x.filter).bind fun c =>
    ((w.session committed).query c.compared fun d => inOrder SubmissionRow.id
      (d.submissions.filter fun r => c.eval r.cell == some true)).bind fun rows =>
        .ok (Value.list (rows.map fun r =>
          (Session.submissionOf w.tables.submissionStatuses r).value))) = _
  rw [hc, Except.bind, query_session committed hrenders.compared, Except.bind, hpicked,
    inOrder_eq_self _ hordered, List.map_map]
  exact congrArg (Except.ok ∘ Value.list) (List.map_congr_left hread)

/-- A new upload becomes a row. -/
theorem createUpload_session (h : w.Tabled) {draft : StoredUpload}
    (hdraft : draft.Proper w (fits · = true)) (id : Value) (operator : String) :
    (w.session committed).createUpload w.clock { draft.record with id }.value (.text operator) =
      ⟨.ok (draft.created w.nextUpload operator w.now).value,
        (w.addUpload draft operator).session committed, w.clock.tick.2⟩ := by
  obtain ⟨type, htypeMem, htype⟩ := hdraft.type
  obtain ⟨status, hstatusMem, hstatus⟩ := hdraft.status
  have hnext : Database.nextId (w.tables.uploads.map UploadRow.id) = w.nextUpload := by
    rw [← h.nextUpload, tables, List.map_map]
    rfl
  have hread : Session.typeAndStatus { draft.record with id }.value =
      .ok (type.value, status.value) := by
    rw [StoredUpload.record, htype, hstatus]
    rfl
  have hinsert : Session.insertUpload
      ⟨.int draft.projectId, .int draft.owner, .int type.id, .int status.id,
        .text draft.parameter⟩ (.text operator) w.now w.tables =
      .ok (w.nextUpload, (w.addUpload draft operator).tables) := by
    have htypeFits := h.fitting type (by simp [htypeMem])
    have hstatusFits := h.fitting status (by simp [hstatusMem])
    simp only [Session.insertUpload, stored_int hdraft.projectId, stored_int hdraft.owner,
      stored_int htypeFits, stored_int hstatusFits, stored_text, Session.required,
      Session.requiredText, Bind.bind, Except.bind, Pure.pure, Except.pure, hnext]
    simp only [tables, World.addUpload, List.map_append, List.map_cons, List.map_nil,
      StoredUpload.row, StoredUpload.created, htype, hstatus]
    rfl
  rw [Session.createUpload, hread]
  exact Session.writeDraft_ok rfl hinsert w.clock.tick.2 _

/-- A new submission becomes a row. -/
theorem createSubmission_session (h : w.Tabled) {draft : StoredSubmission}
    (hdraft : draft.Proper w (fits · = true)) (id : Value) (operator : String) :
    (w.session committed).createSubmission w.clock { draft.record with id }.value
        (.text operator) =
      ⟨.ok (draft.created w.freeSubmission operator w.now).value,
        (w.addSubmission draft operator).session committed, w.clock.tick.2⟩ := by
  obtain ⟨status, hstatusMem, hstatus⟩ := hdraft.status
  have hnext : Database.nextId (w.tables.submissions.map SubmissionRow.id) = w.freeSubmission := by
    rw [h.freeSubmission, ← h.nextSubmission, tables, List.map_map]
    rfl
  have hread : Session.statusToStore { draft.record with id }.value [] = .ok status.value := by
    rw [StoredSubmission.record, hstatus]
    rfl
  have hinsert : Session.insertSubmission
      ⟨(draft.uploadId.map Value.int).getD .null, (draft.resourceId.map Value.int).getD .null,
        .int status.id⟩ (.text operator) w.now w.tables =
      .ok (w.freeSubmission, (w.addSubmission draft operator).tables) := by
    have hstatusFits := h.fitting status (by simp [hstatusMem])
    simp only [Session.insertSubmission, stored_optional hdraft.uploadId,
      stored_optional hdraft.resourceId, stored_int hstatusFits, stored_text, Session.required,
      Session.requiredText, Bind.bind, Except.bind, Pure.pure, Except.pure, hnext]
    simp only [tables, World.addSubmission, List.map_append, List.map_cons, List.map_nil,
      StoredSubmission.row, StoredSubmission.created, hstatus]
    rfl
  rw [Session.createSubmission, hread]
  exact Session.writeDraft_ok rfl hinsert w.clock.tick.2 _

/-- The row of a submission changes where its number is; the stamp of its creation stays. -/
theorem updateSubmission_session (h : w.Tabled) {s : StoredSubmission}
    (hs : s.Proper w (fits · = true)) (hversion : w.IsVersion s) (operator : String) :
    (w.session committed).updateSubmission w.clock s.value (.text operator) =
      ⟨.ok (s.stamped operator w.now).value, (w.putSubmission s operator).session committed,
        w.clock.tick.2⟩ := by
  obtain ⟨status, hstatusMem, hstatus⟩ := hs.status
  obtain ⟨x, hx, hid, hcreatedBy, hcreatedAt⟩ := hversion
  have hfits : fits s.id = true := hid ▸ (h.readable x hx).id
  have hfound : w.submission? s.id = some x := hid ▸ submission?_of_mem h.coherent hx
  have hread : (w.session committed).changing s.value = .ok (x.row, status.value) := by
    have hstatusRead : Session.statusToStore s.value [("submission_id", .int s.id)] =
        .ok status.value := by
      rw [StoredSubmission.value, StoredSubmission.record, hstatus]
      rfl
    simp only [Session.changing, StoredSubmission.read_id, Bind.bind, Except.bind,
      find_session committed hfits, hfound, Option.map_some, hstatusRead]
    rfl
  have hchange : Session.changeSubmission x.row.id
      ⟨(s.uploadId.map Value.int).getD .null, (s.resourceId.map Value.int).getD .null,
        .int status.id⟩ (.text operator) w.now w.tables =
      .ok ((), (w.putSubmission s operator).tables) := by
    have hstatusFits := h.fitting status (by simp [hstatusMem])
    simp only [Session.changeSubmission, stored_optional hs.uploadId,
      stored_optional hs.resourceId, stored_int hstatusFits, stored_text, Session.required,
      Session.requiredText, Bind.bind, Except.bind, Pure.pure, Except.pure]
    refine congrArg (fun rows => Except.ok ((), { w.tables with submissions := rows })) ?_
    simp only [tables, World.putSubmission, List.map_map]
    refine List.map_congr_left fun y hy => ?_
    by_cases hsame : y.id = s.id
    · -- Only the stored version of `s` has its number, so the row keeps the stamp of `s`.
      have hfoundAgain : w.submission? s.id = some y := hsame ▸ submission?_of_mem h.coherent hy
      obtain rfl := Option.some.inj (hfound.symm.trans hfoundAgain)
      simp [StoredSubmission.row, StoredSubmission.stamped, hid, hcreatedBy, hcreatedAt, hstatus]
      rfl
    · have hother : y.id ≠ x.id := fun heq => hsame (heq.trans hid)
      simp [StoredSubmission.row, hsame, hother]
  rw [Session.updateSubmission, hread]
  exact Session.writeDraft_ok rfl hchange w.clock.tick.2 _

end World

namespace Carrier

open World

/-- A call that a session carries out is answered so. -/
theorem answer_session {w : World} {s t : Session} {call : CatalogCall} {v : Value} {clock : Clock}
    (h : Session.perform call s w.clock = ⟨.ok v, t, clock⟩) :
    Platform.answer (.catalog call) (w.platformWith s) =
      ⟨.ok v, { w.platformWith t with clock }, []⟩ := by
  have hanswer : UploadCatalog.answer call (s, w.clock) = ⟨.ok v, (t, clock), []⟩ := by
    show Session.told call (Session.perform call s w.clock) = _
    rw [h]
    rfl
  rw [Platform.answer]
  dsimp only [platformWith]
  rw [hanswer]

/-- Tables carry the worlds of `World.Tabled`; within reach are the numbers that fit. -/
def tables (committed : Database) : Carrier Session where
  catalog := World.session committed
  fits := World.Tabled
  reach n := Sql.fits n = true
  coherent h := h.coherent
  reach_submission h hs :=
    let hreadable := h.readable _ hs
    ⟨hreadable.id, hreadable.proper.uploadId, hreadable.proper.resourceId⟩
  reach_resource h hr := h.resources _ hr
  putResource operator h hr := ⟨h.putResource hr operator, rfl⟩
  screen n operator h := ⟨h.screen n operator, rfl⟩
  uploadStatuses {w} h := answer_session <| congrArg (Outcome.mk · _ _) <|
    lookups_session committed (·.uploadStatuses) (w := w) rfl (h.lookups _ (by simp))
  uploadTypes {w} h := answer_session <| congrArg (Outcome.mk · _ _) <|
    lookups_session committed (·.uploadTypes) (w := w) rfl (h.lookups _ (by simp))
  submissionStatuses {w} h := answer_session <| congrArg (Outcome.mk · _ _) <|
    lookups_session committed (·.submissionStatuses) (w := w) rfl (h.lookups _ (by simp))
  getSubmission h hn := answer_session <| congrArg (Outcome.mk · _ _) (get_session committed h hn)
  searchSubmissions h hx :=
    answer_session <| congrArg (Outcome.mk · _ _) (search_session committed h hx)
  createUpload id operator h hdraft :=
    ⟨answer_session (createUpload_session committed h hdraft id operator),
      h.addUpload _ operator⟩
  createSubmission id operator h hdraft hfree :=
    ⟨answer_session (createSubmission_session committed h hdraft id operator),
      h.addSubmission hdraft hfree operator⟩
  updateSubmission operator h hs hversion :=
    ⟨answer_session (updateSubmission_session committed h hs hversion operator),
      h.putSubmission hs hversion operator⟩

end Carrier

end ContestUploads
