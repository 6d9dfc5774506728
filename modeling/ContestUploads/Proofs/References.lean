import ContestUploads.Proofs.Rows
import ContestUploads.Proofs.Seeding

/-!
# References that nothing guards

Rows of uploads refer to their types and statuses, rows of submissions to their statuses and
uploads.  Tables are intact if all these rows are there.  Nothing sees to it: a write is taken or
refused by the rows of its own table alone (`Session.reply_congr`), and the tables it leaves are
intact exactly if what it handed over refers to rows that are there (`Database.intact_effect`).  So
tables stay intact as long as every write that is taken does so, and no longer
(`references_unguarded`).

A submission whose status is not there is read with no status at all.
-/

namespace ContestUploads

open Sql

namespace Sql.Database

/-- The ids of the rows of a table. -/
def ids (d : Database) : Table → List Int
  | .upload => d.uploads.map UploadRow.id
  | .submission => d.submissions.map SubmissionRow.id
  | .uploadStatus => d.uploadStatuses.map LookupRow.id
  | .uploadType => d.uploadTypes.map LookupRow.id
  | .submissionStatus => d.submissionStatuses.map LookupRow.id

/-- A reference has its row, or is one that may be missing: a submission need not have an upload. -/
def Resolves (d : Database) (r : Reference) : Prop :=
  (r.table = .upload ∧ r.cell = .null) ∨
    ∃ id ∈ d.ids r.table, (Value.int id).equals r.cell.value = true

instance (d : Database) (r : Reference) : Decidable (d.Resolves r) :=
  inferInstanceAs (Decidable (_ ∨ _))

/-- All rows that are referred to are there. -/
structure Intact (d : Database) : Prop where
  uploads : ∀ row ∈ d.uploads, ∀ r ∈ row.references, d.Resolves r
  submissions : ∀ row ∈ d.submissions, ∀ r ∈ row.references, d.Resolves r

instance (d : Database) : Decidable d.Intact :=
  decidable_of_iff (_ ∧ _) ⟨fun h => ⟨h.1, h.2⟩, fun h => ⟨h.uploads, h.submissions⟩⟩

/-- Without uploads and submissions there is nothing to refer to. -/
theorem intact_of_lookups {d : Database} (huploads : d.uploads = [])
    (hsubmissions : d.submissions = []) : d.Intact where
  uploads row hrow := by
    rw [huploads] at hrow
    cases hrow
  submissions row hrow := by
    rw [hsubmissions] at hrow
    cases hrow

theorem Resolves.mono {d d' : Database} {r : Reference} (hids : d.ids r.table ⊆ d'.ids r.table)
    (h : d.Resolves r) : d'.Resolves r := by
  rcases h with hnull | ⟨id, hid, hequal⟩
  · exact .inl hnull
  · exact .inr ⟨id, hids hid, hequal⟩

end Sql.Database

/-- What a call hands over for the references of its row is there. -/
def CatalogCall.Refers (call : CatalogCall) (d : Database) : Prop :=
  ∃ refs, call.references = .ok refs ∧ ∀ r ∈ refs, d.Resolves r

namespace Sql.Database

variable {d d' : Database} {call : CatalogCall} {now : Moment}

theorem refers_iff {refs : List Reference} (h : call.references = .ok refs) :
    call.Refers d ↔ ∀ r ∈ refs, d.Resolves r := by
  constructor
  · rintro ⟨refs', hrefs, hresolves⟩
    obtain rfl := Except.ok.inj (h.symm.trans hrefs)
    exact hresolves
  · exact fun hresolves => ⟨refs, h, hresolves⟩

/-- A question refers to nothing. -/
theorem refers_of_question (h : call.record? = none) : call.Refers d := by
  refine ⟨[], ?_, fun r hr => nomatch hr⟩
  cases call <;> first | rfl | cases h

/-- A row more in the table of uploads. -/
theorem intact_upload (hd : d.Intact) (row : UploadRow) :
    { d with uploads := d.uploads ++ [row] }.Intact ↔ ∀ r ∈ row.references, d.Resolves r := by
  have hsame : ∀ r ∈ row.references,
      { d with uploads := d.uploads ++ [row] }.Resolves r ↔ d.Resolves r := by
    simp only [UploadRow.references, List.forall_mem_cons]
    exact ⟨Iff.rfl, Iff.rfl, fun r hr => nomatch hr⟩
  have hmore (r : Reference) (h : d.Resolves r) :
      { d with uploads := d.uploads ++ [row] }.Resolves r := by
    refine h.mono ?_
    rcases r.table with _ | _ | _ | _ | _
    · simp [ids]
    all_goals exact fun _ h => h
  constructor
  · intro h r hr
    exact (hsame r hr).1 (h.uploads row (by simp) r hr)
  · intro h
    refine ⟨fun row' hrow' r hr => ?_, fun row' hrow' r hr => ?_⟩
    · rcases List.mem_append.1 hrow' with hold | hnew
      · exact hmore r (hd.uploads row' hold r hr)
      · obtain rfl := List.mem_singleton.1 hnew
        exact (hsame r hr).2 (h r hr)
    · exact hmore r (hd.submissions row' hrow' r hr)

/-- What the rows of submissions refer to is in other tables. -/
theorem resolves_submissions (rows : List SubmissionRow) (row : SubmissionRow) :
    ∀ r ∈ row.references, { d with submissions := rows }.Resolves r ↔ d.Resolves r := by
  simp only [SubmissionRow.references, List.forall_mem_cons]
  exact ⟨Iff.rfl, Iff.rfl, fun r hr => nomatch hr⟩

/-- Other rows in the table of submissions. -/
theorem intact_submissions (hd : d.Intact) (rows : List SubmissionRow) :
    { d with submissions := rows }.Intact ↔
      ∀ row ∈ rows, ∀ r ∈ row.references, d.Resolves r := by
  constructor
  · intro h row hrow r hr
    exact (resolves_submissions rows row r hr).1 (h.submissions row hrow r hr)
  · intro h
    refine ⟨fun row hrow r hr => ?_, fun row hrow r hr => ?_⟩
    · -- No row of uploads refers to a submission, so nothing it refers to was lost.
      have hsame : ∀ r ∈ row.references,
          { d with submissions := rows }.Resolves r ↔ d.Resolves r := by
        simp only [UploadRow.references, List.forall_mem_cons]
        exact ⟨Iff.rfl, Iff.rfl, fun r hr => nomatch hr⟩
      exact (hsame r hr).2 (hd.uploads row hrow r hr)
    · exact (resolves_submissions rows row r hr).2 (h row hrow r hr)

/-- **What a write leaves.**  Tables that are intact are so after a write exactly if what it handed
over for references is there. -/
theorem intact_effect (hd : d.Intact) (h : call.effect now d = .ok d') :
    d'.Intact ↔ call.Refers d := by
  rcases CatalogCall.effect_cases h with ⟨hquestion, rfl⟩ | ⟨row, hrefs, rfl⟩ |
    ⟨row, -, hrefs, -, rfl⟩ | ⟨old, change, hold, -, hothers, hown, rfl⟩
  · exact iff_of_true hd (refers_of_question hquestion)
  · rw [refers_iff hrefs]
    exact intact_upload hd row
  · rw [refers_iff hrefs, intact_submissions hd, List.forall_mem_append]
    simp only [List.forall_mem_singleton]
    exact and_iff_right hd.submissions
  · rw [refers_iff (hown old rfl).1, intact_submissions hd, List.forall_mem_map]
    constructor
    · exact fun h => h old hold
    · intro h row hrow
      by_cases hsame : row.id = old.id
      · have hrefs := (hown row hsame).1.symm.trans (hown old rfl).1
        exact Except.ok.inj hrefs ▸ h
      · rw [hothers row hsame]
        exact hd.submissions row hrow

end Sql.Database

/-- Tables have the same rows where a write adds or changes one. -/
def CatalogCall.SameRows (call : CatalogCall) (d d' : Database) : Prop :=
  match call with
  | .createUpload .. => d.uploads = d'.uploads
  | _ => d.submissions = d'.submissions

namespace Sql.Session

variable {s t : Session} {clock : Clock} {call : CatalogCall}

theorem query_congr {β : Type} (husable : s.usable = t.usable)
    (compared : List (ColumnKind × Value)) {look : Database → β}
    (hlook : look s.working = look t.working) : s.query compared look = t.query compared look := by
  simp only [query, demandUsable, husable, hlook]

/-- What is written of a draft comes back the same if what the tables answer to the write does. -/
theorem writeDraft_congr {δ α : Type} (husable : s.usable = t.usable)
    (draft : Except Failure δ) {write : δ → Database → Except Failure (α × Database)}
    (hwrite : ∀ x, Prod.fst <$> write x s.working = Prod.fst <$> write x t.working)
    (stamp : α → Except Failure Value) :
    (s.writeDraft clock draft write stamp).result =
      (t.writeDraft clock draft write stamp).result := by
  have hflushed (u : Session) (x : δ) : (u.flush (write x)).1 =
      if u.usable then Prod.fst <$> write x u.working else .error pendingRollback := by
    unfold flush
    rcases u.usable with _ | _
    · rfl
    · rcases write x u.working with e | ⟨a, d⟩ <;> rfl
  rcases draft with e | x
  · rfl
  · simp only [writeDraft, hflushed, husable, hwrite]

/-- Whether a new upload is taken, and under which id, is up to the uploads alone. -/
theorem insertUpload_congr {d d' : Database} (h : d.uploads = d'.uploads) (u : UploadDraft)
    (operator : Value) (now : Moment) :
    Prod.fst <$> insertUpload u operator now d = Prod.fst <$> insertUpload u operator now d' := by
  simp only [insertUpload, h, map_bind, map_pure]

/-- Whether a new submission is taken, and under which id, is up to the submissions alone. -/
theorem insertSubmission_congr {d d' : Database} (h : d.submissions = d'.submissions)
    (x : SubmissionDraft) (operator : Value) (now : Moment) :
    Prod.fst <$> insertSubmission x operator now d =
      Prod.fst <$> insertSubmission x operator now d' := by
  simp only [insertSubmission, h, map_bind, map_pure]

/-- Whether a change of a submission is taken is up to the change. -/
theorem changeSubmission_congr (d d' : Database) (n : Int) (x : SubmissionDraft)
    (operator : Value) (now : Moment) :
    Prod.fst <$> changeSubmission n x operator now d =
      Prod.fst <$> changeSubmission n x operator now d' := by
  simp only [changeSubmission, map_bind, map_pure]

theorem changing_congr (husable : s.usable = t.usable)
    (hrows : s.working.submissions = t.working.submissions) (x : Value) :
    s.changing x = t.changing x := by
  have hfind (id : Value) : s.find id = t.find id := by
    unfold find
    split
    · exact query_congr husable _ rfl
    · refine congrArg _ (funext fun k => query_congr husable _ ?_)
      rw [hrows]
  simp only [changing, hfind]

/-- **Nothing else is asked.**  What comes of a write is up to the rows of its own table: it is the
same whatever lookups there are, and for a submission whatever uploads. -/
theorem reply_congr (hwrites : call.record?.isSome) (husable : s.usable = t.usable)
    (hrows : call.SameRows s.working t.working) :
    (answer call (s, clock)).reply = (answer call (t, clock)).reply := by
  have htold {o o' : Outcome} (h : o.result = o'.result) :
      (told call o).reply = (told call o').reply := by
    unfold told
    rw [h]
    split <;> rfl
  refine htold ?_
  cases call with
  | createUpload u operator =>
      simp only [perform, createUpload]
      rcases typeAndStatus u with e | ⟨type, status⟩
      · rfl
      · exact writeDraft_congr husable _ (fun x => insertUpload_congr hrows x operator _) _
  | createSubmission x operator =>
      simp only [perform, createSubmission]
      rcases statusToStore x [] with e | status
      · rfl
      · exact writeDraft_congr husable _ (fun x => insertSubmission_congr hrows x operator _) _
  | updateSubmission x operator =>
      simp only [perform, updateSubmission, changing_congr husable hrows]
      rcases t.changing x with e | ⟨row, status⟩
      · rfl
      · exact writeDraft_congr husable _ (fun x => changeSubmission_congr _ _ row.id x operator _) _
  | _ => cases hwrites

/-- A submission is read without a status exactly if its status is not there. -/
theorem status_eq_null_iff {d : Database} {row : SubmissionRow} :
    (submissionOf d.submissionStatuses row).status = .null ↔
      ¬d.Resolves ⟨.submissionStatus, row.statusId⟩ := by
  show statusOf d.submissionStatuses row = .null ↔ _
  have hresolves : d.Resolves ⟨.submissionStatus, row.statusId⟩ ↔
      ∃ l ∈ d.submissionStatuses, (Value.int l.id).equals row.statusId.value = true := by
    simp [Database.Resolves, Database.ids]
  rw [hresolves, statusOf]
  rcases hfound : d.submissionStatuses.find? fun l => (Value.int l.id).equals row.statusId.value
    with _ | l
  · rw [hfound]
    refine iff_of_true rfl ?_
    rintro ⟨l, hl, hequal⟩
    exact absurd hequal (List.find?_eq_none.1 hfound l hl)
  · have hequal := List.find?_some hfound
    rw [hfound]
    refine iff_of_false Value.noConfusion (not_not_intro ?_)
    exact ⟨l, List.mem_of_find?_eq_some hfound, hequal⟩

/-- What is looked up is read from a row. -/
theorem getSubmission_ok {id v : Value} (h : s.getSubmission id = .ok v) :
    v = .null ∨ ∃ row ∈ s.working.submissions,
      v = (submissionOf s.working.submissionStatuses row).value := by
  obtain ⟨found, hfound, h⟩ := bind_eq_ok_iff.1 h
  rcases found with _ | row
  · exact .inl (Except.ok.inj h).symm
  · exact .inr ⟨row, mem_of_find hfound, (Except.ok.inj h).symm⟩

/-- What a search finds is read from rows. -/
theorem search_ok {sought : Value} {vs : List Value} (h : s.search sought = .ok (.list vs)) :
    ∀ v ∈ vs, ∃ row ∈ s.working.submissions,
      v = (submissionOf s.working.submissionStatuses row).value := by
  simp only [search, query, bind_eq_ok_iff, Pure.pure, Except.pure, Except.ok.injEq,
    Value.list.injEq] at h
  obtain ⟨c, -, rows, ⟨-, -, -, -, rfl⟩, rfl⟩ := h
  intro v hv
  obtain ⟨row, hrow, rfl⟩ := List.mem_map.1 hv
  exact ⟨row, List.mem_of_mem_filter ((perm_inOrder _ _).mem_iff.1 hrow), rfl⟩

/-- A value is the submission of a row, without a status if the row refers to one that is not
there. -/
def ReadFrom (d : Database) (v : Value) : Prop :=
  ∃ row ∈ d.submissions, v = (submissionOf d.submissionStatuses row).value ∧
    ((submissionOf d.submissionStatuses row).status = .null ↔
      ¬d.Resolves ⟨.submissionStatus, row.statusId⟩)

/-- Nobody but the callers sees to it that what rows refer to is there, while some calls are
made. -/
structure Unguarded (calls : List CatalogCall) (state : Session × Clock) : Prop where
  /-- The tables are intact throughout exactly if every write that returns refers to rows that are
  there. -/
  intact : (∀ q ∈ visited calls state, (answer q.1 q.2).state.1.working.Intact) ↔
    ∀ q ∈ visited calls state, ∀ v, (answer q.1 q.2).reply = .ok v → q.1.Refers q.2.1.working
  /-- What comes of a write would be the same over other tables, as long as the rows of its own
  table are these. -/
  taken : ∀ q ∈ visited calls state, q.1.record?.isSome → ∀ t : Session,
    q.2.1.usable = t.usable → q.1.SameRows q.2.1.working t.working →
      (answer q.1 q.2).reply = (answer q.1 (t, q.2.2)).reply
  /-- What is looked up has no status if its row refers to one that is not there, and only then. -/
  looked : ∀ q ∈ visited calls state, ∀ id v, (answer (.getSubmission id) q.2).reply = .ok v →
    v = .null ∨ ReadFrom q.2.1.working v
  /-- Nor has what a search finds. -/
  found : ∀ q ∈ visited calls state, ∀ sought vs,
    (answer (.searchSubmissions sought) q.2).reply = .ok (.list vs) →
      ∀ v ∈ vs, ReadFrom q.2.1.working v

/-- Tables that are intact at first, also as last committed, are so throughout some calls exactly if
every write that returns refers to rows that are there. -/
theorem intact_visited {calls : List CatalogCall}
    (hentities : ∀ call ∈ calls, (Call.catalog call).HandsEntity) {state : Session × Clock}
    (hcommitted : state.1.committed.Intact) (hworking : state.1.working.Intact) :
    (∀ q ∈ visited calls state, (answer q.1 q.2).state.1.working.Intact) ↔
      ∀ q ∈ visited calls state, ∀ v, (answer q.1 q.2).reply = .ok v →
        q.1.Refers q.2.1.working := by
  induction calls generalizing state with
  | nil => exact iff_of_true (fun q hq => nomatch hq) (fun q hq => nomatch hq)
  | cons call rest ih =>
      obtain ⟨s, clock⟩ := state
      rw [List.forall_mem_cons] at hentities
      simp only [visited, List.forall_mem_cons]
      rcases answer_cases hentities.1 s clock with
        ⟨v, d, hreply, -, heffect, hafter⟩ | ⟨hkept, hrefused⟩
      · -- A write that was taken: what it referred to decides about the tables it leaves.
        have hdecided : (answer call (s, clock)).state.1.working.Intact ↔
            ∀ v, (answer call (s, clock)).reply = .ok v → call.Refers s.working := by
          rw [hafter, hreply]
          exact (Database.intact_effect hworking heffect).trans
            ⟨fun h _ _ => h, fun h => h v rfl⟩
        constructor
        · rintro ⟨hnow, hlater⟩
          exact ⟨hdecided.1 hnow, (ih hentities.2 (by rw [hafter]; exact hcommitted) hnow).1 hlater⟩
        · rintro ⟨hnow, hlater⟩
          have hintact := hdecided.2 hnow
          exact ⟨hintact, (ih hentities.2 (by rw [hafter]; exact hcommitted) hintact).2 hlater⟩
      · -- Otherwise the tables are as they were or as last committed, and nothing was written.
        have hintact : (answer call (s, clock)).state.1.working.Intact ∧
            (answer call (s, clock)).state.1.committed.Intact := by
          rcases hrefused with hsame | ⟨-, hspoilt⟩
          · rw [hsame]
            exact ⟨hworking, hcommitted⟩
          · rw [hspoilt]
            exact ⟨hcommitted, hcommitted⟩
        have hnothing : ∀ v, (answer call (s, clock)).reply = .ok v → call.Refers s.working := by
          intro v hreply
          rcases hkept with hquestion | ⟨e, herror⟩
          · exact Database.refers_of_question hquestion
          · cases hreply.symm.trans herror
        exact and_congr (iff_of_true hintact.1 hnothing) (ih hentities.2 hintact.2 hintact.1)

end Sql.Session

open Sql.Session in
/-- **References are not guarded.**  Whatever uploads and submissions are handed to tables that are
intact, as new ones are, in whatever order: the tables stay intact exactly as long as every write
that returns refers to rows that are there, and no write is refused because it does not.  A
submission is then read without a status exactly if its row refers to one that is not there. -/
theorem references_unguarded {calls : List CatalogCall}
    (hentities : ∀ call ∈ calls, (Call.catalog call).HandsEntity) {state : Session × Clock}
    (hcommitted : state.1.committed.Intact) (hworking : state.1.working.Intact) :
    Unguarded calls state where
  intact := intact_visited hentities hcommitted hworking
  taken _ _ hwrites _ husable hrows := reply_congr hwrites husable hrows
  looked q _ id v hreply := by
    rcases getSubmission_ok (told_reply_ok hreply) with hnull | ⟨row, hrow, hv⟩
    · exact .inl hnull
    · exact .inr ⟨row, hrow, hv, status_eq_null_iff⟩
  found q _ sought vs hreply v hv := by
    obtain ⟨row, hrow, hv⟩ := search_ok (told_reply_ok hreply) v hv
    exact ⟨row, hrow, hv, status_eq_null_iff⟩

/-- A submission to be stored whose status and upload no tables have. -/
def Submission.stray : Submission :=
  { status := Lookup.value { id := .int 99, name := .text "Ghost" }
    uploadId := .int 7
    resourceId := .int 1 }

/-- New tables with the default lookups are intact, so what becomes of them is up to the calls. -/
theorem references_unguarded_seeded :
    let s := (LookupNames.defaults.seed {}).state
    let calls : List CatalogCall :=
      [.createSubmission Submission.stray.value (.text "op"), .getSubmission (.int 1)]
    (∀ call ∈ calls, (Call.catalog call).HandsEntity) ∧ s.committed.Intact ∧ s.working.Intact ∧
      Session.Unguarded calls (s, {}) := by
  have hentities : ∀ call ∈ [CatalogCall.createSubmission Submission.stray.value (.text "op"),
      .getSubmission (.int 1)], (Call.catalog call).HandsEntity := by
    simp [Call.HandsEntity, CatalogCall.record?]
    rfl
  have hcommitted : (LookupNames.defaults.seed {}).state.committed.Intact :=
    Database.intact_of_lookups rfl rfl
  have hworking : (LookupNames.defaults.seed {}).state.working.Intact := by
    decide +kernel
  exact ⟨hentities, hcommitted, hworking, references_unguarded hentities hcommitted hworking⟩

/-- New tables take a submission whose status and upload they do not have.  They are no longer
intact, and the submission is read without a status. -/
theorem stray_taken :
    let s := (LookupNames.defaults.seed {}).state
    let after := (Session.answer (.createSubmission Submission.stray.value (.text "op")) (s, {})).state
    (Session.answer (.createSubmission Submission.stray.value (.text "op")) (s, {})).reply.isOk ∧
      ¬after.1.working.Intact ∧
      ∃ found : Submission,
        (Session.answer (.getSubmission (.int 1)) after).reply = .ok found.value ∧
        found.status = .null := by
  refine ⟨by decide +kernel, by decide +kernel, ?_⟩
  exact ⟨{ Submission.stray with
    id := .int 1
    status := .null
    createdBy := .text "op"
    createdAt := .moment (Clock.stamp {} 1)
    modifiedBy := .text "op"
    modifiedAt := .moment (Clock.stamp {} 1) }, by decide +kernel, rfl⟩

end ContestUploads
