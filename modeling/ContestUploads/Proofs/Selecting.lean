import ContestUploads.Proofs.Rows
import ContestUploads.Proofs.Sessions

/-!
# What a search over tables finds

A search over tables finds the submissions that its filter holds of, tried on the stored submissions
themselves, in the order of their ids (`search_selects`).  The rows need not come from anywhere in
particular, nor refer to anything that is there; it is enough that they stand in the order of their
ids and that the columns of references keep what is in them.  New tables are so, and every call
leaves them so (`Database.Regular.visited`).
-/

namespace ContestUploads

open Sql

namespace Sql.Database

/-- The table of submissions as it may be: its rows stand in the order of their ids, each of which
is there once, and hold references that columns of integers keep. -/
structure Regular (d : Database) : Prop where
  ordered : (d.submissions.map SubmissionRow.id).Pairwise (· < ·)
  kept : ∀ row ∈ d.submissions, row.Kept

/-- New tables hold no submissions. -/
theorem regular_of_nil {d : Database} (h : d.submissions = []) : d.Regular where
  ordered := by
    rw [h]
    exact List.Pairwise.nil
  kept row hrow := by
    rw [h] at hrow
    cases hrow

variable {d d' : Database} {call : CatalogCall} {now : Moment}

/-- One call, if the tables take it. -/
theorem Regular.effect (h : d.Regular) (heffect : call.effect now d = .ok d') : d'.Regular := by
  rcases CatalogCall.effect_cases heffect with ⟨-, rfl⟩ | ⟨row, -, rfl⟩ |
    ⟨row, hid, -, hkept, rfl⟩ | ⟨old, change, -, hid, hothers, hown, rfl⟩
  · exact h
  · exact ⟨h.ordered, h.kept⟩
  · refine ⟨?_, List.forall_mem_append.2 ⟨h.kept, List.forall_mem_singleton.2 hkept⟩⟩
    rw [List.map_append, List.pairwise_append]
    refine ⟨h.ordered, List.pairwise_singleton _ _, fun n hn m hm => ?_⟩
    obtain rfl := List.mem_singleton.1 hm
    rw [hid]
    exact lt_nextId hn
  · refine ⟨?_, List.forall_mem_map.2 fun row hrow => ?_⟩
    · have hids : SubmissionRow.id ∘ change = SubmissionRow.id := funext hid
      rw [List.map_map, hids]
      exact h.ordered
    · by_cases hsame : row.id = old.id
      · exact (hown row hsame).2
      · rw [hothers row hsame]
        exact h.kept row hrow

/-- Some calls, whatever comes of them. -/
theorem Regular.visited {calls : List CatalogCall}
    (hentities : ∀ call ∈ calls, (Call.catalog call).HandsEntity) {state : Session × Clock}
    (hcommitted : state.1.committed.Regular) (hworking : state.1.working.Regular) :
    ∀ q ∈ Session.visited calls state, (Session.answer q.1 q.2).state.1.working.Regular := by
  induction calls generalizing state with
  | nil => exact fun q hq => nomatch hq
  | cons call rest ih =>
      obtain ⟨s, clock⟩ := state
      rw [List.forall_mem_cons] at hentities
      have hafter : (Session.answer call (s, clock)).state.1.committed.Regular ∧
          (Session.answer call (s, clock)).state.1.working.Regular := by
        rcases Session.answer_cases hentities.1 s clock with
          ⟨v, d, -, -, heffect, hafter⟩ | ⟨-, hsame | ⟨-, hspoilt⟩⟩
        · rw [hafter]
          exact ⟨hcommitted, hworking.effect heffect⟩
        · rw [hsame]
          exact ⟨hcommitted, hworking⟩
        · rw [hspoilt]
          exact ⟨hcommitted, hcommitted⟩
      exact List.forall_mem_cons.2 ⟨hafter.2, ih hentities.2 hafter.1 hafter.2⟩

end Sql.Database

/-- The row of a submission shows what the submission refers to. -/
theorem Sql.Session.shows_submissionOf {row : SubmissionRow} (h : row.Kept)
    (statuses : List LookupRow) : Sought.Shows row.cell (submissionOf statuses row) where
  upload := rfl
  uploadKept := h.uploadId
  resource := rfl
  resourceKept := h.resourceId

open Sql.Session in
/-- **A search over tables and its filter agree.**  However a search for numbers that fit, or for no
number, is put together, its filter can be tried on every stored submission.  What the search finds
are those that it holds of, in the order of their ids, and each once. -/
theorem search_selects {s : Session} (husable : s.usable = true) (h : s.working.Regular)
    {x : Sought} (hx : x.Within (fits · = true)) (clock : Clock) :
    ∃ chosen : SubmissionRow → Bool,
      (∀ row ∈ s.working.submissions,
        Filter.holds (submissionOf s.working.submissionStatuses row).value x.filter =
          .ok (chosen row)) ∧
      answer (.searchSubmissions (.filter x.filter)) (s, clock) =
        ⟨.ok (.list ((s.working.submissions.filter chosen).map fun row =>
          (submissionOf s.working.submissionStatuses row).value)), (s, clock), []⟩ ∧
      ((s.working.submissions.filter chosen).map SubmissionRow.id).Pairwise (· < ·) := by
  obtain ⟨c, hc, hrenders⟩ := Sought.exists_clause x hx
  refine ⟨fun row => c.holds row.cell, fun row hrow => ?_, ?_, ?_⟩
  · exact hrenders.holds (shows_submissionOf (h.kept row hrow) _)
  · have hordered : ((s.working.submissions.filter fun row => c.holds row.cell).map
        SubmissionRow.id).Pairwise (· < ·) :=
      h.ordered.sublist (List.filter_sublist.map _)
    have hsearched : s.search (.filter x.filter) =
        .ok (.list ((s.working.submissions.filter fun row => c.holds row.cell).map fun row =>
          (submissionOf s.working.submissionStatuses row).value)) := by
      have hclause : soughtClause (.filter x.filter) = .ok c := hc
      simp only [search, query, demandUsable, hclause, husable,
        demandParameters_of_fits hrenders.compared, Bind.bind, Except.bind]
      exact congrArg (fun rows : List SubmissionRow => Except.ok (Value.list (rows.map fun row =>
        (submissionOf s.working.submissionStatuses row).value))) (inOrder_eq_self _ hordered)
    rw [answer, perform, hsearched]
    rfl
  · exact h.ordered.sublist ((List.filter_sublist).map _)

/-- Tables with a submission that has no upload and one that has no resource. -/
def Sql.Database.sparse : Database :=
  let row (id : Int) (uploadId resourceId : Cell) : SubmissionRow :=
    { id, uploadId, resourceId, statusId := .integer 1
      createUser := "op", createDate := .ofMoment (Clock.stamp {} 1), modifyUser := "op"
      modifyDate := .ofMoment (Clock.stamp {} 1) }
  { submissionStatuses := numbered ["Active"]
    submissions :=
      [row 1 .null (.integer 5), row 2 (.integer 3) .null, row 4 (.integer 3) (.integer 5)] }

/-- Of the three submissions a search finds those of one resource that have no upload or a certain
one. -/
theorem search_selects_sparse :
    let x : Sought := .all [.any [.ofUpload none, .ofUpload (some 3)], .all [.ofResource (some 5)]]
    let s : Session := .opened .sparse
    s.usable = true ∧ s.working.Regular ∧ x.Within (fits · = true) ∧
      ∃ chosen : SubmissionRow → Bool,
        (∀ row ∈ s.working.submissions,
          Filter.holds (Session.submissionOf s.working.submissionStatuses row).value x.filter =
            .ok (chosen row)) ∧
        Session.answer (.searchSubmissions (.filter x.filter)) (s, {}) =
          ⟨.ok (.list ((s.working.submissions.filter chosen).map fun row =>
            (Session.submissionOf s.working.submissionStatuses row).value)), (s, {}), []⟩ ∧
        (s.working.submissions.filter chosen).map SubmissionRow.id = [1, 4] := by
  intro x s
  have hregular : s.working.Regular := by
    refine ⟨by decide, fun row hrow => ?_⟩
    simp only [s, Session.opened, Database.sparse, List.mem_cons, List.not_mem_nil, or_false] at hrow
    rcases hrow with rfl | rfl | rfl <;> exact ⟨rfl, rfl⟩
  have hwithin : x.Within (fits · = true) := by
    refine ⟨⟨?_, ?_, trivial⟩, ⟨?_, trivial⟩, trivial⟩
    · rintro n ⟨⟩
    · rintro n ⟨rfl⟩
      decide
    · rintro n ⟨rfl⟩
      decide
  obtain ⟨chosen, hholds, hanswer, -⟩ := search_selects rfl hregular hwithin {}
  refine ⟨rfl, hregular, hwithin, chosen, hholds, hanswer, ?_⟩
  have hchosen : ∀ row ∈ s.working.submissions, chosen row = (row.id != 2) := by
    intro row hrow
    have hrow' := hholds row hrow
    simp only [s, Session.opened, Database.sparse, List.mem_cons, List.not_mem_nil, or_false] at hrow
    rcases hrow with rfl | rfl | rfl <;> exact (Except.ok.inj hrow').symm
  rw [List.filter_congr hchosen]
  rfl

end ContestUploads
