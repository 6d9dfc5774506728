import ContestUploads.Proofs.Changing
import ContestUploads.Proofs.Rows
import ContestUploads.Proofs.Sessions

/-!
# Submissions that are not stored

A request for another status may name any number that is not negative.  A catalog in memory answers
that it has nothing under a number, however large that is.  Tables hand the number over to the
database, which takes numbers of 64 bits with sign: a larger one is not looked for at all.  A report
names the number, so one that is too long to be written out cannot be reported either.

What a change of a missing submission comes to hangs on the answer to the one call that asks for it.
If that is null, the submission is reported as not found (`changeStatus_of_null`); if the call
fails, the guard reports the failure (`changeStatus_of_error`), and then nobody has said that the
submission is missing.
-/

namespace ContestUploads

open Program Sql

/-! ## What the catalogs answer -/

/-- Of the numbers that are not negative, those below the 63rd power of 2 fit. -/
theorem Sql.fits_iff_of_nonneg {n : Int} (hn : 0 ≤ n) : fits n = true ↔ n < Int.pow 2 63 := by
  have hpow : 0 ≤ Int.pow 2 63 := by decide
  simp only [fits, Bool.and_eq_true, decide_eq_true_eq]
  omega

namespace Sql.Session

variable {s : Session} {n : Int}

/-- A number that does not fit is not handed over. -/
theorem demandParameters_of_not_fits (hn : fits n = false) :
    demandParameters [(.integer, .int n)] = .error (.foreign .integerTooLarge) := by
  simp [demandParameters, ColumnKind.parameter, handOver, hn, Except.map, Bind.bind, Except.bind]

/-- The answer to a question for a submission, by what comes of looking for its row. -/
theorem getSubmission_int (s : Session) (n : Int) :
    s.getSubmission (.int n) = (s.query [(.integer, .int n)] (·.submission? n)).map fun row =>
      (row.map fun r => (submissionOf s.working.submissionStatuses r).value).getD .null := by
  rw [getSubmission, find_int]
  rcases s.query [(.integer, .int n)] (·.submission? n) with e | _ | row <;> rfl

theorem getSubmission_of_absent (husable : s.usable = true) (hfits : fits n = true)
    (habsent : s.working.submission? n = none) : s.getSubmission (.int n) = .ok .null := by
  have hdemand : s.demandUsable = .ok () := if_pos husable
  have hhanded : demandParameters [(.integer, .int n)] = .ok () :=
    demandParameters_of_fits (by simp [hfits])
  simp only [getSubmission_int, query, hdemand, hhanded, habsent, Bind.bind, Except.bind,
    Pure.pure, Except.pure, Except.map, Option.map_none, Option.getD_none]

theorem getSubmission_of_not_fits (husable : s.usable = true) (hfits : fits n = false) :
    s.getSubmission (.int n) = .error (.foreign .integerTooLarge) := by
  have hdemand : s.demandUsable = .ok () := if_pos husable
  simp only [getSubmission_int, query, hdemand, demandParameters_of_not_fits hfits, Bind.bind,
    Except.bind, Except.map]

theorem getSubmission_of_spoilt (hspoilt : s.usable = false) :
    s.getSubmission (.int n) = .error pendingRollback := by
  have hdemand : s.demandUsable = .error pendingRollback := if_neg (Bool.eq_false_iff.1 hspoilt)
  simp only [getSubmission_int, query, hdemand, Bind.bind, Except.bind, Except.map]

end Sql.Session

namespace Platform

variable {n : Int}

/-- In memory nothing is answered under a number that has no record. -/
theorem answer_get_of_absent {p : Platform Memory.Catalog}
    (habsent : p.catalog.submissions.get? (.int n) = none) :
    answer (.catalog (.getSubmission (.int n))) p = ⟨.ok .null, p, []⟩ := by
  have hfind : p.catalog.submissions.find (.int n) = .ok none := congrArg Except.ok habsent
  show Answer.mk ((p.catalog.submissions.find (.int n)).map (·.getD .null)) p [] = _
  rw [hfind]
  rfl

/-- Asking a session for a submission changes nothing. -/
theorem state_answer_get (p : Platform Session) (id : Value) :
    (answer (.catalog (.getSubmission id)) p).state = p := by
  have hstate : (UploadCatalog.answer (.getSubmission id) (p.catalog, p.clock)).state =
      (p.catalog, p.clock) := Session.told_state _ _
  simp only [answer, hstate]

/-- The reply of a session to a question for a submission. -/
theorem reply_answer_get (p : Platform Session) (id : Value) :
    (answer (.catalog (.getSubmission id)) p).reply =
      (p.catalog.getSubmission id).mapError fun f => (Session.wrap "get_submission" f).1 := by
  show (Session.told (.getSubmission id) ⟨p.catalog.getSubmission id, p.catalog, p.clock⟩).reply = _
  rcases p.catalog.getSubmission id with e | v <;> rfl

end Platform

/-! ## What a change comes to -/

namespace Reception

variable {σ : Type} {team : Collaborators σ} {settings : Settings}
  {submissionId statusId operator : Value} {r : StatusRequest} {s : σ}

/-- A submission that the catalog does not have is reported as not found, unless its number cannot
be written out. -/
theorem changeStatus_of_null (hr : r.AskedBy submissionId statusId operator)
    (hreply : (team (.catalog (.getSubmission (.int r.submissionId))) s).reply = .ok .null) :
    (changeStatus settings submissionId statusId operator).outcome team s =
      (.error (if Text.writable r.submissionId then
          .service (.submissionNotFound (.int r.submissionId))
        else .foreign .tooManyDigits),
        (team (.catalog (.getSubmission (.int r.submissionId))) s).state) := by
  unfold changeStatus
  rw [StatusRequest.askedBy_iff.1 hr, outcome_bind_ok (outcome_ofExcept_ok team r s),
    outcome_bind_ok (outcome_askGuarded_ok rfl hreply),
    ← ServiceProblem.failure_submissionNotFound]
  rfl

/-- A question that fails ends the change with what its guard makes of the failure. -/
theorem changeStatus_of_error (hr : r.AskedBy submissionId statusId operator) {e : Failure}
    (hreply : (team (.catalog (.getSubmission (.int r.submissionId))) s).reply = .error e) :
    (changeStatus settings submissionId statusId operator).outcome team s =
      (.error (e.wrapped "get submission"),
        (team (.catalog (.getSubmission (.int r.submissionId))) s).state) := by
  have hfailed : (askGuarded "get submission" [("submission_id", .int r.submissionId)]
      (.catalog (.getSubmission (.int r.submissionId)))).outcome team s =
      (.error (e.wrapped "get submission"),
        (team (.catalog (.getSubmission (.int r.submissionId))) s).state) := by
    rw [outcome_askGuarded_error rfl hreply]
    exact (endsWith_wrapped rfl e).outcome team _
  unfold changeStatus
  rw [StatusRequest.askedBy_iff.1 hr, outcome_bind_ok (outcome_ofExcept_ok team r s),
    outcome_bind_error hfailed]

end Reception

/-- **A missing submission is reported as missing, if its number can be asked for.**  Take a request
for another status of a submission that is not stored.  In memory the catalog answers null, whatever
the number is, and the submission is reported as not found exactly if its number can be written out.
Over tables in a session that works it is so exactly for the numbers below the 63rd power of 2; a
larger one is an overflow, for the catalog and for the change, which ends with a persistence
failure.  A session in which a write has been refused reports that instead.  In every case
everything stays as it was. -/
theorem missing_submission_reported (settings : Settings)
    {submissionId statusId operator : Value} {r : StatusRequest}
    (hr : r.AskedBy submissionId statusId operator) :
    let change := Reception.changeStatus settings submissionId statusId operator
    let get := Call.catalog (.getSubmission (.int r.submissionId))
    let notFound := Failure.service (.submissionNotFound (.int r.submissionId))
    let unanswered := ServiceProblem.persistenceFailure (.text "Failed to get submission") .null
    (∀ p : Platform Memory.Catalog,
      p.catalog.submissions.get? (.int r.submissionId) = none →
      let run := change.run Platform.answer { state := p }
      Platform.answer get p = ⟨.ok .null, p, []⟩ ∧ run.2.state = p ∧
        run.1 = .error (if Text.writable r.submissionId then notFound
          else .foreign .tooManyDigits)) ∧
    ∀ p : Platform Session, p.catalog.working.submission? r.submissionId = none →
      let run := change.run Platform.answer { state := p }
      let answer := Platform.answer get p
      answer.state = p ∧ run.2.state = p ∧
        (p.catalog.usable = true → r.submissionId < Int.pow 2 63 →
          answer.reply = .ok .null ∧ run.1 = .error notFound) ∧
        (p.catalog.usable = true → Int.pow 2 63 ≤ r.submissionId →
          let overflow := Failure.foreign .integerTooLarge
          answer.reply = .error overflow ∧
            run.1 = .error (.raisedFrom (.service unanswered) overflow)) ∧
        (p.catalog.usable = false →
          let refusal := (Session.wrap "get_submission" Session.pendingRollback).1
          answer.reply = .error refusal ∧
            run.1 = .error (.raisedFrom (.service unanswered) refusal)) := by
  intro change get notFound unanswered
  constructor
  · intro p habsent run
    have hanswer := Platform.answer_get_of_absent habsent
    have hrun := run_outcome Platform.answer change { state := p }
    rw [Reception.changeStatus_of_null hr (congrArg Answer.reply hanswer), hanswer] at hrun
    exact ⟨hanswer, congrArg Prod.snd hrun, congrArg Prod.fst hrun⟩
  · intro p habsent run answer
    have hstate : answer.state = p := Platform.state_answer_get p _
    have hreply : answer.reply = _ := Platform.reply_answer_get p (.int r.submissionId)
    have hrun := run_outcome Platform.answer change { state := p }
    have hnull (hfits : fits r.submissionId = true) (h : answer.reply = .ok .null) :
        run.1 = .error notFound ∧ run.2.state = p := by
      rw [Reception.changeStatus_of_null hr h, if_pos (Text.writable_of_fits hfits)] at hrun
      exact ⟨congrArg Prod.fst hrun, (congrArg Prod.snd hrun).trans hstate⟩
    have hfails {e : Failure} (h : answer.reply = .error e) :
        run.1 = .error (e.wrapped "get submission") ∧ run.2.state = p := by
      rw [Reception.changeStatus_of_error hr h] at hrun
      exact ⟨congrArg Prod.fst hrun, (congrArg Prod.snd hrun).trans hstate⟩
    have hfits := fits_iff_of_nonneg hr.submission.2
    have hsmall (husable : p.catalog.usable = true) (hlt : r.submissionId < Int.pow 2 63) :
        answer.reply = .ok .null := by
      rw [hreply, Session.getSubmission_of_absent husable (hfits.2 hlt) habsent]
      rfl
    have hlarge (husable : p.catalog.usable = true) (hle : Int.pow 2 63 ≤ r.submissionId) :
        answer.reply = .error (.foreign .integerTooLarge) := by
      have hnot : fits r.submissionId = false :=
        Bool.eq_false_iff.2 fun h => absurd (hfits.1 h) (by omega)
      rw [hreply, Session.getSubmission_of_not_fits husable hnot]
      rfl
    have hrefused (hspoilt : p.catalog.usable = false) :
        answer.reply = .error (Session.wrap "get_submission" Session.pendingRollback).1 := by
      rw [hreply, Session.getSubmission_of_spoilt hspoilt]
      rfl
    refine ⟨hstate, ?_, fun husable hlt => ?_, fun husable hle => ?_, fun hspoilt => ?_⟩
    · rcases husable : p.catalog.usable with _ | _
      · exact (hfails (hrefused husable)).2
      · by_cases hlt : r.submissionId < Int.pow 2 63
        · exact (hnull (hfits.2 hlt) (hsmall husable hlt)).2
        · exact (hfails (hlarge husable (Int.not_lt.1 hlt))).2
    · exact ⟨hsmall husable hlt, (hnull (hfits.2 hlt) (hsmall husable hlt)).1⟩
    · exact ⟨hlarge husable hle, (hfails (hlarge husable hle)).1⟩
    · exact ⟨hrefused hspoilt, (hfails (hrefused hspoilt)).1⟩

/-- The largest number that fits is reported as missing, both in memory and over tables. -/
theorem missing_submission_reported_largest :
    let n : Int := Int.pow 2 63 - 1
    let change := Reception.changeStatus {} (.int n) (.int 1) (.text "op")
    let memory : Platform Memory.Catalog := { catalog := .fresh }
    let tables : Platform Session := { catalog := {} }
    (change.run Platform.answer { state := memory }).1 =
        .error (.service (.submissionNotFound (.int n))) ∧
      (change.run Platform.answer { state := tables }).1 =
        .error (.service (.submissionNotFound (.int n))) := by
  intro n change memory tables
  have hasked : StatusRequest.AskedBy (.int n) (.int 1) (.text "op") ⟨n, 1, "op"⟩ :=
    StatusRequest.askedBy_iff.2 (by decide +kernel)
  obtain ⟨hmemory, htables⟩ := missing_submission_reported {} hasked
  obtain ⟨-, -, hsmall, -⟩ := htables tables rfl
  have hwritable : Text.writable n := Text.writable_of_fits (by decide)
  refine ⟨(hmemory memory rfl).2.2.trans ?_, (hsmall rfl (by decide)).2⟩
  rw [if_pos hwritable]

/-- The next number is missing from empty tables as well, but it is not reported so: the catalog
does not answer null, and the change ends with a persistence failure. -/
theorem large_number_not_reported :
    let n : Int := Int.pow 2 63
    let p : Platform Session := { catalog := {} }
    let run := (Reception.changeStatus {} (.int n) (.int 1) (.text "op")).run Platform.answer
      { state := p }
    p.catalog.working.submission? n = none ∧
      (Platform.answer (.catalog (.getSubmission (.int n))) p).reply ≠ .ok .null ∧
      run.1 ≠ .error (.service (.submissionNotFound (.int n))) ∧
      run.1 = .error (.raisedFrom
        (.service (.persistenceFailure (.text "Failed to get submission") .null))
        (.foreign .integerTooLarge)) := by
  decide +kernel

end ContestUploads
