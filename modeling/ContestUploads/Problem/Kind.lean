import ContestUploads.Problem.Basic

/-!
# Problems by kind

Every problem has a word for its kind.  `Failure.ofKind` makes the failure that a word and its
arguments describe; a word that is not known here describes a foreign problem, and so do too few
or too many arguments.

* `ServiceProblem.kind_of_ofKind?`, `StoreProblem.kind_of_ofKind?`: a problem made from a word is
  of that kind.
-/

namespace ContestUploads

/-- The word for the kind of a problem. -/
def ServiceProblem.kind : ServiceProblem → String
  | .general .. => "UploadServicesError"
  | .invalidArgument .. => "InvalidArgumentError"
  | .projectNotFound .. => "ProjectNotFoundError"
  | .noMatchingPhase .. => "NoMatchingPhaseError"
  | .projectNotEligible .. => "ProjectNotEligibleError"
  | .phaseNotOpen .. => "PhaseNotOpenError"
  | .noSuchRole .. => "NoSuchRoleError"
  | .ambiguousOrMissingUser .. => "AmbiguousOrMissingUserError"
  | .notWinner .. => "NotWinnerError"
  | .submissionNotFound .. => "SubmissionNotFoundError"
  | .statusNotFound .. => "StatusNotFoundError"
  | .noSuchStatus .. => "NoSuchStatusError"
  | .illegalTransition .. => "IllegalStatusTransitionError"
  | .persistenceFailure .. => "PersistenceFailure"
  | .orchestrationFailure .. => "OrchestrationFailure"

/-- The word for the kind of a problem. -/
def StoreProblem.kind : StoreProblem → String
  | .general .. => "StoreError"
  | .persistence .. => "StorePersistenceError"
  | .searchQuery .. => "SearchQueryError"
  | .screeningTaskExists .. => "ScreeningTaskExistsError"

/-- The word for the kind of a problem. -/
def Problem.kind : Problem → String
  | .service p => p.kind
  | .store p => p.kind
  | .database p => p.kind
  | .foreign p => p.kind
  | .validation _ => "ValidationError"
  | .cancelled _ => "CancelledError"

/-- Where a problem without a kind of its own is filed. -/
def ServiceProblem.generalType : Value := .text "upload_services_error"

/-- The problem for callers that a word and its arguments describe; absent arguments are null. -/
def ServiceProblem.ofKind? (kind : String) (arguments : List Value) : Option ServiceProblem :=
  let first := arguments.getD 0 .null
  let second := arguments.getD 1 .null
  let third := arguments.getD 2 .null
  match kind with
  | "UploadServicesError" => some (.general first (arguments.getD 1 generalType))
  | "InvalidArgumentError" => some (.invalidArgument first second)
  | "ProjectNotFoundError" => some (.projectNotFound first)
  | "NoMatchingPhaseError" => some (.noMatchingPhase first second)
  | "ProjectNotEligibleError" => some (.projectNotEligible first second)
  | "PhaseNotOpenError" => some (.phaseNotOpen first second)
  | "NoSuchRoleError" => some (.noSuchRole first second)
  | "AmbiguousOrMissingUserError" => some (.ambiguousOrMissingUser first second third)
  | "NotWinnerError" => some (.notWinner first second)
  | "SubmissionNotFoundError" => some (.submissionNotFound first)
  | "StatusNotFoundError" => some (.statusNotFound first)
  | "NoSuchStatusError" => some (.noSuchStatus first second)
  | "IllegalStatusTransitionError" => some (.illegalTransition first second third)
  | "PersistenceFailure" => some (.persistenceFailure first second)
  | "OrchestrationFailure" => some (.orchestrationFailure first second)
  | _ => none

/-- The problem of a store that a word and its arguments describe; absent arguments are null. -/
def StoreProblem.ofKind? (kind : String) (arguments : List Value) : Option StoreProblem :=
  let first := arguments.getD 0 .null
  let second := arguments.getD 1 .null
  match kind with
  | "StoreError" => some (.general first second)
  | "StorePersistenceError" => some (.persistence first second)
  | "SearchQueryError" => some (.searchQuery first second)
  | "ScreeningTaskExistsError" => some (.screeningTaskExists first)
  | _ => none

/-- What the problems of each kind are made from.  Those of stores that have only words follow one
rule. -/
def Signature.ofKinds : List (String × Signature) :=
  let rule (optional : Nat) (kind : String) (names : List String) : String × Signature :=
    (kind, { operation := kind ++ ".__init__", names, optional })
  let words := (rule 1 "StoreError" ["message"]).2
  [rule 1 "UploadServicesError" ["message"],
   rule 1 "InvalidArgumentError" ["message"],
   rule 0 "ProjectNotFoundError" ["project_id"],
   rule 0 "NoMatchingPhaseError" ["project_id", "phase_names"],
   rule 0 "ProjectNotEligibleError" ["project_id", "phase_names"],
   rule 1 "PhaseNotOpenError" ["phase_id"],
   rule 0 "NoSuchRoleError" ["role_names", "user_id"],
   rule 0 "AmbiguousOrMissingUserError" ["user_id", "project_id", "match_count"],
   rule 0 "NotWinnerError" ["user_id", "project_id"],
   rule 0 "SubmissionNotFoundError" ["submission_id"],
   rule 0 "StatusNotFoundError" ["status_id"],
   rule 0 "NoSuchStatusError" ["name", "catalog"],
   rule 0 "IllegalStatusTransitionError" ["current", "target", "allowed"],
   rule 1 "PersistenceFailure" ["message"],
   rule 1 "OrchestrationFailure" ["message"],
   ("StoreError", words), ("StorePersistenceError", words), ("SearchQueryError", words),
   rule 0 "ScreeningTaskExistsError" ["submission_id"]]

/-- What keeps a problem of a kind from being made from so many arguments, if there is anything. -/
def Failure.obstacle? (kind : String) (given : Nat) : Option ForeignProblem :=
  (Signature.ofKinds.lookup kind).bind (·.obstacle? given)

/-- The failure that a word and its arguments describe.  It is a failure of its own if there are
too few or too many of them. -/
def Failure.ofKind (kind : String) (arguments : List Value) : Failure :=
  match obstacle? kind arguments.length, ServiceProblem.ofKind? kind arguments,
    StoreProblem.ofKind? kind arguments with
  | some obstacle, _, _ => .foreign obstacle
  | none, some p, _ => p.failure
  | none, none, some p => p.failure
  | none, none, none =>
      if kind = "CancelledError" then .plain (.cancelled arguments)
      else .foreign ⟨kind, arguments⟩

theorem ServiceProblem.kind_of_ofKind? {kind : String} {arguments : List Value}
    {p : ServiceProblem} (h : ofKind? kind arguments = some p) : p.kind = kind := by
  unfold ofKind? at h
  split at h <;> cases h <;> rfl

theorem StoreProblem.kind_of_ofKind? {kind : String} {arguments : List Value}
    {p : StoreProblem} (h : ofKind? kind arguments = some p) : p.kind = kind := by
  unfold ofKind? at h
  split at h <;> cases h <;> rfl

end ContestUploads
