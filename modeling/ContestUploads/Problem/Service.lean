import ContestUploads.Problem.Foreign

/-!
# Problems reported to callers

Each constructor names a cause, with its particulars.  The words of a problem, the word under which
it is filed and everything that it reports follow from these.

A problem comes about with its words.  These mention particulars, and if one of them cannot be
written out or joined, there is no such problem but the obstacle (`ServiceProblem.obstacle?`).
-/

namespace ContestUploads

/-- Problems reported to callers.  Their particulars, and words that come from outside, are values
of any kind, since they are often arguments that were handed in. -/
inductive ServiceProblem
  /-- A problem that has only its words. -/
  | general (words errorType : Value)
  /-- An argument of a request is malformed. -/
  | invalidArgument (words field : Value)
  /-- There is no such project. -/
  | projectNotFound (projectId : Value)
  /-- A project has no phase of any of the given types. -/
  | noMatchingPhase (projectId phaseNames : Value)
  /-- A project has no phase that could gate the upload. -/
  | projectNotEligible (projectId phaseNames : Value)
  /-- The gating phase is not open. -/
  | phaseNotOpen (phaseId phaseName : Value)
  /-- None of the allowed roles exists. -/
  | noSuchRole (roleNames userId : Value)
  /-- Not exactly one resource belongs to the user. -/
  | ambiguousOrMissingUser (userId projectId matchCount : Value)
  /-- Someone other than the winner sent a final fix. -/
  | notWinner (userId projectId : Value)
  /-- There is no such submission. -/
  | submissionNotFound (submissionId : Value)
  /-- There is no submission status with this id. -/
  | statusNotFound (statusId : Value)
  /-- A catalog has no entry with this name. -/
  | noSuchStatus (name catalog : Value)
  /-- The status table does not list this move. -/
  | illegalTransition (current target allowed : Value)
  /-- A store failed.  The cause is null if it is the failure that this one was raised from. -/
  | persistenceFailure (words cause : Value)
  /-- A collaborator failed otherwise. -/
  | orchestrationFailure (words cause : Value)
  deriving DecidableEq, Repr, Inhabited

namespace ServiceProblem

/-- The words of a problem.  A general problem and a wrapped failure are told in the words they
were given, whatever these are. -/
def words : ServiceProblem → Value
  | .general words _ => words
  | .invalidArgument words _ => words
  | .projectNotFound projectId => .text s!"Project {projectId.display} does not exist"
  | .noMatchingPhase projectId names =>
      .text (s!"Project {projectId.display} has no phase of type " ++ names.joined " or ")
  | .projectNotEligible projectId names =>
      .text (s!"Project {projectId.display} does not accept this upload: no " ++
        names.joined " or " ++ " phase")
  | .phaseNotOpen phaseId name =>
      .text ("The '" ++ name.display ++ s!"' phase {phaseId.display} is not open")
  | .noSuchRole names userId =>
      .text ("No resource role named " ++ names.joined ", " ++
        s!" exists for user {userId.display}")
  | .ambiguousOrMissingUser userId projectId matchCount =>
      .text (s!"Expected exactly one resource for user {userId.display} on project " ++
        s!"{projectId.display}, found {matchCount.display}")
  | .notWinner userId projectId =>
      .text s!"User {userId.display} is not the winner of project {projectId.display}"
  | .submissionNotFound submissionId => .text s!"Submission {submissionId.display} not found"
  | .statusNotFound statusId => .text s!"Submission status {statusId.display} not found"
  | .noSuchStatus name catalog =>
      .text s!"No {catalog.display} named '{name.display}' in the catalog"
  | .illegalTransition current target allowed =>
      .text (s!"Cannot move submission from '{current.display}' to '{target.display}'. " ++
        s!"Allowed from '{current.display}': {allowed.display}")
  | .persistenceFailure words _ => words
  | .orchestrationFailure words _ => words

/-- What keeps the words of a problem from being put together, if there is anything.  They are put
together from the left. -/
def obstacle? : ServiceProblem → Option ForeignProblem
  | .projectNotFound projectId => Value.unwritable? [projectId]
  | .noMatchingPhase projectId names | .projectNotEligible projectId names =>
      (Value.unwritable? [projectId]).or (ForeignProblem.ofJoining? names)
  | .phaseNotOpen phaseId name => Value.unwritable? [name, phaseId]
  | .noSuchRole names userId => (ForeignProblem.ofJoining? names).or (Value.unwritable? [userId])
  | .ambiguousOrMissingUser userId projectId matchCount =>
      Value.unwritable? [userId, projectId, matchCount]
  | .notWinner userId projectId => Value.unwritable? [userId, projectId]
  | .submissionNotFound submissionId => Value.unwritable? [submissionId]
  | .statusNotFound statusId => Value.unwritable? [statusId]
  | .noSuchStatus name catalog => Value.unwritable? [catalog, name]
  | .illegalTransition current target allowed => Value.unwritable? [current, target, allowed]
  | .general .. | .invalidArgument .. | .persistenceFailure .. | .orchestrationFailure .. => none

/-- The message of a problem: its words as a text. -/
def message (p : ServiceProblem) : String :=
  p.words.display

/-- The message of a problem, if its words can be written. -/
def told (p : ServiceProblem) : Except ForeignProblem Value :=
  if p.words.writable then .ok (.text p.message) else .error .tooManyDigits

/-- The word under which a problem is filed. -/
def errorType : ServiceProblem → Value
  | .general _ errorType => errorType
  | .invalidArgument .. => .text "invalid_argument"
  | .projectNotFound .. => .text "project_not_found"
  | .noMatchingPhase .. => .text "no_matching_phase"
  | .projectNotEligible .. => .text "project_not_eligible"
  | .phaseNotOpen .. => .text "phase_not_open"
  | .noSuchRole .. => .text "no_such_role"
  | .ambiguousOrMissingUser .. => .text "ambiguous_or_missing_user"
  | .notWinner .. => .text "not_winner"
  | .submissionNotFound .. => .text "submission_not_found"
  | .statusNotFound .. => .text "status_not_found"
  | .noSuchStatus .. => .text "no_such_status"
  | .illegalTransition .. => .text "illegal_status_transition"
  | .persistenceFailure .. => .text "persistence_failure"
  | .orchestrationFailure .. => .text "orchestration_failure"

/-- The particulars of a problem. -/
def particulars : ServiceProblem → Fields
  | .general .. => []
  | .invalidArgument _ field => [("field", field)]
  | .projectNotFound projectId => [("project_id", projectId)]
  | .noMatchingPhase projectId names => [("project_id", projectId), ("phase_names", names)]
  | .projectNotEligible projectId names => [("project_id", projectId), ("phase_names", names)]
  | .phaseNotOpen phaseId name => [("phase_id", phaseId), ("phase_name", name)]
  | .noSuchRole names userId => [("role_names", names), ("user_id", userId)]
  | .ambiguousOrMissingUser userId projectId matchCount =>
      [("user_id", userId), ("project_id", projectId), ("match_count", matchCount)]
  | .notWinner userId projectId => [("user_id", userId), ("project_id", projectId)]
  | .submissionNotFound submissionId => [("submission_id", submissionId)]
  | .statusNotFound statusId => [("status_id", statusId)]
  | .noSuchStatus name catalog => [("name", name), ("catalog", catalog)]
  | .illegalTransition current target allowed =>
      [("current", current), ("target", target), ("allowed", allowed)]
  | .persistenceFailure .. => []
  | .orchestrationFailure .. => []

/-- The cause of a wrapped failure, null unless it is a value. -/
def cause : ServiceProblem → Value
  | .persistenceFailure _ cause => cause
  | .orchestrationFailure _ cause => cause
  | _ => .null

/-- Everything that a problem reports: its words, where it is filed, and its particulars. -/
def report (p : ServiceProblem) : Fields :=
  [("message", p.words), ("error_type", p.errorType)] ++ p.particulars

end ServiceProblem

end ContestUploads
