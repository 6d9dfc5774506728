import ContestUploads.Problem.Foreign

/-!
# Problems of stores and of the database

A store tells what went wrong and gives details.  The database only tells the kind of its problems;
their words are its own affair.
-/

namespace ContestUploads

/-- Problems raised by stores. -/
inductive StoreProblem
  /-- A problem that has only its words. -/
  | general (summary details : Value)
  /-- Records could not be read or written. -/
  | persistence (summary details : Value)
  /-- A search filter is malformed or cannot be carried out. -/
  | searchQuery (summary details : Value)
  /-- Screening of a submission was already started. -/
  | screeningTaskExists (submissionId : Value)
  deriving DecidableEq, Repr, Inhabited

namespace StoreProblem

/-- The words of a problem without its details. -/
def summary : StoreProblem → Value
  | .general summary _ => summary
  | .persistence summary _ => summary
  | .searchQuery summary _ => summary
  | .screeningTaskExists id =>
      .text ("Screening already initiated for submission " ++ id.display)

/-- What a problem is about.  Details that are absent or empty are an empty dictionary. -/
def details : StoreProblem → Value
  | .general _ details => orEmpty details
  | .persistence _ details => orEmpty details
  | .searchQuery _ details => orEmpty details
  | .screeningTaskExists id => .dict [("submission_id", id)]
where
  /-- The details, or an empty dictionary in place of absent ones. -/
  orEmpty (details : Value) : Value :=
    if details.truthy then details else .dict []

/-- What keeps the words of a problem from being put together, if there is anything. -/
def obstacle? : StoreProblem → Option ForeignProblem
  | .screeningTaskExists id => Value.unwritable? [id]
  | _ => none

/-- The words of a problem, followed by its details if there are any.  Without details the words
have to be a text. -/
def told (p : StoreProblem) : Except ForeignProblem Value :=
  if p.details.truthy then
    match Value.unwritable? [p.summary, p.details] with
    | some obstacle => .error obstacle
    | none => .ok (.text (p.summary.display ++ " - " ++ p.details.display))
  else if p.summary.textual?.isSome then .ok p.summary
  else .error (.misuse ("__str__ returned non-string (type " ++ p.summary.kindName ++ ")"))

theorem told_of_text {p : StoreProblem} {s : String} (words : p.summary = .text s)
    (alone : p.details.truthy = false) : p.told = .ok (.text s) := by
  simp [told, words, alone, Value.textual?]

/-- Everything that a problem reports: its words, its details, and its particulars. -/
def report (p : StoreProblem) : Fields :=
  [("message", p.summary), ("details", p.details)] ++
    match p with
    | .screeningTaskExists id => [("submission_id", id)]
    | _ => []

end StoreProblem

/-- Problems raised by the database. -/
inductive DatabaseProblem
  /-- A row breaks a rule of its table. -/
  | integrity
  /-- An earlier write failed, and the session has not been rolled back since. -/
  | pendingRollback
  /-- A value is of a kind that no cell can hold. -/
  | programming
  /-- A value is of a kind that its column does not take. -/
  | statement
  /-- A row was asked for by something that is no key. -/
  | invalidRequest
  /-- A value cannot be written out in a clause. -/
  | compile
  deriving DecidableEq, Repr, Inhabited

/-- The word for the kind of a database problem. -/
def DatabaseProblem.kind : DatabaseProblem → String
  | .integrity => "IntegrityError"
  | .pendingRollback => "PendingRollbackError"
  | .programming => "ProgrammingError"
  | .statement => "StatementError"
  | .invalidRequest => "InvalidRequestError"
  | .compile => "CompileError"

end ContestUploads
