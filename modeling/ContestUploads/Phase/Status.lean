/-!
# Where a phase stands
-/

namespace ContestUploads

/-- Where a phase stands. -/
inductive PhaseStatus
  | scheduled
  | opened
  | closed
  deriving DecidableEq, Repr, Inhabited

namespace PhaseStatus

/-- All phase statuses. -/
def all : List PhaseStatus := [.scheduled, .opened, .closed]

/-- The text of a phase status. -/
def text : PhaseStatus → String
  | .scheduled => "scheduled"
  | .opened => "open"
  | .closed => "closed"

/-- The name of the member that stands for a phase status. -/
def memberName : PhaseStatus → String
  | .scheduled => "SCHEDULED"
  | .opened => "OPEN"
  | .closed => "CLOSED"

/-- The phase status with a text. -/
def ofText? (s : String) : Option PhaseStatus :=
  all.find? (·.text == s)

end PhaseStatus

end ContestUploads
