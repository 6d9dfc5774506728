import ContestUploads.Program.Guard
import ContestUploads.Record.Operation
import ContestUploads.Settings
import ContestUploads.Text.IntegerLiteral

/-!
# The winner of a project

A property of the project names the winner.  A number names the user with exactly that id; any
other value names a user if its text is an integer literal for the id.  A boolean and a missing
value name nobody.
-/

namespace ContestUploads

/-- Whether a value of the winner property names a user.  One that cannot be written out names
nobody. -/
def Value.names (winner : Value) (userId : Int) : Bool :=
  match winner with
  | .bool _ => false
  | .null => false
  | .int n => n == userId
  | .float x => x.equalsInt userId
  | v => v.writable && Text.integer? v.display == some userId

namespace Reception

open Program

/-- Refuse a user whom the project does not name as its winner. -/
def requireWinner (settings : Settings) (project : Value) (userId : Int) : Program Unit := do
  let (winner, _) ← ofExcept (project.carryOut "get_property" [.text settings.winner])
  if winner.names userId then return ()
  let projectId ← ofExcept (project.read "project_id")
  note .error "user_not_winner" [("project_id", projectId), ("user_id", .int userId)]
  reject (.notWinner (.int userId) projectId)

end Reception

end ContestUploads
