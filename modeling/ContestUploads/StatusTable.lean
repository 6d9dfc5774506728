import ContestUploads.Problem.Basic

/-!
# The table of submission status moves

Statuses are known by name.  A submission without a status may take any, and a status may always
be applied again; every other move has to be listed.  A value that names no status leads nowhere
but to itself.  Nothing leads out of "Deleted", and a status that the table does not know leads
nowhere.

* `canMove_iff`: when a move is allowed;
* `checkMove_eq_ok_iff`: the check passes exactly for the allowed moves;
* `checkMove_of_not_listed`: a refusal shows what the table lists.
-/

namespace ContestUploads.StatusTable

/-- The moves listed for each status. -/
def moves : List (String × List String) :=
  [("Active", ["Failed Screening", "Failed Review", "Completed Without Win", "Deleted"]),
   ("Failed Screening", ["Active", "Deleted"]),
   ("Failed Review", ["Active", "Deleted"]),
   ("Completed Without Win", ["Deleted"]),
   ("Deleted", [])]

/-- The statuses listed for a status. -/
def listed (current : String) : List String :=
  (moves.lookup current).getD []

/-- The statuses listed for a value, none if it names no status. -/
def listedFor (current : Value) : List String :=
  current.textual?.elim [] listed

/-- Whether a submission may move between two statuses, of which the first may be null. -/
def canMove (current target : Value) : Bool :=
  current.equals .null || current.equals target ||
    target.textual?.any fun name => (listedFor current).contains name

/-- `canMove` where the current status has to be looked for in the table, which takes a fixed
value. -/
def mayMove (current target : Value) : Except Failure Bool :=
  if canMove current target then .ok true else current.demandFixed.map fun _ => false

/-- Refuse a move that is not allowed, showing what the table lists instead. -/
def checkMove (current target : Value) : Except Failure Unit := do
  if ← mayMove current target then return ()
  .error (ServiceProblem.illegalTransition current target (.ofTexts (listedFor current))).failure

theorem canMove_iff {current : Option String} {target : String} :
    canMove (.ofText? current) (.text target) = true ↔
      current = none ∨ current = some target ∨
        ∃ name, current = some name ∧ target ∈ listed name := by
  cases current <;> simp [canMove, listedFor, Value.ofText?, Value.textual?]

theorem checkMove_eq_ok_iff {current target : Value} :
    checkMove current target = .ok () ↔ canMove current target = true := by
  unfold checkMove mayMove
  cases canMove current target with
  | true => simp [bind, Except.bind, pure, Except.pure]
  | false => cases current.demandFixed <;> simp [bind, Except.bind, Except.map]

/-- A move that the table does not list is refused with what it lists instead. -/
theorem checkMove_of_not_listed {current target : String} (hother : current ≠ target)
    (hlisted : target ∉ listed current) : checkMove (.text current) (.text target) =
      .error (.service (.illegalTransition (.text current) (.text target)
        (.ofTexts (listed current)))) := by
  have hrefused : canMove (.text current) (.text target) = false := by
    rw [Bool.eq_false_iff]
    intro hmove
    rcases (@canMove_iff (some current) target).1 hmove with hnone | hsame | ⟨name, hname, hmem⟩
    · cases hnone
    · exact hother (Option.some.inj hsame)
    · exact hlisted (Option.some.inj hname ▸ hmem)
  unfold checkMove mayMove
  rw [hrefused]
  exact congrArg Except.error (ServiceProblem.failure_illegalTransition current target _)

theorem listed_deleted : listed "Deleted" = [] := by
  decide

end ContestUploads.StatusTable
