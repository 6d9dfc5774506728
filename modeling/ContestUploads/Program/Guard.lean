import ContestUploads.Program.Basic

/-!
# Guarded calls

What a collaborator raises does not reach callers as it is.  Problems that are already meant for
callers pass, and so does a cancellation.  A malformed search and a screening conflict become an
orchestration failure; everything else becomes a persistence failure.  A wrapped failure stays
attached as the origin, and an entry at level error is written before it is wrapped.

The context of a guard becomes part of that entry, so its names must not be those of the entry's
own fields, nor those of the operation that writes it.  A name that is used twice is itself a
failure, which nobody wraps, and so is a failure that cannot be told.

* `guarded_eq`: what a guard does within a context that leaves the action alone.
-/

namespace ContestUploads

/-- How a guard treats a failure. -/
inductive Verdict
  /-- It passes as it is. -/
  | pass
  /-- It becomes the problem, and the entry is written. -/
  | wrap (problem : ServiceProblem) (entry : LogEntry)
  /-- The entry cannot be written, since the failure cannot be told or the context has a field of a
  name that is in use. -/
  | spoil (problem : ForeignProblem)
  deriving DecidableEq, Repr

namespace Verdict

/-- The words of every failure that a guard wraps, which mention the action. -/
def words (action : Value) : Value :=
  .text ("Failed to " ++ action.display)

/-- The entry about a failed call, and the problem it becomes. -/
def report (problem : ServiceProblem) (event : String) (action : Value) (f : Failure)
    (more context : Fields) : Verdict :=
  match f.told with
  | .error obstacle => .spoil obstacle
  | .ok words =>
      let own : Fields := ("error", words) :: more
      match context.find? fun field => (own.lookup field.1).isSome,
        Log.taken? Log.writing context with
      | some (name, _), _ => .spoil (.noKey name)
      | none, some obstacle => .spoil obstacle
      | none, none =>
          .wrap problem
            { level := .error
              event := .text event
              fields := Fields.merge (("action", action) :: own) context }

/-- The verdict on a failure that came while doing `action`. -/
def of (action : Value) (context : Fields) (f : Failure) : Verdict :=
  let failed := words action
  let wrapForeign (kind : String) : Verdict :=
    report (.persistenceFailure failed .null) "collaborator_call_failed" action f
      [("error_type", .text kind)] context
  match f.problem with
  | .service _ => .pass
  | .cancelled _ => .pass
  | .store (.searchQuery ..) | .store (.screeningTaskExists _) =>
      report (.orchestrationFailure failed .null) "collaborator_call_failed" action f [] context
  | .store _ => report (.persistenceFailure failed .null) "store_call_failed" action f [] context
  | .database p => wrapForeign p.kind
  | .foreign p => wrapForeign p.kind
  | .validation _ => wrapForeign "ValidationError"

end Verdict

namespace Program

variable {α : Type}

/-- End with a failure after a guard has seen it. -/
def raiseGuarded (action : Value) (context : Fields) (f : Failure) : Program α :=
  match Verdict.of action context f with
  | .pass => .fail f
  | .wrap problem entry =>
      .log entry (.fail ((Failure.raisedFrom (.service problem) f).mentioning action))
  | .spoil problem => .fail (.foreign problem)

/-- A program whose failures a guard sees.  The context must leave the action alone. -/
def guarded (action : Value) (context : Fields) (p : Program α) : Program α :=
  match context.lookup "action" with
  | none => p.recover (raiseGuarded action context)
  | some _ => .fail (.foreign (.repeatedArgument "guard_external_call" "action"))

/-- Ask a call under a guard. -/
def askGuarded (action : String) (context : Fields) (c : Call) : Program Value :=
  guarded (.text action) context (call c)

theorem guarded_eq {action : Value} {context : Fields} (free : context.lookup "action" = none)
    (p : Program α) : guarded action context p = p.recover (raiseGuarded action context) := by
  simp [guarded, free]

end Program

end ContestUploads
