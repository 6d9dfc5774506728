import ContestUploads.Program.Call

/-!
# Programs over collaborators

A service is a `Program`: a tree that asks collaborators one call at a time and goes on
depending on what comes back, that writes log entries and changes the log context, and that ends
with a result or a failure.  Nothing in a program says how the collaborators behave; `run` plays
it against any `Collaborators` and keeps the `Trail` of what happened.

Writing an entry never fails here.  This is an assumption about the log: it can render every entry
that it is given, whatever values the fields of the entry and the context hold.

* `bind`: run a program and go on with its result; a failure ends everything;
* `recover`: turn a failure into another program;
* `ensuring`: do something at the end, whatever the outcome;
* `guarded`: one call whose failures are wrapped, see there.
-/

namespace ContestUploads

/-- A computation over collaborators and the log, with a result of type `α`. -/
inductive Program (α : Type) : Type
  | done (result : α)
  | fail (failure : Failure)
  | ask (call : Call) (next : Except Failure Value → Program α)
  | log (entry : LogEntry) (rest : Program α)
  | bindContext (fields : Fields) (rest : Program α)
  | unbindContext (names : List String) (rest : Program α)

namespace Program

variable {α β : Type}

/-- Go on with the result of a program. -/
def bind : Program α → (α → Program β) → Program β
  | .done a, f => f a
  | .fail e, _ => .fail e
  | .ask c next, f => .ask c fun reply => (next reply).bind f
  | .log e rest, f => .log e (rest.bind f)
  | .bindContext fields rest, f => .bindContext fields (rest.bind f)
  | .unbindContext names rest, f => .unbindContext names (rest.bind f)

instance : Monad Program where
  pure := .done
  bind := bind

/-- Go on after a failure. -/
def recover : Program α → (Failure → Program α) → Program α
  | .done a, _ => .done a
  | .fail e, handle => handle e
  | .ask c next, handle => .ask c fun reply => (next reply).recover handle
  | .log e rest, handle => .log e (rest.recover handle)
  | .bindContext fields rest, handle => .bindContext fields (rest.recover handle)
  | .unbindContext names rest, handle => .unbindContext names (rest.recover handle)

/-- Do something before a program ends, whether with a result or with a failure. -/
def ensuring (p : Program α) (last : Program Unit) : Program α :=
  (p.recover fun e => last.bind fun _ => .fail e).bind fun a => last.bind fun _ => .done a

/-- Write a log entry. -/
def note (level : Level) (event : String) (fields : Fields) : Program Unit :=
  .log { level, event := .text event, fields } (.done ())

/-- Add fields to the log context. -/
def inContext (fields : Fields) : Program Unit :=
  .bindContext fields (.done ())

/-- Drop fields from the log context. -/
def leaveContext (names : List String) : Program Unit :=
  .unbindContext names (.done ())

/-- End with a problem for the caller. -/
def reject (p : ServiceProblem) : Program α :=
  .fail p.failure

/-- A result that is already known, or a failure. -/
def ofExcept : Except Failure α → Program α
  | .ok a => .done a
  | .error e => .fail e

/-- Ask a call and hand on whatever comes back. -/
def call (c : Call) : Program Value :=
  .ask c ofExcept

end Program

/-- What happened in a run so far: the state of the collaborators, the log context, the entries
written and the calls made. -/
structure Trail (σ : Type) where
  state : σ
  context : Fields := []
  entries : List LogEntry := []
  calls : List Call := []

namespace Trail

variable {σ : Type}

/-- Write an entry, within the context. -/
def noted (t : Trail σ) (e : LogEntry) : Trail σ :=
  { t with entries := t.entries ++ [e.within t.context] }

/-- Record a call and its answer. -/
def answered (t : Trail σ) (c : Call) (a : Answer σ) : Trail σ :=
  { t with
    state := a.state
    calls := t.calls ++ [c]
    entries := t.entries ++ a.logged.map (·.within t.context) }

/-- Add fields to the context. -/
def bound (t : Trail σ) (fields : Fields) : Trail σ :=
  { t with context := t.context.merge fields }

/-- Drop fields from the context. -/
def unbound (t : Trail σ) (names : List String) : Trail σ :=
  { t with context := Log.clear t.context names }

end Trail

namespace Program

variable {α β σ : Type}

/-- Play a program against collaborators. -/
def run (team : Collaborators σ) : Program α → Trail σ → Except Failure α × Trail σ
  | .done a, t => (.ok a, t)
  | .fail e, t => (.error e, t)
  | .ask c next, t =>
      let answer := team c t.state
      (next answer.reply).run team (t.answered c answer)
  | .log e rest, t => rest.run team (t.noted e)
  | .bindContext fields rest, t => rest.run team (t.bound fields)
  | .unbindContext names rest, t => rest.run team (t.unbound names)

/-- Running one program and then the next. -/
theorem run_bind (team : Collaborators σ) (p : Program α) (f : α → Program β) (t : Trail σ) :
    (p.bind f).run team t =
      match p.run team t with
      | (.ok a, u) => (f a).run team u
      | (.error e, u) => (.error e, u) := by
  induction p generalizing t with
  | done a => rfl
  | fail e => rfl
  | ask c next ih => exact ih _ _
  | log e rest ih => exact ih _
  | bindContext fields rest ih => exact ih _
  | unbindContext names rest ih => exact ih _

/-- Running a program that recovers from failures. -/
theorem run_recover (team : Collaborators σ) (p : Program α) (handle : Failure → Program α)
    (t : Trail σ) :
    (p.recover handle).run team t =
      match p.run team t with
      | (.ok a, u) => (.ok a, u)
      | (.error e, u) => (handle e).run team u := by
  induction p generalizing t with
  | done a => rfl
  | fail e => rfl
  | ask c next ih => exact ih _ _
  | log e rest ih => exact ih _
  | bindContext fields rest ih => exact ih _
  | unbindContext names rest ih => exact ih _

end Program

end ContestUploads
