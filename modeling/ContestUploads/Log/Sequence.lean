import ContestUploads.Log.Console

/-!
# Sequences of log actions

Somebody who writes a log binds fields to its context, drops them again and writes entries, one
after the other.  The first action that is refused ends the sequence.
-/

namespace ContestUploads.Log

/-- One thing done with a log. -/
inductive Action
  | bind (operation operator : Value) (more : Fields)
  | clear (names : List String)
  | write (entry : LogEntry)
  deriving DecidableEq, Repr

/-- What was written so far, and the context. -/
structure Page where
  context : Fields
  entries : List LogEntry := []
  deriving DecidableEq, Repr

/-- Write an entry within the context.  Its fields must not take names that are in use, and in the
form for people it must have a form. -/
def Page.written (p : Page) (s : Sink) (e : LogEntry) : Except Failure Page :=
  let whole := e.within p.context
  match entryRefused s e, s.unwritable? whole with
  | some f, _ => .error f
  | none, some obstacle => .error (.foreign obstacle)
  | none, none => .ok { p with entries := p.entries ++ [whole] }

/-- Carry out one action. -/
def Page.after (p : Page) (s : Sink) : Action → Except Failure Page
  | .bind operation operator more =>
      (requestContext? operation operator more).map fun fields =>
        { p with context := p.context.merge fields }
  | .clear names => .ok { p with context := Log.clear p.context names }
  | .write e => p.written s e

/-- Carry out a sequence of actions. -/
def Page.play (p : Page) (s : Sink) (actions : List Action) : Except Failure Page :=
  actions.foldlM (fun p a => p.after s a) p

end ContestUploads.Log
