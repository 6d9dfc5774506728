import ContestUploads.Platform
import ContestUploads.Sql.Clause

/-!
# Sessions

A session works on a copy of the tables.  Committing makes its work permanent, rolling back drops
it.  A write that the database refuses spoils the session: its work is lost, and until it is
rolled back every further query, write or commit is refused.  A read that is refused does no
harm.
-/

namespace ContestUploads.Sql

/-- A session with the tables as last committed and as it works on them. -/
structure Session where
  committed : Database := {}
  working : Database := {}
  /-- Whether no write has been refused since the session began. -/
  usable : Bool := true
  deriving DecidableEq, Repr, Inhabited

/-- An operation on a session that also draws stamps from the clock. -/
structure Outcome where
  result : Except Failure Value
  session : Session
  clock : Clock

namespace Session

/-- The session is spoilt. -/
def pendingRollback : Failure :=
  .database .pendingRollback

/-- The session after a refused write: the work since the last commit is lost. -/
def spoilt (s : Session) : Session :=
  { s with working := s.committed, usable := false }

/-- Refuse to work in a spoilt session. -/
def demandUsable (s : Session) : Except Failure Unit :=
  if s.usable then .ok () else .error pendingRollback

/-- The content of a cell that must not be null. -/
def required : Cell → Except Failure Cell
  | .null => .error (.database .integrity)
  | c => .ok c

/-- The text of a cell that must not be null in a column of texts. -/
def requiredText : Cell → Except Failure String
  | .text s => .ok s
  | _ => .error (.database .integrity)

/-- Refuse values that cannot be handed over, each with the kind of its column.  What a column does
not take is noticed before anything is handed over. -/
def demandParameters (values : List (ColumnKind × Value)) : Except Failure Unit :=
  let parameters := values.map fun v => v.1.parameter v.2
  let refused (p : Except DatabaseProblem Cell) : Bool :=
    match p with
    | .error .statement => true
    | _ => false
  if parameters.any refused then .error (.database .statement)
  else parameters.forM fun p => (handOver p).map fun _ => ()

/-- Query the tables, with the values that cells are compared with. -/
def query {α : Type} (s : Session) (compared : List (ColumnKind × Value))
    (look : Database → α) : Except Failure α := do
  s.demandUsable
  demandParameters compared
  return look s.working

/-- Write to the tables; a refusal spoils the session. -/
def flush {α : Type} (s : Session) (write : Database → Except Failure (α × Database)) :
    Except Failure α × Session :=
  if s.usable then
    match write s.working with
    | .ok (x, d) => (.ok x, { s with working := d })
    | .error e => (.error e, s.spoilt)
  else (.error pendingRollback, s)

/-- Leave a session normally and begin the next.  A spoilt session cannot be committed. -/
def commit (s : Session) : Except Failure Unit × Session :=
  if s.usable then (.ok (), { committed := s.working, working := s.working })
  else (.error pendingRollback, { committed := s.committed, working := s.committed })

/-- Drop the work of a session and begin the next. -/
def rollback (s : Session) : Session :=
  { committed := s.committed, working := s.committed }

end Session

end ContestUploads.Sql
