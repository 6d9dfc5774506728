import ContestUploads.Problem.Foreign

/-!
# What operations take

An operation that is asked for by its name takes its arguments in order.  Those that have names must
be given, and a few more may be.

* `obstacle?_eq_none_iff`: how many arguments may be given.
-/

namespace ContestUploads

/-- What an operation takes. -/
structure Signature where
  /-- The name of the operation in messages. -/
  operation : String
  /-- The names of what has to be given. -/
  names : List String
  /-- How much more may be given. -/
  optional : Nat := 0
  /-- How many arguments there are besides, such as the object that the operation is one of. -/
  own : Nat := 1
  deriving DecidableEq, Repr

namespace Signature

/-- What is wrong with the number of arguments, if anything. -/
def obstacle? (s : Signature) (given : Nat) : Option ForeignProblem :=
  if given < s.names.length then some (.missing s.operation (s.names.drop given))
  else if s.names.length + s.optional < given then
    let least := s.names.length + s.own
    some (.tooMany s.operation least (least + s.optional) (given + s.own))
  else none

theorem obstacle?_eq_none_iff {s : Signature} {given : Nat} :
    s.obstacle? given = none ↔
      s.names.length ≤ given ∧ given ≤ s.names.length + s.optional := by
  unfold obstacle?
  split
  · simp only [reduceCtorEq, false_iff]
    omega
  · split
    · simp only [reduceCtorEq, false_iff]
      omega
    · simp only [true_iff]
      omega

end Signature

end ContestUploads
