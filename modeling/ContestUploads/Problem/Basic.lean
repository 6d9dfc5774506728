import ContestUploads.Problem.Foreign
import ContestUploads.Problem.Service
import ContestUploads.Problem.Signature
import ContestUploads.Problem.Store

/-!
# What can go wrong

Problems come in families.  A `ServiceProblem` is what callers of the upload desk see.  A
`StoreProblem` is raised by a store of records, a `DatabaseProblem` by the database under one,
and a `ForeignProblem` by anything else that a collaborator stands on.  A cancelled call is no
failure of anybody and is never wrapped.

A `Failure` is a problem that was raised, together with what it was raised from.  What is raised is
not always the problem that was meant: it may not be possible to put its words together
(`ServiceProblem.failure`).

* `Value.members_list`, `Value.holds_list`: a list as a collection;
* `Value.entry_text`: what a dictionary has under a name.
-/

namespace ContestUploads

/-- One rejected field of a record that was to be built from values. -/
structure FieldError where
  field : String
  code : String
  message : String
  deriving DecidableEq, Repr, Inhabited

/-- Anything that can go wrong. -/
inductive Problem
  | service (p : ServiceProblem)
  | store (p : StoreProblem)
  | database (p : DatabaseProblem)
  | foreign (p : ForeignProblem)
  | validation (errors : List FieldError)
  | cancelled (arguments : List Value)
  deriving DecidableEq, Repr, Inhabited

namespace Problem

/-- The words of a problem, if it can be told.  Those of the database are its own affair. -/
def told : Problem → Except ForeignProblem Value
  | .service p => p.told
  | .store p => p.told
  | .database _ => .ok (.text "")
  | .foreign p => p.told
  | .validation _ => .ok (.text "")
  | .cancelled arguments => ForeignProblem.told ⟨"", arguments⟩

end Problem

/-- A problem that was raised, with what it was raised from. -/
inductive Failure
  | plain (problem : Problem)
  | raisedFrom (problem : Problem) (origin : Failure)
  deriving DecidableEq, Repr, Inhabited

namespace Failure

/-- The problem that was raised. -/
def problem : Failure → Problem
  | .plain p => p
  | .raisedFrom p _ => p

/-- What the problem was raised from. -/
def origin? : Failure → Option Failure
  | .plain _ => none
  | .raisedFrom _ origin => some origin

/-- The words of the problem that was raised, if it can be told. -/
def told (f : Failure) : Except ForeignProblem Value :=
  f.problem.told

/-- A problem reported to callers. -/
def service (p : ServiceProblem) : Failure :=
  .plain (.service p)

/-- A problem of the database. -/
def database (p : DatabaseProblem) : Failure :=
  .plain (.database p)

/-- A problem of a store. -/
def store (p : StoreProblem) : Failure :=
  .plain (.store p)

/-- A problem of a kind the services know nothing about. -/
def foreign (p : ForeignProblem) : Failure :=
  .plain (.foreign p)

end Failure

/-- The failure that comes of raising one whose words mention a value. -/
def Failure.mentioning (v : Value) (f : Failure) : Failure :=
  ((Value.unwritable? [v]).map foreign).getD f

/-- The failure that comes of reporting a problem: the problem itself, unless its words cannot be
put together. -/
def ServiceProblem.failure (p : ServiceProblem) : Failure :=
  match p.obstacle? with
  | some obstacle => .foreign obstacle
  | none => .service p

/-- Raising a failure whose words mention a value comes to this failure or to another problem. -/
theorem Failure.mentioning_cases (v : Value) (f : Failure) :
    f.mentioning v = f ∨ f.mentioning v = .foreign .tooManyDigits := by
  unfold mentioning Value.unwritable?
  split
  · exact .inl rfl
  · exact .inr rfl

theorem Failure.mentioning_of_writable {v : Value} (h : v.writable = true) (f : Failure) :
    f.mentioning v = f := by
  simp [mentioning, Value.unwritable?, h]

/-- What is reported to callers in place of a problem is this problem. -/
theorem ServiceProblem.eq_of_problem_failure {p q : ServiceProblem}
    (h : p.failure.problem = .service q) : q = p := by
  unfold failure at h
  split at h
  · cases h
  · exact (Problem.service.inj h).symm

theorem ServiceProblem.failure_of_told {p : ServiceProblem} (h : p.obstacle? = none) :
    p.failure = .service p := by
  rw [failure, h]

theorem ServiceProblem.problem_failure {p : ServiceProblem} (h : p.obstacle? = none) :
    p.failure.problem = .service p := by
  rw [failure_of_told h]
  rfl

/-- A problem is reported as it is exactly if its words can be put together. -/
theorem ServiceProblem.failure_eq_iff {p : ServiceProblem} :
    p.failure = .service p ↔ p.obstacle? = none := by
  refine ⟨fun h => ?_, failure_of_told⟩
  unfold failure at h
  split at h
  · cases h
  · assumption

/-- A problem that only mentions values is reported if they can be written out. -/
theorem ServiceProblem.failure_of_mentions {p : ServiceProblem} (values : List Value)
    (h : p.obstacle? = Value.unwritable? values) : p.failure =
      if Value.allWritable values then .service p else .foreign .tooManyDigits := by
  rw [failure, h, Value.unwritable?]
  split <;> simp_all

theorem ServiceProblem.failure_submissionNotFound (id : Int) :
    (submissionNotFound (.int id)).failure =
      if Text.writable id then .service (.submissionNotFound (.int id))
      else .foreign .tooManyDigits := by
  rw [failure_of_mentions [.int id] rfl]
  simp

theorem ServiceProblem.failure_statusNotFound (id : Int) :
    (statusNotFound (.int id)).failure =
      if Text.writable id then .service (.statusNotFound (.int id))
      else .foreign .tooManyDigits := by
  rw [failure_of_mentions [.int id] rfl]
  simp

/-- The failure that comes of reporting a problem after another failure. -/
def ServiceProblem.failureFrom (p : ServiceProblem) (origin : Failure) : Failure :=
  match p.obstacle? with
  | some obstacle => .foreign obstacle
  | none => .raisedFrom (.service p) origin

/-- The failure that comes of raising a problem of a store. -/
def StoreProblem.failure (p : StoreProblem) : Failure :=
  match p.obstacle? with
  | some obstacle => .foreign obstacle
  | none => .store p

/-- Texts can always be told. -/
@[simp] theorem ServiceProblem.failure_noSuchStatus (name catalog : String) :
    (noSuchStatus (.text name) (.text catalog)).failure =
      .service (.noSuchStatus (.text name) (.text catalog)) :=
  failure_of_told (by simp [obstacle?])

@[simp] theorem ServiceProblem.failure_illegalTransition (current target : String)
    (allowed : List String) :
    (illegalTransition (.text current) (.text target) (.ofTexts allowed)).failure =
      .service (.illegalTransition (.text current) (.text target) (.ofTexts allowed)) :=
  failure_of_told (by simp [obstacle?])

namespace Value

/-- A value as a plain text, if it can be written out. -/
def asText (v : Value) : Except Failure String :=
  match unwritable? [v] with
  | some obstacle => .error (.foreign obstacle)
  | none => .ok v.display

theorem asText_of_writable {v : Value} (h : v.writable = true) : v.asText = .ok v.display := by
  simp [asText, unwritable?, h]

theorem asText_eq_ok_iff {v : Value} {s : String} :
    v.asText = .ok s ↔ v.writable = true ∧ v.display = s := by
  cases h : v.writable <;> simp [asText, unwritable?, h]

theorem asText_eq_error_iff {v : Value} {e : Failure} :
    v.asText = .error e ↔ v.writable = false ∧ e = .foreign .tooManyDigits := by
  cases h : v.writable <;> simp [asText, unwritable?, h, eq_comm]

theorem asText_of_unwritable {v : Value} (h : v.writable = false) :
    v.asText = .error (.foreign .tooManyDigits) :=
  asText_eq_error_iff.2 ⟨h, rfl⟩

/-- The members of a collection; `v` may be no collection at all. -/
def members (v : Value) : Except Failure (List Value) :=
  match v.members? with
  | some items => .ok items
  | none => .error (.foreign (.notIterable v))

/-- The number of members of a collection; `v` may be no collection at all. -/
def size (v : Value) : Except Failure Nat :=
  match v.members? with
  | some items => .ok items.length
  | none => .error (.foreign (.noLength v))

/-- The member in the first place of a collection that has places; a dictionary has none. -/
def front (v : Value) : Except Failure Value :=
  match v, v.members? with
  | .dict _, _ => .error (.foreign ⟨"KeyError", [.int 0]⟩)
  | _, some (first :: _) => .ok first
  | _, _ => .error (.foreign ⟨"IndexError", [.text "list index out of range"]⟩)

/-- Refuse a value that can change where only fixed ones are looked for. -/
def demandFixed (v : Value) : Except Failure Unit :=
  match v.changeable? with
  | some part => .error (.foreign (.unhashable part))
  | none => .ok ()

/-- Whether some characters stand in a row among others. -/
def occurs (part : List Char) : List Char → Bool
  | [] => part.isEmpty
  | c :: rest => part.isPrefixOf (c :: rest) || occurs part rest

theorem occurs_iff {part cs : List Char} : occurs part cs = true ↔ part <:+: cs := by
  induction cs with
  | nil => simp [occurs]
  | cons c rest ih => simp [occurs, ih, List.infix_cons_iff]

/-- Whether a value is found in a collection; `v` may be no collection at all.  In a text only
texts can be looked for, and in a dictionary only fixed values. -/
def holds (v member : Value) : Except Failure Bool :=
  match v, v.textual? with
  | _, some s =>
      match member.textual? with
      | some part => .ok (occurs part.toList s.toList)
      | none => .error (.foreign (.misuse
          ("'in <string>' requires string as left operand, not " ++ member.kindName)))
  | .list items, none => .ok (contains items member)
  | .dict entries, none => do
      member.demandFixed
      return member.textual?.any fun name => (entries.lookup name).isSome
  | _, none => .error (.foreign (.notSearchable v))

/-- The value under a name in what should be a dictionary.  A missing one reads as null. -/
def entry (v name : Value) : Except Failure Value :=
  match v with
  | .dict entries => do
      name.demandFixed
      return (name.textual?.bind fun s => entries.lookup s).getD .null
  | other => .error (.foreign (.noAttribute other.kindName "get"))

@[simp] theorem demandFixed_int (n : Int) : demandFixed (.int n) = .ok () := by
  simp [demandFixed, changeable?]

@[simp] theorem demandFixed_text (s : String) : demandFixed (.text s) = .ok () := by
  simp [demandFixed, changeable?]

theorem entry_text (entries : Fields) (name : String) :
    (Value.dict entries).entry (.text name) = .ok ((entries.lookup name).getD .null) := by
  simp [entry, textual?, bind, Except.bind, pure, Except.pure]

theorem holds_list (items : List Value) (member : Value) :
    (Value.list items).holds member = .ok (contains items member) := rfl

theorem members_list (items : List Value) : (Value.list items).members = .ok items := rfl

theorem members_ofTexts (names : List String) :
    (ofTexts names).members = .ok (names.map .text) := rfl

end Value

end ContestUploads
