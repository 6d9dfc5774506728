import ContestUploads.Program.Call

/-!
# Scripted faults

A script makes collaborators misbehave at chosen calls.  Each fault names an operation and says
at which of its calls it applies; the first fault that applies is carried out.  Calls are counted
for each operation, those with a fault included.
-/

namespace ContestUploads

/-- What a pretended reply comes to.  An update answers nothing that its caller looks at: the caller
goes on with the submission that it has. -/
def Call.pretended (c : Call) (given : Value) : Value :=
  match c with
  | .catalog (.updateSubmission submission _) => submission
  | _ => given

/-- What happens at a call instead of, or after, its proper answer. -/
inductive Misbehaviour
  /-- The call fails without having any effect. -/
  | refuse (failure : Failure)
  /-- The call takes effect and then fails. -/
  | loseReply (failure : Failure)
  /-- The call answers something else without having any effect. -/
  | pretend (given : Value)

/-- A fault: the operation, the number of the call, and what happens.  Number zero stands for
every call. -/
structure Fault where
  method : Method
  nth : Nat := 0
  effect : Misbehaviour

namespace Fault

/-- Whether a fault applies to the `n`-th call of an operation. -/
def applies (f : Fault) (method : Method) (n : Nat) : Bool :=
  f.method == method && (f.nth == 0 || f.nth == n)

end Fault

/-- The state of collaborators together with the operations asked for so far. -/
structure Rehearsal (σ : Type) where
  state : σ
  made : List Method := []

namespace Rehearsal

variable {σ : Type}

/-- What a misbehaving collaborator answers. -/
def misbehave (team : Collaborators σ) (call : Call) (state : σ) :
    Misbehaviour → Answer σ
  | .refuse failure => ⟨.error failure, state, []⟩
  | .loseReply failure => { team call state with reply := .error failure }
  | .pretend given => ⟨.ok (call.pretended given), state, []⟩

/-- The fault of a script that applies to the next call of an operation. -/
def due? (script : List Fault) (r : Rehearsal σ) (method : Method) : Option Fault :=
  script.find? fun f => f.applies method (r.made.count method + 1)

/-- Collaborators that follow a script of faults. -/
def following (script : List Fault) (team : Collaborators σ) : Collaborators (Rehearsal σ) :=
  fun call r =>
    let a :=
      match due? script r call.method with
      | some f => misbehave team call r.state f.effect
      | none => team call r.state
    ⟨a.reply, ⟨a.state, call.method :: r.made⟩, a.logged⟩

/-- What a collaborator has to say to a call that takes effect, whether or not the reply comes
through. -/
def effective? (script : List Fault) (team : Collaborators σ) (r : Rehearsal σ) (call : Call) :
    Option Value :=
  match (due? script r call.method).map Fault.effect with
  | some (.refuse _) | some (.pretend _) => none
  | _ => (team call r.state).reply.toOption

end Rehearsal

end ContestUploads
