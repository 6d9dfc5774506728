import ContestUploads.Phase.Basic
import ContestUploads.Program.Guard

/-!
# The gating phase

An upload is taken in only while its gating phase is open.  Of the phases of a project, in the
order of the tracker, the first one whose type is among the accepted names decides; a later one
is not looked at, even if it is open.

* `gating?_map_value`: the gating phase among the phases of a project.
-/

namespace ContestUploads.Reception

/-- The first of some phases whose type is among the accepted names.  A phase without a type is
passed over, and those behind the one that decides are not looked at. -/
def gating? (names : Value) : List Value → Except Failure (Option Value)
  | [] => .ok none
  | phase :: rest => do
      let type ← phase.read "phase_type"
      let accepted ← if type.isNull then .ok false else names.holds type
      if accepted then return some phase
      gating? names rest

theorem gating?_map_value (names : List String) (phases : List Phase) :
    gating? (.ofTexts names) (phases.map Phase.value) =
      .ok ((phases.find? fun p =>
        !p.type.isNull && Value.contains (names.map .text) p.type).map Phase.value) := by
  induction phases with
  | nil => rfl
  | cons p rest ih =>
      have known : Value.holds (.ofTexts names) p.type =
        .ok (Value.contains (names.map .text) p.type) := rfl
      rw [List.map_cons, gating?, Phase.read_type, ih, List.find?_cons]
      cases absent : p.type.isNull <;>
        cases h : Value.contains (names.map .text) p.type <;>
        simp [bind, Except.bind, pure, Except.pure, known, absent, h]

open Program

/-- The gating phase of a project, which must be open. -/
def openPhase (projectId names : Value) : Program Value := do
  let found ← askGuarded "get phases" [("project_id", projectId)] (.phases projectId)
  let phases ← ofExcept found.members
  match ← ofExcept (gating? names phases) with
  | some phase =>
      let isOpen ← ofExcept (phase.read "is_open")
      if isOpen.truthy then return phase
      let id ← ofExcept (phase.read "phase_id")
      let type ← ofExcept (phase.read "phase_type")
      let status ← ofExcept (phase.read "status")
      let shown ← ofExcept (status.read "value")
      note .error "phase_not_open"
        [("project_id", projectId), ("phase_id", id), ("phase_type", type), ("status", shown)]
      reject (.phaseNotOpen id type)
  | none =>
      let accepted ← ofExcept names.members
      note .error "no_matching_phase"
        [("project_id", projectId), ("phase_names", .list accepted)]
      reject (.noMatchingPhase projectId (.list accepted))

end ContestUploads.Reception
