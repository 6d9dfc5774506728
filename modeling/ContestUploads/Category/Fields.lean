import ContestUploads.Value.Basic

/-!
# Rules as named values
-/

namespace ContestUploads

/-- The fields of a rule. -/
def Rule.fields (r : Rule) : Fields :=
  [("phase_names", .ofTexts r.phaseNames), ("role_names", .ofTexts r.roleNames),
   ("upload_type_name", .text r.uploadTypeName), ("creates_submission", .bool r.createsSubmission),
   ("requires_winner", .bool r.requiresWinner), ("always_retire", .bool r.alwaysRetire)]

end ContestUploads
