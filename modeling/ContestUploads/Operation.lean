import ContestUploads.Problem.Signature

/-!
# Operations by name

The services, the stores and a few operations of their own can be asked for by name.  The tables
below say under which name, and what each operation takes; the operations of a catalog begin with
the word for its kind in messages.
-/

namespace ContestUploads.Signature

/-- Operations of one owner, under names with a common start. -/
def owned (start owner : String) (operations : List (String × List String)) :
    List (String × Signature) :=
  operations.map fun (name, names) => (start ++ name, { operation := owner ++ name, names })

/-- The operations of the services. -/
def ofServices : List (String × Signature) :=
  let upload := ["project_id", "user_id", "filename"]
  owned "service." "UploadService."
    [("upload", "category" :: upload), ("upload_submission", upload),
     ("upload_final_fix", upload), ("upload_test_cases", upload),
     ("set_submission_status", ["submission_id", "status_id", "operator"])] ++
  owned "intake." "SubmissionIntake."
    [("create", "category" :: upload), ("create_submission", upload),
     ("create_final_fix", upload), ("create_test_cases", upload)] ++
  owned "status." "StatusTransitionService."
    [("transition", ["submission_id", "new_status_id", "operator"])] ++
  owned "gate." "PhaseGate." [("phase_open", ["project_id", "phase_names"])] ++
  owned "auth." "RoleAuthorizer."
    [("resolve_role_ids", ["role_names"]),
     ("authorize", ["project_id", "user_id", "role_names"])] ++
  [("retirement.retire",
    { operation := "RetirementPolicy.retire", names := ["user_id", "resource", "status_catalog"],
      optional := 1 })]

/-- The operations of the stores; `catalog` is the word for the kind of the catalog. -/
def ofStores (catalog : String) : List (String × Signature) :=
  owned "projects." "InMemoryProjectStore."
    [("add_project", ["project"]), ("get_project", ["project_id"])] ++
  owned "phases." "InMemoryPhaseTracker."
    [("add_phase", ["phase"]), ("get_phases", ["project_id"])] ++
  owned "resources." "InMemoryResourceDirectory."
    [("add_resource", ["resource"]), ("get_resource", ["resource_id"]), ("role_id", ["name"]),
     ("get_all_resource_roles", []), ("search_resources", ["search_filter"]),
     ("update_resource", ["resource", "operator"])] ++
  owned "catalog." (catalog ++ ".")
    [("status", ["name"]), ("add_submission", ["submission"]), ("get_all_upload_statuses", []),
     ("get_all_upload_types", []), ("get_all_submission_statuses", []),
     ("create_upload", ["upload", "operator"]),
     ("create_submission", ["submission", "operator"]),
     ("update_submission", ["submission", "operator"]), ("get_submission", ["submission_id"]),
     ("search_submissions", ["search_filter"])] ++
  owned "screening." "InMemoryScreeningTrigger."
    [("initiate_screening", ["submission_id", "operator"])]

/-- Operations that belong to no service and no store.  The questions to a catalog of lookups are
given the catalog besides their arguments, and seeding is given the session. -/
def ofOthers : List (String × Signature) :=
  [("find_by_name", { operation := "find_by_name", names := ["name"] }),
   ("find_by_id", { operation := "find_by_id", names := ["value_id"] }),
   ("ids_for_names", { operation := "ids_for_names", names := ["names"] }),
   ("require_by_name", { operation := "require_by_name", names := ["name"], optional := 1 }),
   ("lookup_values",
    { operation := "lookup_values", names := ["names"], optional := 1, own := 0 }),
   ("can_transition",
    { operation := "can_transition", names := ["current", "target"], own := 0 }),
   ("context.bind",
    { operation := "bind_request_context", names := ["operation"], optional := 2, own := 0 }),
   ("seed", { operation := "seed_lookup_values", names := [], optional := 3 })]

/-- What an operation takes, if its name is known. -/
def ofOperation? (catalog name : String) : Option Signature :=
  (ofServices ++ ofStores catalog ++ ofOthers).lookup name

end ContestUploads.Signature
