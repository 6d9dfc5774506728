import ContestUploads.Problem.Basic

/-!
# Search filters

Attributes must have a name and composite filters at least one part; the functions below that
return `Except` build only such filters.
-/

namespace ContestUploads.Filter

/-- A filter written out. -/
def literal (f : Filter) : String :=
  Value.filterLiteral f

/-- A malformed search. -/
def malformed (summary : String) : Failure :=
  .store (.searchQuery (.text summary) (.dict []))

/-- An attribute equals a value; the attribute must have a name. -/
def equal? (field value : Value) : Except Failure Filter :=
  if field.truthy then .ok (.equal field value)
  else .error (malformed "Filter attribute must not be empty")

/-- Every part holds; there must be one. -/
def all? : List Filter → Except Failure Filter
  | [] => .error (malformed "AndFilter needs at least one filter")
  | parts => .ok (.all parts)

/-- Some part holds; there must be one. -/
def any? : List Filter → Except Failure Filter
  | [] => .error (malformed "OrFilter needs at least one filter")
  | parts => .ok (.any parts)

/-- Resources in one of the given roles. -/
def inRoles? (roleIds : List Value) : Except Failure Filter :=
  any? (roleIds.map fun id => .equal (.text "role_id") id)

/-- Records of a project. -/
def ofProject (projectId : Value) : Filter :=
  .equal (.text "project_id") projectId

/-- Submissions of a resource. -/
def ofResource (resourceId : Value) : Filter :=
  .equal (.text "resource_id") resourceId

/-- The resources through which a user acts on a project.  Resources have no field for the user;
the id is compared, as text, with one extension property, which must be there. -/
def acting? (roleIds : List Value) (projectId referenceProperty userId : Value) :
    Except Failure Filter := do
  let roles ← inRoles? roleIds
  let reference ← userId.asText
  all?
    [roles, ofProject projectId, .hasProperty referenceProperty,
      .propertyIs referenceProperty (.text reference)]

end ContestUploads.Filter
