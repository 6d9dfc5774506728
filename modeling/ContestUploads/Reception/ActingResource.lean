import ContestUploads.Filter.Basic
import ContestUploads.Lookup.Search
import ContestUploads.Program.Guard
import ContestUploads.Settings

/-!
# The resource a user acts through

A user acts on a project through the one resource that has an allowed role, belongs to the
project and names the user.  None or several such resources are refused.  Projects, users and
names of roles may be given as values of any kind.
-/

namespace ContestUploads.Reception

open Program

/-- The ids of the roles with the given names. -/
def roleIds (names : Value) : Program (List Value) := do
  let roles ← askGuarded "get resource roles" [] .resourceRoles
  ofExcept (Lookup.idsAmong roles names)

/-- The only member of what a search has found. -/
def onlyResource (projectId userId found : Value) : Program Value := do
  let who : Fields := [("project_id", projectId), ("user_id", userId)]
  let count ← ofExcept found.size
  if count = 1 then
    let resource ← ofExcept found.front
    let id ← ofExcept (resource.read "resource_id")
    let roleId ← ofExcept (resource.read "role_id")
    note .debug "resource_authorized" (who ++ [("resource_id", id), ("role_id", roleId)])
    return resource
  else
    note .error "resource_not_resolved" (who ++ [("match_count", .int count)])
    reject (.ambiguousOrMissingUser userId projectId (.int count))

/-- The only resource through which a user with one of the named roles acts on a project. -/
def actingResource (settings : Settings) (projectId userId names : Value) : Program Value := do
  let ids ← roleIds names
  if ids.isEmpty then
    let listed : Value := .list (names.members?.getD [])
    note .error "no_resource_role" [("user_id", userId), ("role_names", listed)]
    reject (.noSuchRole listed userId)
  else
    let found ← guarded (.text "search resources")
      [("project_id", projectId), ("user_id", userId)] do
        let filter ← ofExcept
          (Filter.acting? ids projectId (.text settings.externalReference) userId)
        call (.searchResources (.filter filter))
    onlyResource projectId userId found

end ContestUploads.Reception
