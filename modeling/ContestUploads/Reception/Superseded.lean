import ContestUploads.Filter.Basic
import ContestUploads.Reception.StatusChange

/-!
# Retiring superseded submissions

The earlier submissions of a resource are retired one after the other: each gets the deleted
status and is then stored once more.  A failure in between leaves those before it retired and
those after it as they were.
-/

namespace ContestUploads.Reception

open Program

/-- Retire the submissions of a list that are not spared; the answer is their ids, in order.  The
spared ids may come in any collection. -/
def retireEach (settings : Settings) (deleted : Value) (operator : String) (spared : Value) :
    List Value → Program (List Value)
  | [] => return []
  | submission :: rest => do
      let id ← ofExcept (submission.read "submission_id")
      if ← ofExcept (spared.holds id) then
        retireEach settings deleted operator spared rest
      else
        let deletedId ← ofExcept (deleted.read "id")
        let updated ← changeStatus settings id deletedId (.text operator)
        let _ ← askGuarded "update submission" [("submission_id", id)]
          (.catalog (.updateSubmission updated (.text operator)))
        let later ← retireEach settings deleted operator spared rest
        return id :: later

/-- Retire the submissions of a resource that are not spared. -/
def retireSuperseded (settings : Settings) (userId resource statuses spared : Value) :
    Program (List Value) := do
  let deleted ← ofExcept
    (Lookup.require statuses (.text settings.deletedStatus) Lookup.submissionStatusKind)
  let operator ← ofExcept userId.asText
  let resourceId ← ofExcept (resource.read "resource_id")
  let found ← askGuarded "search submissions" [("resource_id", resourceId)]
    (.catalog (.searchSubmissions (.filter (.ofResource resourceId))))
  let earlier ← ofExcept found.members
  let retired ← retireEach settings deleted operator spared earlier
  note .info "previous_submissions_retired"
    [("user_id", userId), ("resource_id", resourceId), ("retired", .list retired)]
  return retired

end ContestUploads.Reception
