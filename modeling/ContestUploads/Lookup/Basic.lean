import ContestUploads.Record.Access

/-!
# Lookups: the small named catalogs

Submission statuses, upload statuses, upload types and resource roles are lists of named entries
with an id.  A name or an id may occur more than once in such a list.
-/

namespace ContestUploads

/-- A named entry of a catalog. -/
structure Lookup where
  id : Value
  name : Value
  description : Value := .text ""
  deriving DecidableEq, Repr, Inhabited

namespace Lookup

/-- A lookup as a value. -/
def value (l : Lookup) : Value :=
  .record .lookup [("id", l.id), ("name", l.name), ("description", l.description)]

@[simp] theorem read_id (l : Lookup) : l.value.read "id" = .ok l.id := rfl

@[simp] theorem read_name (l : Lookup) : l.value.read "name" = .ok l.name := rfl

/-- Entries with the given names, numbered from `start`. -/
def numbered (names : List Value) (start : Int) : List Value :=
  names.mapIdx fun i name => value { id := .int (start + i), name }

/-- A catalog of names, numbered from one. -/
def catalog (names : List String) : List Value :=
  numbered (names.map .text) 1

end Lookup

end ContestUploads
