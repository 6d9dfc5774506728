import ContestUploads.Sql.Session

/-!
# Seeding the lookup tables

The lookup tables that are empty are filled with names, in one write; a table with rows stays as it
is.
-/

namespace ContestUploads.Sql.Session

/-- Whether names are given for a lookup table and will be looked at: a table with rows stays as it
is, and no names stand for the default ones. -/
def namesCount (rows : List LookupRow) (names : Value) : Bool :=
  rows.isEmpty && names.truthy

/-- The rows of a lookup table after seeding. -/
def seeded (rows : List LookupRow) (names : Value) (defaults : List String) :
    Except Failure (List LookupRow) := do
  if namesCount rows names then
    let items ← names.members
    let names ← items.mapM fun name => do requiredText (← ColumnKind.text.stored name)
    return Database.numbered names
  else return if rows.isEmpty then Database.numbered defaults else rows

/-- The tables after seeding; names within a table must be distinct. -/
def seedTables (uploadStatuses uploadTypes submissionStatuses : Value) (d : Database) :
    Except Failure (Unit × Database) := do
  let d : Database :=
    { d with
      uploadStatuses := ← seeded d.uploadStatuses uploadStatuses Defaults.uploadStatuses
      uploadTypes := ← seeded d.uploadTypes uploadTypes Defaults.uploadTypes
      submissionStatuses :=
        ← seeded d.submissionStatuses submissionStatuses Defaults.submissionStatuses }
  if Database.distinctNames d.uploadStatuses && Database.distinctNames d.uploadTypes &&
      Database.distinctNames d.submissionStatuses then return ((), d)
  else .error (.database .integrity)

/-- Refuse names that are no collection, before anything is written. -/
def demandCollection (rows : List LookupRow) (names : Value) : Except Failure Unit :=
  if namesCount rows names then names.members.map fun _ => () else .ok ()

/-- Fill the lookup tables that are empty. -/
def seed (s : Session) (uploadStatuses uploadTypes submissionStatuses : Value) :
    Answer Session :=
  let demanded : Except Failure Unit := do
    s.demandUsable
    demandCollection s.working.uploadStatuses uploadStatuses
    demandCollection s.working.uploadTypes uploadTypes
    demandCollection s.working.submissionStatuses submissionStatuses
  match demanded with
  | .error e => ⟨.error e, s, []⟩
  | .ok _ =>
      let (result, session) := s.flush (seedTables uploadStatuses uploadTypes submissionStatuses)
      match result with
      | .ok _ => ⟨.ok .null, session, [{ level := .info, event := .text "lookup_values_seeded" }]⟩
      | .error e => ⟨.error e, session, []⟩

end ContestUploads.Sql.Session
