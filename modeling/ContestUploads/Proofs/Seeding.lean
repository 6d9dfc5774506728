import ContestUploads.Proofs.Sessions
import ContestUploads.Sql.Seed

/-!
# New catalogs over the same names

A catalog in memory that is new holds lookups of some names, numbered from one, and nothing else.
Empty tables that are seeded with the same names hold the rows of these lookups, and no others: the
two stand for the same world, and tables can carry it (`tabled_of_new`, `seed_of_new`).
-/

namespace ContestUploads

open Sql

/-- Names for a catalog of lookups: there are some, each once, and not more than there are numbers
for. -/
structure Nameable (names : List String) : Prop where
  nonempty : names ≠ []
  distinct : names.Nodup
  fitting : fits names.length = true

/-- The names of all lookups of a catalog of uploads. -/
structure LookupNames where
  uploadStatuses : List String
  uploadTypes : List String
  submissionStatuses : List String

namespace LookupNames

/-- Names that can be used for each kind of lookups. -/
structure Valid (names : LookupNames) : Prop where
  uploadStatuses : Nameable names.uploadStatuses
  uploadTypes : Nameable names.uploadTypes
  submissionStatuses : Nameable names.submissionStatuses

/-- The names that lookups have by default. -/
def defaults : LookupNames where
  uploadStatuses := Defaults.uploadStatuses
  uploadTypes := Defaults.uploadTypes
  submissionStatuses := Defaults.submissionStatuses

theorem valid_defaults : defaults.Valid where
  uploadStatuses := ⟨by decide, by decide, by decide⟩
  uploadTypes := ⟨by decide, by decide, by decide⟩
  submissionStatuses := ⟨by decide, by decide, by decide⟩

/-- A new catalog in memory. -/
def catalog (names : LookupNames) : Memory.Catalog :=
  { uploadStatuses := Lookup.catalog names.uploadStatuses
    uploadTypes := Lookup.catalog names.uploadTypes
    submissionStatuses := Lookup.catalog names.submissionStatuses }

/-- Seed the tables of a session. -/
def seed (names : LookupNames) (s : Session) : Answer Session :=
  s.seed (.ofTexts names.uploadStatuses) (.ofTexts names.uploadTypes)
    (.ofTexts names.submissionStatuses)

end LookupNames

namespace StoredLookup

/-- The rows of a catalog of names are those that a table is seeded with. -/
theorem map_row_catalog (names : List String) :
    (catalog names).map row = Database.numbered names := by
  have hid (i : Nat) : (1 + i : Int) = i + 1 := Int.add_comm 1 i
  simp [catalog, Database.numbered, row, Function.comp_def, List.mapIdx_eq_zipIdx_map, hid]

/-- Entries that are handed out as a catalog of names are this catalog. -/
theorem eq_catalog {entries : List StoredLookup} {names : List String}
    (h : entries.map value = Lookup.catalog names) : entries = catalog names := by
  rw [← map_value_catalog] at h
  exact List.map_injective_iff.2 value_injective h

end StoredLookup

namespace Sql.Session

/-- An empty table is filled with the names that are given. -/
theorem seeded_of_ne_nil {names : List String} (h : names ≠ []) (defaults : List String) :
    seeded [] (.ofTexts names) defaults = .ok (Database.numbered names) := by
  have hcount : namesCount [] (.ofTexts names) = true := by
    obtain ⟨name, rest, rfl⟩ := List.exists_cons_of_ne_nil h
    rfl
  have hstored : (names.map Value.text).mapM
      (fun name => (ColumnKind.text.stored name).bind requiredText) = .ok names := by
    clear h hcount
    induction names with
    | nil => rfl
    | cons name rest ih =>
        rw [List.map_cons, List.mapM_cons, ih]
        rfl
  rw [seeded, if_pos hcount]
  show ((names.map Value.text).mapM
    (fun name => (ColumnKind.text.stored name).bind requiredText)).bind
      (fun names => .ok (Database.numbered names)) = _
  rw [hstored]
  rfl

theorem distinctNames_numbered {names : List String} (h : names.Nodup) :
    Database.distinctNames (Database.numbered names) = true := by
  have hnames : (Database.numbered names).map LookupRow.name = names := by
    simp [Database.numbered, Function.comp_def, List.mapIdx_eq_zipIdx_map]
  rw [Database.distinctNames, hnames]
  exact decide_eq_true h

/-- Empty tables are seeded with the names that are given. -/
theorem seed_empty {s : Session} (husable : s.usable = true) (hempty : s.working = {})
    {statuses types submissionStatuses : List String} (hstatuses : Nameable statuses)
    (htypes : Nameable types) (hsubmissionStatuses : Nameable submissionStatuses) :
    (s.seed (.ofTexts statuses) (.ofTexts types) (.ofTexts submissionStatuses)).state =
      { committed := s.committed
        working :=
          { uploadStatuses := Database.numbered statuses
            uploadTypes := Database.numbered types
            submissionStatuses := Database.numbered submissionStatuses } } := by
  have htables : seedTables (.ofTexts statuses) (.ofTexts types) (.ofTexts submissionStatuses)
      {} = .ok ((),
        { uploadStatuses := Database.numbered statuses
          uploadTypes := Database.numbered types
          submissionStatuses := Database.numbered submissionStatuses }) := by
    rw [seedTables, seeded_of_ne_nil hstatuses.nonempty, seeded_of_ne_nil htypes.nonempty,
      seeded_of_ne_nil hsubmissionStatuses.nonempty]
    simp only [Bind.bind, Except.bind, distinctNames_numbered hstatuses.distinct,
      distinctNames_numbered htypes.distinct, distinctNames_numbered hsubmissionStatuses.distinct]
    rfl
  have hdemanded (names : List String) : demandCollection [] (.ofTexts names) = .ok () := by
    rw [demandCollection]
    split <;> rfl
  obtain ⟨committed, working, usable⟩ := s
  subst husable hempty
  simp only [seed, demandUsable, if_true, hdemanded, Bind.bind, Except.bind, flush, htables]

end Sql.Session

namespace World

variable {w : World} {names : LookupNames}

/-- In a world whose catalog in memory is new, there are lookups of its names and nothing else. -/
structure New (w : World) (names : LookupNames) : Prop where
  uploadStatuses : w.uploadStatuses = StoredLookup.catalog names.uploadStatuses
  uploadTypes : w.uploadTypes = StoredLookup.catalog names.uploadTypes
  submissionStatuses : w.submissionStatuses = StoredLookup.catalog names.submissionStatuses
  uploads : w.uploads = []
  submissions : w.submissions = []
  nextUpload : w.nextUpload = 1
  nextSubmission : w.nextSubmission = 1

theorem new_of_catalog (h : w.catalog = names.catalog) : w.New names where
  uploadStatuses := StoredLookup.eq_catalog (congrArg Memory.Catalog.uploadStatuses h)
  uploadTypes := StoredLookup.eq_catalog (congrArg Memory.Catalog.uploadTypes h)
  submissionStatuses := StoredLookup.eq_catalog (congrArg Memory.Catalog.submissionStatuses h)
  uploads := by
    have hentries := congrArg (fun c => c.uploads.entries) h
    simpa [catalog, LookupNames.catalog, Register.filed] using hentries
  submissions := by
    have hentries := congrArg (fun c => c.submissions.entries) h
    simpa [catalog, LookupNames.catalog, Register.filed] using hentries
  nextUpload := congrArg Memory.Catalog.nextUpload h
  nextSubmission := congrArg Memory.Catalog.nextSubmission h

/-- Tables can carry a world whose catalog is new. -/
theorem New.tabled (h : w.New names) (hnames : names.Valid) (hcoherent : w.Coherent)
    (hresources : ∀ r ∈ w.resources, fits r.id = true) : w.Tabled where
  coherent := hcoherent
  nextUpload := by rw [h.uploads, h.nextUpload]; rfl
  nextSubmission := by rw [h.submissions, h.nextSubmission]; rfl
  statuses := h.submissionStatuses ▸ numbered_catalog _
  fitting := by
    have hfits {names : List String} (hnames : Nameable names) (l : StoredLookup)
        (hl : l ∈ StoredLookup.catalog names) : fits l.id = true := by
      have hl := StoredLookup.mem_catalog hl
      have hlength := hnames.fitting
      simp only [fits, Bool.and_eq_true, decide_eq_true_eq] at hlength ⊢
      omega
    intro l hl
    rw [h.uploadTypes, h.uploadStatuses, h.submissionStatuses, List.mem_append,
      List.mem_append] at hl
    rcases hl with (hl | hl) | hl
    · exact hfits hnames.uploadTypes l hl
    · exact hfits hnames.uploadStatuses l hl
    · exact hfits hnames.submissionStatuses l hl
  readable := by
    rw [h.submissions]
    intro s hs
    cases hs
  resources := hresources
  ordered := by
    rw [h.submissions]
    exact .nil
  lookups := by
    rw [h.uploadStatuses, h.uploadTypes, h.submissionStatuses]
    simp [pairwise_catalog]

/-- Seeding empty tables leaves the session that works on the rows of a new world. -/
theorem New.seed (h : w.New names) (hnames : names.Valid) {s : Session}
    (husable : s.usable = true) (hempty : s.working = {}) :
    (names.seed s).state = w.session s.committed := by
  rw [LookupNames.seed, Session.seed_empty husable hempty hnames.uploadStatuses
    hnames.uploadTypes hnames.submissionStatuses, session, tables, h.uploadStatuses,
    h.uploadTypes, h.submissionStatuses, h.uploads, h.submissions, StoredLookup.map_row_catalog,
    StoredLookup.map_row_catalog, StoredLookup.map_row_catalog]
  rfl

end World

end ContestUploads
