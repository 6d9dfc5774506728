import ContestUploads.Lookup.Basic

/-!
# Searching a catalog

Entries are looked for by name or by id, and what is looked for may be a value of any kind: names
and ids are compared by meaning, so a float of exactly the value of an id finds its entry.  The
entries of a catalog are read one after the other and only as far as they are needed, so an entry
that shows no name does no harm behind the one that is found.

* `ofNames_ofTexts`: the catalog of a list of names;
* `named?_map_value`, `withId?_map_value`: searching a catalog of lookups;
* `idsAmong_map_value`: the ids of the lookups whose name is wanted.
-/

namespace ContestUploads.Lookup

/-- A catalog of the members of a collection as names, numbered from an integer. -/
def ofNames (names start : Value) : Except Failure (List Value) :=
  match start.integral? with
  | none =>
      .error (.foreign
        (.misuse ("'" ++ start.kindName ++ "' object cannot be interpreted as an integer")))
  | some first => names.members.map fun items => numbered items first

/-- The first of some entries that shows a certain value under a name. -/
def firstWith? (field : String) (wanted : Value) : List Value → Except Failure (Option Value)
  | [] => .ok none
  | entry :: rest => do
      if (← entry.read field).equals wanted then return some entry
      firstWith? field wanted rest

/-- The first entry with a name. -/
def named? (catalog name : Value) : Except Failure (Option Value) := do
  firstWith? "name" name (← catalog.members)

/-- The first entry with an id. -/
def withId? (catalog id : Value) : Except Failure (Option Value) := do
  firstWith? "id" id (← catalog.members)

/-- The ids of the entries whose name is wanted, in order. -/
def idsNamed (wanted : List Value) : List Value → Except Failure (List Value)
  | [] => .ok []
  | entry :: rest => do
      let name ← entry.read "name"
      name.demandFixed
      if Value.contains wanted name then
        let id ← entry.read "id"
        return id :: (← idsNamed wanted rest)
      idsNamed wanted rest

/-- The ids of all entries of a catalog whose name is in a collection of names, which must be fixed
values. -/
def idsAmong (catalog names : Value) : Except Failure (List Value) := do
  let wanted ← names.members
  match wanted.findSome? Value.changeable? with
  | some part => .error (.foreign (.unhashable part))
  | none => idsNamed wanted (← catalog.members)

/-- The first entry with a name; `kind` says what is missing when there is none. -/
def require (catalog name kind : Value) : Except Failure Value := do
  match ← named? catalog name with
  | some entry => return entry
  | none => .error (ServiceProblem.noSuchStatus name kind).failure

/-- The first entry with a name, which a store knows. -/
def known (catalog : List Value) (name : Value) : Except Failure Value := do
  match ← firstWith? "name" name catalog with
  | some entry => return entry
  | none => .error (.foreign .exhausted)

/-- The kind of entry that `require` looks for unless told otherwise. -/
def submissionStatusKind : Value := .text "submission status"

theorem ofNames_ofTexts (names : List String) (start : Int) :
    ofNames (.ofTexts names) (.int start) = .ok (numbered (names.map .text) start) := rfl

theorem firstWith?_map_value {field : String} {part : Lookup → Value}
    (shown : ∀ l : Lookup, l.value.read field = .ok (part l)) (catalog : List Lookup)
    (wanted : Value) :
    firstWith? field wanted (catalog.map value) =
      .ok ((catalog.find? fun l => (part l).equals wanted).map value) := by
  induction catalog with
  | nil => rfl
  | cons l rest ih =>
      rw [List.map_cons, firstWith?, shown, ih, List.find?_cons]
      cases h : (part l).equals wanted <;> simp [bind, Except.bind, pure, Except.pure, h]

theorem named?_map_value (catalog : List Lookup) (name : Value) :
    named? (.list (catalog.map value)) name =
      .ok ((catalog.find? fun l => l.name.equals name).map value) :=
  firstWith?_map_value read_name catalog name

theorem withId?_map_value (catalog : List Lookup) (id : Value) :
    withId? (.list (catalog.map value)) id =
      .ok ((catalog.find? fun l => l.id.equals id).map value) :=
  firstWith?_map_value read_id catalog id

theorem idsNamed_map_value {catalog : List Lookup} (wanted : List Value)
    (fixed : ∀ l ∈ catalog, l.name.demandFixed = .ok ()) :
    idsNamed wanted (catalog.map value) =
      .ok ((catalog.filter fun l => Value.contains wanted l.name).map Lookup.id) := by
  induction catalog with
  | nil => rfl
  | cons l rest ih =>
      rw [List.forall_mem_cons] at fixed
      rw [List.map_cons, idsNamed, read_name, ih fixed.2, List.filter_cons]
      cases h : Value.contains wanted l.name <;>
        simp [bind, Except.bind, pure, Except.pure, fixed.1, h]

theorem idsAmong_map_value {catalog : List Lookup} (names : List String)
    (fixed : ∀ l ∈ catalog, l.name.demandFixed = .ok ()) :
    idsAmong (.list (catalog.map value)) (.ofTexts names) =
      .ok ((catalog.filter fun l => Value.contains (names.map .text) l.name).map Lookup.id) := by
  have unchanging : (names.map Value.text).findSome? Value.changeable? = none := by
    simp [Value.changeable?]
  rw [idsAmong, Value.members_ofTexts]
  simp only [bind, Except.bind, unchanging, Value.members_list]
  exact idsNamed_map_value _ fixed

end ContestUploads.Lookup
