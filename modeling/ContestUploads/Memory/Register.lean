import ContestUploads.Problem.Basic

/-!
# Registers

A register holds one record under each id and remembers the order in which the ids first came.
An id may be any fixed value, and ids that equal each other are one id: they have the same key.
Storing under an id that is there already keeps its place and its first form.

* `get?_put_self`, `get?_put_of_ne`: what a register holds after storing;
* `keys_put`: the keys after storing, in order;
* `firstFree_notMem`: the id that `firstFree` finds is not in use.
-/

namespace ContestUploads

/-- Records by id, in the order in which their ids first came. -/
structure Register (α : Type) where
  entries : List (Value × α) := []
  deriving DecidableEq, Repr, Inhabited

namespace Register

variable {α : Type}

/-- Store a record in a list of entries. -/
def putEntry (id : Value) (record : α) : List (Value × α) → List (Value × α)
  | [] => [(id, record)]
  | (known, old) :: rest =>
      if known.key = id.key then (known, record) :: rest
      else (known, old) :: putEntry id record rest

/-- Store a record under an id. -/
def put (r : Register α) (id : Value) (record : α) : Register α :=
  ⟨putEntry id record r.entries⟩

/-- The record under an id. -/
def get? (r : Register α) (id : Value) : Option α :=
  (r.entries.find? fun e => e.1.key == id.key).map Prod.snd

/-- The keys of the ids in use. -/
def keys (r : Register α) : List Value :=
  r.entries.map fun e => e.1.key

/-- Whether an id is in use. -/
def uses (r : Register α) (id : Value) : Bool :=
  r.keys.contains id.key

/-- The integers in use as ids. -/
def numbers (r : Register α) : List Int :=
  r.keys.filterMap Value.whole?

/-- The records, in order. -/
def records (r : Register α) : List α :=
  r.entries.map Prod.snd

/-- The record under an id that may be no id at all. -/
def find (r : Register α) (id : Value) : Except Failure (Option α) := do
  id.demandFixed
  return r.get? id

/-- Store a record under an id that may be no id at all. -/
def store (r : Register α) (id : Value) (record : α) : Except Failure (Register α) := do
  id.demandFixed
  return r.put id record

/-- The first id from `start` on that is not in use.  One of the first `ids.length + 1`
candidates is free. -/
def firstFree (ids : List Int) (start : Int) : Int :=
  let candidates := (List.range (ids.length + 1)).map fun i => start + Int.ofNat i
  (candidates.find? fun id => !ids.contains id).getD start

theorem get?_put_self (r : Register α) (id : Value) (record : α) :
    (r.put id record).get? id = some record := by
  obtain ⟨entries⟩ := r
  simp only [put, get?]
  induction entries with
  | nil => simp [putEntry]
  | cons e rest ih =>
      by_cases h : e.1.key = id.key <;> simp [putEntry, h, ih]

theorem get?_put_of_ne (r : Register α) {id other : Value} (record : α)
    (h : other.key ≠ id.key) : (r.put id record).get? other = r.get? other := by
  obtain ⟨entries⟩ := r
  simp only [put, get?]
  induction entries with
  | nil => simp [putEntry, Ne.symm h]
  | cons e rest ih =>
      by_cases hk : e.1.key = id.key
      · simp [putEntry, hk, Ne.symm h]
      · by_cases ho : e.1.key = other.key
        · simp [putEntry, ho, h]
        · simp [putEntry, hk, ho, ih]

theorem keys_putEntry (id : Value) (record : α) (entries : List (Value × α)) :
    (putEntry id record entries).map (fun e => e.1.key) =
      if id.key ∈ entries.map (fun e => e.1.key) then entries.map fun e => e.1.key
      else entries.map (fun e => e.1.key) ++ [id.key] := by
  induction entries with
  | nil => simp [putEntry]
  | cons e rest ih =>
      by_cases h : e.1.key = id.key
      · simp [putEntry, h]
      · rw [putEntry, if_neg h, List.map_cons, ih, List.map_cons]
        by_cases known : id.key ∈ rest.map (fun e => e.1.key) <;> simp [known, Ne.symm h]

theorem keys_put (r : Register α) (id : Value) (record : α) :
    (r.put id record).keys = if id.key ∈ r.keys then r.keys else r.keys ++ [id.key] :=
  keys_putEntry id record r.entries

/-- Distinct members of a list are no more than the list has places. -/
theorem length_le_of_nodup_of_subset {xs ys : List Int} (distinct : xs.Nodup)
    (within : ∀ x ∈ xs, x ∈ ys) : xs.length ≤ ys.length := by
  induction xs generalizing ys with
  | nil => simp
  | cons x rest ih =>
      rw [List.nodup_cons] at distinct
      have here : x ∈ ys := within x List.mem_cons_self
      have others : ∀ y ∈ rest, y ∈ ys.erase x := by
        intro y hy
        have ne : y ≠ x := fun same => distinct.1 (same ▸ hy)
        exact (List.mem_erase_of_ne ne).2 (within y (List.mem_cons_of_mem x hy))
      have bound := ih distinct.2 others
      rw [List.length_erase_of_mem here] at bound
      have positive : 0 < ys.length := List.length_pos_of_mem here
      simp only [List.length_cons]
      omega

theorem firstFree_notMem (ids : List Int) (start : Int) : firstFree ids start ∉ ids := by
  unfold firstFree
  generalize hc : (List.range (ids.length + 1)).map (fun i => start + Int.ofNat i) = candidates
  show (candidates.find? fun id => !ids.contains id).getD start ∉ ids
  cases found : candidates.find? fun id => !ids.contains id with
  | some id => simpa using List.find?_some found
  | none =>
      rw [List.find?_eq_none] at found
      have within : ∀ x ∈ candidates, x ∈ ids := by
        intro x hx
        simpa using found x hx
      have distinct : candidates.Nodup := by
        rw [← hc, List.nodup_iff_pairwise_ne, List.pairwise_map]
        refine (List.nodup_iff_pairwise_ne.1 List.nodup_range).imp fun {i j} ne same => ne ?_
        exact Int.ofNat.inj (Int.add_left_cancel same)
      have bound := length_le_of_nodup_of_subset distinct within
      rw [← hc, List.length_map, List.length_range] at bound
      omega

end Register

end ContestUploads
