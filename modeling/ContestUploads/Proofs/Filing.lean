import ContestUploads.Memory.Register
import Mathlib.Data.List.Nodup

/-!
# Records filed under their own numbers

The stores in memory keep every record under an integer that the record itself carries.  A register
of that kind is the list of its records and no more: `filed` builds it, and the lemmas below say
what asking it and storing into it amount to on the list.

* `get?_filed`: asking for a number is a search of the list;
* `put_filed_of_notMem`: storing under a new number appends;
* `put_filed_of_mem`: storing under a number in use replaces, in place.
-/

namespace ContestUploads

namespace Register

variable {α β : Type} (number : α → Int) (value : α → β)

/-- The register of some records, each under its own number. -/
def filed (records : List α) : Register β :=
  ⟨records.map fun x => (.int (number x), value x)⟩

@[simp] theorem records_filed (xs : List α) : (filed number value xs).records = xs.map value := by
  simp [filed, records, Function.comp_def]

@[simp] theorem keys_filed (xs : List α) :
    (filed number value xs).keys = xs.map fun x => .int (number x) := by
  simp [filed, keys, Function.comp_def]

@[simp] theorem numbers_filed (xs : List α) :
    (filed number value xs).numbers = xs.map number := by
  simp [numbers, List.filterMap_map, Function.comp_def, Value.whole?, Value.integral?]

/-- Asking for a number is a search of the list. -/
theorem get?_filed (xs : List α) (n : Int) :
    (filed number value xs).get? (.int n) = (xs.find? fun x => number x == n).map value := by
  simp only [filed, get?]
  induction xs with
  | nil => rfl
  | cons x rest ih =>
      by_cases h : number x = n
      · simp [h]
      · have hkey : (Value.int (number x) == Value.int n) = false := by simpa using h
        simpa [h, hkey, List.find?_cons] using ih

@[simp] theorem find_filed (xs : List α) (n : Int) :
    (filed number value xs).find (.int n) =
      .ok ((xs.find? fun x => number x == n).map value) := by
  simp [find, get?_filed, bind, Except.bind, pure, Except.pure]

@[simp] theorem uses_filed (xs : List α) (n : Int) :
    (filed number value xs).uses (.int n) = decide (n ∈ xs.map number) := by
  rw [uses, keys_filed, Value.key_int, ← Bool.coe_iff_coe]
  simp

/-- Storing under a new number appends. -/
theorem put_filed_of_notMem {xs : List α} {x : α} {n : Int} (hx : number x = n)
    (hnew : n ∉ xs.map number) :
    (filed number value xs).put (.int n) (value x) = filed number value (xs ++ [x]) := by
  subst hx
  simp only [filed, put]
  congr 1
  induction xs with
  | nil => simp [putEntry]
  | cons y rest ih =>
      have hne : number y ≠ number x := fun h => hnew (by simp [h])
      have hrest : number x ∉ rest.map number := fun h => hnew (by simp [h])
      simp [putEntry, hne, ih hrest]

/-- Storing under a number in use replaces the record that has it and keeps its place. -/
theorem put_filed_of_mem {xs : List α} {x : α} {n : Int} (hx : number x = n)
    (hdistinct : (xs.map number).Nodup) (hmem : n ∈ xs.map number) :
    (filed number value xs).put (.int n) (value x) =
      filed number value (xs.map fun y => if number y = n then x else y) := by
  subst hx
  simp only [filed, put]
  congr 1
  induction xs with
  | nil => simp at hmem
  | cons y rest ih =>
      rw [List.map_cons, List.nodup_cons] at hdistinct
      by_cases h : number y = number x
      · -- The numbers are distinct, so nothing behind this record is replaced.
        have hrest : (rest.map fun z => if number z = number x then x else z) = rest := by
          conv_rhs => rw [← List.map_id rest]
          refine List.map_congr_left fun z hz => if_neg fun hzx => hdistinct.1 ?_
          rw [h, ← hzx]
          exact List.mem_map_of_mem hz
        simp [putEntry, h, hrest]
      · have hrest : number x ∈ rest.map number := by
          rw [List.map_cons, List.mem_cons] at hmem
          exact hmem.resolve_left fun e => h e.symm
        simp [putEntry, h, ih hdistinct.2 hrest]

/-- The records after one more was stored: it takes the place of the record that has its number, or
comes last. -/
def filedIn (xs : List α) (x : α) : List α :=
  if number x ∈ xs.map number then xs.map fun y => if number y = number x then x else y
  else xs ++ [x]

/-- Storing a record under its number, in use or not. -/
theorem put_filed {xs : List α} (hdistinct : (xs.map number).Nodup) (x : α) :
    (filed number value xs).put (.int (number x)) (value x) =
      filed number value (filedIn number xs x) := by
  unfold filedIn
  by_cases hmem : number x ∈ xs.map number
  · rw [if_pos hmem]
    exact put_filed_of_mem number value rfl hdistinct hmem
  · rw [if_neg hmem]
    exact put_filed_of_notMem number value rfl hmem

/-- Replacing a record by one with the same number leaves the numbers as they are. -/
theorem map_number_replace (xs : List α) {x : α} {n : Int} (hx : number x = n) :
    (xs.map fun y => if number y = n then x else y).map number = xs.map number := by
  rw [List.map_map]
  refine List.map_congr_left fun y _ => ?_
  by_cases h : number y = n <;> simp [h, hx]

/-- Distinct numbers stay distinct. -/
theorem nodup_filedIn {xs : List α} (hdistinct : (xs.map number).Nodup) (x : α) :
    ((filedIn number xs x).map number).Nodup := by
  unfold filedIn
  by_cases hmem : number x ∈ xs.map number
  · rw [if_pos hmem, map_number_replace number xs rfl]
    exact hdistinct
  · rw [if_neg hmem, List.map_append, List.nodup_append]
    refine ⟨hdistinct, by simp, ?_⟩
    rintro n hn m hm rfl
    exact hmem (List.mem_singleton.1 hm ▸ hn)

/-- The first free number is not before the start. -/
theorem le_firstFree (ids : List Int) (start : Int) : start ≤ firstFree ids start := by
  have hcandidates : ∀ n ∈ (List.range (ids.length + 1)).map fun i => start + Int.ofNat i,
      start ≤ n := by
    intro n hn
    obtain ⟨i, -, rfl⟩ := List.mem_map.1 hn
    have hpos := Int.natCast_nonneg i
    simp only [Int.ofNat_eq_natCast]
    omega
  show start ≤ Option.getD (List.find? _ _) start
  rcases hfound : List.find? (fun id => !ids.contains id)
      ((List.range (ids.length + 1)).map fun i => start + Int.ofNat i) with _ | n
  · exact Int.le_refl start
  · exact hcandidates n (List.mem_of_find?_eq_some hfound)

/-- A start that is ahead of all numbers in use is free. -/
theorem firstFree_of_lt {ids : List Int} {start : Int} (h : ∀ n ∈ ids, n < start) :
    firstFree ids start = start := by
  have hfree : start ∉ ids := fun hmem => Int.lt_irrefl _ (h start hmem)
  simp [firstFree, List.range_succ_eq_map, hfree]

/-- Where every number is used once, a member is found under its number. -/
theorem find?_of_mem {xs : List α} (hdistinct : (xs.map number).Nodup) {x : α} (hx : x ∈ xs) :
    xs.find? (fun y => number y == number x) = some x := by
  obtain ⟨before, rest, rfl⟩ := List.append_of_mem hx
  rw [List.map_append, List.map_cons, List.nodup_append] at hdistinct
  have hbefore : ∀ y ∈ before, ¬(number y == number x) = true := by
    intro y hy hsame
    exact hdistinct.2.2 (number y) (List.mem_map.2 ⟨y, hy, rfl⟩) (number x) (by simp)
      (by simpa using hsame)
  rw [List.find?_append, List.find?_eq_none.2 hbefore]
  simp

end Register

namespace Value

/-- Among integers, an integer is found by what it is. -/
theorem contains_ofInts (ns : List Int) (n : Int) :
    contains (ns.map .int) (.int n) = ns.contains n := by
  induction ns with
  | nil => rfl
  | cons m rest ih =>
      simp only [contains, List.map_cons, List.any_cons, equals_int_int, sameNan_int,
        Bool.false_or] at ih ⊢
      rw [ih, List.contains_cons, Bool.beq_comm]

end Value

end ContestUploads
