import ContestUploads.Value.Basic

/-!
# Named values

Fields keep the order in which their names first came.  Setting a field that is there already
keeps its place.

* `Fields.merge`: fields laid over fields;
* `Fields.lookup_set`, `Fields.lookup_without`, `Fields.lookup_merge`: what is found after setting,
  dropping or laying over fields;
* `Fields.without_merge`: fields that are laid over and dropped again.
-/

namespace ContestUploads

namespace Fields

/-- Set one field, keeping its place if it is there already. -/
def set : Fields → String → Value → Fields
  | [], name, v => [(name, v)]
  | (n, w) :: rest, name, v => if n = name then (n, v) :: rest else (n, w) :: set rest name v

/-- Lay fields over others. -/
def merge (base above : Fields) : Fields :=
  above.foldl (fun fields e => fields.set e.1 e.2) base

/-- Drop the fields with the given names. -/
def without (fields : Fields) (names : List String) : Fields :=
  fields.filter fun e => !names.contains e.1

theorem lookup_cons (fields : Fields) (n name : String) (v : Value) :
    List.lookup name ((n, v) :: fields) = if name = n then some v else fields.lookup name := by
  by_cases h : name = n
  · simp [h]
  · simp [List.lookup_cons, beq_false_of_ne h, h]

theorem lookup_set (fields : Fields) (name other : String) (v : Value) :
    (fields.set name v).lookup other =
      if other = name then some v else fields.lookup other := by
  induction fields with
  | nil => rw [set, lookup_cons]
  | cons e rest ih =>
      obtain ⟨n, w⟩ := e
      by_cases hn : n = name
      · subst hn
        simp only [set, if_true, lookup_cons]
        split <;> rfl
      · simp only [set, hn, if_false, lookup_cons, ih]
        split <;> simp_all

theorem without_cons (fields : Fields) (n : String) (w : Value) (names : List String) :
    without ((n, w) :: fields) names =
      if n ∈ names then fields.without names else (n, w) :: fields.without names := by
  by_cases hn : n ∈ names <;> simp [without, hn]

theorem lookup_without (fields : Fields) (names : List String) (name : String) :
    (fields.without names).lookup name =
      if name ∈ names then none else fields.lookup name := by
  induction fields with
  | nil => simp [without]
  | cons e rest ih =>
      obtain ⟨n, w⟩ := e
      rw [without_cons]
      by_cases hn : n ∈ names
      · rw [if_pos hn, ih, lookup_cons]
        by_cases ho : name = n <;> simp_all
      · rw [if_neg hn, lookup_cons, lookup_cons, ih]
        by_cases ho : name = n <;> simp_all

/-- Setting a field among those that are dropped makes no difference to the rest. -/
theorem without_set {name : String} {names : List String} (h : name ∈ names) (fields : Fields)
    (v : Value) : (fields.set name v).without names = fields.without names := by
  induction fields with
  | nil => simp [set, without, h]
  | cons e rest ih =>
      obtain ⟨n, w⟩ := e
      rw [set]
      split
      · rename_i hn
        rw [without_cons, without_cons, if_pos (hn ▸ h), if_pos (hn ▸ h)]
      · rw [without_cons, without_cons, ih]

/-- Nor does laying over fields that are all dropped. -/
theorem without_merge {names : List String} {above : Fields} (h : ∀ e ∈ above, e.1 ∈ names)
    (base : Fields) : (base.merge above).without names = base.without names := by
  induction above generalizing base with
  | nil => rfl
  | cons e rest ih =>
      have hrest := ih (fun e' he' => h e' (List.mem_cons_of_mem e he')) (base.set e.1 e.2)
      exact hrest.trans (without_set (h e List.mem_cons_self) base e.2)

/-- Fields that are laid over others are found first. -/
theorem lookup_merge (base above : Fields) (name : String) :
    (base.merge above).lookup name =
      ((merge [] above).lookup name).or (base.lookup name) := by
  -- Both sides set the same fields in turn, so what lies beneath stays beneath.
  have hover (under upper : Fields)
      (h : under.lookup name = (upper.lookup name).or (base.lookup name)) :
      (under.merge above).lookup name =
        ((upper.merge above).lookup name).or (base.lookup name) := by
    induction above generalizing under upper with
    | nil => exact h
    | cons e rest ih =>
        refine ih (under.set e.1 e.2) (upper.set e.1 e.2) ?_
        rw [lookup_set, lookup_set, h]
        split <;> rfl
  exact hover base [] rfl

end Fields

end ContestUploads
