import ContestUploads.Proofs.Numerals
import ContestUploads.Proofs.Questions
import ContestUploads.Sql.Clause

/-!
# Searches as clauses over a table

What submissions are searched for becomes a clause, and the clause is true of a row exactly if the
filter of the search holds of the submission that the row stands for (`Sought.exists_clause`).
Comparing with a cell that is null gives unknown, but without negation unknown never becomes true,
so that conjunctions and disjunctions may take it for false.  Nested conjunctions become one, as do
nested disjunctions; neither changes what is true.

What is left is one question, whether a reference equals a number or nothing.  A cell answers it as
the value in it does, unless it is a text that looks like the number; a column of integers keeps no
such text (`Sql.Cell.Kept`).
-/

namespace ContestUploads

open Sql

/-- The cell of a reference, null if there is none. -/
def Sql.Cell.ofOptional (n : Option Int) : Cell :=
  (n.map Cell.integer).getD .null

namespace Sql.Clause

variable (cell : String → Cell)

/-- A clause is true of a row; what is unknown is not. -/
def holds (c : Clause) : Bool :=
  eval cell c == some true

theorem holds_all (parts : List Clause) : holds cell (.all parts) = parts.all (holds cell) := by
  have hboth (x y : Option Bool) :
      (both x y == some true) = (x == some true && y == some true) := by
    rcases x with _ | _ | _ <;> rcases y with _ | _ | _ <;> rfl
  rw [holds, eval]
  induction parts with
  | nil => rfl
  | cons c rest ih => rw [evalAll, hboth, ih, List.all_cons, holds]

theorem holds_any (parts : List Clause) : holds cell (.any parts) = parts.any (holds cell) := by
  have heither (x y : Option Bool) :
      (either x y == some true) = (x == some true || y == some true) := by
    rcases x with _ | _ | _ <;> rcases y with _ | _ | _ <;> rfl
  rw [holds, eval]
  induction parts with
  | nil => rfl
  | cons c rest ih => rw [evalAny, heither, ih, List.any_cons, holds]

/-- A clause looks at its row: it is no comparison that is settled at once. -/
def Open (c : Clause) : Prop :=
  ∀ truth, c.isSettled truth = false

/-- Of clauses that look at their rows, a composite clause leaves none out. -/
theorem composite_of_open {parts : List Clause} (h : ∀ c ∈ parts, c.Open) {neutral : Bool}
    {join : List Clause → Clause} {motive : Clause → Prop}
    (nothing : parts = [] → motive (.constant neutral)) (single : ∀ c, parts = [c] → motive c)
    (several : motive (join parts)) : motive (composite neutral join parts) := by
  have hnone : parts.any (isSettled !neutral) = false := by
    refine List.any_eq_false.2 fun c hc => ?_
    simpa using h c hc (!neutral)
  have hkept : parts.filter (!·.isSettled neutral) = parts := by
    refine List.filter_eq_self.2 fun c hc => ?_
    simpa using h c hc neutral
  rw [composite, hnone, hkept]
  rcases parts with _ | ⟨c, _ | ⟨d, rest⟩⟩
  · exact nothing rfl
  · exact single c rfl
  · exact several

/-- Nested conjunctions are taken apart without a change. -/
theorem all_flatMap (parts : List Clause) :
    (parts.flatMap fun c => match c with
      | .all inner => inner
      | c => [c]).all (holds cell) = parts.all (holds cell) := by
  induction parts with
  | nil => rfl
  | cons c rest ih =>
      rw [List.flatMap_cons, List.all_append, ih, List.all_cons]
      congr 1
      cases c with
      | all inner => exact (holds_all cell inner).symm
      | _ => simp

/-- Nested disjunctions are taken apart without a change. -/
theorem any_flatMap (parts : List Clause) :
    (parts.flatMap fun c => match c with
      | .any inner => inner
      | c => [c]).any (holds cell) = parts.any (holds cell) := by
  induction parts with
  | nil => rfl
  | cons c rest ih =>
      rw [List.flatMap_cons, List.any_append, ih, List.any_cons]
      congr 1
      cases c with
      | any inner => exact (holds_any cell inner).symm
      | _ => simp

theorem holds_conjunction {parts : List Clause} (h : ∀ c ∈ parts, c.Open) :
    holds cell (conjunction parts) = parts.all (holds cell) := by
  apply composite_of_open (motive := fun c => holds cell c = parts.all (holds cell)) h
  · rintro rfl
    rfl
  · rintro c rfl
    simp
  · exact (holds_all cell _).trans (all_flatMap cell parts)

theorem holds_disjunction {parts : List Clause} (h : ∀ c ∈ parts, c.Open) :
    holds cell (disjunction parts) = parts.any (holds cell) := by
  apply composite_of_open (motive := fun c => holds cell c = parts.any (holds cell)) h
  · rintro rfl
    rfl
  · rintro c rfl
    simp
  · exact (holds_any cell _).trans (any_flatMap cell parts)

theorem open_conjunction {parts : List Clause} (h : ∀ c ∈ parts, c.Open) :
    (conjunction parts).Open := by
  apply composite_of_open h
  · exact fun _ _ => rfl
  · rintro c rfl
    exact h c List.mem_cons_self
  · exact fun _ => rfl

theorem open_disjunction {parts : List Clause} (h : ∀ c ∈ parts, c.Open) :
    (disjunction parts).Open := by
  apply composite_of_open h
  · exact fun _ _ => rfl
  · rintro c rfl
    exact h c List.mem_cons_self
  · exact fun _ => rfl

theorem mem_comparedIn {parts : List Clause} {v : ColumnKind × Value} :
    v ∈ comparedIn parts ↔ ∃ c ∈ parts, v ∈ c.compared := by
  induction parts with
  | nil => simp [comparedIn]
  | cons c rest ih => simp [comparedIn, ih]

/-- What cells are compared with in a conjunction is compared with in one of its parts. -/
theorem mem_compared_conjunction {parts : List Clause} (h : ∀ c ∈ parts, c.Open)
    {v : ColumnKind × Value} : v ∈ (conjunction parts).compared → ∃ c ∈ parts, v ∈ c.compared := by
  apply composite_of_open (motive := fun c => v ∈ c.compared → ∃ d ∈ parts, v ∈ d.compared) h
  · rintro - ⟨⟩
  · rintro c rfl hv
    exact ⟨c, List.mem_cons_self, hv⟩
  · intro hv
    obtain ⟨part, hpart, hv⟩ := mem_comparedIn.1 hv
    obtain ⟨e, he, hpart⟩ := List.mem_flatMap.1 hpart
    refine ⟨e, he, ?_⟩
    cases e with
    | all inner => exact mem_comparedIn.2 ⟨part, hpart, hv⟩
    | _ => exact List.mem_singleton.1 hpart ▸ hv

/-- What cells are compared with in a disjunction is compared with in one of its parts. -/
theorem mem_compared_disjunction {parts : List Clause} (h : ∀ c ∈ parts, c.Open)
    {v : ColumnKind × Value} : v ∈ (disjunction parts).compared → ∃ c ∈ parts, v ∈ c.compared := by
  apply composite_of_open (motive := fun c => v ∈ c.compared → ∃ d ∈ parts, v ∈ d.compared) h
  · rintro - ⟨⟩
  · rintro c rfl hv
    exact ⟨c, List.mem_cons_self, hv⟩
  · intro hv
    obtain ⟨part, hpart, hv⟩ := mem_comparedIn.1 hv
    obtain ⟨e, he, hpart⟩ := List.mem_flatMap.1 hpart
    refine ⟨e, he, ?_⟩
    cases e with
    | any inner => exact mem_comparedIn.2 ⟨part, hpart, hv⟩
    | _ => exact List.mem_singleton.1 hpart ▸ hv

end Sql.Clause

/-- A column of integers keeps a cell as it is, once the cell is in it. -/
def Sql.Cell.Kept (c : Cell) : Prop :=
  ColumnKind.integer.affine c = c

theorem Sql.Cell.value_ofOptional (n : Option Int) :
    (ofOptional n).value = (n.map Value.int).getD .null := by
  cases n <;> rfl

theorem Sql.Cell.kept_ofOptional (n : Option Int) : (ofOptional n).Kept := by
  cases n <;> rfl

/-- A column of integers keeps no numeral as a text. -/
theorem Sql.Cell.Kept.ne_numeral {s : String} (h : (Cell.text s).Kept) {n : Int}
    (hn : fits n = true) : s ≠ toString n := by
  rintro rfl
  have hread : (integerText? (toString n)).filter fits = some n := by
    rw [integerText?_toString, Option.filter_some, if_pos hn]
  have hmade : ColumnKind.integer.affine (.text (toString n)) = .integer n := by
    simp only [ColumnKind.affine, hread]
  exact Cell.noConfusion (hmade.symm.trans h)

namespace Sought

/-- Comparing a column of references with a number or with nothing. -/
def reference (column : Column) : Option Int → Clause
  | none => .isNull column
  | some n => .equal column (.int n)

/-- A cell of a column of references equals what the value in it equals. -/
theorem holds_reference {cell : String → Cell} {column : Column} (hkind : column.kind = .integer)
    (hkept : (cell column.name).Kept) {id : Option Int} (hid : ∀ n ∈ id, fits n = true) :
    (reference column id).holds cell =
      (cell column.name).value.equals ((id.map Value.int).getD .null) := by
  rcases id with _ | n
  · rw [Clause.holds, reference, Clause.eval]
    cases cell column.name <;> rfl
  · rw [Clause.holds, reference, Clause.eval, hkind]
    show (cellEquals (cell column.name) (.integer n) == some true) =
      (cell column.name).value.equals (.int n)
    rcases hcell : cell column.name with _ | m | x | s
    · rfl
    · show (some (m == n) == some true) = (m == n)
      cases m == n <;> rfl
    · show (some (x.equalsInt n) == some true) = x.equalsInt n
      cases x.equalsInt n <;> rfl
    · have hne : s ≠ toString n := (hcell ▸ hkept).ne_numeral (hid n rfl)
      show (some (s == toString n) == some true) = false
      rw [beq_eq_false_iff_ne.2 hne]
      rfl

theorem open_reference (column : Column) (id : Option Int) : (reference column id).Open := by
  intro truth
  cases id <;> rfl

theorem compared_reference {column : Column} (hkind : column.kind = .integer) {id : Option Int}
    (hid : ∀ n ∈ id, fits n = true) :
    ∀ v ∈ (reference column id).compared, ∃ n, fits n = true ∧ v = (.integer, .int n) := by
  rcases id with _ | n
  · simp [reference, Clause.compared]
  · intro v hv
    exact ⟨n, hid n rfl, by simpa [reference, Clause.compared, hkind] using hv⟩

/-- Cells of a row that hold what a submission refers to. -/
structure Shows (cell : String → Cell) (s : Submission) : Prop where
  upload : s.uploadId = (cell "upload_id").value
  uploadKept : (cell "upload_id").Kept
  resource : s.resourceId = (cell "resource_id").value
  resourceKept : (cell "resource_id").Kept

/-- A clause that is true of the rows of those submissions that the filter of a search holds of, and
compares cells with integers that fit. -/
structure Renders (x : Sought) (c : Clause) : Prop where
  looks : c.Open
  holds : ∀ {cell : String → Cell} {s : Submission}, Shows cell s →
    Filter.holds s.value x.filter = .ok (c.holds cell)
  compared : ∀ v ∈ c.compared, ∃ n, fits n = true ∧ v = (.integer, .int n)

mutual

/-- **A search over tables.**  A search for numbers that fit has a clause, which is true of the rows
of the submissions that its filter holds of. -/
theorem exists_clause :
    ∀ x : Sought, x.Within (fits · = true) → ∃ c, clause .submission x.filter = .ok c ∧ x.Renders c
  | ofUpload id, hid =>
      ⟨reference ⟨"upload_id", .integer⟩ id, by cases id <;> rfl,
        { looks := open_reference _ id
          holds := fun {cell s} hcell => by
            rw [holds_reference rfl hcell.uploadKept hid, ← hcell.upload]
            rfl
          compared := compared_reference rfl hid }⟩
  | ofResource id, hid =>
      ⟨reference ⟨"resource_id", .integer⟩ id, by cases id <;> rfl,
        { looks := open_reference _ id
          holds := fun {cell s} hcell => by
            rw [holds_reference rfl hcell.resourceKept hid, ← hcell.resource]
            rfl
          compared := compared_reference rfl hid }⟩
  | all parts, hparts => by
      obtain ⟨cs, hcs, hlooks, hall, -, hcompared⟩ := exists_clauses parts hparts
      refine ⟨Clause.conjunction cs, ?_, ⟨Clause.open_conjunction hlooks, fun hcell => ?_,
        fun v hv => ?_⟩⟩
      · rw [filter, clause, hcs]
        rfl
      · rw [Clause.holds_conjunction _ hlooks, filter, Filter.holds, hall hcell]
      · obtain ⟨c, hc, hv⟩ := Clause.mem_compared_conjunction hlooks hv
        exact hcompared c hc v hv
  | any parts, hparts => by
      obtain ⟨cs, hcs, hlooks, -, hany, hcompared⟩ := exists_clauses parts hparts
      refine ⟨Clause.disjunction cs, ?_, ⟨Clause.open_disjunction hlooks, fun hcell => ?_,
        fun v hv => ?_⟩⟩
      · rw [filter, clause, hcs]
        rfl
      · rw [Clause.holds_disjunction _ hlooks, filter, Filter.holds, hany hcell]
      · obtain ⟨c, hc, hv⟩ := Clause.mem_compared_disjunction hlooks hv
        exact hcompared c hc v hv

/-- The parts of a search have clauses, all or some of which are true where the filters of all or
some parts hold. -/
theorem exists_clauses :
    ∀ parts : List Sought, AllWithin (fits · = true) parts →
      ∃ cs, clauses .submission (filters parts) = .ok cs ∧ (∀ c ∈ cs, c.Open) ∧
        (∀ {cell : String → Cell} {s : Submission}, Shows cell s →
          Filter.holdAll s.value (filters parts) = .ok (cs.all (·.holds cell))) ∧
        (∀ {cell : String → Cell} {s : Submission}, Shows cell s →
          Filter.holdAny s.value (filters parts) = .ok (cs.any (·.holds cell))) ∧
        ∀ c ∈ cs, ∀ v ∈ c.compared, ∃ n, fits n = true ∧ v = (.integer, .int n)
  | [], _ => ⟨[], rfl, by simp, fun _ => rfl, fun _ => rfl, by simp⟩
  | x :: rest, hparts => by
      obtain ⟨c, hc, hrenders⟩ := exists_clause x hparts.1
      obtain ⟨cs, hcs, hlooks, hall, hany, hcompared⟩ := exists_clauses rest hparts.2
      refine ⟨c :: cs, ?_, ?_, fun {cell _} hcell => ?_, fun {cell _} hcell => ?_, ?_⟩
      · rw [filters, clauses, hc, hcs]
        rfl
      · exact List.forall_mem_cons.2 ⟨hrenders.looks, hlooks⟩
      · rw [filters, Filter.holdAll, hrenders.holds hcell, List.all_cons]
        cases c.holds cell
        · rfl
        · exact hall hcell
      · rw [filters, Filter.holdAny, hrenders.holds hcell, List.any_cons]
        cases c.holds cell
        · exact hany hcell
        · rfl
      · exact List.forall_mem_cons.2 ⟨hrenders.compared, hcompared⟩

end

end Sought

end ContestUploads
