import ContestUploads.Value.Basic

/-!
# When values count as equal

Searches compare by meaning rather than by kind: booleans are the numbers zero and one, an
integer equals a float of exactly its value, and a category equals its text.  Lists are compared
item by item, dictionaries entry by entry, whatever the order of their entries, and records of one
kind field by field, without what was added to them later.

A NaN equals nothing.  Inside a list, a dictionary or a record, however, one and the same NaN counts
as equal to itself; its label tells.  `truthy` tells which values count as present, and `key` gives
equal values one common form under which records can be kept.

* `equals_int_iff`: what equals an integer is that integer, a float of its value, or a boolean
  that stands for it;
* `key_eq_int_iff`: these are also the values with that integer as their key;
* `contains_ofTexts`: among texts, a text is found by what it is.
-/

namespace ContestUploads.Value

/-- The integer that a boolean or an integer stands for. -/
def integral? : Value → Option Int
  | .bool b => some (if b then 1 else 0)
  | .int n => some n
  | _ => none

/-- The integer that a value equals, if there is one. -/
def whole? : Value → Option Int
  | .float x => x.toInt?
  | v => v.integral?

/-- The text that a text or a category stands for. -/
def textual? : Value → Option String
  | .text s => some s
  | .category c => some c.text
  | _ => none

/-- Equality of values that hold no other values. -/
def equalsAtom (a b : Value) : Bool :=
  match a, b with
  | .null, .null => true
  | .float x, .float y => x.equals y
  | .phaseStatus x, .phaseStatus y => x == y
  | .moment x, .moment y => x.equals y
  | .float x, b => b.integral?.any x.equalsInt
  | a, .float y => a.integral?.any y.equalsInt
  | a, b =>
      match a.integral?, b.integral?, a.textual?, b.textual? with
      | some m, some n, _, _ => m == n
      | _, _, some s, some t => s == t
      | _, _, _, _ => false

/-- Whether two values are one and the same NaN. -/
def sameNan : Value → Value → Bool
  | .float (.nan m), .float (.nan n) => m == n
  | _, _ => false

mutual

/-- Equality by meaning. -/
def equals : Value → Value → Bool
  | .list xs, .list ys => equalsList xs ys
  | .dict xs, .dict ys => xs.length == ys.length && equalsEntries (fun _ => true) xs ys
  | .record k xs, .record l ys => k == l && equalsEntries k.fieldNames.contains xs ys
  | a, b => equalsAtom a b

/-- Equality of lists, item by item. -/
def equalsList : List Value → List Value → Bool
  | [], [] => true
  | x :: xs, y :: ys => (sameNan x y || equals x y) && equalsList xs ys
  | _, _ => false

/-- Whether every entry of the first list whose name counts has an equal one in the second. -/
def equalsEntries (counts : String → Bool) :
    List (String × Value) → List (String × Value) → Bool
  | [], _ => true
  | (name, x) :: xs, ys =>
      (!counts name ||
        match ys.lookup name with
        | some y => sameNan x y || equals x y
        | none => false) && equalsEntries counts xs ys

end

/-- Whether a list has an item that equals a value, or is the same NaN. -/
def contains (items : List Value) (v : Value) : Bool :=
  items.any fun item => sameNan item v || item.equals v

/-- Whether a value counts as present: not null, false, zero, or empty. -/
def truthy : Value → Bool
  | .null => false
  | .bool b => b
  | .int n => n != 0
  | .float x => !x.isZero
  | .text s => s != ""
  | .list items => !items.isEmpty
  | .dict entries => !entries.isEmpty
  | _ => true

mutual

/-- The form that equal fixed values have in common: the integer for whole numbers, the text for
categories, the instant for moments with an offset, and for a lookup the forms of its fields. -/
def key : Value → Value
  | .bool b => .int (if b then 1 else 0)
  | .float x =>
      match x.toInt? with
      | some n => .int n
      | none => .float x
  | .category c => .text c.text
  | .moment m =>
      match m.offset with
      | none => .moment m
      | some _ => .list [.int m.instant, .int m.microsecond]
  | .record k fields => .record k (keyEntries fields)
  | v => v

/-- `key` for the fields of a record. -/
def keyEntries : List (String × Value) → List (String × Value)
  | [] => []
  | (name, v) :: rest => (name, key v) :: keyEntries rest

end

@[simp] theorem key_int (n : Int) : key (.int n) = .int n := rfl

@[simp] theorem key_text (s : String) : key (.text s) = .text s := rfl

/-- An integer equals, by meaning, only itself among the integers. -/
@[simp] theorem equals_int_int (m n : Int) : equals (.int m) (.int n) = (m == n) := rfl

@[simp] theorem equals_text_text (s t : String) : equals (.text s) (.text t) = (s == t) := rfl

@[simp] theorem equals_null_int (n : Int) : equals .null (.int n) = false := rfl

@[simp] theorem equals_int_null (n : Int) : equals (.int n) .null = false := rfl

@[simp] theorem equals_text_null (s : String) : equals (.text s) .null = false := rfl

@[simp] theorem equals_null_text (s : String) : equals .null (.text s) = false := rfl

@[simp] theorem equals_null_null : equals .null .null = true := rfl

@[simp] theorem sameNan_int (v : Value) (n : Int) : sameNan v (.int n) = false := by
  cases v with
  | float x => cases x <;> rfl
  | _ => rfl

@[simp] theorem sameNan_text (v : Value) (s : String) : sameNan v (.text s) = false := by
  cases v with
  | float x => cases x <;> rfl
  | _ => rfl

theorem equals_int_iff {v : Value} {n : Int} : v.equals (.int n) = true ↔ v.whole? = some n := by
  cases v <;>
    simp [equals, equalsAtom, integral?, textual?, whole?, Binary64.toInt?_eq_some_iff]

theorem key_eq_int_iff {v : Value} {n : Int} : v.key = .int n ↔ v.equals (.int n) = true := by
  rw [equals_int_iff]
  cases v with
  | float x => cases h : x.toInt? <;> simp [key, whole?, h]
  | moment m => cases h : m.offset <;> simp [key, whole?, integral?, h]
  | _ => simp [key, whole?, integral?]

theorem contains_ofTexts (names : List String) (s : String) :
    contains (names.map .text) (.text s) = names.contains s := by
  induction names with
  | nil => rfl
  | cons name rest ih =>
      simp only [contains, List.map_cons, List.any_cons, equals_text_text, sameNan_text,
        Bool.false_or] at ih ⊢
      rw [ih, List.contains_cons, Bool.beq_comm]

end ContestUploads.Value
