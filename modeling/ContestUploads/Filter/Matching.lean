import ContestUploads.Filter.Basic
import ContestUploads.Record.Operation

/-!
# Matching filters against records

A filter looks at the attributes of a record and at its extension properties.  An attribute that the
record lacks reads as null, and so does a missing extension property.  What is no value, such as an
operation, equals no value at all.

A filter cannot be tried on a record if the name of an attribute is no text, or if the properties
are no dictionary.  The parts of a composite filter are tried in order, and only as far as they
are needed, so such a part may do no harm behind others.

* `Filter.holds_all_iff`, `Filter.holds_any_iff`: composite filters are conjunctions and
  disjunctions;
* `Filter.select_eq_filter`: a search keeps what the filter holds of, in order.
-/

namespace ContestUploads

namespace Value

/-- Whether an attribute of a record equals a value; its name must be a text. -/
def attributeEquals (record field value : Value) : Except Failure Bool :=
  match field.textual? with
  | none => .error (.foreign (.misnamed field))
  | some name =>
      match record.look name with
      | .value v => .ok (v.equals value)
      | .other => .ok false
      | .nothing => .ok (Value.null.equals value)

/-- The extension properties of a record, an empty dictionary if it has none. -/
def extensionProperties (record : Value) : Value :=
  (record.part? "extension_properties").getD (.dict [])

end Value

namespace Filter

mutual

/-- Whether a filter holds of a record. -/
def holds (record : Value) : Filter → Except Failure Bool
  | .equal field value => record.attributeEquals field value
  | .all parts => holdAll record parts
  | .any parts => holdAny record parts
  | .hasProperty name => record.extensionProperties.holds name
  | .propertyIs name value => (record.extensionProperties.entry name).map (·.equals value)

/-- Whether all filters of a list hold.  Those behind one that does not are not tried. -/
def holdAll (record : Value) : List Filter → Except Failure Bool
  | [] => .ok true
  | f :: fs => do
      if ← holds record f then holdAll record fs
      else return false

/-- Whether some filter of a list holds.  Those behind one that does are not tried. -/
def holdAny (record : Value) : List Filter → Except Failure Bool
  | [] => .ok false
  | f :: fs => do
      if ← holds record f then return true
      else holdAny record fs

end

/-- Whether what a search is asked with, which may be no filter, holds of a record. -/
def admits (sought record : Value) : Except Failure Bool :=
  match sought with
  | .filter f => f.holds record
  | v => .error (v.lacking "matches")

/-- The records that a filter holds of, in order. -/
def select (sought : Value) : List Value → Except Failure (List Value)
  | [] => .ok []
  | record :: rest => do
      let chosen ← admits sought record
      let others ← select sought rest
      return if chosen then record :: others else others

theorem holds_all_iff {record : Value} {parts : List Filter} :
    holds record (.all parts) = .ok true ↔ ∀ f ∈ parts, holds record f = .ok true := by
  rw [holds]
  induction parts with
  | nil => simp [holdAll]
  | cons f fs ih =>
      rw [holdAll, List.forall_mem_cons, ← ih]
      cases holds record f with
      | error e => simp [bind, Except.bind]
      | ok b => cases b <;> simp [bind, Except.bind, pure, Except.pure]

/-- A disjunction whose parts can all be tried holds if one of them does. -/
theorem holds_any_iff {record : Value} {parts : List Filter}
    (tried : ∀ f ∈ parts, ∃ b, holds record f = .ok b) :
    holds record (.any parts) = .ok true ↔ ∃ f ∈ parts, holds record f = .ok true := by
  rw [holds]
  induction parts with
  | nil => simp [holdAny]
  | cons f fs ih =>
      rw [List.forall_mem_cons] at tried
      obtain ⟨⟨b, hb⟩, others⟩ := tried
      simp only [holdAny, hb, List.mem_cons, exists_eq_or_imp, ← ih others]
      cases b <;> simp [bind, Except.bind, pure, Except.pure]

theorem select_eq_filter {f : Filter} {chosen : Value → Bool} {records : List Value}
    (h : ∀ r ∈ records, f.holds r = .ok (chosen r)) :
    select (.filter f) records = .ok (records.filter chosen) := by
  induction records with
  | nil => rfl
  | cons r rest ih =>
      rw [List.forall_mem_cons] at h
      rw [select, admits, h.1, ih h.2, List.filter_cons]
      simp [bind, Except.bind, pure, Except.pure]

end Filter

end ContestUploads
