import ContestUploads.Filter.Basic
import ContestUploads.Sql.Parameter

/-!
# Filters as clauses over a table

A filter on attributes becomes a clause on the columns of a table.  Nested conjunctions are one
conjunction and nested disjunctions one disjunction, and a composite clause with one part is that
part.  Comparing with null asks whether a cell is null.

A table has attributes that are no columns.  Comparing with one of these is settled at once,
without a look at any row, and a composite clause leaves out what cannot change it: a conjunction
what is true, a disjunction what is false.

A clause is true, false or unknown of a row: comparing a null cell gives unknown, and unknown
spreads through conjunctions and disjunctions unless the other parts settle them.  Searching
takes the rows of which the clause is true.
-/

namespace ContestUploads.Sql

/-- A condition on the rows of a table. -/
inductive Clause
  | equal (column : Column) (value : Value)
  | isNull (column : Column)
  /-- A comparison that is settled. -/
  | settled (truth : Bool)
  /-- A composite clause that its parts settle. -/
  | constant (truth : Bool)
  | all (parts : List Clause)
  | any (parts : List Clause)
  deriving Repr, Inhabited

namespace Clause

/-- Whether a clause is a comparison that is settled as `truth`. -/
def isSettled (truth : Bool) : Clause → Bool
  | .settled t => t == truth
  | _ => false

/-- A composite clause of the parts that can change it.  A part that is settled as `neutral`
cannot, unless there is no other, and one that is settled otherwise decides alone. -/
def composite (neutral : Bool) (join : List Clause → Clause) (parts : List Clause) : Clause :=
  if parts.any (isSettled !neutral) then .constant !neutral
  else
    match parts.filter (!·.isSettled neutral) with
    | [] => .constant neutral
    | [c] => c
    | cs => join cs

/-- A conjunction of parts that are already clauses of their own. -/
def conjunction : List Clause → Clause :=
  composite true fun parts =>
    .all <| parts.flatMap fun c =>
      match c with
      | .all inner => inner
      | c => [c]

/-- A disjunction of parts that are already clauses of their own. -/
def disjunction : List Clause → Clause :=
  composite false fun parts =>
    .any <| parts.flatMap fun c =>
      match c with
      | .any inner => inner
      | c => [c]

/-- Whether a clause needs parentheses inside a conjunction. -/
def isDisjunction : Clause → Bool
  | .any _ => true
  | _ => false

/-- The text of a truth value. -/
def truthText (truth : Bool) : String :=
  (if truth then "1" else "0") ++ " = 1"

mutual

/-- The text of a clause over a table.  A value without a literal is left out. -/
def render (table : String) : Clause → String
  | .equal column value =>
      table ++ "." ++ column.name ++ " = " ++ (column.kind.literal? value).getD ""
  | .isNull column => table ++ "." ++ column.name ++ " IS NULL"
  | .settled truth => truthText truth
  | .constant truth => truthText truth
  | .all parts => " AND ".intercalate (renderFactors table parts)
  | .any parts => " OR ".intercalate (renderParts table parts)

/-- The texts of the parts of a conjunction. -/
def renderFactors (table : String) : List Clause → List String
  | [] => []
  | c :: cs =>
      let text := render table c
      (if c.isDisjunction then "(" ++ text ++ ")" else text) :: renderFactors table cs

/-- The texts of the parts of a disjunction. -/
def renderParts (table : String) : List Clause → List String
  | [] => []
  | c :: cs => render table c :: renderParts table cs

end

mutual

/-- The values that cells are compared with, in order, each with the kind of its column. -/
def compared : Clause → List (ColumnKind × Value)
  | .equal column value => [(column.kind, value)]
  | .isNull _ => []
  | .settled _ => []
  | .constant _ => []
  | .all parts => comparedIn parts
  | .any parts => comparedIn parts

/-- The values that the cells are compared with in a list of clauses, in order. -/
def comparedIn : List Clause → List (ColumnKind × Value)
  | [] => []
  | c :: cs => compared c ++ comparedIn cs

end

/-- The text of a clause, in which every value must have a literal.  A comparison that is settled
is no clause by itself. -/
def text (table : Table) (c : Clause) : Except Failure String :=
  match c with
  | .settled _ => .error (.foreign (.noAttribute "bool" "compile"))
  | c =>
      if c.compared.all fun v => (v.1.literal? v.2).isSome then .ok (c.render table.name)
      else .error (.database .compile)

/-- Whether a cell equals a value, unknown if one of them is null or the value is no parameter. -/
def compare (cell : Cell) (kind : ColumnKind) (value : Value) : Option Bool :=
  match kind.parameter value with
  | .ok p => cellEquals cell p
  | .error _ => none

/-- Conjunction of truth values. -/
def both : Option Bool → Option Bool → Option Bool
  | some false, _ => some false
  | _, some false => some false
  | some true, some true => some true
  | _, _ => none

/-- Disjunction of truth values. -/
def either : Option Bool → Option Bool → Option Bool
  | some true, _ => some true
  | _, some true => some true
  | some false, some false => some false
  | _, _ => none

mutual

/-- The truth value of a clause on a row, given by the cells in its columns. -/
def eval (cell : String → Cell) : Clause → Option Bool
  | .equal column value => compare (cell column.name) column.kind value
  | .isNull column => some (cell column.name == .null)
  | .settled truth => some truth
  | .constant truth => some truth
  | .all parts => evalAll cell parts
  | .any parts => evalAny cell parts

/-- The truth value of a conjunction. -/
def evalAll (cell : String → Cell) : List Clause → Option Bool
  | [] => some true
  | c :: cs => both (eval cell c) (evalAll cell cs)

/-- The truth value of a disjunction. -/
def evalAny (cell : String → Cell) : List Clause → Option Bool
  | [] => some false
  | c :: cs => either (eval cell c) (evalAny cell cs)

end

end Clause

/-- A search that cannot be carried out over a table. -/
def unsearchable (table : Table) (summary : String) : Failure :=
  .store (.searchQuery (.text summary) (.dict [("model", .text table.name)]))

/-- The attributes of a table that are texts or other plain values. -/
def plainAttributes (table : Table) : Fields :=
  [("__tablename__", .text table.name), ("__name__", .text table.rowName),
   ("__qualname__", .text table.rowName), ("__module__", .text "review_platform.uploads.models"),
   ("_is_protocol", .bool false)]

/-- The attributes of every table that are neither columns nor plain values. -/
def commonAttributes : List String :=
  ["metadata", "registry", "mro", "_sa_class_manager", "_sa_registry", "__annotations__",
   "__base__", "__bases__", "__call__", "__class_getitem__", "__dict__", "__instancecheck__",
   "__mapper__", "__mro__", "__or__", "__orig_bases__", "__parameters__", "__prepare__", "__ror__",
   "__slots__", "__subclasscheck__", "__subclasses__", "__table__", "__weakref__"] ++
    Value.commonOthers.erase "__doc__"

/-- The attributes of a table that are neither columns nor plain values; no value equals one.
Tables with an index have one more. -/
def otherAttributes (table : Table) : List String :=
  match table with
  | .upload | .submission => "__table_args__" :: commonAttributes
  | _ => commonAttributes

/-- How comparing an attribute of a table with a value is settled, if it is no column. -/
def settled? (table : Table) (field : String) (value : Value) : Option Bool :=
  match (plainAttributes table).lookup field with
  | some v => some (v.equals value)
  | none => if (otherAttributes table).contains field then some false else none

/-- An attribute of a table equals a value; the name of the attribute must be a text. -/
def equalClause (table : Table) (field value : Value) : Except Failure Clause :=
  match field.textual? with
  | none => .error (.foreign (.misnamed field))
  | some name =>
      match table.column? name, settled? table name value, value with
      | some column, _, .null => .ok (.isNull column)
      | some column, _, value => .ok (.equal column value)
      | none, some truth, _ => .ok (.settled truth)
      | none, none, _ =>
          .error (unsearchable table ("Unknown search attribute '" ++ field.display ++ "'"))

mutual

/-- The clause of a filter over a table. -/
def clause (table : Table) : Filter → Except Failure Clause
  | .equal field value => equalClause table field value
  | .all parts => (clauses table parts).map Clause.conjunction
  | .any parts => (clauses table parts).map Clause.disjunction
  | .hasProperty name =>
      .error (unsearchable table ((Filter.hasProperty name).kind ++ " cannot be rendered as SQL"))
  | .propertyIs name value =>
      .error (unsearchable table
        ((Filter.propertyIs name value).kind ++ " cannot be rendered as SQL"))

/-- The clauses of a list of filters; the first that has none is the answer. -/
def clauses (table : Table) : List Filter → Except Failure (List Clause)
  | [] => .ok []
  | f :: fs => do
      let c ← clause table f
      let cs ← clauses table fs
      return c :: cs

end

end ContestUploads.Sql
