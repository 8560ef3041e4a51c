import Tabular.Error
import Tabular.ResultSet
import Tabular.Store.Catalog
import Tabular.Store.Column
import Tabular.Value

/-!
# Queries

A query of one table asks for columns, and may have a clause that restricts the rows. A condition
compares one column with a literal. A clause whose text is not such a comparison, or whose column a table
lacks, restricts nothing.

The columns of a query are found first, then the rows that pass are marked, and the marked ones are
fetched and cut down to those columns, in the order of their insertion.
-/

namespace Tabular

/-- A comparison of a stored value with a literal. -/
inductive Comparison where
  | ge
  | le
  | ne
  | eq
  | gt
  | lt
deriving DecidableEq

namespace Comparison

/-- The order of the stored value against the literal satisfies the comparison. -/
def accepts : Comparison → Ordering → Bool
  | eq, o => o == .eq
  | ne, o => o != .eq
  | gt, o => o == .gt
  | lt, o => o == .lt
  | ge, o => o != .lt
  | le, o => o != .gt

/-- The written operators. One that another starts with comes after it. -/
def tokens : List (Text × Comparison) :=
  [(">=".toList, ge), ("<=".toList, le), ("!=".toList, ne), ("<>".toList, ne), ("=".toList, eq),
    (">".toList, gt), ("<".toList, lt)]

/-- The operator that a text starts with, and the text after it. -/
def leading? (t : Text) : Option (Comparison × Text) :=
  tokens.findSome? fun (token, op) => (Text.after? token t).map (op, ·)

end Comparison

/-- A comparison of a column with a value. -/
structure Condition where
  column : Text
  comparison : Comparison
  value : Value
deriving DecidableEq

namespace Condition

/-- The condition that the text spells: a name, an operator and a literal that is not blank. -/
def ofText? (text : Text) : Option Condition :=
  let t := text.trim
  let column := t.takeWhile Text.isWordChar
  if column.isEmpty then none
  else
    match Comparison.leading? (Text.trimStart (t.dropWhile Text.isWordChar)) with
    | none => none
    | some (comparison, rest) =>
      if rest.trim.isEmpty then none
      else some ⟨column, comparison, Value.ofLiteral rest.trim⟩

/-- A stored value satisfies the condition. -/
def holds (c : Condition) (stored : Value) : Bool := c.comparison.accepts (stored.order c.value)

end Condition

/-- The clause that restricts the rows of a query: its text, and its condition if it spells one. -/
structure Clause where
  text : Text
  condition : Option Condition
deriving DecidableEq

/-- The clause that a text makes. -/
def Clause.ofText (text : Text) : Clause := ⟨text.trim, Condition.ofText? text⟩

/-- A restriction of the rows of one table. -/
inductive Filter where
  | all
  /-- The value of one column satisfies a condition. -/
  | column (place : Nat) (condition : Condition)
deriving DecidableEq

namespace Filter

/-- The row passes. A row too short for the place does not. -/
def passes : Filter → Row → Bool
  | all, _ => true
  | column place condition, row => row[place]?.any condition.holds

/-- The filter restricts nothing. -/
def isAll : Filter → Bool
  | all => true
  | column .. => false

end Filter

/-- The restriction that a clause means for given columns. -/
def Clause.bind (clause : Clause) (columns : List Column) : Filter :=
  match clause.condition with
  | none => .all
  | some condition =>
    match Column.index? columns condition.column with
    | none => .all
    | some place => .column place condition

/-- The columns that a query asks for. -/
inductive Selection where
  | all
  | named (names : List Text)
deriving DecidableEq

/-- A query of one table. -/
structure Query where
  selection : Selection
  table : Text
  clause : Option Clause
deriving DecidableEq

/-- The place of the column found under a name, or the error that the table lacks it. -/
def Table.place (t : Table) (name : Text) : Except Error Nat :=
  match Column.index? t.columns name with
  | some place => .ok place
  | none => .error (.unknownColumn t.name name)

/-- The places of the selected columns in a table, or the first name that the table lacks. -/
def Selection.places (t : Table) : Selection → Except Error (List Nat)
  | all => .ok (List.range t.width)
  | named names => names.mapM t.place

/-- The filter that the clause of a query means for a table, if it restricts anything. -/
def Query.filter (q : Query) (t : Table) : Option Filter :=
  (q.clause.map (·.bind t.columns)).filter (!·.isAll)

/-- A mark for each row of a table, set when the row passes. -/
def Query.marks (q : Query) (t : Table) : List Bool :=
  t.rows.map fun row => (q.filter t).all (·.passes row)

/-- The places of the marks that are set, when the first mark stands at the given place. -/
def setPlaces : (first : Nat) → List Bool → List Nat
  | _, [] => []
  | n, true :: marks => n :: setPlaces (n + 1) marks
  | n, false :: marks => setPlaces (n + 1) marks

/-- The places of the rows that a query selects. -/
def Query.selected (q : Query) (t : Table) : List Nat := setPlaces 0 (q.marks t)

/-- The entries of a list at some places. -/
def project {α : Type} (default : α) (places : List Nat) (entries : List α) : List α :=
  places.map fun place => entries.getD place default

/-- The answer of a table to a query. -/
def Query.answer (q : Query) (t : Table) : Except Error ResultSet :=
  match q.selection.places t with
  | .error e => .error e
  | .ok places => .ok
    { columns := project [] places (t.columns.map Column.name)
      rows := ((q.selected t).filterMap t.row?).map (project .null places) }

end Tabular
