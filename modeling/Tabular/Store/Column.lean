import Tabular.Text.Unicode

/-!
# Columns

Tables and columns are found by name without regard to case, and shown as they were declared. A column has
a name and a declared type. The type is kept as it is written and constrains nothing.
-/

namespace Tabular

namespace Name

/-- The form of a name that lookups compare. -/
def key (name : Text) : Text := name.lowercase

/-- The names find the same things. -/
def agrees (a b : Text) : Bool := key a == key b

end Name

/-- A declared column. -/
structure Column where
  name : Text
  declaredType : Text
deriving DecidableEq

namespace Column

/-- The type of a column that is declared without one. -/
def defaultType : Text := "TEXT".toList

/-- The column that a name and the words of its type declare. -/
def ofWords (name : Text) : (type : List Text) → Column
  | [] => ⟨name, defaultType⟩
  | ws => ⟨name, [' '].intercalate ws⟩

/-- The column that a text declares: its name, then the words of its type. A blank text declares
none. -/
def ofText? (t : Text) : Option Column :=
  match t.words with
  | [] => none
  | name :: type => some (ofWords name type)

/-- The column is found under the name. -/
def isNamed (c : Column) (name : Text) : Bool := Name.agrees c.name name

/-- The declarations between the commas of a column list. Every comma separates, also one inside
parentheses. -/
def declarations (body : Text) : List Text := (body.splitOn ',').map Text.trim

/-- The place of the first column found under the name. -/
def index? (columns : List Column) (name : Text) : Option Nat := columns.findIdx? (·.isNamed name)

end Column

end Tabular
