import Tabular.Value

/-!
# Result sets

The answer to a statement. Only queries have columns; every other statement answers with the empty
result set. A result set is written in one of two forms.

* Comma-separated text has a record per line, the header first. A field is quoted when it holds a comma, a
  quote or a line break, and quotes inside it are doubled. A missing value is an empty field.
* A text grid has lines with aligned columns: the header, a separator, the rows, and a count of the rows.
  Each column is as wide as its widest cell, counted in characters. Blanks at the end of a line are dropped.
  Cells are filled up to a limited width only (`Grid.widest`); a grid with a wider column is not printed.
-/

namespace Tabular

/-- Named columns and the rows under them. -/
structure ResultSet where
  columns : List Text := []
  rows : List Row := []
deriving DecidableEq

namespace ResultSet

/-- The result set of a statement that is no query. -/
def empty : ResultSet := {}

/-- There are neither columns nor rows. -/
def isEmpty (r : ResultSet) : Bool := r.columns.isEmpty && r.rows.isEmpty

end ResultSet

namespace Csv

/-- The character cannot stand in a field that is not quoted. -/
def isSpecial (c : Char) : Bool := c == ',' || c == '"' || c == '\n' || c == '\r'

/-- The text with every quote doubled. -/
def doubleQuotes (t : Text) : Text := t.flatMap fun c => if c = '"' then ['"', '"'] else [c]

/-- A field as it is written. -/
def field (t : Text) : Text :=
  if t.any isSpecial then '"' :: doubleQuotes t ++ ['"'] else t

/-- A record as it is written, with the end of its line. -/
def record (fields : List Text) : Text := [','].intercalate (fields.map field) ++ ['\n']

/-- The field of a value. -/
def ofValue (v : Value) : Text := if v.isNull then [] else v.toText

end Csv

/-- The result set as comma-separated text. -/
def ResultSet.toCsv (r : ResultSet) : Text :=
  Csv.record r.columns ++ r.rows.flatMap fun row => Csv.record (row.map Csv.ofValue)

namespace Grid

/-- The widths that also hold one more row. Cells beyond the last column do not count. -/
def widen : (widths cells : List Nat) → List Nat
  | w :: ws, n :: ns => max w n :: widen ws ns
  | ws, _ => ws

/-- The width of each column. -/
def widths (header : List Text) (rows : List (List Text)) : List Nat :=
  rows.foldl (fun ws row => widen ws (row.map List.length)) (header.map List.length)

/-- The largest width that a cell can be filled up to. -/
def widest : Nat := 65535

/-- One line of cells, each filled up to the width of its column. -/
def line (widths : List Nat) (cells : List Text) : Text :=
  Text.trimEnd (" | ".toList.intercalate (List.zipWith Text.padTo widths cells)) ++ ['\n']

/-- The line between the header and the rows. -/
def separator (widths : List Nat) : Text :=
  "-+-".toList.intercalate (widths.map (List.replicate · '-')) ++ ['\n']

/-- The count below the rows. -/
def footer (count : Nat) : Text :=
  '(' :: Nat.toDigits 10 count ++ (if count = 1 then " row)" else " rows)").toList

/-- The grid of a header and rows of cells. -/
def render (header : List Text) (rows : List (List Text)) : Text :=
  let ws := widths header rows
  line ws header ++ separator ws ++ rows.flatMap (line ws) ++ footer rows.length

end Grid

namespace ResultSet

/-- The rows as a grid shows them. -/
def cells (r : ResultSet) : List (List Text) := r.rows.map (·.map Value.toText)

/-- The result set as a grid; nothing at all when it has no columns. -/
def toGrid (r : ResultSet) : Text := if r.columns.isEmpty then [] else Grid.render r.columns r.cells

/-- The grid in print, unless some column is wider than its cells can be filled up. The header, which has a
cell in each column, is then refused already, so nothing of the grid is printed. -/
def toGrid? (r : ResultSet) : Option Text :=
  if (Grid.widths r.columns r.cells).all (· ≤ Grid.widest) then some r.toGrid else none

end ResultSet

end Tabular
