import Tabular.Error
import Tabular.Store.Column

/-!
# Tables and the catalog

A table has a name, columns and rows in the order of their insertion. Each stored row is as wide as the
table. The catalog holds all tables of a database, each under the key of its name. At most one table is
stored under a key.
-/

namespace Tabular

/-- A stored table. -/
structure Table where
  name : Text
  columns : List Column
  rows : List Row := []
deriving DecidableEq

namespace Table

/-- The number of columns. -/
def width (t : Table) : Nat := t.columns.length

/-- The table with one more row at the end, if the row is as wide as the table. -/
def insert (t : Table) (row : Row) : Except Error Table :=
  if row.length = t.width then .ok { t with rows := t.rows ++ [row] }
  else .error (.columnCount t.name t.width row.length)

/-- The row at a place. -/
def row? (t : Table) (place : Nat) : Option Row := t.rows[place]?

/-- Exactly the rows as wide as the table are inserted, at the end. -/
theorem insert_eq_ok_iff {t t' : Table} {row : Row} :
    t.insert row = .ok t' ↔ row.length = t.width ∧ t' = { t with rows := t.rows ++ [row] } := by
  unfold insert
  split <;> simp_all [eq_comm]

/-- The table after inserting rows in order up to the first that does not fit, and the error of that
one. -/
def insertRows (t : Table) : List Row → Table × Option Error
  | [] => (t, none)
  | row :: rows =>
    match t.insert row with
    | .ok t' => t'.insertRows rows
    | .error e => (t, some e)

end Table

/-- The stored tables with their keys. -/
structure Catalog where
  entries : List (Text × Table) := []

namespace Catalog

/-- The entries with a table under a key, in place of the one before it. -/
def putEntry (key : Text) (t : Table) : List (Text × Table) → List (Text × Table)
  | [] => [(key, t)]
  | e :: es => if e.1 = key then (key, t) :: es else e :: putEntry key t es

/-- The table found under a name. -/
def find? (c : Catalog) (name : Text) : Option Table := c.entries.lookup (Name.key name)

/-- The table found under a name, or the error that there is none. -/
def table (c : Catalog) (name : Text) : Except Error Table :=
  match c.find? name with
  | some t => .ok t
  | none => .error (.unknownTable name)

/-- The catalog with a table under its own name. A table found there before is gone. -/
def put (c : Catalog) (t : Table) : Catalog := ⟨putEntry (Name.key t.name) t c.entries⟩

/-- The catalog without the table found under a name. -/
def erase (c : Catalog) (name : Text) : Catalog :=
  ⟨c.entries.filter fun e => e.1 != Name.key name⟩

/-- The declared names of all tables, in order of their code points. -/
def names (c : Catalog) : List Text :=
  (c.entries.map (·.2.name)).mergeSort fun a b => (compare a b).isLE

/-- Putting under a key decides what is found there and nothing else. -/
theorem lookup_putEntry (key k : Text) (t : Table) (es : List (Text × Table)) :
    (putEntry key t es).lookup k = if k = key then some t else es.lookup k := by
  induction es with
  | nil =>
    by_cases h : k = key
    · simp [putEntry, h]
    · simp [putEntry, List.lookup_cons, h, beq_eq_false_iff_ne.2 h]
  | cons e es ih =>
    obtain ⟨key', t'⟩ := e
    by_cases h : key' = key
    · subst h
      by_cases hk : k = key'
      · simp [putEntry, hk]
      · simp [putEntry, List.lookup_cons, hk, beq_eq_false_iff_ne.2 hk]
    · by_cases hk : k = key'
      · simp [putEntry, h, hk]
      · simp [putEntry, List.lookup_cons, h, beq_eq_false_iff_ne.2 hk, ih]

/-- Dropping a key decides that nothing is found there and nothing else. -/
theorem lookup_filter_ne (key k : Text) (es : List (Text × Table)) :
    (es.filter fun e => e.1 != key).lookup k = if k = key then none else es.lookup k := by
  induction es with
  | nil => simp
  | cons e es ih =>
    obtain ⟨key', t'⟩ := e
    by_cases h : key' = key
    · subst h
      rw [List.filter_cons_of_neg (by simp), ih]
      by_cases hk : k = key'
      · simp [hk]
      · simp [List.lookup_cons, hk, beq_eq_false_iff_ne.2 hk]
    · rw [List.filter_cons_of_pos (by simpa using h)]
      by_cases hk : k = key'
      · simp [h, hk]
      · simp [List.lookup_cons, beq_eq_false_iff_ne.2 hk, ih]

/-- A stored table is found under its own name, and nothing else changes. -/
theorem find?_put (c : Catalog) (t : Table) (name : Text) :
    (c.put t).find? name = if Name.key name = Name.key t.name then some t else c.find? name :=
  lookup_putEntry ..

/-- An erased name finds nothing, and nothing else changes. -/
theorem find?_erase (c : Catalog) (erased name : Text) :
    (c.erase erased).find? name =
      if Name.key name = Name.key erased then none else c.find? name :=
  lookup_filter_ne ..

end Catalog

end Tabular
