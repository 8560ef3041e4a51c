import Mathlib.Data.Option.Basic
import Tabular.Proofs.Database.Reachable

/-!
# The meaning of a query

`Query.Means` says what a query means in a database by three rules, without marks, without fetching
and without default values: no table is found, a listed name finds no column, or the rows that the
query keeps are read at the places of its selection. In a reachable database the answer to a query is
exactly what it means (`select_eq_iff_means`).
-/

namespace Tabular

/-- The stored tables. -/
def Database.tables (db : Database) : List Table := db.catalog.entries.map Prod.snd

/-- What a query means in a database. -/
inductive Query.Means (q : Query) (db : Database) : Except Error ResultSet → Prop where
  | noTable :
    (∀ t ∈ db.tables, Name.key t.name ≠ Name.key q.table) →
    Means q db (.error (.unknownTable q.table))
  | noColumn {t before name after} :
    t ∈ db.tables →
    Name.key t.name = Name.key q.table →
    q.selection = .named (before ++ name :: after) →
    (∀ n ∈ before, ¬ t.Lacks n) →
    t.Lacks name →
    Means q db (.error (.unknownColumn t.name name))
  | rows {t places columns rows} :
    t ∈ db.tables →
    Name.key t.name = Name.key q.table →
    q.selection.Resolves t places →
    columns.map some = places.map (fun place => t.columns[place]?.map Column.name) →
    rows.map (List.map some) =
      (t.rows.filter fun row => q.Keeps t row).map (fun row => places.map (row[·]?)) →
    Means q db (.ok { columns, rows })

namespace Database

/-- In a well-formed catalog a name finds exactly the stored table whose name has its key. -/
lemma table?_eq_some_iff {db : Database} (wf : db.catalog.WellFormed) {name : Text} {t : Table} :
    db.table? name = some t ↔ t ∈ db.tables ∧ Name.key t.name = Name.key name := by
  constructor
  · intro found
    exact ⟨List.mem_map_of_mem (Catalog.mem_of_find? found), wf.key_name found⟩
  · rintro ⟨mem, key⟩
    obtain ⟨e, stored, rfl⟩ := List.mem_map.1 mem
    have found := wf.find?_name stored
    rwa [Catalog.find?, key] at found

/-- In a well-formed catalog a name finds nothing exactly when no stored table has its key. -/
lemma table?_eq_none_iff {db : Database} (wf : db.catalog.WellFormed) {name : Text} :
    db.table? name = none ↔ ∀ t ∈ db.tables, Name.key t.name ≠ Name.key name := by
  rw [Option.eq_none_iff_forall_ne_some]
  simp only [ne_eq, table?_eq_some_iff wf, not_and]

/-- In a reachable database every table is named by a name. -/
lemma Reachable.isName {db : Database} (h : db.Reachable) {t : Table} (mem : t ∈ db.tables) :
    t.name.IsName := by
  obtain ⟨e, stored, rfl⟩ := List.mem_map.1 mem
  exact h.forall_entries (P := fun t => t.name.IsName) Statement.isName_of_read
    (fun _ _ named => named) e stored

/-- In a reachable database a table is found under its own name, and under any name with the same key. -/
lemma Reachable.table?_eq_some {db : Database} (h : db.Reachable) {t : Table} (mem : t ∈ db.tables)
    {name : Text} (names : name = t.name ∨ (name.IsName ∧ Name.key name = Name.key t.name)) :
    name.IsName ∧ db.table? name = some t := by
  obtain rfl | ⟨named, key⟩ := names
  · exact ⟨h.isName mem, (table?_eq_some_iff h.wellFormed).2 ⟨mem, rfl⟩⟩
  · exact ⟨named, (table?_eq_some_iff h.wellFormed).2 ⟨mem, key.symm⟩⟩

/-- A query of a table that is not found fails. -/
lemma select_of_none {db : Database} {q : Query} (h : db.table? q.table = none) :
    db.select q = .error (.unknownTable q.table) := by
  rw [select, table_eq_error h]

/-- A query is answered by the table that is found. -/
lemma select_of_some {db : Database} {q : Query} {t : Table} (h : db.table? q.table = some t) :
    db.select q = q.answer t := by
  rw [select, table_eq_ok h]

/-- The answer to a query has its meaning. -/
lemma means_select {db : Database} (wf : db.catalog.WellFormed) (q : Query) :
    q.Means db (db.select q) := by
  cases found : db.table? q.table with
  | none =>
    rw [select_of_none found]
    exact .noTable ((table?_eq_none_iff wf).1 found)
  | some t =>
    obtain ⟨mem, key⟩ := (table?_eq_some_iff wf).1 found
    rw [select_of_some found, Query.answer]
    cases selected : q.selection.places t with
    | error e =>
      obtain ⟨before, name, after, eq, known, lacks, rfl⟩ := Selection.places_eq_error_iff.1 selected
      exact .noColumn mem key eq known lacks
    | ok places =>
      have resolved := Selection.places_eq_ok_iff.1 selected
      exact .rows mem key resolved resolved.map_some_columns ((wf.table found).map_some_rows q resolved)

/-- A query has one meaning. -/
lemma select_of_means {db : Database} (wf : db.catalog.WellFormed) {q : Query}
    {answer : Except Error ResultSet} (h : q.Means db answer) : db.select q = answer := by
  cases h with
  | noTable none => exact select_of_none ((table?_eq_none_iff wf).2 none)
  | noColumn mem key eq known lacks =>
    have found := (table?_eq_some_iff wf).2 ⟨mem, key⟩
    have failed := Selection.places_eq_error_iff.2 ⟨_, _, _, eq, known, lacks, rfl⟩
    rw [select_of_some found, Query.answer, failed]
  | rows mem key resolved columns rows =>
    have found := (table?_eq_some_iff wf).2 ⟨mem, key⟩
    have selected := Selection.places_eq_ok_iff.2 resolved
    rw [select_of_some found, Query.answer, selected]
    rw [← resolved.map_some_columns] at columns
    rw [← (wf.table found).map_some_rows q resolved] at rows
    -- texts and values are determined by having been read at their places
    have inj := List.map_injective_iff.2 (Option.some_injective Text)
    have inj' := List.map_injective_iff.2 (List.map_injective_iff.2 (Option.some_injective Value))
    rw [inj columns, inj' rows]

/-- In a reachable database a query is answered with what it means. When it was read from a text, that
is the answer both to executing the text and to running it as a query, and its clause is made by a
text. -/
theorem select_eq_iff_means {db : Database} (h : db.Reachable) (q : Query) :
    (∀ answer, db.select q = answer ↔ q.Means db answer) ∧
      ∀ sql, Statement.read db.settings sql = .ok (.select q) →
        db.execute sql = (db.select q, db) ∧ db.query sql = db.select q ∧
          ∀ clause ∈ q.clause, ∃ text, clause = .ofText text := by
  refine ⟨fun answer => ⟨?_, select_of_means h.wellFormed⟩, fun sql reading => ⟨?_, ?_, ?_⟩⟩
  · rintro rfl
    exact means_select h.wellFormed q
  · rw [execute, reading]
    rfl
  · rw [query, reading]
  · intro clause mem
    exact Statement.clause_of_read reading mem

/-- Names select in their own order and in any case, and the row before the condition's value is left
out. -/
theorem select_sample :
    sample.Reachable ∧
      Query.Means
        { selection := .named ["B".toList, "a".toList, "b".toList]
          table := "t".toList
          clause := some (.ofText "A >= 2".toList) }
        sample
        (.ok
          { columns := ["b".toList, "a".toList, "b".toList]
            rows := [[.text "y".toList, .int 2, .text "y".toList]] }) :=
  ⟨sample_reachable, ((select_eq_iff_means sample_reachable _).1 _).1 (by decide +kernel)⟩

end Database

end Tabular
