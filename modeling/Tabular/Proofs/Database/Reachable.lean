import Tabular.Database
import Tabular.Proofs.Query.Answer
import Tabular.Proofs.Statement.Reader

/-!
# Reachable databases

What one statement can do to a database, and what holds after any calls.

* `Outcome` lists everything that executing one text can do, with the condition under which it does
  it; `execute_outcome` says that the list is complete. Every fact about executing is read off it.
* `Reachable` is every database that calls lead to from an empty one, and `Reachable.invariant` is the
  induction over such calls: a fact that executing one text preserves holds of all of them.
  `Reachable.forall_entries` is the same for a fact about each single table.
* `Reachable.consistent` is what a reachable database looks like: keys, widths, bounds and names.
-/

namespace Tabular

namespace Database

/-- The database with more rows at the end of the table found under a name. -/
def append (db : Database) (name : Text) (rows : List Row) : Database :=
  { db with catalog := db.catalog.append name rows }

/-- What executing a text can do: the reading of the text, the answer, and the database after it. -/
inductive Outcome (db : Database) :
    Except Error Statement → Except Error ResultSet → Database → Prop where
  | refused {e} :
    e.errorClass = .malformed ∨ e.errorClass = .unsupported →
    Outcome db (.error e) (.error e) db
  | created {name columns} :
    columns ≠ [] →
    Outcome db (.ok (.createTable name columns)) (.ok .empty)
      { db with catalog := db.catalog.put { name, columns } }
  | inserted {name rows t} :
    db.table? name = some t →
    (∀ row ∈ rows, row.length = t.width) →
    Outcome db (.ok (.insertInto name rows)) (.ok .empty) (db.append name rows)
  | stopped {name rows t k row} :
    db.table? name = some t →
    rows[k]? = some row →
    row.length ≠ t.width →
    Table.fitting t.width rows = rows.take k →
    Outcome db (.ok (.insertInto name rows)) (.error (.columnCount t.name t.width row.length))
      (db.append name (rows.take k))
  | insertedNowhere {name rows} :
    db.table? name = none →
    Outcome db (.ok (.insertInto name rows)) (.error (.unknownTable name)) db
  | selected {q} :
    Outcome db (.ok (.select q)) (db.select q) db
  | dropped {name t} :
    db.table? name = some t →
    Outcome db (.ok (.dropTable name)) (.ok .empty)
      { db with catalog := db.catalog.erase name }
  | droppedNowhere {name} :
    db.table? name = none →
    Outcome db (.ok (.dropTable name)) (.error (.unknownTable name)) db

/-- A table that a name finds is the one that a statement works on. -/
lemma table_eq_ok {db : Database} {name : Text} {t : Table} (h : db.table? name = some t) :
    db.catalog.table name = .ok t := by
  rw [table?] at h
  rw [Catalog.table, h]

/-- A statement on a name that finds no table fails. -/
lemma table_eq_error {db : Database} {name : Text} (h : db.table? name = none) :
    db.catalog.table name = .error (.unknownTable name) := by
  rw [table?] at h
  rw [Catalog.table, h]

/-- Inserting into a table appends the rows before the first misfit, and fails at that one. -/
lemma insertInto_eq {db : Database} (wf : db.catalog.WellFormed) {name : Text} {t : Table}
    (rows : List Row) (h : db.table? name = some t) :
    db.insertInto name rows =
      (match Table.misfit? t.width rows with
        | some row => .error (.columnCount t.name t.width row.length)
        | none => .ok .empty,
      db.append name (Table.fitting t.width rows)) := by
  simp only [insertInto, table_eq_ok h, Table.insertRows_eq, wf.put_append _ h]
  cases Table.misfit? t.width rows with
  | none => rfl
  | some row => rfl

/-- What inserting rows can answer. -/
lemma insertInto_answer (db : Database) (name : Text) (rows : List Row) :
    (db.insertInto name rows).1 = .ok .empty ∨
      (db.insertInto name rows).1 = .error (.unknownTable name) ∨
      ∃ t n, db.table? name = some t ∧
        (db.insertInto name rows).1 = .error (.columnCount t.name t.columns.length n) := by
  cases found : db.table? name with
  | none => exact .inr (.inl (by simp only [insertInto, table_eq_error found]))
  | some t =>
    simp only [insertInto, table_eq_ok found, Table.insertRows_eq]
    cases Table.misfit? t.width rows with
    | none => exact .inl rfl
    | some row => exact .inr (.inr ⟨t, row.length, rfl, rfl⟩)

/-- Executing a text does one of these things. -/
lemma execute_outcome {db : Database} (wf : db.catalog.WellFormed) (sql : Text) :
    db.Outcome (Statement.read db.settings sql) (db.execute sql).1 (db.execute sql).2 := by
  unfold execute
  cases reading : Statement.read db.settings sql with
  | error e => exact .refused (Statement.errorClass_of_read reading)
  | ok s =>
    cases s with
    | createTable name columns => exact .created (Statement.columns_ne_nil_of_read reading)
    | insertInto name rows =>
      cases found : db.table? name with
      | none =>
        simp only [run, insertInto, table_eq_error found]
        exact .insertedNowhere found
      | some t =>
        simp only [run, insertInto_eq wf rows found]
        cases misfit : Table.misfit? t.width rows with
        | none =>
          have fit := Table.misfit?_eq_none_iff.1 misfit
          rw [Table.fitting_eq_self fit]
          exact .inserted found fit
        | some row =>
          obtain ⟨k, at_, ne, kept⟩ := Table.fitting_of_misfit? misfit
          rw [kept]
          exact .stopped found at_ ne kept
    | select q => exact .selected
    | dropTable name =>
      cases found : db.table? name with
      | none =>
        simp only [run, dropTable, table_eq_error found]
        exact .droppedNowhere found
      | some t =>
        simp only [run, dropTable, table_eq_ok found]
        exact .dropped found

/-- No statement changes the settings. -/
lemma Outcome.settings_eq {db db' : Database} {reading answer} (out : db.Outcome reading answer db') :
    db'.settings = db.settings := by
  cases out with
  | refused _ => rfl
  | created _ => rfl
  | inserted _ _ => rfl
  | stopped _ _ _ _ => rfl
  | insertedNowhere _ => rfl
  | selected => rfl
  | dropped _ => rfl
  | droppedNowhere _ => rfl

/-- Every statement leaves the catalog well formed. -/
lemma Outcome.wellFormed {db db' : Database} {reading answer} (out : db.Outcome reading answer db')
    (wf : db.catalog.WellFormed) : db'.catalog.WellFormed := by
  cases out with
  | refused _ => exact wf
  | created ne => exact wf.put ⟨ne, nofun⟩
  | inserted found fit => exact wf.append found fit
  | stopped found _ _ kept =>
    rw [← kept]
    exact wf.append found fun _ => Table.length_of_mem_fitting
  | insertedNowhere _ => exact wf
  | selected => exact wf
  | dropped _ => exact wf.erase _
  | droppedNowhere _ => exact wf

/-- A call on a database. -/
inductive Call where
  | execute (sql : Text)
  | query (sql : Text)
  | executeScript (script : Text)

/-- The database after a call. A query cannot change it. -/
def after (db : Database) : Call → Database
  | .execute sql => (db.execute sql).2
  | .query _ => db
  | .executeScript script => (db.executeScript script).2

/-- The databases that calls lead to from an empty one. -/
inductive Reachable : Database → Prop where
  | empty (settings : Settings) :
    Reachable (withSettings settings)
  | call {db} (c : Call) :
    Reachable db →
    Reachable (db.after c)

/-- What executing one text preserves, a script preserves. -/
lemma executeFrom_invariant {P : Database → Prop}
    (step : ∀ {db} sql, P db → P (execute db sql).2) {db : Database} (h : P db) (index : Nat)
    (statements : List Text) : P (db.executeFrom index statements).2 := by
  induction statements generalizing db index with
  | nil => exact h
  | cons sql statements ih =>
    -- the rest of the script starts from the database that the first text leaves
    have next := step sql h
    have rest := ih next (index + 1)
    unfold executeFrom
    split
    · next eq => rwa [eq] at next
    · next eq =>
      rw [eq] at rest
      split
      · next eq' => rwa [eq'] at rest
      · next eq' => rwa [eq'] at rest

/-- What holds of empty databases and what executing one text preserves holds of all reachable
databases. -/
lemma Reachable.invariant {P : Database → Prop} (init : ∀ settings, P (withSettings settings))
    (step : ∀ {db} sql, P db → P (execute db sql).2) {db : Database} (h : db.Reachable) : P db := by
  induction h with
  | empty settings => exact init settings
  | call c _ ih =>
    cases c with
    | execute sql => exact step sql ih
    | query sql => exact ih
    | executeScript script => exact executeFrom_invariant step ih 0 _

/-- The catalog of a reachable database is well formed. -/
lemma Reachable.wellFormed {db : Database} (h : db.Reachable) : db.catalog.WellFormed :=
  h.invariant (P := fun db => db.catalog.WellFormed) (fun _ => Catalog.WellFormed.empty)
    fun sql wf => (execute_outcome wf sql).wellFormed wf

section

variable {P : Table → Prop}
  (creates : ∀ {settings sql name columns},
    Statement.read settings sql = .ok (.createTable name columns) → P { name, columns })
  (inserts : ∀ {settings sql name rows t} (k : Nat),
    Statement.read settings sql = .ok (.insertInto name rows) → P t → P (t.append (rows.take k)))

include creates inserts

/-- What new tables have and inserting rows preserves, every table keeps that executing a text leaves. -/
lemma Outcome.forall_entries {db db' : Database} {sql : Text} {answer}
    (out : db.Outcome (Statement.read db.settings sql) answer db')
    (h : ∀ e ∈ db.catalog.entries, P e.2) : ∀ e ∈ db'.catalog.entries, P e.2 := by
  have appended : ∀ name rows k, Statement.read db.settings sql = .ok (.insertInto name rows) →
      ∀ e ∈ (db.append name (rows.take k)).catalog.entries, P e.2 := by
    intro name rows k reading e mem
    obtain ⟨e', mem', rfl⟩ := List.mem_map.1 mem
    split
    · exact inserts k reading (h e' mem')
    · exact h e' mem'
  generalize reading : Statement.read db.settings sql = r at out
  cases out with
  | refused _ => exact h
  | created _ =>
    intro e mem
    obtain rfl | mem := Catalog.mem_putEntry mem
    · exact creates reading
    · exact h e mem
  | @inserted name rows _ _ _ =>
    have all := appended name rows rows.length reading
    rwa [List.take_length] at all
  | stopped _ _ _ _ => exact appended _ _ _ reading
  | insertedNowhere _ => exact h
  | selected => exact h
  | dropped _ => exact fun e mem => h e (List.mem_of_mem_filter mem)
  | droppedNowhere _ => exact h

/-- What new tables have and inserting rows preserves, every table of a reachable database has. -/
lemma Reachable.forall_entries {db : Database} (h : db.Reachable) : ∀ e ∈ db.catalog.entries, P e.2 := by
  -- the invariant carries well-formedness along, which the outcomes of a text rest on
  have both := h.invariant
    (P := fun db => db.catalog.WellFormed ∧ ∀ e ∈ db.catalog.entries, P e.2)
    (fun _ => ⟨.empty, nofun⟩) fun sql ⟨wf, h⟩ =>
      have out := execute_outcome wf sql
      ⟨out.wellFormed wf, out.forall_entries creates inserts h⟩
  exact both.2

end

/-- What the store of a database has to look like for every answer to be meaningful. -/
structure Consistent (db : Database) : Prop where
  /-- Each table is stored under the key of its declared name. -/
  keyed : ∀ e ∈ db.catalog.entries, e.1 = Name.key e.2.name
  /-- No two tables have names with one key. -/
  keys_ne : db.catalog.entries.Pairwise fun e e' => Name.key e.2.name ≠ Name.key e'.2.name
  /-- Each row has exactly as many values as its table has columns. -/
  length_row : ∀ e ∈ db.catalog.entries, ∀ row ∈ e.2.rows, row.length = e.2.columns.length
  /-- Each table has a column. -/
  columns_ne_nil : ∀ e ∈ db.catalog.entries, e.2.columns ≠ []
  /-- Answering a query uses no index out of bounds. -/
  inBounds : ∀ (q : Query) (t : Table), db.table? q.table = some t → q.InBounds t
  /-- A table is found under its own name. -/
  table?_name : ∀ e ∈ db.catalog.entries, db.table? e.2.name = some e.2
  /-- The list of names is strictly increasing. -/
  names_lt : db.catalog.names.Pairwise fun a b => compare a b = .lt
  /-- The list of names has each table once. -/
  names_perm : db.catalog.names.Perm (db.catalog.entries.map fun e => e.2.name)

/-- A reachable database is consistent. -/
theorem Reachable.consistent {db : Database} (h : db.Reachable) : db.Consistent where
  keyed := h.wellFormed.keyed
  keys_ne := h.wellFormed.pairwise_key_ne
  length_row e mem := (h.wellFormed.tables e mem).length_row
  columns_ne_nil e mem := (h.wellFormed.tables e mem).columns_ne_nil
  inBounds q _ found := (h.wellFormed.table found).inBounds q
  table?_name _ mem := h.wellFormed.find?_name mem
  names_lt := h.wellFormed.pairwise_names
  names_perm := db.catalog.names_perm

/-- A database with one table, after a script that stops in the middle of an insertion. -/
def sample : Database :=
  (withSettings {}).after (.executeScript
    "create table T (a INT, b); insert into t values (1, 'x'), (2, 'y'), (3); drop table t".toList)

lemma sample_reachable : sample.Reachable := .call _ (.empty _)

/-- The sample has a table with the two rows before the misfit, and is consistent. -/
theorem consistent_sample :
    sample.Reachable ∧
      sample.table? "t".toList = some
        { name := "T".toList
          columns := [⟨"a".toList, "INT".toList⟩, ⟨"b".toList, "TEXT".toList⟩]
          rows := [[.int 1, .text "x".toList], [.int 2, .text "y".toList]] } ∧
      sample.Consistent :=
  ⟨sample_reachable, by decide +kernel, sample_reachable.consistent⟩

end Database

end Tabular
