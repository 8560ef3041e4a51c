import Tabular.Proofs.Database.Reachable

/-!
# Runs and their logs

A run executes texts one after another, and its log keeps for each of them how it was read and how it
was answered. What is stored under a name after a run is read off the log (`table?_executeAll`): the
last successful creation or removal under the key of the name decides whether there is a table and
what its name and columns are, and the later insertions under that key are its rows.
-/

namespace Tabular

/-- How one text of a run was read and answered. -/
structure LogEntry where
  reading : Except Error Statement
  answer : Except Error ResultSet
deriving DecidableEq

namespace LogEntry

/-- What a successful creation or removal under a key leaves there: a table without rows, or none. -/
def definition? (key : Text) : LogEntry → Option (Option Table)
  | ⟨.ok (.createTable name columns), .ok _⟩ =>
    if Name.key name = key then some (some { name, columns }) else none
  | ⟨.ok (.dropTable name), .ok _⟩ => if Name.key name = key then some none else none
  | _ => none

/-- The rows that an insertion under a key adds to a table of the given width: its longest prefix of
rows that all fit. Every other entry adds none. -/
def inserted (key : Text) (width : Nat) : LogEntry → List Row
  | ⟨.ok (.insertInto name rows), _⟩ =>
    if Name.key name = key then Table.fitting width rows else []
  | _ => []

/-- What is stored under a key after one more entry. -/
def next (e : LogEntry) (key : Text) (stored : Option Table) : Option Table :=
  match e.definition? key with
  | some defined => defined
  | none => stored.map fun t => t.append (e.inserted key t.width)

/-- A table that is defined has no rows yet. -/
lemma rows_of_definition? {e : LogEntry} {key : Text} {t : Table}
    (h : e.definition? key = some (some t)) : t.rows = [] := by
  unfold definition? at h
  split at h
  · split at h
    · cases h
      rfl
    · cases h
  · split at h
    · cases h
    · cases h
  · cases h

/-- What neither defines a table nor inserts into it leaves it as it is. -/
lemma next_eq_self {e : LogEntry} {key : Text} (stored : Option Table)
    (undefined : e.definition? key = none) (idle : ∀ width, e.inserted key width = []) :
    e.next key stored = stored := by
  simp [next, undefined, idle]

/-- An insertion under the key lengthens the stored table, and no other one changes it. -/
lemma next_insertInto (key name : Text) (rows : List Row) (answer : Except Error ResultSet)
    (stored : Option Table) :
    (LogEntry.mk (.ok (.insertInto name rows)) answer).next key stored =
      if Name.key name = key then stored.map fun t => t.append (Table.fitting t.width rows)
      else stored := by
  split
  · next same => simp [next, definition?, inserted, same]
  · next other => exact next_eq_self _ rfl fun _ => if_neg other

end LogEntry

namespace Database

/-- The database after a run. -/
def executeAll (db : Database) (sqls : List Text) : Database :=
  sqls.foldl (fun db sql => (db.execute sql).2) db

/-- The log of a run. -/
def log (db : Database) : List Text → List LogEntry
  | [] => []
  | sql :: sqls => ⟨Statement.read db.settings sql, (db.execute sql).1⟩ :: (db.execute sql).2.log sqls

/-- Every text of a run is read under the settings at its start. -/
lemma map_reading_log {db : Database} (wf : db.catalog.WellFormed) (sqls : List Text) :
    (db.log sqls).map LogEntry.reading = sqls.map (Statement.read db.settings) := by
  induction sqls generalizing db with
  | nil => rfl
  | cons sql sqls ih =>
    have out := execute_outcome wf sql
    have rest := ih (out.wellFormed wf)
    rw [out.settings_eq] at rest
    rw [log, List.map_cons, List.map_cons, rest]

/-- Names with one key find the same table. -/
lemma table?_congr (db : Database) {name name' : Text} (same : Name.key name = Name.key name') :
    db.table? name = db.table? name' := by
  rw [table?, table?, Catalog.find?, Catalog.find?, same]

/-- Appending the rows that fit is what the log says of an insertion. -/
lemma table?_append {db : Database} {n : Text} {t : Table} {rows kept : List Row}
    (found : db.table? n = some t) (fit : Table.fitting t.width rows = kept)
    (answer : Except Error ResultSet) (name : Text) :
    (db.append n kept).table? name =
      (LogEntry.mk (.ok (.insertInto n rows)) answer).next (Name.key name) (db.table? name) := by
  rw [LogEntry.next_insertInto, table?, append, Catalog.find?_append, ← table?]
  by_cases same : Name.key name = Name.key n
  · rw [if_pos same, if_pos same.symm, db.table?_congr same, found, Option.map_some, Option.map_some,
      fit]
  · rw [if_neg same, if_neg (Ne.symm same)]

/-- What is found under a name after executing a text is what the log says. -/
lemma Outcome.table?_eq {db db' : Database} {reading answer}
    (out : db.Outcome reading answer db') (name : Text) :
    db'.table? name = (LogEntry.mk reading answer).next (Name.key name) (db.table? name) := by
  cases out with
  | refused _ => exact (LogEntry.next_eq_self _ rfl fun _ => rfl).symm
  | @created n columns _ =>
    rw [table?, Catalog.find?_put]
    split
    · next same => simp [LogEntry.next, LogEntry.definition?, same]
    · next other =>
      refine (LogEntry.next_eq_self _ ?_ fun _ => rfl).symm
      exact if_neg (Ne.symm other)
  | inserted found fit => exact table?_append found (Table.fitting_eq_self fit) _ name
  | stopped found _ _ kept => exact table?_append found kept _ name
  | @insertedNowhere n rows none =>
    rw [LogEntry.next_insertInto]
    split
    · next same =>
      rw [db.table?_congr same.symm, none]
      rfl
    · rfl
  | selected => exact (LogEntry.next_eq_self _ rfl fun _ => rfl).symm
  | dropped _ =>
    rw [table?, Catalog.find?_erase]
    split
    · next same => simp [LogEntry.next, LogEntry.definition?, same]
    · next other =>
      refine (LogEntry.next_eq_self _ ?_ fun _ => rfl).symm
      exact if_neg (Ne.symm other)
  | droppedNowhere _ => exact (LogEntry.next_eq_self _ rfl fun _ => rfl).symm

/-- A run without definitions of a name only appends to the table that the name finds. -/
lemma table?_executeAll_of_undefined {db : Database} (wf : db.catalog.WellFormed) (name : Text)
    (sqls : List Text) (undefined : ∀ e ∈ db.log sqls, e.definition? (Name.key name) = none) :
    (db.executeAll sqls).table? name = (db.table? name).map fun t =>
      t.append ((db.log sqls).flatMap (·.inserted (Name.key name) t.width)) := by
  induction sqls generalizing db with
  | nil => simp [executeAll, log]
  | cons sql sqls ih =>
    have out := execute_outcome wf sql
    -- the first text appends to what was there, the others to what the first one left
    obtain ⟨first, rest⟩ := List.forall_mem_cons.1 undefined
    have step := out.table?_eq name
    rw [LogEntry.next, first] at step
    have run := ih (out.wellFormed wf) rest
    rw [step, Option.map_map] at run
    rw [executeAll, List.foldl_cons]
    refine run.trans (congrArg (fun f => (db.table? name).map f) ?_)
    funext t
    rw [Function.comp_apply, Table.append_append, Table.width_append]
    simp [log]

/-- A run whose last definition of a name is known leaves what was defined, with the rows inserted
since. -/
lemma table?_executeAll_of_definition {db : Database} (wf : db.catalog.WellFormed) (name : Text)
    (sqls : List Text) {before later : List LogEntry} {e : LogEntry} {defined : Option Table}
    (eq : db.log sqls = before ++ e :: later) (last : e.definition? (Name.key name) = some defined)
    (undefined : ∀ e' ∈ later, e'.definition? (Name.key name) = none) :
    (db.executeAll sqls).table? name = defined.map fun t =>
      t.append (later.flatMap (·.inserted (Name.key name) t.width)) := by
  -- the induction runs down the texts until the last definition is the first entry
  induction sqls generalizing db before with
  | nil => cases before <;> cases eq
  | cons sql sqls ih =>
    have out := execute_outcome wf sql
    cases before with
    | nil =>
      cases eq
      have step := out.table?_eq name
      rw [LogEntry.next, last] at step
      have run := table?_executeAll_of_undefined (out.wellFormed wf) name sqls undefined
      rw [step] at run
      exact run
    | cons _ before =>
      have rest := (List.cons.inj eq).2
      exact ih (out.wellFormed wf) rest

/-- The log of a run from an empty database has each text as it is read. After the run a name finds
nothing if no text of the run defined it, and otherwise what the last definition left, with the rows
that were inserted since. -/
theorem table?_executeAll (settings : Settings) (sqls : List Text) (name : Text) :
    ((withSettings settings).log sqls).map LogEntry.reading = sqls.map (Statement.read settings) ∧
    ((∀ e ∈ (withSettings settings).log sqls, e.definition? (Name.key name) = none) →
      ((withSettings settings).executeAll sqls).table? name = none) ∧
    ∀ before e later defined,
      (withSettings settings).log sqls = before ++ e :: later →
      e.definition? (Name.key name) = some defined →
      (∀ e' ∈ later, e'.definition? (Name.key name) = none) →
      ((withSettings settings).executeAll sqls).table? name = defined.map fun t =>
        { name := t.name
          columns := t.columns
          rows := later.flatMap (·.inserted (Name.key name) t.columns.length) } := by
  have wf : (withSettings settings).catalog.WellFormed := .empty
  refine ⟨map_reading_log wf sqls, ?_, ?_⟩
  · intro undefined
    exact table?_executeAll_of_undefined wf name sqls undefined
  · intro before e later defined eq last undefined
    rw [table?_executeAll_of_definition wf name sqls eq last undefined]
    cases defined with
    | none => rfl
    | some t =>
      have empty := LogEntry.rows_of_definition? last
      rw [Option.map_some, Option.map_some, Table.append, empty]
      rfl

/-- A run that defines a table, removes it and defines it again. -/
def sampleRun : List Text :=
  ["create table T (a)".toList, "insert into t values (1)".toList, "drop table T".toList,
    "create table t (a, b)".toList, "insert into T values (1, 2), (3), (4, 5)".toList,
    "select nothing from t".toList, "insert into t values (6, 7)".toList]

/-- The table of the sample has its last definition, and the rows that fit of the insertions since. -/
theorem table?_sampleRun :
    ((withSettings {}).executeAll sampleRun).table? "T".toList = some
      { name := "t".toList
        columns := [⟨"a".toList, "TEXT".toList⟩, ⟨"b".toList, "TEXT".toList⟩]
        rows := [[.int 1, .int 2], [.int 6, .int 7]] } :=
  ((table?_executeAll {} sampleRun "T".toList).2.2
    (((withSettings {}).log sampleRun).take 3)
    ⟨.ok (.createTable "t".toList
      [⟨"a".toList, "TEXT".toList⟩, ⟨"b".toList, "TEXT".toList⟩]), .ok .empty⟩
    (((withSettings {}).log sampleRun).drop 4) _
    (by decide +kernel) rfl (by decide +kernel)).trans (by decide +kernel)

end Database

end Tabular
