import Tabular.Proofs.Database.History
import Tabular.Proofs.Database.Refusal

/-!
# What settings cannot change

Settings are read only where a text is refused, so they never change a statement that is read
(`Statement.read_alike`), and running a statement does not look at them (`Database.run_congr`). Two runs
of the same texts under two settings therefore store the same tables and give the same results. Their
errors differ in advice at most, unless a text starts with the keywords of no kind of statement
(`Database.execute_under_settings`).
-/

namespace Tabular

/-- The errors that a text of no known kind can be refused with. -/
inductive Error.OfNoKind (text : Text) : Error → Prop where
  | file {function guidance} :
    OfNoKind text (.unsupported (.fileFunction function) guidance)
  | unrecognized :
    OfNoKind text (.unrecognized text)

/-- How the errors that a text gives under two settings are related. -/
inductive Error.Alike (text : Text) : Error → Error → Prop where
  | same {e} :
    Alike text e e
  | advised {feature guidance guidance'} :
    guidance ≠ guidance' →
    Alike text (.unsupported feature guidance) (.unsupported feature guidance')
  | unled {e e'} :
    Statement.Unled text →
    e.OfNoKind text →
    e'.OfNoKind text →
    Alike text e e'

/-- How what comes of a text under two settings is related: it succeeds alike, or its errors are
alike. -/
inductive Alike {α : Type} (text : Text) : Except Error α → Except Error α → Prop where
  | ok {a} :
    Alike text (.ok a) (.ok a)
  | error {e e'} :
    e.Alike text e' →
    Alike text (.error e) (.error e')

namespace Alike

variable {α : Type} {text : Text} {x x' : Except Error α}

/-- Every result is like itself. -/
@[refl]
lemma refl (x : Except Error α) : Alike text x x := by
  cases x with
  | error e => exact .error .same
  | ok a => exact .ok

/-- Two results that are alike succeed with the same answer, or both fail. -/
lemma ok_iff (h : Alike text x x') (a : α) : x = .ok a ↔ x' = .ok a := by
  cases h with
  | ok => exact Iff.rfl
  | error _ => exact iff_of_false nofun nofun

/-- The errors of two results that are alike are. -/
lemma errors (h : Alike text x x') {e e' : Error} (eq : x = .error e) (eq' : x' = .error e') :
    e.Alike text e' := by
  cases h with
  | ok => cases eq
  | error alike =>
    cases eq
    cases eq'
    exact alike

end Alike

namespace Statement

/-- A text that the keywords of no kind lead is refused. -/
lemma read_of_unled (settings : Settings) {sql : Text} (unled : Unled (strip sql)) :
    ∃ e, read settings sql = .error e ∧ e.OfNoKind (strip sql) := by
  have none := StatementKind.leading?_eq_none_iff.2 unled
  simp only [read, none, unrouted]
  cases settings.fileFunction? (strip sql) with
  | none => exact ⟨_, rfl, .unrecognized⟩
  | some function => exact ⟨_, rfl, .file⟩

/-- Two errors about one feature differ at most in the advice. -/
lemma advice_alike (settings settings' : Settings) (text : Text) (feature : Feature) :
    Error.Alike text (.unsupported feature settings.guidance)
      (.unsupported feature settings'.guidance) := by
  by_cases same : settings.guidance = settings'.guidance
  · rw [same]
    exact .same
  · exact .advised same

/-- A text is read alike under any settings. Function names that are keywords do not get in the way of a
statement, because they are looked up last. -/
lemma read_alike (settings settings' : Settings) (sql : Text) :
    Alike (strip sql) (read settings sql) (read settings' sql) := by
  cases lead : StatementKind.leading? (strip sql) with
  | none =>
    have unled : Unled (strip sql) := StatementKind.leading?_eq_none_iff.1 lead
    obtain ⟨e, eq, kind⟩ := read_of_unled settings unled
    obtain ⟨e', eq', kind'⟩ := read_of_unled settings' unled
    rw [eq, eq']
    exact .error (.unled unled kind kind')
  | some p =>
    obtain ⟨kind, rest⟩ := p
    cases kind with
    | createTable =>
      simp only [read, lead]
      rfl
    | insertInto =>
      simp only [read, lead]
      rfl
    | dropTable =>
      simp only [read, lead]
      rfl
    | select =>
      simp only [read, lead]
      cases readQuery? rest with
      | none => exact .error (advice_alike settings settings' _ _)
      | some q => rfl

end Statement

namespace Database

/-- Running a statement depends only on the tables. -/
lemma run_congr {db db' : Database} (same : db.catalog = db'.catalog) (s : Statement) :
    (db.run s).1 = (db'.run s).1 ∧ (db.run s).2.catalog = (db'.run s).2.catalog := by
  cases s with
  | createTable name columns =>
    rw [run, run, createTable, createTable, same]
    exact ⟨rfl, rfl⟩
  | insertInto name rows =>
    rw [run, run, insertInto, insertInto, same]
    cases db'.catalog.table name with
    | error e => exact ⟨rfl, same⟩
    | ok t => exact ⟨rfl, rfl⟩
  | select q =>
    refine ⟨?_, same⟩
    rw [run, run, select, select, same]
  | dropTable name =>
    rw [run, run, dropTable, dropTable, same]
    cases db'.catalog.table name with
    | error e => exact ⟨rfl, same⟩
    | ok t => exact ⟨rfl, rfl⟩

/-- Databases with the same tables answer a text alike, and have the same tables after it. -/
lemma execute_alike {db db' : Database} (same : db.catalog = db'.catalog) (sql : Text) :
    Alike (Statement.strip sql) (db.execute sql).1 (db'.execute sql).1 ∧
      (db.execute sql).2.catalog = (db'.execute sql).2.catalog := by
  have alike := Statement.read_alike db.settings db'.settings sql
  rw [execute, execute]
  generalize Statement.read db.settings sql = reading at alike
  generalize Statement.read db'.settings sql = reading' at alike
  cases alike with
  | error alike => exact ⟨.error alike, same⟩
  | @ok s =>
    obtain ⟨answer, tables⟩ := run_congr same s
    refine ⟨?_, tables⟩
    rw [answer]

/-- Databases with the same tables have the same tables after any texts. -/
lemma executeAll_catalog {db db' : Database} (same : db.catalog = db'.catalog) (sqls : List Text) :
    (db.executeAll sqls).catalog = (db'.executeAll sqls).catalog := by
  induction sqls generalizing db db' with
  | nil => exact same
  | cons sql sqls ih => exact ih (execute_alike same sql).2

/-- Two runs of the same texts from empty databases, under any two settings, store the same tables. A
further text has a result in one exactly when it has the same result in the other, and otherwise its two
errors are alike. -/
theorem execute_under_settings (settings settings' : Settings) (sqls : List Text) (sql : Text) :
    ((withSettings settings).executeAll sqls).catalog =
      ((withSettings settings').executeAll sqls).catalog ∧
    (∀ r, (((withSettings settings).executeAll sqls).execute sql).1 = .ok r ↔
      (((withSettings settings').executeAll sqls).execute sql).1 = .ok r) ∧
    ∀ e e', (((withSettings settings).executeAll sqls).execute sql).1 = .error e →
      (((withSettings settings').executeAll sqls).execute sql).1 = .error e' →
      e.Alike (Statement.strip sql) e' := by
  have empty : (withSettings settings).catalog = (withSettings settings').catalog := rfl
  have tables := executeAll_catalog empty sqls
  obtain ⟨alike, -⟩ := execute_alike tables sql
  exact ⟨tables, alike.ok_iff, fun _ _ => alike.errors⟩

/-- Settings in which a keyword and the empty text are names of functions that read files. -/
def sampleSettings : Settings :=
  { fallbackEngine := "Other".toList, fileFunctions := ["select".toList, []] }

/-- With names of this kind a query still has its result, and a text of no kind is another error. -/
theorem execute_under_settings_sample :
    (((withSettings sampleSettings).executeAll (sampleRun.take 2)).execute "select a from t".toList).1 =
      .ok { columns := ["a".toList], rows := [[.int 1]] } ∧
    ∃ e e', (((withSettings {}).executeAll (sampleRun.take 2)).execute "(select)".toList).1 = .error e ∧
      (((withSettings sampleSettings).executeAll (sampleRun.take 2)).execute "(select)".toList).1 =
        .error e' ∧
      e ≠ e' ∧ e.Alike (Statement.strip "(select)".toList) e' := by
  obtain ⟨-, result, -⟩ :=
    execute_under_settings {} sampleSettings (sampleRun.take 2) "select a from t".toList
  obtain ⟨-, -, errors⟩ := execute_under_settings {} sampleSettings (sampleRun.take 2) "(select)".toList
  have refused : (((withSettings {}).executeAll (sampleRun.take 2)).execute "(select)".toList).1 =
      .error (.unrecognized "(select)".toList) := by
    decide +kernel
  have refused' : (((withSettings sampleSettings).executeAll (sampleRun.take 2)).execute
      "(select)".toList).1 = .error (.unsupported (.fileFunction []) sampleSettings.guidance) := by
    decide +kernel
  refine ⟨(result _).1 (by decide +kernel), _, _, refused, refused', nofun, ?_⟩
  exact errors _ _ refused refused'

end Database

end Tabular
