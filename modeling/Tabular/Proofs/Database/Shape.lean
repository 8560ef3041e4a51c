import Tabular.Proofs.Database.Script
import Tabular.Proofs.Database.Select
import Tabular.Proofs.Statement.Query

/-!
# The shape of results

A result set does not record which statement it answers, but in a reachable database its shape tells a
query from every other statement (`Database.shaped_of_execute`, and `Database.shaped_of_answers` for many
texts): every table has a column and every query that is read asks for one, so the answer to a query has
columns even where it has no rows.
-/

namespace Tabular

namespace Selection

/-- A list of names resolves to as many places. -/
lemma Resolves.length_eq {t : Table} {names : List Text} {places : List Nat}
    (h : Resolves t (.named names) places) : places.length = names.length := by
  cases h with
  | named each => exact each.length_eq.symm

/-- A selection of something stands for at least one place in a table with columns. -/
lemma Resolves.ne_nil {t : Table} {s : Selection} {places : List Nat} (h : s.Resolves t places)
    (asks : s ≠ .named []) (columns : t.columns ≠ []) : places ≠ [] := by
  cases s with
  | all =>
    cases h
    rw [Ne, List.range_eq_nil]
    exact fun none => columns (List.length_eq_zero_iff.1 none)
  | named names =>
    rintro rfl
    have none : names = [] := List.length_eq_zero_iff.1 h.length_eq.symm
    exact asks (congrArg Selection.named none)

end Selection

/-- An answer has as many columns, and as many values in each row, as places are selected. -/
lemma Query.shape_of_answer {q : Query} {t : Table} {r : ResultSet} (h : q.answer t = .ok r) :
    ∃ places, q.selection.Resolves t places ∧ r.columns.length = places.length ∧
      ∀ row ∈ r.rows, row.length = places.length := by
  unfold Query.answer at h
  split at h
  · cases h
  · next places selected =>
    cases h
    refine ⟨places, Selection.places_eq_ok_iff.1 selected, List.length_map _, ?_⟩
    intro row mem
    obtain ⟨stored, -, rfl⟩ := List.mem_map.1 mem
    exact List.length_map _

namespace Statement

/-- A list of names has at least one. -/
lemma names_ne_nil (names : Text.NamesText) : names.names ≠ [] := by
  cases names with
  | last name => exact List.cons_ne_nil _ _
  | cons name left right others => exact List.cons_ne_nil _ _

/-- A query that is read asks for something. -/
lemma selection_ne_of_read {settings : Settings} {sql : Text} {q : Query}
    (h : read settings sql = .ok (.select q)) : q.selection ≠ .named [] := by
  obtain ⟨p, -, -, rfl⟩ := read_eq_select_iff.1 h
  show p.columns.selection ≠ .named []
  cases p.columns with
  | all => exact Selection.noConfusion
  | named names =>
    intro none
    exact names_ne_nil names (Selection.named.inj none)

/-- The text is read as a query. -/
def isQuery (settings : Settings) (sql : Text) : Bool :=
  match read settings sql with
  | .ok s => s.kind = .select
  | .error _ => false

end Statement

/-- The result set has the shape of a result of the text, which can be read. -/
structure Shaped (settings : Settings) (sql : Text) (r : ResultSet) : Prop where
  /-- The result is empty exactly when the text is read as a statement other than a query. -/
  isEmpty_iff : ∃ s, Statement.read settings sql = .ok s ∧ (r.isEmpty ↔ s.kind ≠ .select)
  /-- Each row has as many values as there are columns. -/
  length_row : ∀ row ∈ r.rows, row.length = r.columns.length

namespace Shaped

variable {settings : Settings} {sql : Text} {r : ResultSet}

/-- Exactly the answers to queries have columns. -/
lemma isEmpty_eq (h : Shaped settings sql r) : r.isEmpty = !Statement.isQuery settings sql := by
  obtain ⟨s, reading, iff⟩ := h.isEmpty_iff
  rw [Bool.eq_iff_iff, iff, Statement.isQuery, reading]
  simp

/-- The answer to a statement that is no query is empty. -/
lemma of_empty {s : Statement} (reading : Statement.read settings sql = .ok s)
    (other : s.kind ≠ .select) : Shaped settings sql .empty :=
  ⟨⟨s, reading, iff_of_true rfl other⟩, nofun⟩

end Shaped

namespace Database

/-- In a database whose tables have columns, the answer to a query that is read has columns. -/
lemma shaped_of_select {db : Database} (wf : db.catalog.WellFormed) {sql : Text} {q : Query}
    (reading : Statement.read db.settings sql = .ok (.select q)) {r : ResultSet}
    (h : db.select q = .ok r) : Shaped db.settings sql r := by
  cases found : db.table? q.table with
  | none => cases (select_of_none found).symm.trans h
  | some t =>
    rw [select_of_some found] at h
    obtain ⟨places, resolves, width, widths⟩ := Query.shape_of_answer h
    have places_ne : places ≠ [] :=
      resolves.ne_nil (Statement.selection_ne_of_read reading) (wf.table found).columns_ne_nil
    have columns_ne : r.columns ≠ [] := by
      rw [← List.length_pos_iff, width]
      exact List.length_pos_iff.2 places_ne
    refine ⟨⟨_, reading, ?_⟩, fun row mem => (widths row mem).trans width.symm⟩
    simp [ResultSet.isEmpty, columns_ne, Statement.kind]

/-- Whatever executing a text gives in a well-formed database has the shape of the text. -/
lemma shaped_of_execute {db : Database} (wf : db.catalog.WellFormed) {sql : Text} {r : ResultSet}
    (h : (db.execute sql).1 = .ok r) : Shaped db.settings sql r := by
  have out := execute_outcome wf sql
  generalize reading : Statement.read db.settings sql = s at out
  generalize (db.execute sql).1 = answer at out h
  generalize (db.execute sql).2 = db' at out
  cases out with
  | refused _ => cases h
  | created _ =>
    cases h
    exact .of_empty reading StatementKind.noConfusion
  | inserted _ _ =>
    cases h
    exact .of_empty reading StatementKind.noConfusion
  | stopped _ _ _ _ => cases h
  | insertedNowhere _ => cases h
  | selected => exact shaped_of_select wf reading h
  | dropped _ =>
    cases h
    exact .of_empty reading StatementKind.noConfusion
  | droppedNowhere _ => cases h

/-- The results of texts that are executed one after another have the shapes of these texts. -/
lemma shaped_of_answers {db : Database} (wf : db.catalog.WellFormed) {sqls : List Text}
    {results : List ResultSet} (h : db.answers sqls = results.map .ok) :
    List.Forall₂ (Shaped db.settings) sqls results := by
  induction sqls generalizing db results with
  | nil =>
    cases results with
    | nil => exact .nil
    | cons r results => cases h
  | cons sql sqls ih =>
    cases results with
    | nil => cases h
    | cons r results =>
      obtain ⟨first, others⟩ := List.cons.inj h
      have out := execute_outcome wf sql
      have rest := ih (out.wellFormed wf) others
      rw [out.settings_eq] at rest
      exact .cons (shaped_of_execute wf first) rest

/-- The results of a script have the shapes of its statements. -/
lemma shaped_of_executeScript {db : Database} (wf : db.catalog.WellFormed) {script : Text}
    {results : List ResultSet} (h : (db.executeScript script).1 = .ok results) :
    List.Forall₂ (Shaped db.settings) (Script.statements script) results :=
  shaped_of_answers wf (succeed_of_executeScript h)

/-- A script leaves a well-formed database well formed, with the same settings. -/
lemma wellFormed_executeScript {db : Database} (wf : db.catalog.WellFormed) (script : Text) :
    (db.executeScript script).2.catalog.WellFormed ∧
      (db.executeScript script).2.settings = db.settings := by
  refine executeFrom_invariant
    (P := fun db' => db'.catalog.WellFormed ∧ db'.settings = db.settings) ?_ ⟨wf, rfl⟩ 0 _
  intro db' sql ⟨wf', same⟩
  have out := execute_outcome wf' sql
  exact ⟨out.wellFormed wf', out.settings_eq.trans same⟩

end Database

end Tabular
