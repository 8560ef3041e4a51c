import Tabular.Proofs.Database.Select
import Tabular.Proofs.Statement.Query

/-!
# Refusals

Which error a text gives. Its first keywords decide how it is read (`Statement.read_routed`), and reading
alone decides whether a fuller engine might run it: an error of running a statement never says so
(`Database.run_eq_error`). Callers that turn to such an engine therefore do so exactly on the texts of
`Statement.Unsupported` (`Database.refused_classified`).
-/

namespace Tabular

namespace Statement
open Text (Leads)

/-- The text starts with the keywords of no kind of statement. -/
def Unled (text : Text) : Prop := ∀ (kind : StatementKind) rest, ¬ Leads kind.keywords text rest

/-- The text starts with the keyword of a query and does not have the parts of one. -/
def Wide (text : Text) : Prop :=
  (∃ rest, Leads StatementKind.select.keywords text rest) ∧
    ∀ p : QueryText, p.WellFormed → p.text ≠ text

/-- The texts that only a fuller engine could run: queries of another shape, and texts of no known kind
that start with a function for reading files. -/
inductive Unsupported (settings : Settings) (text : Text) : Prop where
  | wide :
    Wide text →
    Unsupported settings text
  | file {function} :
    Unled text →
    settings.fileFunction? text = some function →
    Unsupported settings text

/-- What the keywords that a text starts with make of it. -/
inductive Routed (settings : Settings) (text : Text) : Except Error Statement → Prop where
  | read {s : Statement} {rest} :
    Leads s.kind.keywords text rest →
    Routed settings text (.ok s)
  | malformed {kind rest defect} :
    kind ≠ StatementKind.select →
    Leads kind.keywords text rest →
    Routed settings text (.error (.malformed kind defect))
  | wide :
    Wide text →
    Routed settings text (.error (.unsupported .wideSelect settings.guidance))
  | file {function} :
    Unled text →
    settings.fileFunction? text = some function →
    Routed settings text (.error (.unsupported (.fileFunction function) settings.guidance))
  | unrecognized :
    Unled text →
    settings.fileFunction? text = none →
    Routed settings text (.error (.unrecognized text))

/-- A reader of one kind of statement gives such statements, or errors that name the kind. -/
lemma routed_mapError {settings : Settings} {text rest : Text} {kind : StatementKind}
    (ne : kind ≠ .select) (leads : Leads kind.keywords text rest) {made : Except Defect Statement}
    (same : ∀ s, made = .ok s → s.kind = kind) :
    Routed settings text (made.mapError (.malformed kind)) := by
  cases made with
  | error defect => exact .malformed ne leads
  | ok s =>
    obtain rfl := same s rfl
    exact .read leads

/-- Every text is read as the keywords that it starts with make of it. -/
lemma read_routed (settings : Settings) (sql : Text) :
    Routed settings (strip sql) (read settings sql) := by
  cases lead : StatementKind.leading? (strip sql) with
  | none =>
    have unled : Unled (strip sql) := StatementKind.leading?_eq_none_iff.1 lead
    simp only [read, lead, unrouted]
    cases file : settings.fileFunction? (strip sql) with
    | none => exact .unrecognized unled file
    | some function => exact .file unled file
  | some p =>
    obtain ⟨kind, rest⟩ := p
    have leads := StatementKind.leading?_eq_some_iff.1 lead
    cases kind with
    | createTable =>
      have ne : StatementKind.createTable ≠ .select := by decide
      simp only [read, lead]
      refine routed_mapError ne leads fun s made => ?_
      obtain ⟨_, _, _, _, _, _, rfl⟩ := readCreateTable_eq_ok made
      rfl
    | insertInto =>
      have ne : StatementKind.insertInto ≠ .select := by decide
      simp only [read, lead]
      refine routed_mapError ne leads fun s made => ?_
      obtain ⟨_, _, _, _, rfl⟩ := readInsertInto_eq_ok made
      rfl
    | dropTable =>
      have ne : StatementKind.dropTable ≠ .select := by decide
      simp only [read, lead]
      refine routed_mapError ne leads fun s made => ?_
      obtain ⟨name, rfl⟩ := readDropTable_eq_ok made
      rfl
    | select =>
      by_cases spelled : ∃ p : QueryText, p.WellFormed ∧ p.text = strip sql
      · obtain ⟨p, formed, text⟩ := spelled
        rw [read_eq_select_iff.2 ⟨p, formed, text, rfl⟩]
        exact .read leads
      · have other : ∀ p : QueryText, p.WellFormed → p.text ≠ strip sql :=
          fun p formed text => spelled ⟨p, formed, text⟩
        rw [read_of_not_query settings leads other]
        exact .wide ⟨⟨rest, leads⟩, other⟩

/-- The keywords of a kind lead to a statement of that kind or to an error that names it. -/
lemma Routed.of_leads {settings : Settings} {text rest : Text} {kind : StatementKind}
    {reading : Except Error Statement} (h : Routed settings text reading) (ne : kind ≠ .select)
    (leads : Leads kind.keywords text rest) :
    (∃ s, reading = .ok s ∧ s.kind = kind) ∨ ∃ defect, reading = .error (.malformed kind defect) := by
  cases h with
  | read leads' => exact .inl ⟨_, rfl, (StatementKind.leads_unique leads' leads).1⟩
  | malformed _ leads' =>
    obtain ⟨rfl, -⟩ := StatementKind.leads_unique leads' leads
    exact .inr ⟨_, rfl⟩
  | wide wide =>
    obtain ⟨⟨_, leads'⟩, _⟩ := wide
    exact absurd (StatementKind.leads_unique leads leads').1 ne
  | file unled _ => exact absurd leads (unled _ _)
  | unrecognized unled _ => exact absurd leads (unled _ _)

/-- The texts that only a fuller engine could run are refused with the advice to use one. -/
lemma unsupported_iff {settings : Settings} {sql : Text} :
    Unsupported settings (strip sql) ↔
      ∃ feature, read settings sql = .error (.unsupported feature settings.guidance) := by
  constructor
  · intro h
    cases h with
    | wide wide =>
      obtain ⟨⟨_, leads⟩, other⟩ := wide
      exact ⟨_, read_of_not_query settings leads other⟩
    | @file function unled file =>
      refine ⟨.fileFunction function, ?_⟩
      simp only [read, StatementKind.leading?_eq_none_iff.2 unled, unrouted, file]
  · rintro ⟨feature, eq⟩
    have routed := read_routed settings sql
    rw [eq] at routed
    cases routed with
    | wide wide => exact .wide wide
    | file unled file => exact .file unled file

/-- An error of reading that is about what is supported has the advice. -/
lemma isUnsupported_of_read {settings : Settings} {sql : Text} {e : Error}
    (h : read settings sql = .error e) (unsupported : e.isUnsupported) :
    ∃ feature, e = .unsupported feature settings.guidance := by
  obtain ⟨_, _, rfl⟩ | ⟨feature, rfl⟩ | rfl := read_eq_error h
  · cases unsupported
  · exact ⟨feature, rfl⟩
  · cases unsupported

end Statement

namespace Database
open Statement (Unled Unsupported read strip)
open Text (Leads)

/-- Running a statement that was read fails only for what the tables are. -/
lemma run_eq_error {db : Database} {s : Statement} {e : Error} (h : (db.run s).1 = .error e) :
    (∃ name, e = .unknownTable name) ∨ (∃ name expected actual, e = .columnCount name expected actual) ∨
      ∃ name column, e = .unknownColumn name column := by
  cases s with
  | createTable name columns => cases h
  | insertInto name rows =>
    obtain answer | answer | ⟨t, n, _, answer⟩ := db.insertInto_answer name rows
    · cases answer.symm.trans h
    · cases answer.symm.trans h
      exact .inl ⟨name, rfl⟩
    · cases answer.symm.trans h
      exact .inr (.inl ⟨_, _, n, rfl⟩)
  | select q =>
    rw [run] at h
    cases found : db.table? q.table with
    | none =>
      cases (select_of_none found).symm.trans h
      exact .inl ⟨q.table, rfl⟩
    | some t =>
      have answer : q.answer t = .error e := (select_of_some found).symm.trans h
      unfold Query.answer at answer
      split at answer
      · next e' lacking =>
        cases answer
        obtain ⟨_, name, _, _, _, _, rfl⟩ := Selection.places_eq_error_iff.1 lacking
        exact .inr (.inr ⟨t.name, name, rfl⟩)
      · cases answer
  | dropTable name =>
    rw [run, dropTable] at h
    cases found : db.table? name with
    | none =>
      rw [table_eq_error found] at h
      cases h
      exact .inl ⟨name, rfl⟩
    | some t =>
      rw [table_eq_ok found] at h
      cases h

/-- No statement that was read fails for lack of support. -/
lemma isUnsupported_of_run {db : Database} {s : Statement} {e : Error}
    (h : (db.run s).1 = .error e) : e.isUnsupported = false := by
  obtain ⟨_, rfl⟩ | ⟨_, _, _, rfl⟩ | ⟨_, _, rfl⟩ := run_eq_error h
  · rfl
  · rfl
  · rfl

/-- The errors that a text can give under some settings: when it is read, when a database with these
settings executes it, and when such a database is asked it as a query. -/
inductive Refused (settings : Settings) (sql : Text) (e : Error) : Prop where
  | reading :
    Statement.read settings sql = .error e →
    Refused settings sql e
  | executing {db : Database} :
    db.settings = settings →
    (db.execute sql).1 = .error e →
    Refused settings sql e
  | asking {db : Database} :
    db.settings = settings →
    db.query sql = .error e →
    Refused settings sql e

/-- An error that does not come from reading is not about what is supported. -/
lemma Refused.read_or {settings : Settings} {sql : Text} {e : Error} (h : Refused settings sql e) :
    read settings sql = .error e ∨ (∃ s, read settings sql = .ok s) ∧ e.isUnsupported = false := by
  cases h with
  | reading eq => exact .inl eq
  | @executing db same eq =>
    subst same
    unfold Database.execute at eq
    cases reading : read db.settings sql with
    | error e' =>
      rw [reading] at eq
      cases eq
      exact .inl rfl
    | ok s =>
      rw [reading] at eq
      exact .inr ⟨⟨s, rfl⟩, isUnsupported_of_run eq⟩
  | @asking db same eq =>
    subst same
    unfold Database.query at eq
    cases reading : read db.settings sql with
    | error e' =>
      rw [reading] at eq
      cases eq
      exact .inl rfl
    | ok s =>
      rw [reading] at eq
      refine .inr ⟨⟨s, rfl⟩, ?_⟩
      cases s with
      | select q => exact @isUnsupported_of_run db (.select q) e eq
      | createTable name columns => cases eq; rfl
      | insertInto table rows => cases eq; rfl
      | dropTable name => cases eq; rfl

/-- Callers may turn to a fuller engine for exactly the texts that only such an engine could run: these are
refused at once, by reading, executing and asking alike, with the advice to do so, and no other error has
this class. Of the remaining texts, those that start with the keywords of a kind are read as that kind or
refused in its name, and those that start with no such keywords are refused as they stand. Reading never
complains about a table. -/
theorem refused_classified (settings : Settings) (sql : Text) :
    (∀ e, Refused settings sql e →
      (e.isUnsupported ↔ Unsupported settings (strip sql)) ∧
      (e.isUnsupported → ∃ feature, e = .unsupported feature settings.guidance)) ∧
    (Unsupported settings (strip sql) →
      ∃ e, e.isUnsupported ∧ read settings sql = .error e ∧
        ∀ db : Database, db.settings = settings →
          db.execute sql = (.error e, db) ∧ db.query sql = .error e) ∧
    (∀ (kind : StatementKind) rest, kind ≠ .select → Leads kind.keywords (strip sql) rest →
      (∃ s, read settings sql = .ok s ∧ s.kind = kind) ∨
        ∃ defect, read settings sql = .error (.malformed kind defect)) ∧
    (Unled (strip sql) → settings.fileFunction? (strip sql) = none →
      read settings sql = .error (.unrecognized (strip sql))) ∧
    ∀ e, read settings sql = .error e →
      (∀ name, e ≠ .unknownTable name) ∧ (∀ name column, e ≠ .unknownColumn name column) ∧
        ∀ name expected actual, e ≠ .columnCount name expected actual := by
  have routed := Statement.read_routed settings sql
  refine ⟨?classes, ?unsupported, ?kinds, ?unrecognized, ?tables⟩
  case classes =>
    intro e refused
    obtain eq | ⟨⟨s, ok⟩, supported⟩ := refused.read_or
    · refine ⟨?_, Statement.isUnsupported_of_read eq⟩
      rw [Statement.unsupported_iff, eq]
      constructor
      · intro unsupported
        obtain ⟨feature, rfl⟩ := Statement.isUnsupported_of_read eq unsupported
        exact ⟨feature, rfl⟩
      · rintro ⟨feature, same⟩
        cases same
        rfl
    · have no : ¬ e.isUnsupported := Bool.eq_false_iff.1 supported
      refine ⟨iff_of_false no fun unsupported => ?_, fun unsupported => absurd unsupported no⟩
      obtain ⟨feature, eq⟩ := Statement.unsupported_iff.1 unsupported
      cases ok.symm.trans eq
  case unsupported =>
    intro unsupported
    obtain ⟨feature, eq⟩ := Statement.unsupported_iff.1 unsupported
    refine ⟨_, rfl, eq, ?_⟩
    rintro db rfl
    rw [execute, query, eq]
    exact ⟨rfl, rfl⟩
  case kinds => exact fun kind rest ne leads => routed.of_leads ne leads
  case unrecognized =>
    intro unled none
    simp only [Statement.read, StatementKind.leading?_eq_none_iff.2 unled, Statement.unrouted, none]
  case tables =>
    intro e eq
    have cls := Statement.errorClass_of_read eq
    refine ⟨?_, ?_, ?_⟩
    · rintro name rfl
      rcases cls with cls | cls <;> cases cls
    · rintro name column rfl
      rcases cls with cls | cls <;> cases cls
    · rintro name expected actual rfl
      rcases cls with cls | cls <;> cases cls

/-- A text that reads a file, a removal without a name, and a text of no kind. -/
theorem refused_classified_sample :
    (∃ e, e.isUnsupported ∧ read {} "READ_CSV ('a.csv');".toList = .error e) ∧
      (∃ defect, read {} "Drop\tTABLE".toList = .error (.malformed .dropTable defect)) ∧
      read {} " droptable t ".toList = .error (.unrecognized "droptable t".toList) := by
  have unled : ∀ sql ∈ ["READ_CSV ('a.csv');".toList, " droptable t ".toList], Unled (strip sql) := by
    have none : ∀ sql ∈ ["READ_CSV ('a.csv');".toList, " droptable t ".toList],
        StatementKind.leading? (strip sql) = none := by
      decide +kernel
    exact fun sql mem => StatementKind.leading?_eq_none_iff.1 (none sql mem)
  obtain ⟨-, file, -⟩ := refused_classified {} "READ_CSV ('a.csv');".toList
  obtain ⟨-, -, drop, -⟩ := refused_classified {} "Drop\tTABLE".toList
  obtain ⟨-, -, -, unknown, -⟩ := refused_classified {} " droptable t ".toList
  refine ⟨?_, ?_, ?_⟩
  · have found : Settings.fileFunction? {} (strip "READ_CSV ('a.csv');".toList) =
        some "read_csv".toList := by
      decide +kernel
    obtain ⟨e, cls, eq, -⟩ := file (.file (unled _ (by decide)) found)
    exact ⟨e, cls, eq⟩
  · have leads : Leads StatementKind.dropTable.keywords (strip "Drop\tTABLE".toList) [] :=
      StatementKind.leading?_eq_some_iff.1 (by decide +kernel)
    obtain ⟨s, eq, -⟩ | defect := drop .dropTable [] (by decide) leads
    · have none : Statement.readDropTable [] = .error .noTableName := by decide +kernel
      simp only [Statement.read, StatementKind.leading?_eq_some_iff.2 leads, none] at eq
      cases eq
    · exact defect
  · have stripped : strip " droptable t ".toList = "droptable t".toList := by decide +kernel
    have none : Settings.fileFunction? {} (strip " droptable t ".toList) = none := by decide +kernel
    rw [← stripped]
    exact unknown (unled _ (by decide)) none

end Database

end Tabular
