import Tabular.Proofs.Database.History
import Tabular.Proofs.Scan.Cuts

/-!
# Scripts

A script of texts that each stand alone between semicolons has these texts as its statements, whatever
blank ones stand among them (`Script.statements_intercalate`). Running it is executing them one after
another up to the first that fails (`Database.executeScript_intercalate`).
-/

namespace Tabular

namespace Script

/-- The text can stand between two semicolons: it is not blank, it closes every quote that it opens, and
each of its semicolons is quoted. -/
structure Standalone (q : Text) : Prop where
  not_blank : q.allBlank = false
  closed : (Scan.start.after false q).quoted = false
  quoted : ∀ before after, q = before ++ ';' :: after → (Scan.start.after false before).quoted = true

/-- A text is uncut when every semicolon in it is quoted. -/
lemma uncut_iff_quoted {q : Text} :
    Scan.Uncut ';' false Scan.start q ↔
      ∀ before after, q = before ++ ';' :: after →
        (Scan.start.after false before).quoted = true := by
  constructor
  · intro uncut before after eq
    simpa [Scan.cuts, Scan.toggles] using uncut before ';' after eq
  · intro quoted before c after eq
    by_cases semicolon : c = ';'
    · subst semicolon
      exact Scan.cuts_of_quoted (quoted before after eq) _
    · simp [Scan.cuts, semicolon]

/-- A text stands alone when a scan of it gives one piece and closes its quotes. -/
lemma standalone_iff {q : Text} :
    Standalone q ↔ q.allBlank = false ∧ (Scan.start.after false q).quoted = false ∧
      Scan.start.pieces ';' false q = [q] := by
  rw [Scan.pieces_eq_singleton_iff, uncut_iff_quoted]
  exact ⟨fun ⟨notBlank, closed, quoted⟩ => ⟨notBlank, closed, quoted⟩,
    fun ⟨notBlank, closed, quoted⟩ => ⟨notBlank, closed, quoted⟩⟩

instance (q : Text) : Decidable (Standalone q) := decidable_of_iff _ standalone_iff.symm

/-- The statements of a script of blank and standalone parts are the standalone ones, trimmed. -/
lemma statements_intercalate {ps qs : List Text} (alone : ∀ q ∈ qs, Standalone q)
    (parts : ps.filter (fun p => !p.allBlank) = qs) :
    statements ([';'].intercalate ps) = qs.map Text.trim := by
  have cases_part : ∀ p ∈ ps, p.allBlank ∨ Standalone p := by
    intro p mem
    cases blank : p.allBlank with
    | true => exact .inl rfl
    | false => exact .inr (alone p (parts ▸ List.mem_filter.2 ⟨mem, by simp [blank]⟩))
  have pieces : ps ≠ [] → Scan.start.pieces ';' false ([';'].intercalate ps) = ps := by
    intro ne
    refine Scan.pieces_intercalate Scan.ordinary_semicolon ne ?_ ?_
    · intro p mem
      obtain blank | alone := cases_part p mem
      · exact (Scan.passes_blanks rfl blank).uncut
      · exact uncut_iff_quoted.2 alone.quoted
    · intro p mem
      obtain blank | alone := cases_part p mem
      · exact (Scan.passes_blanks (d := ';') rfl blank).after_eq.symm ▸ Scan.resting_start
      · exact Scan.resting_of_not_nesting alone.closed
  have nonempty : ∀ p : Text, (!p.trim.isEmpty) = !p.allBlank := by
    intro p
    rw [Bool.eq_iff_iff]
    simp [Text.trim_eq_nil_iff]
  rw [statements, ← parts]
  cases ps with
  | nil => rfl
  | cons p ps =>
    rw [pieces (List.cons_ne_nil p ps), List.filter_map]
    exact congrArg (List.map Text.trim) (List.filter_congr fun p' _ => nonempty p')

@[simp] lemma statements_nil : statements [] = [] := rfl

/-- Behind a text that closes its quotes, a semicolon separates two scripts. -/
lemma statements_append_semicolon {t : Text} (closed : (Scan.start.after false t).quoted = false)
    (u : Text) : statements (t ++ ';' :: u) = statements t ++ statements u := by
  have rest := Scan.resting_of_not_nesting closed
  rw [statements, Scan.pieces_append_delimiter Scan.ordinary_semicolon rest, List.map_append,
    List.filter_append]
  rfl

/-- A line break in front of a script adds no statement. -/
lemma statements_newline_cons (t : Text) : statements ('\n' :: t) = statements t := by
  have next : Scan.start.next false '\n' = Scan.start :=
    Scan.resting_start.next Scan.ordinary_newline false
  have uncut : Scan.start.cuts ';' false '\n' = false := by decide
  obtain ⟨p, ps, eq⟩ := List.exists_cons_of_ne_nil (Scan.pieces_ne_nil ';' false Scan.start t)
  -- the newline is at the start of the first piece, where it is trimmed away
  have trimmed : Text.trim ('\n' :: p) = p.trim := Text.Padded.trim_eq ⟨['\n'], [], rfl, rfl, by simp⟩
  rw [statements, statements, Scan.pieces, next, uncut, eq]
  simp [trimmed]

/-- Statements have no blanks around them. -/
lemma map_trim_statements (t : Text) : (statements t).map Text.trim = statements t := by
  have same : ∀ q ∈ statements t, q.trim = id q := by
    intro q mem
    obtain ⟨p, -, rfl⟩ := List.mem_map.1 (List.mem_of_mem_filter mem)
    exact Text.trim_trim p
  rw [List.map_congr_left same, List.map_id]

end Script

namespace Database

/-- The answers to texts that are executed one after another. -/
def answers (db : Database) (sqls : List Text) : List (Except Error ResultSet) :=
  (db.log sqls).map LogEntry.answer

/-- All texts before this one succeed, and it fails. -/
structure FirstFailure (db : Database) (sqls before : List Text) (sql : Text) (cause : Error) :
    Prop where
  eq_append : ∃ later, sqls = before ++ sql :: later
  succeed : ∃ results : List ResultSet, db.answers before = results.map .ok
  fails : ((db.executeAll before).execute sql).1 = .error cause

/-- Blanks around a statement make no difference to its execution. -/
lemma execute_trim (db : Database) (sql : Text) : db.execute sql.trim = db.execute sql := by
  rw [execute, execute, Statement.read_trim]

/-- Behind a statement that succeeds the others run on the database that it leaves. -/
lemma executeFrom_cons_of_ok {db : Database} {sql : Text} {r : ResultSet}
    (h : (db.execute sql).1 = .ok r) (index : Nat) (sqls : List Text) :
    db.executeFrom index (sql :: sqls) =
      (((db.execute sql).2.executeFrom (index + 1) sqls).1.map (r :: ·),
        ((db.execute sql).2.executeFrom (index + 1) sqls).2) := by
  have eq : db.execute sql = (.ok r, (db.execute sql).2) := Prod.ext h rfl
  rw [executeFrom, eq]
  simp only
  cases rest : (db.execute sql).2.executeFrom (index + 1) sqls with
  | mk answer db' =>
    cases answer with
    | error e => rfl
    | ok rs => rfl

/-- A statement that fails ends the run. -/
lemma executeFrom_cons_of_error {db : Database} {sql : Text} {e : Error}
    (h : (db.execute sql).1 = .error e) (index : Nat) (sqls : List Text) :
    db.executeFrom index (sql :: sqls) = (.error ⟨index, sql, e⟩, (db.execute sql).2) := by
  have eq : db.execute sql = (.error e, (db.execute sql).2) := Prod.ext h rfl
  rw [executeFrom, eq]

/-- Statements that all succeed are all run. -/
lemma executeFrom_of_succeeds {db : Database} {qs : List Text} {results : List ResultSet}
    (h : db.answers qs = results.map .ok) (index : Nat) :
    db.executeFrom index (qs.map Text.trim) = (.ok results, db.executeAll qs) := by
  induction qs generalizing db results index with
  | nil =>
    cases results with
    | nil => rfl
    | cons _ _ => cases h
  | cons q qs ih =>
    cases results with
    | nil => cases h
    | cons r results =>
      obtain ⟨first, rest⟩ := List.cons.inj h
      have first : (db.execute q.trim).1 = .ok r := by rwa [execute_trim]
      rw [List.map_cons, executeFrom_cons_of_ok first, execute_trim, ih rest]
      rfl

/-- The first statement that fails is the last one to be run. -/
lemma executeFrom_of_fails {db : Database} {before later : List Text} {q : Text}
    {results : List ResultSet} {cause : Error} (h : db.answers before = results.map .ok)
    (fails : ((db.executeAll before).execute q).1 = .error cause) (index : Nat) :
    db.executeFrom index ((before ++ q :: later).map Text.trim) =
      (.error ⟨index + before.length, q.trim, cause⟩, db.executeAll (before ++ [q])) := by
  induction before generalizing db results index with
  | nil =>
    have fails : (db.execute q.trim).1 = .error cause := by rwa [execute_trim]
    rw [List.nil_append, List.map_cons, executeFrom_cons_of_error fails, execute_trim]
    rfl
  | cons q' before ih =>
    cases results with
    | nil => cases h
    | cons r results =>
      obtain ⟨first, rest⟩ := List.cons.inj h
      have first : (db.execute q'.trim).1 = .ok r := by rwa [execute_trim]
      rw [List.cons_append, List.map_cons, executeFrom_cons_of_ok first, execute_trim, ih rest fails,
        List.length_cons, Nat.add_right_comm, Nat.add_assoc index]
      rfl

/-- Statements that run later are answered by the database that the earlier ones leave. -/
lemma answers_append (db : Database) (before later : List Text) :
    db.answers (before ++ later) = db.answers before ++ (db.executeAll before).answers later := by
  induction before generalizing db with
  | nil => rfl
  | cons q before ih => exact congrArg (_ :: ·) (ih (db.execute q).2)

/-- Running statements in two parts is running them all. -/
lemma executeAll_append (db : Database) (before later : List Text) :
    db.executeAll (before ++ later) = (db.executeAll before).executeAll later :=
  List.foldl_append

/-- When a run succeeds, each of its statements does, with the results of the run. -/
lemma succeed_of_executeFrom {db : Database} {index : Nat} {qs : List Text}
    {results : List ResultSet} (h : (db.executeFrom index qs).1 = .ok results) :
    db.answers qs = results.map .ok := by
  induction qs generalizing db index results with
  | nil =>
    cases h
    rfl
  | cons q qs ih =>
    cases first : (db.execute q).1 with
    | error e =>
      rw [executeFrom_cons_of_error first] at h
      cases h
    | ok r =>
      rw [executeFrom_cons_of_ok first] at h
      cases rest : ((db.execute q).2.executeFrom (index + 1) qs).1 with
      | error e =>
        rw [rest] at h
        cases h
      | ok rs =>
        rw [rest] at h
        cases h
        exact congrArg₂ List.cons first (ih rest)

/-- When a script succeeds, each of its statements does, with the results of the script. -/
lemma succeed_of_executeScript {db : Database} {script : Text} {results : List ResultSet}
    (h : (db.executeScript script).1 = .ok results) :
    db.answers (Script.statements script) = results.map .ok :=
  succeed_of_executeFrom h

/-- A script whose statements all succeed executes all of them. -/
lemma executeScript_of_succeed {db : Database} {script : Text} {results : List ResultSet}
    (h : db.answers (Script.statements script) = results.map .ok) :
    db.executeScript script = (.ok results, db.executeAll (Script.statements script)) := by
  have whole := executeFrom_of_succeeds h 0
  rwa [Script.map_trim_statements] at whole

/-- Either all statements succeed or one is the first to fail. -/
lemma succeed_or_firstFailure (db : Database) (qs : List Text) :
    (∃ results : List ResultSet, db.answers qs = results.map .ok) ∨
      ∃ before q cause, db.FirstFailure qs before q cause := by
  induction qs generalizing db with
  | nil => exact .inl ⟨[], rfl⟩
  | cons q qs ih =>
    cases first : (db.execute q).1 with
    | error cause => exact .inr ⟨[], q, cause, ⟨qs, rfl⟩, ⟨[], rfl⟩, first⟩
    | ok r =>
      have answer : ∀ qs', db.answers (q :: qs') = .ok r :: (db.execute q).2.answers qs' := by
        intro qs'
        rw [← first]
        rfl
      obtain ⟨results, succeed⟩ | ⟨before, q', cause, failure⟩ := ih (db.execute q).2
      · exact .inl ⟨r :: results, by rw [answer, succeed, List.map_cons]⟩
      · obtain ⟨⟨later, rfl⟩, ⟨results, succeed⟩, fails⟩ := failure
        refine .inr ⟨q :: before, q', cause, ⟨later, rfl⟩, ⟨r :: results, ?_⟩, fails⟩
        rw [answer, succeed, List.map_cons]

/-- A script of texts that stand alone between semicolons, with any blank texts among them, is executed
text by text. When all of them succeed it gives their results; otherwise it gives the failure of the
first one that fails, and no later text is executed. -/
theorem executeScript_intercalate (db : Database) {ps qs : List Text}
    (alone : ∀ q ∈ qs, Script.Standalone q) (parts : ps.filter (fun p => !p.allBlank) = qs) :
    (∀ results : List ResultSet, db.answers qs = results.map .ok →
      db.executeScript ([';'].intercalate ps) = (.ok results, db.executeAll qs)) ∧
    (∀ before q cause, db.FirstFailure qs before q cause →
      db.executeScript ([';'].intercalate ps) =
        (.error { index := before.length, statement := q.trim, cause },
          db.executeAll (before ++ [q]))) ∧
    ((∃ results : List ResultSet, db.answers qs = results.map .ok) ∨
      ∃ before q cause, db.FirstFailure qs before q cause) := by
  have eq := Script.statements_intercalate alone parts
  refine ⟨?_, ?_, succeed_or_firstFailure db qs⟩
  · intro results succeed
    rw [executeScript, eq, executeFrom_of_succeeds succeed]
  · rintro before q cause ⟨⟨later, rfl⟩, ⟨results, succeed⟩, fails⟩
    rw [executeScript, eq, executeFrom_of_fails succeed fails, Nat.zero_add]

/-- A script with blank parts and a quoted semicolon, whose third statement fails. -/
def sampleParts : List Text :=
  [" ".toList, "create table t (a)".toList, " insert into t values ('x;y')\n".toList, [],
    "select b from t ".toList, "drop table t".toList, "\n".toList]

/-- The sample script stops at its third statement, and leaves the table that it made with its row. -/
theorem executeScript_sample :
    ((withSettings {}).executeScript ([';'].intercalate sampleParts)).1 =
      .error
        { index := 2
          statement := "select b from t".toList
          cause := .unknownColumn "t".toList "b".toList } ∧
    ((withSettings {}).executeScript ([';'].intercalate sampleParts)).2.table? "t".toList = some
      { name := "t".toList
        columns := [⟨"a".toList, "TEXT".toList⟩]
        rows := [[.text "x;y".toList]] } := by
  have main := (@executeScript_intercalate (withSettings {}) sampleParts _
    (by decide +kernel) rfl).2.1 ((sampleParts.drop 1).take 2) "select b from t ".toList
    (.unknownColumn "t".toList "b".toList)
    ⟨⟨["drop table t".toList], by decide +kernel⟩, ⟨[.empty, .empty], by decide +kernel⟩,
      by decide +kernel⟩
  rw [main]
  exact ⟨by decide +kernel, by decide +kernel⟩

end Database

end Tabular
