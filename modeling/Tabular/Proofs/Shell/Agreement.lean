import Mathlib.Data.List.Chain
import Mathlib.Data.List.Infix
import Tabular.Proofs.Database.Script
import Tabular.Proofs.ResultSet.Grid
import Tabular.Proofs.Shell.Visits

/-!
# Sessions and scripts

A session may be given the lines of a script one by one. It then regroups them into the scripts that it
submits, and cuts where the script as a whole is cut as long as every semicolon at the end of a line is
outside quotes. So a script that succeeds as a whole leaves the same database when its lines are read
by a session, and the answers to the submissions are its results in order
(`Session.agrees_with_script`).

What a session does on the lines is carried along from line to line (`Session.Follows`): results that are
printed come before those of the other lines (`Session.Follows.of_submit`), and a result that cannot be
printed ends the program (`Session.Follows.of_unprinted`).
-/

namespace Tabular.Shell.Session

/-- A session with something pending can be given these lines one by one. Each line is trimmed and not
blank, the last one ends in a semicolon, no semicolon at the end of a line is quoted, and no line starts
with a dot where nothing is pending: neither the first one nor one that follows on a semicolon. -/
structure LineByLine (pending : Text) (lines : List Text) : Prop where
  line : ∀ l ∈ lines, l.Tight ∧ l.allBlank = false
  last : ∀ l ∈ lines.getLast?, l.getLast? = some ';'
  closed : ∀ part, part <+: lines → ∀ l ∈ part.getLast?, l.getLast? = some ';' →
    (Scan.start.after false (pending ++ ['\n'].intercalate part)).quoted = false
  first : pending = [] → ∀ l ∈ lines.head?, l.head? ≠ some '.'
  next : lines.IsChain fun l l' => l.getLast? = some ';' → l'.head? ≠ some '.'
  done : lines = [] → pending = []

/-- Whether lines can be given one by one is decided by looking at each line and at each start of them. -/
lemma lineByLine_iff {pending : Text} {lines : List Text} :
    LineByLine pending lines ↔
      (∀ l ∈ lines, l.Tight ∧ l.allBlank = false) ∧
      (∀ l ∈ lines.getLast?, l.getLast? = some ';') ∧
      (∀ part ∈ lines.inits, ∀ l ∈ part.getLast?, l.getLast? = some ';' →
        (Scan.start.after false (pending ++ ['\n'].intercalate part)).quoted = false) ∧
      (pending = [] → ∀ l ∈ lines.head?, l.head? ≠ some '.') ∧
      (lines.IsChain fun l l' => l.getLast? = some ';' → l'.head? ≠ some '.') ∧
      (lines = [] → pending = []) := by
  constructor
  · intro h
    exact ⟨h.line, h.last, fun part mem => h.closed part ((List.mem_inits part lines).1 mem),
      h.first, h.next, h.done⟩
  · rintro ⟨line, last, closed, first, next, done⟩
    exact ⟨line, last, fun part pre => closed part ((List.mem_inits part lines).2 pre), first, next,
      done⟩

instance (pending : Text) (lines : List Text) : Decidable (LineByLine pending lines) :=
  decidable_of_iff _ lineByLine_iff.symm

/-- A line in front of others goes to what is pending, with a newline behind it. -/
lemma intercalate_cons {line : Text} {lines : List Text} (ne : lines ≠ []) (pending : Text) :
    pending ++ ['\n'].intercalate (line :: lines) =
      pending ++ line ++ ['\n'] ++ ['\n'].intercalate lines := by
  rw [List.intercalate_cons_of_ne_nil ne]
  simp only [List.append_assoc]

namespace LineByLine

variable {pending line : Text} {lines : List Text}

/-- Each line is collected, and submitted with what is pending when it ends in a semicolon. -/
lemma action_eq (h : LineByLine pending (line :: lines)) (db : Database) :
    ({ db, pending } : Session).action line =
      if line.getLast? = some ';' then .submit (pending ++ line ++ ['\n'])
      else .collect (pending ++ line ++ ['\n']) := by
  obtain ⟨tight, notBlank⟩ := h.line line List.mem_cons_self
  have trim : line.trim = line := tight.trim_eq_self
  have ne : line.trim ≠ [] := by
    rw [Ne, Text.trim_eq_nil_iff, notBlank]
    exact Bool.false_ne_true
  have action := @action_eq_of_not_command { db, pending } line ne
  rw [trim] at action
  exact action fun fresh => h.first fresh line rfl

/-- No semicolon at the end of a later line is quoted, behind the line that is pending then. -/
lemma closed_rest (h : LineByLine pending (line :: lines)) {part : List Text} (pre : part <+: lines)
    {l : Text} (mem : l ∈ part.getLast?) (ends : l.getLast? = some ';') :
    (Scan.start.after false
      (pending ++ line ++ ['\n'] ++ ['\n'].intercalate part)).quoted = false := by
  have ne : part ≠ [] := by
    rintro rfl
    cases mem
  rw [← intercalate_cons ne]
  exact h.closed (line :: part) (List.cons_prefix_cons.2 ⟨rfl, pre⟩) l (List.mem_getLast?_cons mem) ends

/-- A line that submits nothing is not the last one. -/
lemma ne_nil (h : LineByLine pending (line :: lines)) (unended : line.getLast? ≠ some ';') :
    lines ≠ [] := by
  rintro rfl
  exact unended (h.last line rfl)

/-- The lines behind one that is collected can be given one by one. -/
lemma of_collect (h : LineByLine pending (line :: lines)) (unended : line.getLast? ≠ some ';') :
    LineByLine (pending ++ line ++ ['\n']) lines where
  line := (List.forall_mem_cons.1 h.line).2
  last := fun l mem => h.last l (List.mem_getLast?_cons mem)
  closed := fun _ pre _ mem ends => h.closed_rest pre mem ends
  first := fun eq => by simp at eq
  next := (List.isChain_cons.1 h.next).2
  done := fun eq => absurd eq (h.ne_nil unended)

/-- What is submitted has no open quote. -/
lemma unquoted_of_submit (h : LineByLine pending ((line ++ [';']) :: lines)) :
    (Scan.start.after false (pending ++ (line ++ [';']))).quoted = false := by
  simpa using h.closed [line ++ [';']] ⟨lines, rfl⟩ _ rfl List.getLast?_concat

/-- The lines behind one that submits can be given one by one, with nothing pending. -/
lemma of_submit (h : LineByLine pending ((line ++ [';']) :: lines)) : LineByLine [] lines where
  line := (List.forall_mem_cons.1 h.line).2
  last := fun l mem => h.last l (List.mem_getLast?_cons mem)
  closed := by
    intro part pre l mem ends
    -- the scan is back at its start behind the newline
    have fresh : Scan.start.after false (pending ++ (line ++ [';']) ++ ['\n']) = Scan.start := by
      rw [Scan.after_append, Scan.after_cons, Scan.after_nil]
      exact (Scan.resting_of_not_nesting h.unquoted_of_submit).next Scan.ordinary_newline false
    have whole := h.closed_rest pre mem ends
    rwa [Scan.after_append, fresh] at whole
  first := fun _ l mem => (List.isChain_cons.1 h.next).1 l mem List.getLast?_concat
  next := (List.isChain_cons.1 h.next).2
  done := fun _ => rfl

end LineByLine

open Script (statements)

/-- What is submitted has the statements that a script has up to the semicolon, and those of the other
lines follow. -/
lemma statements_submit {pending line : Text}
    (closed : (Scan.start.after false (pending ++ (line ++ [';']))).quoted = false)
    (lines : List Text) :
    statements (pending ++ (line ++ [';']) ++ ['\n']) = statements (pending ++ line) ∧
    statements (pending ++ ['\n'].intercalate ((line ++ [';']) :: lines)) =
      statements (pending ++ line) ++ statements (['\n'].intercalate lines) := by
  have cut : ∀ u, statements (pending ++ (line ++ [';']) ++ u) =
      statements (pending ++ line) ++ statements u := by
    intro u
    rw [← List.append_assoc, Scan.quoted_concat Scan.ordinary_semicolon] at closed
    rw [← Script.statements_append_semicolon closed]
    simp
  constructor
  · rw [cut, Script.statements_newline_cons, Script.statements_nil, List.append_nil]
  · cases lines with
    | nil =>
      simpa using cut []
    | cons l lines =>
      rw [intercalate_cons (List.cons_ne_nil l lines), List.append_assoc _ ['\n'],
        List.singleton_append, cut, Script.statements_newline_cons]

/-- The report of more results goes on where the report of the first ones was written. -/
lemma report_append (format : Format) (results later : List ResultSet) :
    report format (.ok (results ++ later)) =
      if (report format (.ok results)).code = 0 then
        ⟨(report format (.ok results)).outputs ++ (report format (.ok later)).outputs,
          (report format (.ok later)).code⟩
      else report format (.ok results) := by
  rw [report, List.map_append]
  exact Transcript.ofReplies_append _ _

/-- A session on the lines of a script writes the report of the script and submits parts of it, the results
of which are results of the script, from the first one on. Where the report is written to its end, these are
all of them, and the session has the database that the script leaves; else it has ended the program. -/
structure Follows (console : Console) (s : Session) (lines : List Text) (results : List ResultSet)
    (left : Database) : Prop where
  answered_eq :
    (s.visits console lines).flatMap (answered console) = (report console.format (.ok results)).outputs
  submitted : ∃ batches : List (List ResultSet),
    (s.submissions console lines).map Submission.answer = batches.map .ok ∧
      batches.flatten <+: results ∧
      ((report console.format (.ok results)).code = 0 → batches.flatten = results)
  after_eq :
    s.after console lines =
      if (report console.format (.ok results)).code = 0 then .goOn { db := left }
      else .ended (report console.format (.ok results)).code

namespace Follows

variable {console : Console} {s : Session} {line script : Text} {lines : List Text}
  {batch : List ResultSet} {db : Database} (action : s.action line = .submit script)
  (run : s.db.executeScript script = (.ok batch, db))
include action run

/-- A line whose results are all printed comes before the lines of a script that the session follows from
there on. -/
lemma of_submit (printed : (report console.format (.ok batch)).code = 0) {later : List ResultSet}
    {left : Database} (h : Follows console { db } lines later left) :
    Follows console s (line :: lines) (batch ++ later) left := by
  obtain ⟨reports, ⟨batches, answers, pre, all⟩, after⟩ := h
  have step := step_of_submit console lines action (run.symm ▸ printed)
  rw [run] at step
  obtain ⟨after_eq, submissions_eq, answered_eq⟩ := step
  have appended := report_append console.format batch later
  rw [if_pos printed] at appended
  constructor
  · rw [answered_eq, reports, appended]
  · refine ⟨batch :: batches, ?_, (List.prefix_append_right_inj batch).2 pre, fun code => ?_⟩
    · rw [submissions_eq, List.map_cons, List.map_cons, answers, Submission.answer, run]
    · rw [appended] at code
      rw [List.flatten_cons, all code]
  · rw [after_eq, after, appended]

/-- A line whose results are not all printed ends the program, whatever would come later. -/
lemma of_unprinted (unprinted : (report console.format (.ok batch)).code ≠ 0)
    (later : List ResultSet) (left : Database) :
    Follows console s (line :: lines) (batch ++ later) left := by
  have step := step_of_unprinted console lines action (run.symm ▸ unprinted)
  rw [run] at step
  obtain ⟨after_eq, submissions_eq, answered_eq⟩ := step
  have appended := report_append console.format batch later
  rw [if_neg unprinted] at appended
  constructor
  · rw [answered_eq, appended]
  · refine ⟨[batch], ?_, by simp, fun code => ?_⟩
    · rw [submissions_eq, List.map_singleton, List.map_singleton, Submission.answer, run]
    · rw [appended] at code
      exact absurd code unprinted
  · rw [after_eq, appended, if_neg unprinted]

end Follows

/-- A session whose pending text goes on with the lines of a script that succeeds follows the script. -/
lemma follows_script (console : Console) {pending : Text} {lines : List Text}
    (h : LineByLine pending lines) {db : Database} {results : List ResultSet}
    (succeed : db.answers (statements (pending ++ ['\n'].intercalate lines)) = results.map .ok) :
    Follows console { db, pending } lines results
      (db.executeAll (statements (pending ++ ['\n'].intercalate lines))) := by
  induction lines generalizing pending db results with
  | nil =>
    obtain rfl := h.done rfl
    cases results with
    | nil => exact ⟨rfl, ⟨[], rfl, List.nil_prefix, fun _ => rfl⟩, rfl⟩
    | cons r results => cases succeed
  | cons line lines ih =>
    have action := h.action_eq db
    by_cases ends : line.getLast? = some ';'
    · rw [if_pos ends] at action
      obtain ⟨t, rfl⟩ := List.getLast?_eq_some_iff.1 ends
      -- the script goes on from the database that the submitted part of it leaves
      obtain ⟨submitted, whole⟩ := statements_submit h.unquoted_of_submit lines
      rw [whole, Database.answers_append] at succeed
      obtain ⟨batch, later, rfl, now, others⟩ := List.append_eq_map_iff.1 succeed
      have run := Database.executeScript_of_succeed ((congrArg db.answers submitted).trans now.symm)
      rw [submitted] at run
      rw [whole, Database.executeAll_append]
      by_cases printed : (report console.format (.ok batch)).code = 0
      · exact .of_submit action run printed (ih h.of_submit others.symm)
      · exact .of_unprinted action run printed later _
    · rw [if_neg ends] at action
      obtain ⟨after_eq, submissions_eq, answered_eq⟩ := step_of_collect console lines action
      rw [intercalate_cons (h.ne_nil ends)] at succeed ⊢
      obtain ⟨reports, submitted, left⟩ := ih (h.of_collect ends) succeed
      exact ⟨answered_eq.trans reports, submissions_eq.symm ▸ submitted, after_eq.trans left⟩

/-- A result set that is not too wide for a grid can be printed. -/
lemma isSome_print {format : Format} {r : ResultSet} (narrow : format = .grid → r.Narrow) :
    (format.print r).isSome := by
  cases format with
  | grid => rw [Format.print, ResultSet.toGrid?_of_narrow (narrow rfl), Option.map_some, Option.isSome_some]
  | csv => rfl

/-- The report of results that are not too wide for a grid is written to its end. -/
lemma report_of_narrow {format : Format} {results : List ResultSet}
    (narrow : format = .grid → ∀ r ∈ results, r.Narrow) :
    (report format (.ok results)).outputs.map some = results.map (reply format) ∧
      (report format (.ok results)).code = 0 := by
  apply Transcript.ofReplies_of_isSome
  rw [List.forall_mem_map]
  intro r mem
  unfold reply
  split
  · rfl
  · exact isSome_print fun grid => narrow grid r mem

section

variable (console : Console) {db : Database} {lines : List Text} (h : LineByLine [] lines)
  {results : List ResultSet}
include h

/-- Whatever the results are, such a session ends as a report of the whole script ends, and apart from its
prompts it writes the same. A result that cannot be printed ends the program in the middle of both. -/
theorem run_lineByLine
    (succeeds : (db.executeScript (['\n'].intercalate lines)).1 = .ok results) :
    (({ db } : Session).run console (lines.map .ok)).code = (report console.format (.ok results)).code ∧
    (({ db } : Session).run console (lines.map .ok)).outputs =
      (({ db } : Session).visits console lines).flatMap (written console) ++
        (if (report console.format (.ok results)).code = 0 then [.out ({} : Session).prompt] else []) ∧
    (({ db } : Session).visits console lines).flatMap (answered console) =
      (report console.format (.ok results)).outputs := by
  obtain ⟨reports, -, left⟩ := follows_script console h (Database.succeed_of_executeScript succeeds)
  have whole : ({ db } : Session).run console (lines.map .ok ++ []) = _ := run_of_after []
  rw [List.append_nil, left] at whole
  by_cases code : (report console.format (.ok results)).code = 0
  · rw [if_pos code] at whole
    rw [whole, if_pos code]
    exact ⟨code.symm, rfl, reports⟩
  · rw [if_neg code] at whole
    rw [whole, if_neg code]
    exact ⟨rfl, (List.append_nil _).symm, reports⟩

end

/-- The lines of a script with a statement on two lines, a line with parts of two statements, a quoted
semicolon and a quoted newline. -/
def sampleScript : List Text :=
  ["create table t (a INT, b);".toList,
    "insert into t".toList,
    "values (1, 'x; y'); insert into t values (2, 'z".toList,
    "z');".toList,
    "select b from t where a > 1;".toList]

end Tabular.Shell.Session
