import Tabular.Proofs.Scan.Cuts
import Tabular.Proofs.Shell.Visits

/-!
# What a session submits

A session submits what it collected at the first line that ends in a semicolon, whatever is quoted
there. So a submission ends in a quoted part exactly when its last semicolon is quoted
(`Session.quoted_submission`), and a literal with a semicolon at the end of a line is cut in two.
-/

namespace Tabular.Shell.Session

/-- The lines that are not blank, trimmed. -/
def inputs (lines : List Text) : List Text := (lines.map Text.trim).filter (!·.isEmpty)

/-- Inputs as a session collects them. -/
def collected (inputs : List Text) : Text := inputs.flatMap (· ++ ['\n'])

/-- A blank line adds no input. -/
lemma inputs_cons_of_blank {line : Text} (blank : line.trim = []) (lines : List Text) :
    inputs (line :: lines) = inputs lines := by
  unfold inputs
  rw [List.map_cons, blank, List.filter_cons_of_neg (by simp)]

/-- Any other line adds one input, without the blanks around it. -/
lemma inputs_cons {line : Text} (ne : line.trim ≠ []) (lines : List Text) :
    inputs (line :: lines) = line.trim :: inputs lines := by
  unfold inputs
  rw [List.map_cons, List.filter_cons_of_pos (by simpa using ne)]

/-- The inputs of later lines are the last inputs. -/
lemma inputs_suffix (line : Text) (lines : List Text) : inputs lines <:+ inputs (line :: lines) := by
  by_cases blank : line.trim = []
  · exact ⟨[], (inputs_cons_of_blank blank lines).symm⟩
  · exact ⟨[line.trim], (inputs_cons blank lines).symm⟩

/-- One more input is collected with a newline behind it. -/
lemma collected_concat (before : List Text) (input : Text) :
    collected (before ++ [input]) = collected before ++ input ++ ['\n'] := by
  simp [collected]

/-- Nothing is pending exactly when no input was collected. -/
lemma collected_eq_nil_iff {before : List Text} : collected before = [] ↔ before = [] := by
  cases before with
  | nil => simp [collected]
  | cons input before => simp [collected]

/-- Whatever a session submits is made of consecutive inputs, the pending ones first, of which the last one
and no other ends in a semicolon. -/
lemma exists_inputs_of_mem {console : Console} {s : Session} {pending : List Text} {lines : List Text}
    {x : Submission} (eq : s.pending = collected pending)
    (unfinished : ∀ input ∈ pending, input.getLast? ≠ some ';')
    (mem : x ∈ s.submissions console lines) :
    ∃ before last, before ++ [last ++ [';']] <:+: pending ++ inputs lines ∧
      (∀ input ∈ before, input.getLast? ≠ some ';') ∧
      x.script = collected (before ++ [last ++ [';']]) := by
  -- the inputs that are pending are carried along
  induction lines generalizing s pending with
  | nil => cases mem
  | cons line lines ih =>
    obtain ⟨fresh, -, command⟩ | ⟨blank, skip⟩ | ⟨ne, unended, collect⟩ | ⟨ended, submit⟩ :=
      s.action_cases line
    · have none : pending = [] := collected_eq_nil_iff.1 (eq ▸ fresh)
      obtain ⟨before, last, part, rest⟩ :=
        ih eq unfinished (mem_submissions_of_idle (.inl command) mem)
      rw [none, List.nil_append] at part ⊢
      exact ⟨before, last, part.trans (inputs_suffix line lines).isInfix, rest⟩
    · rw [inputs_cons_of_blank blank]
      exact ih eq unfinished (mem_submissions_of_idle (.inr skip) mem)
    · rw [(step_of_collect console lines collect).2.1] at mem
      rw [inputs_cons ne, List.append_cons]
      refine ih ?_ ?_ mem
      · rw [collected_concat, ← eq]
      · simpa [or_imp, forall_and] using ⟨unfinished, unended⟩
    · obtain ⟨last, ends⟩ := List.getLast?_eq_some_iff.1 ended
      have ne : line.trim ≠ [] := by simp [ends]
      rw [inputs_cons ne, List.append_cons]
      obtain rfl | mem := mem_submissions_of_submit submit mem
      · refine ⟨pending, last, ?_, unfinished, ?_⟩
        · rw [ends]
          exact (List.prefix_append _ _).isInfix
        · rw [← ends, collected_concat, eq]
      · have nothing : ∀ input ∈ ([] : List Text), input.getLast? ≠ some ';' := nofun
        obtain ⟨before, last', part, rest⟩ := ih rfl nothing mem
        exact ⟨before, last', part.trans (List.suffix_append _ _).isInfix, rest⟩

/-- A session that starts with nothing collected submits consecutive inputs, of which the last one and
no other ends in a semicolon. The submission ends in a quoted part exactly when that semicolon is
quoted. -/
theorem quoted_submission (console : Console) {s : Session} (fresh : s.pending = [])
    {lines : List Text} {x : Submission} (mem : x ∈ s.submissions console lines) :
    ∃ before last, before ++ [last ++ [';']] <:+: inputs lines ∧
      (∀ input ∈ before, input.getLast? ≠ some ';') ∧
      x.script = collected (before ++ [last ++ [';']]) ∧
      (Scan.start.after false x.script).quoted =
        (Scan.start.after false (collected before ++ last)).quoted := by
  have nothing : ∀ input ∈ ([] : List Text), input.getLast? ≠ some ';' := nofun
  obtain ⟨before, last, part, unfinished, script⟩ := exists_inputs_of_mem fresh nothing mem
  refine ⟨before, last, part, unfinished, script, ?_⟩
  rw [script, collected_concat, Scan.quoted_concat Scan.ordinary_newline, ← List.append_assoc,
    Scan.quoted_concat Scan.ordinary_semicolon]

/-- A console that writes grids and takes tables to take up nothing. -/
def sampleConsole : Console := ⟨.grid, fun _ => 0⟩

/-- A literal on two lines, the first of which ends in a semicolon. -/
def sampleLines : List Text :=
  ["create table t (a);".toList, "insert into t values ('x;".toList, "y');".toList]

/-- The first line of the literal is submitted, and its semicolon is quoted. -/
theorem quoted_submission_sample :
    ∃ before last, before ++ [last ++ [';']] <:+: inputs sampleLines ∧
      (∀ input ∈ before, input.getLast? ≠ some ';') ∧
      "insert into t values ('x;\n".toList = collected (before ++ [last ++ [';']]) ∧
      (Scan.start.after false "insert into t values ('x;\n".toList).quoted =
        (Scan.start.after false (collected before ++ last)).quoted := by
  have first : ({} : Session).action "create table t (a);".toList =
      .submit "create table t (a);\n".toList := by
    decide +kernel
  have second : ∀ db, ({ db } : Session).action "insert into t values ('x;".toList =
      .submit "insert into t values ('x;\n".toList := by
    intro db
    rfl
  have mem : ⟨(({} : Database).executeScript "create table t (a);\n".toList).2,
      "insert into t values ('x;\n".toList⟩ ∈ ({} : Session).submissions sampleConsole sampleLines := by
    have printed : (report .grid
        (({} : Database).executeScript "create table t (a);\n".toList).1).code = 0 := by
      decide +kernel
    rw [sampleLines, (step_of_submit sampleConsole _ first printed).2.1, List.mem_cons]
    exact .inr (mem_submissions_self (second _))
  exact quoted_submission sampleConsole rfl mem

/-- The literal on two lines is submitted in two parts, each of which ends in a quoted part and is
refused; the same lines are accepted as one script. -/
theorem submissions_cut_literal :
    ((({} : Session).submissions sampleConsole sampleLines).map fun x =>
      (x.script, (Scan.start.after false x.script).quoted)) =
        [("create table t (a);\n".toList, false),
          ("insert into t values ('x;\n".toList, true),
          ("y');\n".toList, true)] ∧
    (({} : Session).submissions sampleConsole sampleLines).map Submission.answer =
      [.ok [.empty],
        .error ⟨0, "insert into t values ('x;".toList,
          .malformed .insertInto (.tuples .openQuote)⟩,
        .error ⟨0, "y');".toList, .unrecognized "y')".toList⟩] ∧
    (({} : Database).executeScript (['\n'].intercalate sampleLines)).1 = .ok [.empty, .empty] := by
  decide +kernel

end Tabular.Shell.Session
