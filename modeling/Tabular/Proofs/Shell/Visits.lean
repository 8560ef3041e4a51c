import Mathlib.Data.List.Basic
import Tabular.Shell.Session

/-!
# What a session does line by line

A session visits its lines one by one until one of them ends it. `Session.action_cases` says once all
that a line can ask for. The transcript of a session is what its visits write (`Session.run_of_after`), and
its submissions are the scripts that it hands to the database on the way. What scripts preserve holds of the
database at every visit (`Session.visits_invariant`).

Replies are written in order up to the first one that cannot be printed (`Transcript.ofReplies_append`,
`Transcript.ofReplies_of_isSome`). Behind it the program has ended: a session goes on after a script exactly
when the whole report of it was written (`Session.step_of_submit`).
-/

namespace Tabular.Shell

namespace Transcript

/-- Replies that can all be printed are all written, and the others come after them. -/
lemma ofReplies_append (replies others : List (Option Output)) :
    ofReplies (replies ++ others) =
      if (ofReplies replies).code = 0 then
        ⟨(ofReplies replies).outputs ++ (ofReplies others).outputs, (ofReplies others).code⟩
      else ofReplies replies := by
  induction replies with
  | nil => rfl
  | cons reply replies ih =>
    cases reply with
    | none => rfl
    | some output =>
      rw [List.cons_append, ofReplies, ofReplies, ih]
      split
      · rfl
      · rfl

/-- Replies that can all be printed are written one by one, and nothing is cut short. -/
lemma ofReplies_of_isSome {replies : List (Option Output)} (h : ∀ reply ∈ replies, reply.isSome) :
    (ofReplies replies).outputs.map some = replies ∧ (ofReplies replies).code = 0 := by
  induction replies with
  | nil => exact ⟨rfl, rfl⟩
  | cons reply replies ih =>
    obtain ⟨first, others⟩ := List.forall_mem_cons.1 h
    obtain ⟨output, rfl⟩ := Option.isSome_iff_exists.1 first
    obtain ⟨written, code⟩ := ih others
    exact ⟨congrArg (some output :: ·) written, code⟩

end Transcript

/-- A script, with the database that it runs on. -/
structure Submission where
  db : Database
  script : Text

/-- What the database answers to a submission. -/
def Submission.answer (x : Submission) : Except Script.Failure (List ResultSet) :=
  (x.db.executeScript x.script).1

namespace Session

/-- A line is a command where nothing is collected and it starts with a dot; else it is blank, or collected,
or it ends in a semicolon and submits what was collected. -/
lemma action_cases (s : Session) (line : Text) :
    (s.pending = [] ∧ line.trim.head? = some '.' ∧ ∃ c, s.action line = .command c) ∨
    (line.trim = [] ∧ s.action line = .skip) ∨
    (line.trim ≠ [] ∧ line.trim.getLast? ≠ some ';' ∧
      s.action line = .collect (s.pending ++ line.trim ++ ['\n'])) ∨
    (line.trim.getLast? = some ';' ∧
      s.action line = .submit (s.pending ++ line.trim ++ ['\n'])) := by
  unfold action
  simp only
  split
  · next h =>
    rw [Bool.and_eq_true, decide_eq_true_eq, List.isEmpty_iff] at h
    exact .inl ⟨h.2, h.1, _, rfl⟩
  split
  · next h => exact .inr (.inl ⟨List.isEmpty_iff.1 h, rfl⟩)
  next h =>
  split
  · next last => exact .inr (.inr (.inr ⟨last, rfl⟩))
  · next last => exact .inr (.inr (.inl ⟨fun eq => h (List.isEmpty_iff.2 eq), last, rfl⟩))

/-- A line is a command only where nothing is collected. -/
lemma action_eq_of_not_command {s : Session} {line : Text} (ne : line.trim ≠ [])
    (h : s.pending = [] → line.trim.head? ≠ some '.') :
    s.action line =
      if line.trim.getLast? = some ';' then .submit (s.pending ++ line.trim ++ ['\n'])
      else .collect (s.pending ++ line.trim ++ ['\n']) := by
  obtain ⟨fresh, dot, -⟩ | ⟨blank, -⟩ | ⟨-, last, eq⟩ | ⟨last, eq⟩ := s.action_cases line
  · exact absurd dot (h fresh)
  · exact absurd blank ne
  · rw [if_neg last, eq]
  · rw [if_pos last, eq]

/-- The script that a line submits. -/
def submission? (s : Session) (line : Text) : Option Submission :=
  match s.action line with
  | .submit script => some ⟨s.db, script⟩
  | _ => none

/-- A line that submits a script submits it to the database of the session. -/
lemma submission?_of_submit {s : Session} {line script : Text} (h : s.action line = .submit script) :
    s.submission? line = some ⟨s.db, script⟩ := by
  rw [submission?, h]

section

variable (console : Console)

/-- The lines that a session reads, each with the session that reads it. The line that ends a session
is its last. -/
def visits (s : Session) : List Text → List (Session × Text)
  | [] => []
  | line :: lines =>
    (s, line) ::
      match (s.feed console line).2 with
      | .goOn s' => s'.visits lines
      | .ended _ => []

/-- What becomes of a session on lines. -/
def after (s : Session) : List Text → Next
  | [] => .goOn s
  | line :: lines =>
    match (s.feed console line).2 with
    | .goOn s' => s'.after lines
    | .ended code => .ended code

/-- The scripts that a session submits on its way through lines, in order. -/
def submissions (s : Session) (lines : List Text) : List Submission :=
  (s.visits console lines).filterMap fun v => v.1.submission? v.2

/-- What a visit answers. -/
def answered (v : Session × Text) : List Output := (v.1.feed console v.2).1

/-- What a visit writes, which is a prompt and its answer. -/
def written (v : Session × Text) : List Output := .out v.1.prompt :: answered console v

variable {console} {s s' : Session} {line : Text} {lines : List Text}

/-- A session that goes on after a line visits the other lines. -/
lemma visits_cons_of_goOn (h : (s.feed console line).2 = .goOn s') :
    s.visits console (line :: lines) = (s, line) :: s'.visits console lines := by
  rw [visits, h]

/-- The line that ends a session is the last one that it visits. -/
lemma visits_cons_of_ended {code : Nat} (h : (s.feed console line).2 = .ended code) :
    s.visits console (line :: lines) = [(s, line)] := by
  rw [visits, h]

/-- A line leaves the database as it is, or as the script leaves it that the line submits. -/
lemma db_of_feed (h : (s.feed console line).2 = .goOn s') :
    s'.db = s.db ∨ ∃ script, s.action line = .submit script ∧ s'.db = (s.db.executeScript script).2 := by
  unfold feed at h
  split at h
  · cases h
  · cases h
    exact .inl rfl
  · cases h
    exact .inl rfl
  · cases h
    exact .inl rfl
  · next script action =>
    simp only at h
    split at h
    · cases h
      exact .inr ⟨script, action, rfl⟩
    · cases h

/-- What scripts preserve holds of the database at every visit. -/
lemma visits_invariant {P : Database → Prop}
    (step : ∀ {db : Database} script, P db → P (db.executeScript script).2) (h : P s.db) :
    ∀ v ∈ s.visits console lines, P v.1.db := by
  induction lines generalizing s with
  | nil => exact nofun
  | cons line lines ih =>
    intro v mem
    cases next : (s.feed console line).2 with
    | ended code =>
      rw [visits_cons_of_ended next, List.mem_singleton] at mem
      rw [mem]
      exact h
    | goOn s' =>
      rw [visits_cons_of_goOn next] at mem
      obtain rfl | mem := List.mem_cons.1 mem
      · exact h
      · refine ih ?_ v mem
        obtain same | ⟨script, -, left⟩ := db_of_feed next
        · rwa [same]
        · rw [left]
          exact step script h

variable (console) in
/-- A visit that submits a script reports what the database answers to it. -/
lemma answered_of_submission? {v : Session × Text} {x : Submission} (h : v.1.submission? v.2 = some x) :
    x.db = v.1.db ∧ answered console v = (report console.format x.answer).outputs := by
  unfold submission? at h
  split at h
  · next script action =>
    cases h
    refine ⟨rfl, ?_⟩
    rw [answered, feed, action]
    rfl
  · cases h

/-- A session that goes on after a line writes its answer and then what the other lines make it write. -/
lemma run_cons_of_goOn (h : (s.feed console line).2 = .goOn s') (rest : List (Except ReadFailure Text)) :
    s.run console (.ok line :: rest) =
      ⟨written console (s, line) ++ (s'.run console rest).outputs, (s'.run console rest).code⟩ := by
  have step : s.feed console line = (answered console (s, line), .goOn s') := Prod.ext rfl h
  rw [run, step, written]

/-- The line that ends a session is the last one that is answered. -/
lemma run_cons_of_ended {code : Nat} (h : (s.feed console line).2 = .ended code)
    (rest : List (Except ReadFailure Text)) :
    s.run console (.ok line :: rest) = ⟨written console (s, line), code⟩ := by
  have step : s.feed console line = (answered console (s, line), .ended code) := Prod.ext rfl h
  rw [run, step, written]

/-- A session writes what its visits write. Then it goes on with the session after them, or the line that
ended it has ended the program. -/
theorem run_of_after (rest : List (Except ReadFailure Text)) :
    s.run console (lines.map .ok ++ rest) =
      match s.after console lines with
      | .goOn s' =>
        ⟨(s.visits console lines).flatMap (written console) ++ (s'.run console rest).outputs,
          (s'.run console rest).code⟩
      | .ended code => ⟨(s.visits console lines).flatMap (written console), code⟩ := by
  induction lines generalizing s with
  | nil => rfl
  | cons line lines ih =>
    rw [List.map_cons, List.cons_append, after]
    cases next : (s.feed console line).2 with
    | ended code =>
      rw [run_cons_of_ended next, visits_cons_of_ended next, List.flatMap_cons, List.flatMap_nil,
        List.append_nil]
    | goOn s₁ =>
      rw [run_cons_of_goOn next, visits_cons_of_goOn next, List.flatMap_cons, ih]
      cases left : s₁.after console lines with
      | goOn s' => simp only [left, List.append_assoc]
      | ended code => simp only [left]

/-- A session that goes on after a line submits what the line submits, and then the scripts of the other
lines. -/
lemma submissions_cons_of_goOn (h : (s.feed console line).2 = .goOn s') :
    s.submissions console (line :: lines) =
      (s.submission? line).toList ++ s'.submissions console lines := by
  rw [submissions, visits_cons_of_goOn h, List.filterMap_cons]
  cases s.submission? line with
  | none => rfl
  | some x => rfl

/-- Nothing is submitted behind the line that ends a session. -/
lemma submissions_cons_of_ended {code : Nat} (h : (s.feed console line).2 = .ended code) :
    s.submissions console (line :: lines) = (s.submission? line).toList := by
  rw [submissions, visits_cons_of_ended h, List.filterMap_cons]
  cases s.submission? line with
  | none => rfl
  | some x => rfl

variable (console lines) in
/-- A line that is collected is only added to what is pending. -/
lemma step_of_collect {pending : Text} (h : s.action line = .collect pending) :
    s.after console (line :: lines) = after console { s with pending } lines ∧
    s.submissions console (line :: lines) = submissions console { s with pending } lines ∧
    (s.visits console (line :: lines)).flatMap (answered console) =
      (visits console { s with pending } lines).flatMap (answered console) := by
  have step : s.feed console line = ([], .goOn { s with pending }) := by rw [feed, h]
  have next := congrArg Prod.snd step
  refine ⟨?_, ?_, ?_⟩
  · rw [after, next]
  · rw [submissions_cons_of_goOn next, submission?, h]
    rfl
  · rw [visits_cons_of_goOn next, List.flatMap_cons, answered, step]
    rfl

variable (console lines) in
/-- A line that submits a script runs it. The session goes on with the database that the script leaves and
with nothing pending, if the whole report can be printed. -/
lemma step_of_submit {script : Text} (h : s.action line = .submit script)
    (printed : (report console.format (s.db.executeScript script).1).code = 0) :
    s.after console (line :: lines) =
      after console { db := (s.db.executeScript script).2 } lines ∧
    s.submissions console (line :: lines) =
      ⟨s.db, script⟩ :: submissions console { db := (s.db.executeScript script).2 } lines ∧
    (s.visits console (line :: lines)).flatMap (answered console) =
      (report console.format (s.db.executeScript script).1).outputs ++
        (visits console { db := (s.db.executeScript script).2 } lines).flatMap (answered console) := by
  have step : s.feed console line = ((report console.format (s.db.executeScript script).1).outputs,
      .goOn { db := (s.db.executeScript script).2 }) := by
    rw [feed, h]
    simp only [printed, if_true]
  have next := congrArg Prod.snd step
  refine ⟨?_, ?_, ?_⟩
  · rw [after, next]
  · rw [submissions_cons_of_goOn next, submission?_of_submit h]
    rfl
  · rw [visits_cons_of_goOn next, List.flatMap_cons, answered, step]

variable (console lines) in
/-- Where the report of a script cannot be printed, the line that submits it ends the program. -/
lemma step_of_unprinted {script : Text} (h : s.action line = .submit script)
    (unprinted : (report console.format (s.db.executeScript script).1).code ≠ 0) :
    s.after console (line :: lines) =
      .ended (report console.format (s.db.executeScript script).1).code ∧
    s.submissions console (line :: lines) = [⟨s.db, script⟩] ∧
    (s.visits console (line :: lines)).flatMap (answered console) =
      (report console.format (s.db.executeScript script).1).outputs := by
  have step : s.feed console line = ((report console.format (s.db.executeScript script).1).outputs,
      .ended (report console.format (s.db.executeScript script).1).code) := by
    rw [feed, h]
    simp only [unprinted, if_false]
  have next := congrArg Prod.snd step
  refine ⟨?_, ?_, ?_⟩
  · rw [after, next]
  · rw [submissions_cons_of_ended next, submission?_of_submit h]
    rfl
  · rw [visits_cons_of_ended next, List.flatMap_cons, answered, step, List.flatMap_nil, List.append_nil]

/-- A line that submits a script is the first one to do so. -/
lemma mem_submissions_self {script : Text} (h : s.action line = .submit script) :
    ⟨s.db, script⟩ ∈ s.submissions console (line :: lines) := by
  rw [submissions, visits, List.filterMap_cons, submission?_of_submit h]
  exact List.mem_cons_self

/-- What is submitted from a line on that submits a script is this script, or submitted after it. -/
lemma mem_submissions_of_submit {script : Text} (h : s.action line = .submit script) {x : Submission}
    (mem : x ∈ s.submissions console (line :: lines)) :
    x = ⟨s.db, script⟩ ∨
      x ∈ submissions console { db := (s.db.executeScript script).2 } lines := by
  by_cases printed : (report console.format (s.db.executeScript script).1).code = 0
  · rw [(step_of_submit console lines h printed).2.1] at mem
    exact List.mem_cons.1 mem
  · rw [(step_of_unprinted console lines h printed).2.1] at mem
    exact .inl (List.mem_singleton.1 mem)

/-- A command and a blank line submit nothing. A command may end the session, and then nothing more is
submitted. -/
lemma mem_submissions_of_idle {x : Submission}
    (idle : (∃ c, s.action line = .command c) ∨ s.action line = .skip)
    (mem : x ∈ s.submissions console (line :: lines)) : x ∈ s.submissions console lines := by
  have none : s.submission? line = none := by
    obtain ⟨c, eq⟩ | eq := idle
    · rw [submission?, eq]
    · rw [submission?, eq]
  have next : (s.feed console line).2 = .ended 0 ∨ (s.feed console line).2 = .goOn s := by
    obtain ⟨c, eq⟩ | eq := idle
    · rw [feed, eq]
      cases c
      case quit => exact .inl rfl
      all_goals exact .inr rfl
    · rw [feed, eq]
      exact .inr rfl
  obtain next | next := next
  · rw [submissions_cons_of_ended next, none] at mem
    cases mem
  · rw [submissions_cons_of_goOn next, none] at mem
    exact mem

end

end Session

end Tabular.Shell
