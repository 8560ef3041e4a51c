import Tabular.Proofs.Database.Script

/-!
# The statements of a script

* `Script.cut_induction`: a script is one uncut text, or an uncut text that closes its quotes, a semicolon
  and a script.
* `Script.Joinable` is the normal form of a list of statements: each of them stands for itself, and only the
  last one may leave a quote open. The statements of every script have it (`Script.joinable_statements`), and
  a list that has it is what its join is split into (`Script.Joinable.statements_intercalate`).

So splitting is a homomorphism that is stable under joining again (`Script.statements_normal`).
-/

namespace Tabular

namespace Scan

variable {d : Char} {nesting : Bool}

/-- A text in two parts is uncut when the first part is and the second one is behind it. -/
lemma uncut_append_iff {s : Scan} {t u : Text} :
    Uncut d nesting s (t ++ u) ↔ Uncut d nesting s t ∧ Uncut d nesting (s.after nesting t) u := by
  constructor
  · intro h
    constructor
    · intro before c after eq
      exact h before c (after ++ u) (by rw [eq, List.append_assoc, List.cons_append])
    · intro before c after eq
      rw [← after_append]
      exact h (t ++ before) c after (by rw [eq, List.append_assoc])
  · rintro ⟨ht, hu⟩
    exact ht.append hu

/-- Blanks open and close no quote. -/
lemma quoted_after_blanks {blanks : Text} (blank : blanks.allBlank) (s : Scan) :
    (s.after nesting blanks).quoted = s.quoted := by
  induction blanks generalizing s with
  | nil => rfl
  | cons c blanks ih =>
    obtain ⟨first, rest⟩ := List.forall_mem_cons.1 (Text.allBlank_iff.1 blank)
    rw [after_cons, ih (Text.allBlank_iff.2 rest), next_of_ordinary (ordinary_of_isBlank first)]

/-- Blanks around a text do not change whether it leaves a quote open. -/
lemma quoted_after_padded (nesting : Bool) {t u : Text} (padded : Text.Padded t u) :
    (start.after nesting u).quoted = (start.after nesting t).quoted := by
  obtain ⟨left, right, hl, hr, rfl⟩ := padded
  have passed : start.after nesting left = start := (passes_blanks (d := ',') rfl hl).after_eq
  rw [after_append, quoted_after_blanks hr, after_append, passed]

/-- A text is not cut anew when the blanks around it are taken away. -/
lemma Uncut.of_padded {t u : Text} (h : Uncut d nesting start u) (notBlank : Text.isBlank d = false)
    (padded : Text.Padded t u) : Uncut d nesting start t := by
  obtain ⟨left, right, hl, hr, rfl⟩ := padded
  have passed : start.after nesting left = start := (passes_blanks notBlank hl).after_eq
  have inner := (uncut_append_iff.1 (uncut_append_iff.1 h).1).2
  rwa [passed] at inner

/-- A text is uncut, or it has a first cut. -/
lemma uncut_or_exists_cut (d : Char) (nesting : Bool) (s : Scan) (t : Text) :
    Uncut d nesting s t ∨ ∃ before after, t = before ++ d :: after ∧ Uncut d nesting s before ∧
      (s.after nesting before).cuts d nesting d = true := by
  induction t generalizing s with
  | nil => exact .inl (uncut_nil s)
  | cons c t ih =>
    cases cut : s.cuts d nesting c with
    | true =>
      obtain rfl := eq_of_cuts cut
      exact .inr ⟨[], t, rfl, uncut_nil s, cut⟩
    | false =>
      obtain uncut | ⟨before, after, rfl, uncut, later⟩ := ih (s.next nesting c)
      · exact .inl (uncut_cons_iff.2 ⟨cut, uncut⟩)
      · exact .inr ⟨c :: before, after, rfl, uncut_cons_iff.2 ⟨cut, uncut⟩, later⟩

end Scan

namespace Script
open Scan (Uncut start)

/-- A script is uncut, or it is a script behind an uncut text that closes its quotes and a semicolon. -/
@[elab_as_elim]
lemma cut_induction {motive : Text → Prop} (uncut : ∀ t, Uncut ';' false start t → motive t)
    (cut : ∀ t u, Uncut ';' false start t → (start.after false t).quoted = false → motive u →
      motive (t ++ ';' :: u)) (s : Text) : motive s := by
  obtain whole | ⟨t, u, eq, whole, cuts⟩ := Scan.uncut_or_exists_cut ';' false start s
  · exact uncut s whole
  · have closed : (start.after false t).quoted = false := by
      by_contra quoted
      rw [Scan.cuts_of_quoted (Bool.not_eq_false _ ▸ quoted)] at cuts
      cases cuts
    rw [eq]
    exact cut t u whole closed (cut_induction uncut cut u)
termination_by s.length
decreasing_by
  rw [eq, List.length_append, List.length_cons]
  omega

/-- The text is one statement: it is not empty, it has no blanks at its ends, and no semicolon cuts it. It
may leave a quote open. -/
structure IsStatement (t : Text) : Prop where
  ne_nil : t ≠ []
  tight : t.Tight
  uncut : Uncut ';' false start t

/-- Each text is one statement, and only the last one may leave a quote open. -/
inductive Joinable : List Text → Prop where
  | nil :
    Joinable []
  | last {t} :
    IsStatement t →
    Joinable [t]
  | cons {t ts} :
    IsStatement t →
    (start.after false t).quoted = false →
    Joinable ts →
    Joinable (t :: ts)

/-- An uncut text is blank and has no statement, or it has one, which is the text trimmed. -/
lemma statements_cases {t : Text} (uncut : Uncut ';' false start t) :
    t.allBlank ∧ statements t = [] ∨ IsStatement t.trim ∧ statements t = [t.trim] := by
  have whole : statements t = [t.trim].filter (!·.isEmpty) := by
    rw [statements, Scan.pieces_eq_singleton_iff.2 uncut, List.map_singleton]
  by_cases blank : t.allBlank
  · refine .inl ⟨blank, ?_⟩
    rw [whole, Text.trim_eq_nil_iff.2 blank]
    rfl
  · have ne : t.trim ≠ [] := mt Text.trim_eq_nil_iff.1 blank
    have one : IsStatement t.trim := ⟨ne, Text.tight_trim t, uncut.of_padded rfl (Text.padded_trim t)⟩
    exact .inr ⟨one, whole.trans (List.filter_eq_self.2 (by simpa using ne))⟩

/-- A statement is a script of itself alone. -/
lemma IsStatement.statements_eq {t : Text} (h : IsStatement t) : statements t = [t] := by
  have trimmed := h.tight.trim_eq_self
  obtain ⟨blank, -⟩ | ⟨-, one⟩ := statements_cases h.uncut
  · exact absurd (trimmed.symm.trans (Text.trim_eq_nil_iff.2 blank)) h.ne_nil
  · rwa [trimmed] at one

namespace Joinable

variable {ts : List Text} (h : Joinable ts)
include h

/-- Each of the statements that can be joined is a statement. -/
lemma isStatement {t : Text} (mem : t ∈ ts) : IsStatement t := by
  induction h with
  | nil => cases mem
  | last one =>
    obtain rfl := List.mem_singleton.1 mem
    exact one
  | cons one _ _ ih =>
    obtain rfl | mem := List.mem_cons.1 mem
    · exact one
    · exact ih mem

/-- Statements that can be joined are the statements of their join. -/
lemma statements_intercalate : statements ([';'].intercalate ts) = ts := by
  induction h with
  | nil => rfl
  | last one =>
    rw [List.intercalate_singleton]
    exact one.statements_eq
  | @cons t ts one closed _ ih =>
    cases ts with
    | nil =>
      rw [List.intercalate_singleton]
      exact one.statements_eq
    | cons t' ts =>
      rw [List.intercalate_cons_of_ne_nil (List.cons_ne_nil _ _), List.append_assoc, List.singleton_append,
        statements_append_semicolon closed, one.statements_eq, ih]
      rfl

end Joinable

/-- The statements of every script are in normal form. -/
lemma joinable_statements (s : Text) : Joinable (statements s) := by
  induction s using cut_induction with
  | uncut t uncut =>
    obtain ⟨-, none⟩ | ⟨one, eq⟩ := statements_cases uncut
    · rw [none]
      exact .nil
    · rw [eq]
      exact .last one
  | cut t u uncut closed ih =>
    rw [statements_append_semicolon closed]
    obtain ⟨-, none⟩ | ⟨one, eq⟩ := statements_cases uncut
    · rw [none]
      exact ih
    · rw [eq]
      have same := Scan.quoted_after_padded false (Text.padded_trim t)
      exact .cons one (same.symm.trans closed) ih

/-- Behind a script that closes its quotes, a semicolon and a second script add the statements of the second
one. Every statement of a script is not empty, is trimmed, and is a script of itself alone; and the join of
the statements has the same statements again, also when the last one leaves a quote open. -/
theorem statements_normal (s : Text) :
    (∀ u, (start.after false s).quoted = false →
      statements (s ++ ';' :: u) = statements s ++ statements u) ∧
    (∀ st ∈ statements s, st ≠ [] ∧ st.trim = st ∧ statements st = [st]) ∧
    statements ([';'].intercalate (statements s)) = statements s := by
  have normal := joinable_statements s
  refine ⟨fun u closed => statements_append_semicolon closed u, ?_, normal.statements_intercalate⟩
  intro st mem
  have one := normal.isStatement mem
  exact ⟨one.ne_nil, one.tight.trim_eq_self, one.statements_eq⟩

/-- A script with a quoted semicolon and blank statements, whose last statement leaves a quote open. -/
def openScript : Text := " a 'x;\\'y' ;; \n b; c '; d ".toList

/-- The open script joins to a script of the same three statements, and behind a script that closes its
quotes it adds them to those of that script. -/
theorem statements_normal_sample :
    statements ("a 'x;\\'y';b;c '; d".toList) = ["a 'x;\\'y'".toList, "b".toList, "c '; d".toList] ∧
      statements ("e 'f' ".toList ++ ';' :: openScript) = "e 'f'".toList :: statements openScript := by
  obtain ⟨-, -, again⟩ := statements_normal openScript
  have three : statements openScript = ["a 'x;\\'y'".toList, "b".toList, "c '; d".toList] := by
    decide +kernel
  rw [three] at again
  obtain ⟨behind, -, -⟩ := statements_normal "e 'f' ".toList
  exact ⟨again, behind openScript (by decide +kernel)⟩

end Script

end Tabular
