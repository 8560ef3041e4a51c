import Mathlib.Data.List.Basic
import Tabular.Proofs.Scan.Cuts
import Tabular.Proofs.Text.Trim

/-!
# Quoted literals

`Value.quote` writes a text as a literal: between apostrophes, with a backslash before every apostrophe
of the text. Taking the quotes off gives the text back (`Value.unquote_of_padded_quote`), for every
text, and every literal in which all apostrophes are escaped is written so (`Value.isQuoted_iff`). A scan
passes over the literal as a whole unless the text ends in a backslash, which would escape the apostrophe
that closes it (`Value.passes_quote`).
-/

namespace Tabular

namespace Value

/-- The text with a backslash before every apostrophe. -/
def escape (t : Text) : Text := t.flatMap fun c => if c = '\'' then ['\\', '\''] else [c]

/-- The text as a quoted literal. -/
def quote (t : Text) : Text := '\'' :: escape t ++ ['\'']

@[simp] lemma escape_cons_quote (t : Text) : escape ('\'' :: t) = '\\' :: '\'' :: escape t := rfl

lemma escape_cons {c : Char} (h : c ≠ '\'') (t : Text) : escape (c :: t) = c :: escape t := by
  simp [escape, h]

/-- A character is kept unless an apostrophe stands behind it. -/
lemma unescape_cons {c : Char} {t : Text} (h : t.head? ≠ some '\'') :
    unescape (c :: t) = c :: unescape t := by
  rw [unescape]
  rintro u rfl rfl
  exact h rfl

/-- An escaped text starts with no apostrophe. -/
lemma head?_escape (t : Text) : (escape t).head? ≠ some '\'' := by
  cases t with
  | nil => nofun
  | cons c t =>
    by_cases quote : c = '\''
    · subst quote
      simp
    · simp [escape_cons quote, quote]

/-- Taking the backslashes off undoes escaping. -/
@[simp] lemma unescape_escape (t : Text) : unescape (escape t) = t := by
  induction t with
  | nil => rfl
  | cons c t ih =>
    by_cases quote : c = '\''
    · subst quote
      rw [escape_cons_quote, unescape, ih]
    · rw [escape_cons quote, unescape_cons (head?_escape t), ih]

/-- A quoted literal has no blanks at its ends. -/
lemma tight_quote (t : Text) : Text.Tight (quote t) := by
  constructor
  · rintro c ⟨⟩
    rfl
  · intro c mem
    rw [quote, List.getLast?_append] at mem
    cases mem
    rfl

/-- A quoted literal with blanks around it stands for the text. -/
lemma unquote_of_padded_quote {t token : Text} (h : Text.Padded (quote t) token) :
    unquote token = t := by
  rw [unquote, (tight_quote t).trim_eq h]
  simp [quote]

/-- Every apostrophe of the text stands right behind a backslash. -/
inductive Escaped : Text → Prop where
  | nil :
    Escaped []
  | escape {t} :
    Escaped t →
    Escaped ('\\' :: '\'' :: t)
  | cons {c t} :
    c ≠ '\'' →
    Escaped t →
    Escaped (c :: t)

/-- The token is a quoted literal, with any blanks around it, and every apostrophe inside is escaped. -/
def IsQuoted (token : Text) : Prop :=
  ∃ inner, Escaped inner ∧ token.trim = '\'' :: inner ++ ['\'']

/-- A text whose apostrophes are escaped starts with none. -/
lemma Escaped.head?_ne {t : Text} (h : Escaped t) : t.head? ≠ some '\'' := by
  cases h with
  | nil => nofun
  | escape _ => nofun
  | cons ne _ => exact fun head => ne (Option.some.inj head)

/-- Every backslash that was taken off is put back. -/
lemma Escaped.escape_unescape {t : Text} (h : Escaped t) : Value.escape (unescape t) = t := by
  induction h with
  | nil => rfl
  | escape _ ih => rw [unescape, escape_cons_quote, ih]
  | cons ne escaped ih => rw [unescape_cons escaped.head?_ne, escape_cons ne, ih]

/-- Escaping leaves no apostrophe without a backslash. -/
lemma escaped_escape (t : Text) : Escaped (escape t) := by
  induction t with
  | nil => exact .nil
  | cons c t ih =>
    by_cases quote : c = '\''
    · subst quote
      exact .escape ih
    · rw [escape_cons quote]
      exact .cons quote ih

/-- The quoted literals are the texts that are quoted. -/
lemma isQuoted_iff {token : Text} : IsQuoted token ↔ Text.Padded (quote (unquote token)) token := by
  constructor
  · rintro ⟨inner, escaped, trimmed⟩
    have taken : unquote token = unescape inner := by
      rw [unquote, trimmed]
      simp
    rw [taken, quote, escaped.escape_unescape, ← trimmed]
    exact Text.padded_trim token
  · exact fun padded => ⟨_, escaped_escape _, (tight_quote _).trim_eq padded⟩

/-- Taking the quotes off undoes quoting: a quoted text stands for the text, whatever the text holds and
whatever blanks stand around the quotes. Quoting undoes it too: the literals that stand in quotes with all
apostrophes inside escaped are the texts that were quoted, each with blanks around it. -/
theorem unquote_quote (t : Text) :
    (∀ left right : Text, left.allBlank → right.allBlank →
      unquote (left ++ quote t ++ right) = t) ∧
    ∀ token, Text.Padded (quote t) token ↔ IsQuoted token ∧ unquote token = t := by
  constructor
  · exact fun left right hl hr => unquote_of_padded_quote ⟨left, right, hl, hr, rfl⟩
  · intro token
    constructor
    · intro padded
      have back := unquote_of_padded_quote padded
      exact ⟨isQuoted_iff.2 (back.symm ▸ padded), back⟩
    · rintro ⟨quoted, rfl⟩
      exact isQuoted_iff.1 quoted

/-- The text has blanks at its ends, a backslash of its own before an apostrophe, two apostrophes in a row
and a backslash at the end. -/
theorem unquote_quote_sample :
    quote " \\'' \\".toList = "' \\\\'\\' \\'".toList ∧ Text.allBlank "\t ".toList ∧
      Text.allBlank "\n".toList ∧
      unquote ("\t ".toList ++ quote " \\'' \\".toList ++ "\n".toList) = " \\'' \\".toList := by
  have left : Text.allBlank "\t ".toList := by decide
  have right : Text.allBlank "\n".toList := by decide
  exact ⟨by decide, left, right, (unquote_quote " \\'' \\".toList).1 _ _ left right⟩

end Value

namespace Scan

variable {d : Char} {nesting : Bool}

/-- Inside quotes a character that does not close them only decides what is escaped next. -/
lemma next_of_quoted {s : Scan} (quoted : s.quoted = true) {c : Char} (h : s.toggles c = false) :
    s.next nesting c = { s with escaped := c == '\\' } := by
  have inert : ¬ Counted nesting s c := fun ⟨_, unquoted, _⟩ =>
    Bool.false_ne_true (unquoted.symm.trans quoted)
  rw [next_of_not_counted inert, h, Bool.xor_false]

variable (d nesting) in
/-- Inside quotes an escaped text is not cut, and the quotes stay open. -/
lemma scan_escape {s : Scan} (quoted : s.quoted = true) (t : Text) :
    Uncut d nesting s (Value.escape t) ∧
      s.after nesting (Value.escape t) =
        { s with escaped := (t.getLast?.map (· == '\\')).getD s.escaped } := by
  induction t generalizing s with
  | nil => exact ⟨uncut_nil s, rfl⟩
  | cons c t ih =>
    have last : ((c :: t).getLast?.map (· == '\\')).getD s.escaped =
        (t.getLast?.map (· == '\\')).getD (c == '\\') := by
      rw [List.getLast?_cons]
      cases t.getLast? with
      | none => rfl
      | some b => rfl
    rw [last]
    by_cases quote : c = '\''
    · -- the backslash that was put in keeps the apostrophe from closing the quotes
      subst quote
      have first : s.next nesting '\\' = { s with escaped := true } := next_of_quoted quoted rfl
      have second : Scan.next nesting { s with escaped := true } '\'' = { s with escaped := false } :=
        next_of_quoted (s := { s with escaped := true }) quoted rfl
      obtain ⟨uncut, after⟩ := ih (s := { s with escaped := false }) quoted
      rw [Value.escape_cons_quote, uncut_cons_iff, uncut_cons_iff, after_cons, after_cons, first, second]
      have inner : Scan.cuts d nesting { s with escaped := true } '\'' = false :=
        cuts_of_quoted (s := { s with escaped := true }) quoted _
      exact ⟨⟨cuts_of_quoted quoted _, inner, uncut⟩, after⟩
    · have first : s.next nesting c = { s with escaped := c == '\\' } :=
        next_of_quoted quoted (by simp [toggles, quote])
      obtain ⟨uncut, after⟩ := ih (s := { s with escaped := c == '\\' }) quoted
      rw [Value.escape_cons quote, uncut_cons_iff, after_cons, first]
      exact ⟨⟨cuts_of_quoted quoted _, uncut⟩, after⟩

/-- A quoted literal is passed over, unless its text ends in a backslash. -/
lemma passes_quote (ne : d ≠ '\'') {t : Text} (h : t.getLast? ≠ some '\\') :
    Passes d nesting (Value.quote t) := by
  have opened : start.next nesting '\'' = { start with quoted := true } := rfl
  obtain ⟨uncut, after⟩ := scan_escape d nesting (s := { start with quoted := true }) rfl t
  have unescaped : (t.getLast?.map (· == '\\')).getD start.escaped = false := by
    cases last : t.getLast? with
    | none => rfl
    | some c => simpa [last] using h
  rw [unescaped] at after
  have inner : Uncut d nesting start ('\'' :: Value.escape t) :=
    uncut_cons_iff.2 ⟨by simp [cuts, ne.symm], opened ▸ uncut⟩
  have after : start.after nesting ('\'' :: Value.escape t) = { start with quoted := true } := after
  constructor
  · refine inner.append (uncut_cons_iff.2 ⟨?_, uncut_nil _⟩)
    rw [after]
    exact cuts_of_quoted rfl _
  · rw [Value.quote, after_append, after]
    rfl

end Scan

end Tabular
