import Tabular.Proofs.Scan.Tuples

/-!
# Raw tokens

A token is a literal as a tuple holds it: it is cut out whole and unchanged, and it closes all that it
opens (`Tuples.Token`). Tokens are written with a comma and a space between them, and in parentheses
they are read as one row, each token as the literal that it is (`Tuples.rows_of_tokens`).
-/

namespace Tabular

namespace Scan

/-- Exactly an apostrophe that is not escaped opens or closes a quote. -/
lemma quoted_next (nesting : Bool) (s : Scan) (c : Char) :
    (s.next nesting c).quoted = (s.quoted ^^ s.toggles c) := by
  obtain ⟨rfl, unquoted, rfl⟩ | ⟨rfl, unquoted, rfl⟩ | inert := counted_cases nesting s c
  · rw [next_opening unquoted]
    simp [toggles]
  · rw [next_closing unquoted]
    simp [toggles]
  · rw [next_of_not_counted inert]

/-- Exactly a backslash escapes the character behind it. -/
lemma escaped_next (nesting : Bool) (s : Scan) (c : Char) :
    (s.next nesting c).escaped = (c == '\\') := by
  obtain ⟨rfl, unquoted, rfl⟩ | ⟨rfl, unquoted, rfl⟩ | inert := counted_cases nesting s c
  · rw [next_opening unquoted]
    rfl
  · rw [next_closing unquoted]
    rfl
  · rw [next_of_not_counted inert]

/-- Whether parentheses are counted makes no difference to the quotes. -/
lemma quoted_after_eq {nesting nesting' : Bool} {s s' : Scan} (quoted : s.quoted = s'.quoted)
    (escaped : s.escaped = s'.escaped) (t : Text) :
    (s.after nesting t).quoted = (s'.after nesting' t).quoted := by
  induction t generalizing s s' with
  | nil => exact quoted
  | cons c t ih =>
    have toggles : s.toggles c = s'.toggles c := by rw [Scan.toggles, Scan.toggles, escaped]
    apply ih
    · rw [quoted_next, quoted_next, quoted, toggles]
    · rw [escaped_next, escaped_next]

/-- Behind a closed text a scan rests, whether it counts parentheses or not. -/
lemma resting_of_isClosed {t : Text} (closed : Tuples.isClosed t) (nesting : Bool) :
    (start.after nesting t).Resting := by
  have rest := resting_nested_iff.2 closed
  cases nesting with
  | true => exact rest
  | false => exact resting_of_not_nesting ((quoted_after_eq rfl rfl t).trans rest.unquoted)

/-- A scan rests behind texts that bring it to rest, joined by an ordinary character. -/
lemma resting_intercalate {d : Char} {nesting : Bool} (ordinary : Ordinary d) {ts : List Text}
    (rest : ∀ t ∈ ts, (start.after nesting t).Resting) :
    (start.after nesting ([d].intercalate ts)).Resting := by
  induction ts with
  | nil => exact resting_start
  | cons t ts ih =>
    obtain ⟨first, others⟩ := List.forall_mem_cons.1 rest
    cases ts with
    | nil => simpa using first
    | cons t' ts =>
      -- the delimiter between two parts brings the scan back to its start
      rw [List.intercalate_cons_of_ne_nil (List.cons_ne_nil _ _), after_append, after_append,
        after_cons, first.next ordinary, after_nil]
      exact ih others

end Scan

namespace Tuples
open Scan (Resting Uncut start)

/-- The text is a literal as a tuple holds it: it is its own only literal, and it closes every quote
and every parenthesis that it opens. -/
structure Token (t : Text) : Prop where
  literals_eq : literals t = [t]
  closed : isClosed t

instance (t : Text) : Decidable (Token t) :=
  decidable_of_iff (literals t = [t] ∧ isClosed t) ⟨fun ⟨eq, closed⟩ => ⟨eq, closed⟩,
    fun ⟨eq, closed⟩ => ⟨eq, closed⟩⟩

/-- One tuple of tokens, as it is written. -/
def tupleOf (tokens : List Text) : Text := enclose (", ".toList.intercalate tokens)

namespace Token

variable {t : Text} (h : Token t)
include h

/-- A token is not blank. -/
lemma notBlank : t.allBlank = false := by
  refine Bool.eq_false_iff.2 fun blank => ?_
  have eq := h.literals_eq
  rw [literals, if_pos blank] at eq
  cases eq

/-- A token has no blanks at its ends, and no comma cuts it. -/
lemma tight_and_uncut : t.Tight ∧ Uncut ',' false start t := by
  have eq := h.literals_eq
  rw [literals, if_neg (by simp [h.notBlank])] at eq
  obtain ⟨p, pieces, trimmed⟩ := List.map_eq_singleton_iff.1 eq
  -- the only piece of a text is the whole text
  have whole := Scan.intercalate_pieces ',' false start t
  rw [pieces, List.intercalate_singleton] at whole
  subst whole
  exact ⟨trimmed ▸ Text.tight_trim p, Scan.pieces_eq_singleton_iff.1 pieces⟩

/-- A token has no blanks at its ends. -/
lemma tight : t.Tight := h.tight_and_uncut.1

/-- No comma cuts a token. -/
lemma uncut : Uncut ',' false start t := h.tight_and_uncut.2

/-- A token is not empty. -/
lemma ne_nil : t ≠ [] := by
  rintro rfl
  exact absurd h.notBlank (by decide)

end Token

/-- A space before a text adds no cut. -/
lemma uncut_space {t : Text} (h : Uncut ',' false start t) : Uncut ',' false start (' ' :: t) :=
  Scan.uncut_cons_iff.2 ⟨by decide, h⟩

/-- Texts joined by a comma and a space are texts joined by a comma, with a space before all but the
first. -/
lemma intercalate_comma_space (t : Text) (ts : List Text) :
    ", ".toList.intercalate (t :: ts) = [','].intercalate (t :: ts.map (' ' :: ·)) := by
  induction ts generalizing t with
  | nil => simp
  | cons t' ts ih =>
    rw [List.intercalate_cons_of_ne_nil (List.cons_ne_nil _ _), ih, List.map_cons,
      List.intercalate_cons_of_ne_nil (List.cons_ne_nil _ _)]
    cases ts with
    | nil => simp
    | cons t'' ts => simp [List.intercalate_cons_of_ne_nil]

/-- A join starts with the first of the texts. -/
lemma prefix_intercalate (delimiter t : Text) (ts : List Text) :
    t <+: delimiter.intercalate (t :: ts) := by
  cases ts with
  | nil => simp
  | cons t' ts =>
    rw [List.intercalate_cons_of_ne_nil (List.cons_ne_nil _ _), List.append_assoc]
    exact List.prefix_append _ _

section

variable {tokens : List Text} (raw : ∀ t ∈ tokens, Token t)
include raw

/-- Tokens that are joined are the literals of the join. -/
lemma literals_of_tokens : literals (", ".toList.intercalate tokens) = tokens := by
  cases tokens with
  | nil => rfl
  | cons t ts =>
    obtain ⟨first, others⟩ := List.forall_mem_cons.1 raw
    have notBlank : ¬ Text.allBlank ([','].intercalate (t :: ts.map (' ' :: ·))) := by
      obtain ⟨rest, eq⟩ := prefix_intercalate [','] t (ts.map (' ' :: ·))
      rw [← eq, Text.allBlank, List.all_append, ← Text.allBlank, first.notBlank]
      exact Bool.false_ne_true
    have cut : start.pieces ',' false ([','].intercalate (t :: ts.map (' ' :: ·))) =
        t :: ts.map (' ' :: ·) := by
      apply Scan.pieces_intercalate ordinary_comma (List.cons_ne_nil _ _)
      · rw [List.forall_mem_cons, List.forall_mem_map]
        exact ⟨first.uncut, fun t' mem => uncut_space (others t' mem).uncut⟩
      · rw [List.forall_mem_cons, List.forall_mem_map]
        exact ⟨Scan.resting_of_isClosed first.closed false,
          fun t' mem => Scan.resting_of_isClosed (others t' mem).closed false⟩
    have trimmed : ts.map (fun t' => Text.trim (' ' :: t')) = ts := by
      rw [List.map_congr_left fun t' mem => (others t' mem).tight.trim_space_cons, List.map_id']
    rw [intercalate_comma_space, literals, if_neg notBlank, cut, List.map_cons, List.map_map,
      first.tight.trim_eq_self]
    exact congrArg (t :: ·) trimmed

/-- Tokens that are joined make a closed text. -/
lemma isClosed_of_tokens : isClosed (", ".toList.intercalate tokens) := by
  cases tokens with
  | nil => rfl
  | cons t ts =>
    obtain ⟨first, others⟩ := List.forall_mem_cons.1 raw
    rw [intercalate_comma_space, ← Scan.resting_nested_iff]
    apply Scan.resting_intercalate ordinary_comma
    rw [List.forall_mem_cons, List.forall_mem_map]
    exact ⟨Scan.resting_of_isClosed first.closed true,
      fun t' mem => Scan.resting_of_isClosed (others t' mem).closed true⟩

/-- A tuple of tokens, with blanks around it, is read as one row of the literals that they are. -/
lemma rows_of_tokens {list : Text} (h : Text.Padded (tupleOf tokens) list) :
    rows list = .ok [tokens.map Value.ofLiteral] := by
  have inner := isClosed_of_tokens raw
  have split : split list = .ok [", ".toList.intercalate tokens] :=
    split_eq_ok (by simpa using inner) (.last h)
  rw [rows, split]
  simp only [Except.map, List.map_cons, List.map_nil, row, literals_of_tokens raw]

end

end Tuples

end Tabular
