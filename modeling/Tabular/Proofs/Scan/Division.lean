import Tabular.Proofs.Scan.Positions

/-!
# The grammar of tuple lists

A list that is not blank is divided into pieces with commas between them, each of them one balanced
tuple in parentheses with blanks around it (`Tuples.Division`). A list is cut into tuples exactly when it
is blank or has such a division (`Tuples.split_eq_ok_iff_division`), and it has at most one
(`Tuples.Division.unique`). Cutting and reading each piece anew agree, because a scan passes over a
balanced tuple and stands behind it as at its start.
-/

namespace Tabular.Tuples
open Text (Balanced Padded)
open Scan (Passes start)

/-- The pieces, with commas between them, are the list, and each of them is a balanced text in
parentheses once it is trimmed. -/
structure Division (list : Text) (pieces inners : List Text) : Prop where
  ne_nil : pieces ≠ []
  joined : [','].intercalate pieces = list
  tuples : List.Forall₂ (fun piece inner => piece.trim = enclose inner ∧ Balanced inner) pieces inners

namespace Division

variable {list : Text} {pieces inners : List Text} (h : Division list pieces inners)
include h

/-- A division has at least one tuple. -/
lemma inners_ne_nil : inners ≠ [] := by
  rintro rfl
  exact h.ne_nil (List.forall₂_nil_right_iff.1 h.tuples)

/-- Every inside is closed, and every piece is a tuple with blanks around it. -/
lemma closed_and_padded :
    (∀ inner ∈ inners, isClosed inner) ∧
      List.Forall₂ (fun inner => Padded (enclose inner)) inners pieces := by
  apply (List.forall₂_and_left _ _).1
  refine h.tuples.flip.imp fun inner piece ⟨trimmed, balanced⟩ => ?_
  exact ⟨isClosed_iff_balanced.2 balanced, trimmed ▸ Text.padded_trim piece⟩

/-- A list that has a division is cut into its tuples. -/
lemma split_eq : split list = .ok inners := by
  obtain ⟨closed, padded⟩ := h.closed_and_padded
  apply split_eq_ok closed
  rw [← h.joined]
  apply Listed.of_forall₂_padded (List.forall₂_map_left_iff.2 padded)
  exact mt List.map_eq_nil_iff.1 h.inners_ne_nil

/-- A list that has a division is not blank. -/
lemma notBlank : ¬ list.allBlank := by
  intro blank
  have none : split list = .ok [] := if_pos blank
  cases none.symm.trans h.split_eq
  exact h.inners_ne_nil rfl

/-- The pieces are where the scan cuts. -/
lemma pieces_eq : start.pieces ',' true list = pieces := by
  have all : List.Forall₂ (fun piece (_ : Text) => Passes ',' true piece ∧ True) pieces inners := by
    refine h.tuples.imp fun piece inner ⟨trimmed, balanced⟩ => ⟨?_, trivial⟩
    have padded : Padded (enclose inner) piece := trimmed ▸ Text.padded_trim piece
    exact passes_padded (Scan.passes_enclose (isClosed_iff_balanced.2 balanced)) padded
  have pass := ((List.forall₂_and_left _ _).1 all).1
  rw [← h.joined]
  apply Scan.pieces_intercalate ordinary_comma h.ne_nil
  · exact fun piece mem => (pass piece mem).uncut
  · exact fun piece mem => (pass piece mem).after_eq.symm ▸ Scan.resting_start

/-- A list has at most one division. -/
lemma unique {pieces' inners' : List Text} (h' : Division list pieces' inners') :
    pieces = pieces' ∧ inners = inners' := by
  have same := h.split_eq.symm.trans h'.split_eq
  cases same
  exact ⟨h.pieces_eq.symm.trans h'.pieces_eq, rfl⟩

end Division

/-- What is cut into tuples and is not blank has a division into them. -/
lemma division_of_split {list : Text} {inners : List Text} (h : split list = .ok inners)
    (notBlank : ¬ list.allBlank) : Division list (start.pieces ',' true list) inners := by
  obtain ⟨closed, listed⟩ := split_eq_ok_iff.1 h
  have ne := listed.ne_nil (Bool.eq_false_iff.2 notBlank)
  have padded := List.forall₂_map_left_iff.1 (listed.forall₂_pieces ne (passes_map_enclose closed))
  refine ⟨Scan.pieces_ne_nil _ _ _ _, Scan.intercalate_pieces _ _ _ _, ?_⟩
  apply List.Forall₂.flip
  refine ((List.forall₂_and_left _ _).2 ⟨closed, padded⟩).imp fun inner piece ⟨closed, padded⟩ => ?_
  exact ⟨(tight_enclose inner).trim_eq padded, isClosed_iff_balanced.1 closed⟩

/-- A list is cut into tuples exactly when it is blank or divided into them. -/
lemma split_eq_ok_iff_division {list : Text} {inners : List Text} :
    split list = .ok inners ↔
      (list.allBlank ∧ inners = []) ∨ ∃ pieces, Division list pieces inners := by
  by_cases blank : list.allBlank
  · have none : split list = .ok [] := if_pos blank
    rw [none]
    constructor
    · rintro ⟨⟩
      exact .inl ⟨blank, rfl⟩
    · rintro (⟨-, rfl⟩ | ⟨pieces, division⟩)
      · rfl
      · exact absurd blank division.notBlank
  · constructor
    · intro h
      exact .inr ⟨_, division_of_split h blank⟩
    · rintro (⟨blank', -⟩ | ⟨pieces, division⟩)
      · exact absurd blank' blank
      · exact division.split_eq

/-- What is cut into tuples closes all that it opens. -/
lemma balanced_of_split {list : Text} {inners : List Text} (h : split list = .ok inners) :
    Balanced list := by
  obtain ⟨closed, listed⟩ := split_eq_ok_iff.1 h
  apply isClosed_iff_balanced.1
  exact isClosed_of_listed listed (passes_map_enclose closed)

/-- A list is cut into no tuples when it is blank, and into the tuples of its division when it has one;
it has at most one, and none when it is blank. Every other list is refused. So no list is cut that
leaves a quote or a parenthesis open or closes a parenthesis too early. The depth that the scan counts
never exceeds the number of parentheses. -/
theorem split_grammar (list : Text) :
    (∀ inners, split list = .ok inners ↔
      (list.allBlank ∧ inners = []) ∨ ∃ pieces, Division list pieces inners) ∧
    (∀ pieces inners pieces' inners', Division list pieces inners → Division list pieces' inners' →
      pieces = pieces' ∧ inners = inners') ∧
    (∀ pieces inners, Division list pieces inners → ¬ list.allBlank) ∧
    ((∃ fault, split list = .error fault) ↔
      ¬ list.allBlank ∧ ∀ pieces inners, ¬ Division list pieces inners) ∧
    ((∃ inners, split list = .ok inners) → Balanced list) ∧
    ∀ before after, list = before ++ after →
      (nested before).depth.natAbs ≤ list.countP Text.isParenthesis := by
  refine ⟨fun inners => split_eq_ok_iff_division, fun _ _ _ _ h h' => h.unique h',
    fun _ _ h => h.notBlank, ?refused, fun ⟨_, h⟩ => balanced_of_split h, ?counted⟩
  case refused =>
    constructor
    · rintro ⟨fault, refused⟩
      constructor
      · intro blank
        cases refused.symm.trans (split_eq_ok_iff_division.2 (.inl ⟨blank, rfl⟩))
      · intro pieces inners division
        cases refused.symm.trans division.split_eq
    · rintro ⟨notBlank, undivided⟩
      cases result : split list with
      | error fault => exact ⟨fault, rfl⟩
      | ok inners => exact absurd (division_of_split result notBlank) (undivided _ _)
  case counted =>
    rintro before after rfl
    have counted := Scan.natAbs_depth_after_le start before
    rw [List.countP_append]
    exact Nat.le_add_right_of_le (counted.trans_eq (Nat.zero_add _))

/-- A list of two tuples: a quoted parenthesis with an escaped apostrophe, and a nested pair. -/
def sampleList : Text := " ('it\\'s )', 1) ,\n( (2), '' ) ".toList

/-- The sample is divided and cut into its two tuples. A list in which one parenthesis closes too early
and another one opens for it is refused, although as many open as close. -/
theorem split_grammar_sample :
    Division sampleList [" ('it\\'s )', 1) ".toList, "\n( (2), '' ) ".toList]
        ["'it\\'s )', 1".toList, " (2), '' ".toList] ∧
      split sampleList = .ok ["'it\\'s )', 1".toList, " (2), '' ".toList] ∧
      Balanced sampleList ∧
      ∃ fault, split "(1)) , ((2)".toList = .error fault := by
  have division : Division sampleList [" ('it\\'s )', 1) ".toList, "\n( (2), '' ) ".toList]
      ["'it\\'s )', 1".toList, " (2), '' ".toList] :=
    ⟨List.cons_ne_nil _ _, rfl, .cons (by decide +kernel) (.cons (by decide +kernel) .nil)⟩
  obtain ⟨cut, -, -, -, closed, -⟩ := split_grammar sampleList
  have split := (cut _).2 (.inr ⟨_, division⟩)
  refine ⟨division, split, closed ⟨_, split⟩, ?_⟩
  obtain ⟨-, -, -, -, closed, -⟩ := split_grammar "(1)) , ((2)".toList
  cases result : Tuples.split "(1)) , ((2)".toList with
  | error fault => exact ⟨fault, rfl⟩
  | ok inners => exact absurd (closed ⟨inners, result⟩) (by decide +kernel)

end Tabular.Tuples
