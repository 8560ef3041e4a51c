import Mathlib.Data.List.Range
import Tabular.Proofs.Scan.Positions

/-!
# Pieces by places

Where a text is cut, told from the text alone. A place is a cut when the delimiter stands there, as no
live apostrophe and, where parentheses count, as no parenthesis, and what stands before it protects it by
neither quotes nor parentheses (`Text.IsCut`). A scan cuts at exactly these places (`Scan.cuts_take_iff`),
and its pieces are what stands between them (`Scan.pieces_eq_parts`).
-/

namespace Tabular

namespace Text

/-- A delimiter stands at the place that nothing protects. It protects itself as a live apostrophe and,
where parentheses count, as a parenthesis. -/
structure IsCut (t : Text) (d : Char) (nesting : Bool) (p : Nat) : Prop where
  delimiter : t[p]? = some d
  not_live : t.isLive p = false
  unquoted : t.isQuoted p = false
  nested : nesting = true → isParenthesis d = false ∧ t.depth p = 0

/-- A cut, condition by condition. -/
lemma isCut_iff {t : Text} {d : Char} {nesting : Bool} {p : Nat} :
    t.IsCut d nesting p ↔
      t[p]? = some d ∧ t.isLive p = false ∧ t.isQuoted p = false ∧
        (nesting = true → isParenthesis d = false ∧ t.depth p = 0) :=
  ⟨fun ⟨delimiter, not_live, unquoted, nested⟩ => ⟨delimiter, not_live, unquoted, nested⟩,
    fun ⟨delimiter, not_live, unquoted, nested⟩ => ⟨delimiter, not_live, unquoted, nested⟩⟩

instance (t : Text) (d : Char) (nesting : Bool) (p : Nat) : Decidable (t.IsCut d nesting p) :=
  decidable_of_iff _ isCut_iff.symm

/-- The places where a text is cut, in order. -/
def cutPlaces (t : Text) (d : Char) (nesting : Bool) : List Nat :=
  (List.range t.length).filter fun p => t.IsCut d nesting p

/-- The parts of a text from a place on, between places that are left out. -/
def parts (t : Text) : (first : Nat) → (places : List Nat) → List Text
  | first, [] => [t.drop first]
  | first, p :: ps => t.extract first p :: parts t (p + 1) ps

/-- Where the next place is further on, the first part starts with one more character. -/
lemma parts_cons {t : Text} {first : Nat} {c : Char} (at_ : t[first]? = some c) {places : List Nat}
    (further : ∀ p ∈ places, first < p) :
    t.parts first places = (t.parts (first + 1) places).modifyHead (c :: ·) := by
  have drop : t.drop first = c :: t.drop (first + 1) := by
    obtain ⟨lt, rfl⟩ := List.getElem?_eq_some_iff.1 at_
    exact List.drop_eq_getElem_cons lt
  cases places with
  | nil => exact congrArg (fun part => [part]) drop
  | cons p ps =>
    have shift : p - first = p - (first + 1) + 1 := by
      have lt := further p List.mem_cons_self
      omega
    have head : t.extract first p = c :: t.extract (first + 1) p := by
      rw [List.extract_eq_take_drop, List.extract_eq_take_drop, drop, shift, List.take_succ_cons]
    exact congrArg (fun part => part :: t.parts (p + 1) ps) head

end Text

namespace Scan

/-- Quotes are counted also where parentheses are not. -/
lemma quoted_take (nesting : Bool) {t : Text} {p : Nat} (le : p ≤ t.length) :
    (start.after nesting (t.take p)).quoted = t.isQuoted p :=
  (quoted_after_eq rfl rfl _).trans (stands_take t le).quoted

/-- A scan knows whether a backslash stands right before the place it has come to. -/
lemma escaped_take (nesting : Bool) {t : Text} {p : Nat} (le : p ≤ t.length) :
    (start.after nesting (t.take p)).escaped = t.isEscaped p := by
  cases p with
  | zero => rfl
  | succ p =>
    have at_ : t[p]? = some t[p] := List.getElem?_eq_getElem le
    rw [List.take_add_one, at_, after_append, Text.isEscaped, Nat.add_sub_cancel, at_]
    exact escaped_next nesting _ _

/-- The depth is never larger than the number of parentheses of the text. -/
lemma depth_take_le (nesting : Bool) (t : Text) (p : Nat) :
    (start.after nesting (t.take p)).depth.natAbs ≤ t.countP Text.isParenthesis := by
  cases nesting with
  | false =>
    rw [(kept_of_not_nesting start _).1]
    exact Nat.zero_le _
  | true =>
    have counted := natAbs_depth_after_le start (t.take p)
    have part : (t.take p).countP Text.isParenthesis ≤ t.countP Text.isParenthesis :=
      (List.take_sublist p t).countP_le
    exact counted.trans (Nat.zero_add _ ▸ part)

/-- A scan cuts at the places where the text is cut. -/
lemma cuts_take_iff (d : Char) (nesting : Bool) {t : Text} {p : Nat} {c : Char}
    (at_ : t[p]? = some c) :
    (start.after nesting (t.take p)).cuts d nesting c ↔ t.IsCut d nesting p := by
  have le : p ≤ t.length := by
    obtain ⟨lt, -⟩ := List.getElem?_eq_some_iff.1 at_
    exact Nat.le_of_lt lt
  have live : (start.after nesting (t.take p)).toggles c = t.isLive p := by
    rw [toggles, escaped_take nesting le, Text.isLive, at_]
    rfl
  rw [cuts, live, quoted_take nesting le, Text.isCut_iff, at_]
  cases nesting with
  | false => simp [and_assoc]
  | true =>
    rw [(stands_take t le).depth]
    by_cases same : c = d
    · subst same
      simp [Text.isParenthesis, and_assoc]
    · simp [same]

/-- From a place on, a scan that has passed the characters before it gives what stands between the cuts
from there on. -/
lemma pieces_drop (d : Char) (nesting : Bool) (t : Text) {p k : Nat} (eq : p + k = t.length) :
    pieces d nesting (start.after nesting (t.take p)) (t.drop p) =
      t.parts p ((List.range' p k).filter fun q => t.IsCut d nesting q) := by
  induction k generalizing p with
  | zero =>
    have none : t.drop p = [] := List.drop_eq_nil_of_le (Nat.le_of_eq eq.symm)
    show _ = [t.drop p]
    rw [none]
    rfl
  | succ k ih =>
    have lt : p < t.length := by omega
    have at_ : t[p]? = some t[p] := List.getElem?_eq_getElem lt
    have next : (start.after nesting (t.take p)).next nesting t[p] =
        start.after nesting (t.take (p + 1)) := by
      rw [List.take_add_one, at_, after_append]
      rfl
    have rest := ih (p := p + 1) (by omega)
    rw [List.drop_eq_getElem_cons lt, pieces, next, rest, List.range'_succ, List.filter_cons]
    by_cases cut : t.IsCut d nesting p
    · have none : t.extract p p = [] := by
        rw [List.extract_eq_take_drop, Nat.sub_self, List.take_zero]
      rw [if_pos ((cuts_take_iff d nesting at_).2 cut), if_pos (decide_eq_true cut), Text.parts, none]
    · have further : ∀ q ∈ (List.range' (p + 1) k).filter fun q => t.IsCut d nesting q, p < q := by
        intro q mem
        exact (List.mem_range'_1.1 (List.mem_of_mem_filter mem)).1
      rw [if_neg (mt (cuts_take_iff d nesting at_).1 cut), if_neg (mt of_decide_eq_true cut),
        Text.parts_cons at_ further]

/-- The pieces of a text are what stands between its cuts. -/
lemma pieces_eq_parts (d : Char) (nesting : Bool) (t : Text) :
    start.pieces d nesting t = t.parts 0 (t.cutPlaces d nesting) := by
  rw [Text.cutPlaces, List.range_eq_range']
  exact pieces_drop d nesting t (Nat.zero_add t.length)

end Scan

namespace Scanner
open Scan (start)

/-- A scanner at the start of a text cuts it at the places where a delimiter stands that nothing protects,
and nowhere else. Its pieces are what stands between these places, so the text is their join. At the end it
knows whether a quote is open and, where parentheses count, whether they are balanced. On the way the
depth never exceeds the number of parentheses. -/
theorem split_ofText (t : Text) (d : Char) (nesting : Bool) :
    (∀ p c, t[p]? = some c →
      ((start.after nesting (t.take p)).cuts d nesting c ↔ t.IsCut d nesting p)) ∧
    ((ofText t).split d nesting).1 = t.parts 0 (t.cutPlaces d nesting) ∧
    [d].intercalate ((ofText t).split d nesting).1 = t ∧
    ((ofText t).split d nesting).2.state.quoted = t.isQuoted t.length ∧
    (nesting = true → (((ofText t).split d nesting).2.state.isBalanced ↔
      t.depth t.length = 0 ∧ ∀ p ≤ t.length, 0 ≤ t.depth p)) ∧
    ∀ p, (start.after nesting (t.take p)).depth.natAbs ≤ t.countP Text.isParenthesis := by
  refine ⟨fun p c at_ => Scan.cuts_take_iff d nesting at_, Scan.pieces_eq_parts d nesting t,
    Scan.intercalate_pieces d nesting start t, ?quoted, ?balanced, Scan.depth_take_le nesting t⟩
  case quoted =>
    have whole := Scan.quoted_take nesting (Nat.le_refl t.length)
    rwa [List.take_length] at whole
  case balanced =>
    rintro rfl
    exact Scan.isBalanced_iff

/-- A text with a quoted comma, a comma in parentheses and a parenthesis too many. -/
def sampleText : Text := "a,'b,\\'c',(d,'),'),e)".toList

/-- The sample is cut at its three bare commas, and is not balanced; where parentheses do not count it is
also cut inside them. -/
theorem split_ofText_sample :
    ((ofText sampleText).split ',' true).1 =
        ["a".toList, "'b,\\'c'".toList, "(d,'),')".toList, "e)".toList] ∧
      ((ofText sampleText).split ',' true).2.state.quoted = false ∧
      ¬ ((ofText sampleText).split ',' true).2.state.isBalanced ∧
      ((ofText sampleText).split ',' false).1 =
        ["a".toList, "'b,\\'c'".toList, "(d".toList, "'),')".toList, "e)".toList] := by
  obtain ⟨-, pieces, -, quoted, balanced, -⟩ := split_ofText sampleText ',' true
  obtain ⟨-, flat, -⟩ := split_ofText sampleText ',' false
  have cuts : sampleText.cutPlaces ',' true = [1, 9, 18] := by decide +kernel
  have flatCuts : sampleText.cutPlaces ',' false = [1, 9, 12, 18] := by decide +kernel
  have open_ : sampleText.depth sampleText.length ≠ 0 := by decide +kernel
  rw [pieces, cuts, quoted, balanced rfl, flat, flatCuts]
  exact ⟨by decide +kernel, by decide +kernel, fun all => open_ all.1, by decide +kernel⟩

end Scanner

end Tabular
