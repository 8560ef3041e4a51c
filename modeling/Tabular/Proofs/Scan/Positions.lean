import Mathlib.Algebra.Group.Nat.Defs
import Tabular.Proofs.Scan.Tokens

/-!
# What a scan counts

What is quoted in a text, and how deep a place in it lies in parentheses, are counts over the places
before it: an apostrophe is live unless a backslash stands right before it (`Text.isLive`), a place is
quoted when an odd number of live apostrophes stand before it (`Text.isQuoted`), and its depth is the
number of opening less the number of closing parentheses that stand before it outside quotes
(`Text.depth`). A scan keeps these counts (`Scan.stands_take`), so a text closes all that it opens
exactly when it is balanced by them (`Tuples.isClosed_iff_balanced`). No count is larger than the number
of parentheses of the text (`Scan.natAbs_depth_after_le`).
-/

namespace Tabular

namespace Text

/-- A backslash stands right before the place. -/
def isEscaped (t : Text) (p : Nat) : Bool := p != 0 && t[p - 1]? == some '\\'

/-- An apostrophe that no backslash escapes stands at the place. -/
def isLive (t : Text) (p : Nat) : Bool := t[p]? == some '\'' && !t.isEscaped p

/-- An odd number of live apostrophes stand before the place. -/
def isQuoted (t : Text) (p : Nat) : Bool := (List.range p).countP t.isLive % 2 == 1

/-- The number of places before the given one where the character stands outside quotes. -/
def bare (t : Text) (c : Char) (p : Nat) : Nat :=
  (List.range p).countP fun q => t[q]? == some c && !t.isQuoted q

/-- Opening less closing parentheses outside quotes before the place. -/
def depth (t : Text) (p : Nat) : Int := t.bare '(' p - t.bare ')' p

/-- Every quote is closed, every parenthesis outside quotes is closed, and none closes before it
opened. -/
structure Balanced (t : Text) : Prop where
  unquoted : t.isQuoted t.length = false
  depth : t.depth t.length = 0
  depth_nonneg : ∀ p ≤ t.length, 0 ≤ t.depth p

instance (t : Text) : Decidable t.Balanced :=
  decidable_of_iff
    (t.isQuoted t.length = false ∧ t.depth t.length = 0 ∧ ∀ p ≤ t.length, 0 ≤ t.depth p)
    ⟨fun ⟨unquoted, depth, nonneg⟩ => ⟨unquoted, depth, nonneg⟩,
      fun ⟨unquoted, depth, nonneg⟩ => ⟨unquoted, depth, nonneg⟩⟩

/-- The character opens or closes where it is counted. -/
def isParenthesis (c : Char) : Bool := c == '(' || c == ')'

/-- There are so few parentheses that a signed counter of 32 bits can count them. -/
def Countable (t : Text) : Prop := t.countP isParenthesis < 2 ^ 31

instance (t : Text) : Decidable t.Countable := inferInstanceAs (Decidable (_ < _))

/-- What a character outside quotes adds to the depth. -/
def weight (c : Char) : Int := if c = '(' then 1 else if c = ')' then -1 else 0

/-- Only a parenthesis changes the depth, by one. -/
lemma natAbs_weight (c : Char) : (weight c).natAbs = if isParenthesis c then 1 else 0 := by
  by_cases opening : c = '('
  · subst opening
    rfl
  · by_cases closing : c = ')'
    · subst closing
      rfl
    · simp [weight, isParenthesis, opening, closing]

/-- A live apostrophe opens or closes a quote for the place behind it. -/
lemma isQuoted_succ (t : Text) (p : Nat) : t.isQuoted (p + 1) = (t.isQuoted p ^^ t.isLive p) := by
  rw [isQuoted, isQuoted, List.range_succ, List.countP_append, List.countP_singleton]
  cases t.isLive p with
  | true =>
    rw [if_pos rfl, Nat.add_mod]
    rcases Nat.mod_two_eq_zero_or_one ((List.range p).countP t.isLive) with even | odd
    · rw [even]
      rfl
    · rw [odd]
      rfl
  | false => exact (Bool.xor_false _).symm

/-- The count of a character grows where it stands outside quotes. -/
lemma bare_succ (t : Text) (c : Char) (p : Nat) :
    t.bare c (p + 1) = t.bare c p + if t[p]? == some c && !t.isQuoted p then 1 else 0 := by
  rw [bare, List.range_succ, List.countP_append, List.countP_singleton]
  rfl

/-- A character outside quotes changes the depth by what it weighs. -/
lemma depth_succ {t : Text} {p : Nat} {c : Char} (at_ : t[p]? = some c) :
    t.depth (p + 1) = t.depth p + if t.isQuoted p then 0 else weight c := by
  rw [depth, depth, bare_succ, bare_succ, at_, weight]
  cases t.isQuoted p with
  | true => simp
  | false =>
    by_cases opening : c = '('
    · subst opening
      simp
      omega
    · by_cases closing : c = ')'
      · subst closing
        simp
        omega
      · simp [opening, closing]

end Text

namespace Scan

/-- The scan has counted what stands before the place. -/
structure Stands (t : Text) (p : Nat) (s : Scan) : Prop where
  quoted : s.quoted = t.isQuoted p
  escaped : s.escaped = t.isEscaped p
  depth : s.depth = t.depth p
  underflow : s.underflow = true ↔ ∃ q ≤ p, t.depth q < 0

/-- The start of a scan has counted what stands before the first place. -/
lemma stands_start (t : Text) : start.Stands t 0 where
  quoted := rfl
  escaped := rfl
  depth := rfl
  underflow := by
    apply iff_of_false Bool.false_ne_true
    rintro ⟨q, le, neg⟩
    rw [Nat.le_zero.1 le] at neg
    exact Int.lt_irrefl 0 neg

/-- A step of a scan outside quotes changes the depth by what the character weighs. -/
lemma depth_next (s : Scan) (c : Char) :
    (s.next true c).depth = s.depth + if s.quoted then 0 else Text.weight c := by
  rcases counted_cases true s c with ⟨-, unquoted, rfl⟩ | ⟨-, unquoted, rfl⟩ | inert
  · rw [next_opening unquoted, unquoted]
    rfl
  · rw [next_closing unquoted, unquoted]
    rfl
  · rw [next_of_not_counted inert]
    cases quoted : s.quoted with
    | true => exact (Int.add_zero _).symm
    | false =>
      have none : Text.weight c = 0 := by
        have ne : ¬ (c = '(' ∨ c = ')') := fun paren => inert ⟨rfl, quoted, paren⟩
        rw [not_or] at ne
        rw [Text.weight, if_neg ne.1, if_neg ne.2]
      rw [none]
      exact (Int.add_zero _).symm

/-- A step marks that too many parentheses closed when it takes the depth below zero. -/
lemma underflow_next_iff (s : Scan) (c : Char) :
    (s.next true c).underflow = true ↔
      s.underflow = true ∨ ((s.next true c).depth < 0 ∧ (s.next true c).depth < s.depth) := by
  rcases counted_cases true s c with ⟨-, unquoted, rfl⟩ | ⟨-, unquoted, rfl⟩ | inert
  · have grew : ¬ s.depth + 1 < s.depth := by omega
    rw [next_opening unquoted]
    exact (or_iff_left fun both => grew both.2).symm
  · have fell : s.depth - 1 < s.depth := by omega
    rw [next_closing unquoted, Bool.or_eq_true, decide_eq_true_iff]
    exact or_congr_right (and_iff_left fell).symm
  · rw [next_of_not_counted inert]
    exact (or_iff_left fun both => Int.lt_irrefl _ both.2).symm

/-- One step counts one character more. -/
lemma Stands.next {t : Text} {p : Nat} {s : Scan} (h : s.Stands t p) {c : Char}
    (at_ : t[p]? = some c) : (s.next true c).Stands t (p + 1) := by
  have toggles : s.toggles c = t.isLive p := by
    rw [Scan.toggles, Text.isLive, at_, h.escaped]
    rfl
  have depth : (s.next true c).depth = t.depth (p + 1) := by
    rw [depth_next, h.depth, h.quoted, Text.depth_succ at_]
  refine ⟨?_, ?_, depth, ?_⟩
  · rw [quoted_next, h.quoted, toggles, Text.isQuoted_succ]
  · rw [escaped_next, Text.isEscaped, Nat.add_sub_cancel, at_]
    rfl
  · rw [underflow_next_iff, h.underflow, depth, h.depth]
    -- a depth below zero that was not reached by this step was below zero before it
    constructor
    · rintro (⟨q, le, neg⟩ | ⟨neg, -⟩)
      · exact ⟨q, Nat.le_succ_of_le le, neg⟩
      · exact ⟨p + 1, Nat.le_refl _, neg⟩
    · rintro ⟨q, le, neg⟩
      rcases Nat.le_succ_iff.1 le with le | rfl
      · exact .inl ⟨q, le, neg⟩
      · rcases Int.lt_or_le (t.depth (p + 1)) (t.depth p) with fell | kept
        · exact .inr ⟨neg, fell⟩
        · exact .inl ⟨p, Nat.le_refl p, Int.lt_of_le_of_lt kept neg⟩

/-- A scan of the characters before a place has counted them. -/
lemma stands_take (t : Text) {p : Nat} (le : p ≤ t.length) : (start.after true (t.take p)).Stands t p := by
  induction p with
  | zero => exact stands_start t
  | succ p ih =>
    have at_ : t[p]? = some t[p] := List.getElem?_eq_getElem le
    rw [List.take_add_one, at_, after_append]
    exact (ih (Nat.le_of_succ_le le)).next at_

/-- A scan of a whole text has counted all of it. -/
lemma stands_after (t : Text) : (start.after true t).Stands t t.length := by
  have whole := stands_take t (Nat.le_refl _)
  rwa [List.take_length] at whole

/-- A scan ends balanced when the depth is zero at the end and never negative. -/
lemma isBalanced_iff {t : Text} :
    (start.after true t).isBalanced ↔
      t.depth t.length = 0 ∧ ∀ p ≤ t.length, 0 ≤ t.depth p := by
  have stands := stands_after t
  rw [isBalanced, Bool.and_eq_true, beq_iff_eq, Bool.not_eq_true', stands.depth]
  apply and_congr_right
  intro _
  rw [Bool.eq_false_iff, Ne, stands.underflow]
  constructor
  · intro none p le
    exact Int.not_lt.1 fun neg => none ⟨p, le, neg⟩
  · rintro nonneg ⟨p, le, neg⟩
    exact Int.not_lt.2 (nonneg p le) neg

/-- A step of a scan changes the depth by no more than what the character weighs. -/
lemma natAbs_depth_next_le (s : Scan) (c : Char) :
    (s.next true c).depth.natAbs ≤ s.depth.natAbs + (Text.weight c).natAbs := by
  rw [depth_next]
  apply (Int.natAbs_add_le _ _).trans
  apply Nat.add_le_add_left
  cases s.quoted with
  | true => exact Nat.zero_le _
  | false => exact Nat.le_refl _

/-- The depth of a scan never leaves the range that the number of parentheses spans. -/
lemma natAbs_depth_after_le (s : Scan) (t : Text) :
    (s.after true t).depth.natAbs ≤ s.depth.natAbs + t.countP Text.isParenthesis := by
  induction t generalizing s with
  | nil => exact Nat.le_refl _
  | cons c t ih =>
    have first := natAbs_depth_next_le s c
    have rest := ih (s.next true c)
    rw [Text.natAbs_weight] at first
    rw [after_cons, List.countP_cons]
    omega

/-- In a text with few parentheses the depth stays in the range of a signed counter of 32 bits. -/
lemma depth_lt_of_countable {before after : Text} (few : (before ++ after).Countable) :
    (start.after true before).depth.natAbs < 2 ^ 31 := by
  have counted := natAbs_depth_after_le start before
  rw [Text.Countable, List.countP_append] at few
  exact (counted.trans_eq (Nat.zero_add _)).trans_lt ((Nat.le_add_right _ _).trans_lt few)

end Scan

/-- A text closes all that it opens exactly when it is balanced. -/
theorem Tuples.isClosed_iff_balanced {t : Text} : isClosed t ↔ t.Balanced := by
  have stands := Scan.stands_after t
  rw [isClosed, nested, Bool.and_eq_true, Bool.not_eq_true', stands.quoted, Scan.isBalanced_iff]
  constructor
  · rintro ⟨unquoted, depth, nonneg⟩
    exact ⟨unquoted, depth, nonneg⟩
  · rintro ⟨unquoted, depth, nonneg⟩
    exact ⟨unquoted, depth, nonneg⟩

end Tabular
