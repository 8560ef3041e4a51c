import Mathlib.Order.Compare
import Mathlib.Tactic.Linarith
import Mathlib.Tactic.Ring
import Tabular.Binary64.Basic

/-!
# The order of doubles

Every encoding has a position, its value counted in units; infinities and what is not a number have the
position that their bits would give to a finite number. Ranks and positions are in the same order
(`Binary64.rank_lt_rank_iff`), and so both comparisons of a double compare positions, the one with a
double (`Binary64.order_eq`) and the one with an integer (`Binary64.orderInt_eq`). The whole part that
the second one casts to an integer is always in range (`Binary64.Castable.toInt_whole`).
-/

namespace Tabular

/-- Pairs that lie in the same order compare in the same way. -/
lemma compare_eq_compare {α β : Type} [LinearOrder α] [LinearOrder β] {a b : α} {c d : β}
    (lt : a < b ↔ c < d) (gt : b < a ↔ d < c) : compare a b = compare c d := by
  obtain h | h | h := lt_trichotomy a b
  · rw [compare_lt_iff_lt.2 h, compare_lt_iff_lt.2 (lt.1 h)]
  · have le : d ≤ c := not_lt.1 (mt lt.2 h.not_lt)
    have ge : c ≤ d := not_lt.1 (mt gt.2 h.not_gt)
    rw [compare_eq_iff_eq.2 h, compare_eq_iff_eq.2 (le_antisymm ge le)]
  · rw [compare_gt_iff_gt.2 h, compare_gt_iff_gt.2 (gt.1 h)]

/-- A multiple of `u` and a sum of a multiple and a rest compare by the factors first. -/
lemma compare_mul_add {u r : Int} (lo : -u < r) (hi : r < u) (i w : Int) :
    compare (i * u) (w * u + r) = (compare i w).then (compare 0 r) := by
  obtain h | h | h := lt_trichotomy i w
  · have step : i * u + u ≤ w * u := by nlinarith
    have lt : i * u < w * u + r := by omega
    rw [compare_lt_iff_lt.2 h, compare_lt_iff_lt.2 lt]
    rfl
  · subst h
    rw [compare_eq_iff_eq.2 rfl]
    exact compare_eq_compare (by omega) (by omega)
  · have step : w * u + u ≤ i * u := by nlinarith
    have gt : w * u + r < i * u := by omega
    rw [compare_gt_iff_gt.2 h, compare_gt_iff_gt.2 gt]
    rfl

/-- Integers of 64 bits compare as the integers they are. -/
lemma compare_int64 (i j : Int64) : compare i j = compare i.toInt j.toInt := by
  have same : (if i < j then Ordering.lt else if i = j then .eq else .gt) =
      if i.toInt < j.toInt then .lt else if i.toInt = j.toInt then .eq else .gt := by
    simp only [Int64.lt_iff_toInt_lt, Int64.toInt_inj]
  exact same

namespace Binary64

/-- The place of an encoding, in units. For a finite number it is the value. -/
def position (f : Binary64) : Int := f.signed f.units

/-- Without a minus sign a size stays as it is. -/
lemma signed_of_positive {f : Binary64} (h : f.negative = false) (n : Nat) : f.signed n = n :=
  if_neg (Bool.eq_false_iff.1 h)

/-- With a minus sign a size changes its sign. -/
lemma signed_of_negative {f : Binary64} (h : f.negative = true) (n : Nat) : f.signed n = -n :=
  if_pos h

/-- There are `2 ^ 1074` units in one. -/
lemma unit_eq : unit = 2 ^ 1074 := by
  rw [unit]
  generalize 1074 = n
  exact Nat.one_shiftLeft n

lemma unit_pos : 0 < unit := by
  rw [unit_eq]
  positivity

section Magnitudes

variable (f g : Binary64)

/-- A magnitude holds the exponent above the fraction. -/
lemma magnitude_eq : f.magnitude = 2 ^ 52 * f.exponent + f.fraction := by
  rw [exponent, fraction, Nat.shiftRight_eq_div_pow, Nat.one_shiftLeft]
  exact (Nat.div_add_mod ..).symm

/-- A fraction has 52 bits. -/
lemma fraction_lt : f.fraction < 2 ^ 52 := Nat.mod_lt _ (Nat.two_pow_pos 52)

/-- With the smallest exponent a number counts as many units as its fraction says. -/
lemma units_of_exponent_eq_zero {f : Binary64} (h : f.exponent = 0) : f.units = f.fraction := by
  simp [units, significand, spacing, h]

/-- With any other exponent there is a leading bit, and each next exponent doubles the units. -/
lemma units_of_exponent_eq_succ {f : Binary64} {n : Nat} (h : f.exponent = n + 1) :
    f.units = (2 ^ 52 + f.fraction) * 2 ^ n := by
  rw [units, significand, spacing, h, if_neg (Nat.succ_ne_zero n), Nat.add_sub_cancel,
    Nat.one_shiftLeft, Nat.one_shiftLeft]

/-- A number counts fewer units than the next exponent starts with. -/
lemma units_lt : f.units < 2 ^ (52 + f.exponent) := by
  have fraction := f.fraction_lt
  cases h : f.exponent with
  | zero =>
    rw [units_of_exponent_eq_zero h]
    exact fraction
  | succ n =>
    have pos := Nat.two_pow_pos n
    rw [units_of_exponent_eq_succ h]
    calc (2 ^ 52 + f.fraction) * 2 ^ n
      _ < 2 ^ 53 * 2 ^ n := Nat.mul_lt_mul_of_pos_right (by omega) pos
      _ = 2 ^ (52 + (n + 1)) := by rw [← pow_add]; congr 1; omega

/-- A number counts no fewer units than its exponent starts with. -/
lemma le_units {f : Binary64} {n : Nat} (h : f.exponent = n + 1) : 2 ^ (52 + n) ≤ f.units := by
  rw [units_of_exponent_eq_succ h, pow_add]
  exact Nat.mul_le_mul_right _ (Nat.le_add_right _ _)

variable {f g}

/-- Larger magnitudes count more units. -/
lemma units_lt_units (h : f.magnitude < g.magnitude) : f.units < g.units := by
  have left := f.magnitude_eq
  have right := g.magnitude_eq
  have bound := f.fraction_lt
  have bound' := g.fraction_lt
  obtain lt | eq : f.exponent < g.exponent ∨ f.exponent = g.exponent := by omega
  · -- the larger exponent starts where the smaller one cannot reach
    obtain ⟨n, succ⟩ := Nat.exists_eq_succ_of_ne_zero (Nat.ne_zero_of_lt lt)
    calc f.units
      _ < 2 ^ (52 + f.exponent) := units_lt f
      _ ≤ 2 ^ (52 + n) := Nat.pow_le_pow_right (by decide) (by omega)
      _ ≤ g.units := le_units succ
  · have lt : f.fraction < g.fraction := by omega
    cases e : f.exponent with
    | zero => rwa [units_of_exponent_eq_zero e, units_of_exponent_eq_zero (eq ▸ e)]
    | succ n =>
      rw [units_of_exponent_eq_succ e, units_of_exponent_eq_succ (eq ▸ e)]
      exact Nat.mul_lt_mul_of_pos_right (by omega) (Nat.two_pow_pos n)

/-- Equal magnitudes count the same units. -/
lemma units_eq_units (h : f.magnitude = g.magnitude) : f.units = g.units := by
  obtain ⟨_, m, _⟩ := f
  obtain ⟨_, n, _⟩ := g
  cases h
  rfl

/-- Units and magnitudes are in the same order. -/
lemma units_lt_units_iff : f.units < g.units ↔ f.magnitude < g.magnitude := by
  constructor
  · intro lt
    by_contra! le
    obtain gt | eq := le.lt_or_eq
    · exact lt.asymm (units_lt_units gt)
    · exact lt.ne (units_eq_units eq.symm)
  · exact units_lt_units

/-- Only the zeros count no units. -/
lemma units_eq_zero_iff : f.units = 0 ↔ f.magnitude = 0 := by
  have split := f.magnitude_eq
  cases e : f.exponent with
  | zero =>
    rw [units_of_exponent_eq_zero e]
    omega
  | succ n =>
    have pos := Nat.two_pow_pos (52 + n)
    have le := le_units e
    omega

end Magnitudes

section Places

variable {f g : Binary64}

/-- Ranks and positions are in the same order. -/
theorem rank_lt_rank_iff : f.rank < g.rank ↔ f.position < g.position := by
  have lt := units_lt_units_iff (f := f) (g := g)
  have gt := units_lt_units_iff (f := g) (g := f)
  -- numbers of different signs are apart unless both are zero
  have left := units_eq_zero_iff (f := f)
  have right := units_eq_zero_iff (f := g)
  simp only [rank, position, signed]
  cases f.negative with
  | false => cases g.negative <;> simp only [Bool.false_eq_true, if_true, if_false] <;> omega
  | true => cases g.negative <;> simp only [Bool.false_eq_true, if_true, if_false] <;> omega

/-- Ranks compare as positions do. -/
lemma compare_rank : compare f.rank g.rank = compare f.position g.position :=
  compare_eq_compare rank_lt_rank_iff rank_lt_rank_iff

/-- The infinities are no zeros. -/
lemma infinityMagnitude_pos : 0 < infinityMagnitude := by decide

/-- Only the two zeros have one rank and two places among the encodings. -/
lemma compare_totalRank (h : 0 < f.magnitude ∨ 0 < g.magnitude) :
    compare f.totalRank g.totalRank = compare f.rank g.rank := by
  apply compare_eq_compare <;> simp only [totalRank, rank, signed] <;> split_ifs <;> omega

/-- Doubles compare by their positions, those that are not numbers included. -/
theorem order_eq (f g : Binary64) : f.order g = compare f.position g.position := by
  rw [order, ← compare_rank]
  split
  case isTrue nan =>
    have pos := infinityMagnitude_pos
    apply compare_totalRank
    simp only [Bool.or_eq_true, isNaN, decide_eq_true_eq] at nan
    omega
  case isFalse => rfl

/-- Two doubles share a place in the order when they share a rank. -/
lemma order_eq_eq_iff : f.order g = .eq ↔ f.rank = g.rank := by
  rw [order_eq, ← compare_rank, compare_eq_iff_eq]

/-- A double that is not a number has no rank in common with a number. -/
lemma isNaN_eq_of_rank_eq (h : f.rank = g.rank) : f.isNaN = g.isNaN := by
  have magnitude : f.magnitude = g.magnitude := by
    simp only [rank, signed] at h
    split_ifs at h <;> omega
  rw [isNaN, isNaN, magnitude]

/-- Two doubles are equal as numbers when both are numbers and they share a rank. -/
lemma same_iff : f.same g ↔ f.isNaN = false ∧ g.isNaN = false ∧ f.rank = g.rank := by
  simp [same, and_assoc]

/-- Unless neither is a number, two doubles share a place in the order when they are equal as numbers. -/
lemma order_eq_eq_iff_same (h : ¬ (f.isNaN ∧ g.isNaN)) : f.order g = .eq ↔ f.same g := by
  rw [order_eq_eq_iff, same_iff]
  constructor
  · intro rank
    have nan := isNaN_eq_of_rank_eq rank
    have left : f.isNaN = false := Bool.eq_false_iff.2 fun yes => h ⟨yes, nan ▸ yes⟩
    exact ⟨left, nan ▸ left, rank⟩
  · rintro ⟨_, _, rank⟩
    exact rank

end Places

/-- The number with the other sign. -/
def neg (f : Binary64) : Binary64 := ⟨!f.negative, f.magnitude, f.magnitude_lt⟩

/-- The other sign mirrors the rank. -/
@[simp] lemma rank_neg (f : Binary64) : f.neg.rank = -f.rank := by
  cases h : f.negative <;> simp [neg, rank, signed, h]

/-- The other sign mirrors the position. -/
@[simp] lemma position_neg (f : Binary64) : f.neg.position = -f.position := by
  have units : f.neg.units = f.units := units_eq_units rfl
  rw [position, position, units]
  cases h : f.negative <;> simp [neg, signed, h]

/-- The first double above all integers of 64 bits has the position that its value gives. -/
lemma position_twoPow63 : twoPow63.position = 2 ^ 63 * unit := by
  have exponent : twoPow63.exponent = 1085 + 1 := by decide
  have fraction : twoPow63.fraction = 0 := by decide
  have units : twoPow63.units = 2 ^ 63 * unit := by
    rw [units_of_exponent_eq_succ exponent, fraction, unit_eq, Nat.add_zero, ← pow_add, ← pow_add]
  rw [position, units]
  exact Nat.cast_mul ..

section Cast

variable {f : Binary64}

/-- The number passes the guards that stand before the cast of its whole part. -/
def Castable (f : Binary64) : Prop :=
  f.isNaN = false ∧ ¬ twoPow63.rank ≤ f.rank ∧ ¬ f.rank < -twoPow63.rank

/-- The upper guard is a bound on the position. -/
lemma le_position_iff : twoPow63.rank ≤ f.rank ↔ 2 ^ 63 * (unit : Int) ≤ f.position := by
  rw [← position_twoPow63, ← not_lt, ← not_lt, rank_lt_rank_iff]

/-- The lower guard is a bound on the position. -/
lemma position_lt_iff : f.rank < -twoPow63.rank ↔ f.position < -(2 ^ 63 * (unit : Int)) := by
  rw [← position_twoPow63, ← rank_neg, ← position_neg, rank_lt_rank_iff]

/-- What is not a number is not finite. -/
lemma isFinite_of_isNaN (h : f.isNaN) : f.isFinite = false := by
  have gt : infinityMagnitude < f.magnitude := by simpa [isNaN] using h
  simpa [isFinite] using gt.le

/-- What is not a finite number lies beyond the guards, on the side of its sign. -/
lemma beyond_of_not_finite (h : f.isFinite = false) :
    if f.negative then f.rank < -twoPow63.rank else twoPow63.rank ≤ f.rank := by
  have lt : twoPow63.rank < infinityMagnitude := by decide
  have le : infinityMagnitude ≤ f.magnitude := by simpa [isFinite] using h
  split
  case isTrue negative =>
    have rank : f.rank = -f.magnitude := signed_of_negative negative _
    omega
  case isFalse positive =>
    have rank : f.rank = f.magnitude := signed_of_positive (Bool.eq_false_iff.2 positive) _
    omega

/-- The whole part and what the cut drops add to the position. -/
lemma whole_mul_unit_add_remainder (f : Binary64) : f.whole * unit + f.remainder = f.position := by
  have split : (f.units / unit) * unit + f.units % unit = f.units := Nat.div_add_mod' ..
  rw [whole, remainder, position]
  nth_rewrite 3 [← split]
  simp only [signed]
  split <;> push_cast <;> ring

/-- The cut drops less than one. -/
lemma remainder_bounds (f : Binary64) : -(unit : Int) < f.remainder ∧ f.remainder < unit := by
  have lt := Nat.mod_lt f.units unit_pos
  simp only [remainder, signed]
  split <;> omega

/-- Between the guards the position is that of an integer of 64 bits or of a number below the next one. -/
lemma Castable.position_bounds (h : f.Castable) :
    -(2 ^ 63 * (unit : Int)) ≤ f.position ∧ f.position < 2 ^ 63 * (unit : Int) := by
  obtain ⟨_, above, below⟩ := h
  exact ⟨not_lt.1 (mt position_lt_iff.2 below), not_le.1 (mt le_position_iff.2 above)⟩

/-- Between the guards the whole part fits 64 bits. -/
lemma Castable.whole_bounds (h : f.Castable) : -2 ^ 63 ≤ f.whole ∧ f.whole < 2 ^ 63 := by
  obtain ⟨lo, hi⟩ := h.position_bounds
  cases negative : f.negative with
  | false =>
    have units : f.units < 2 ^ 63 * unit := by
      rw [position, signed_of_positive negative] at hi
      exact_mod_cast hi
    have lt : f.units / unit < 2 ^ 63 := (Nat.div_lt_iff_lt_mul unit_pos).2 units
    rw [whole, signed_of_positive negative]
    generalize f.units / unit = q at lt ⊢
    omega
  | true =>
    have units : f.units ≤ unit * 2 ^ 63 := by
      rw [position, signed_of_negative negative, neg_le_neg_iff, mul_comm] at lo
      exact_mod_cast lo
    have le : f.units / unit ≤ 2 ^ 63 := Nat.div_le_of_le_mul units
    rw [whole, signed_of_negative negative]
    generalize f.units / unit = q at le ⊢
    omega

/-- Between the guards there are finite numbers only. -/
lemma Castable.isFinite (h : f.Castable) : f.isFinite := by
  obtain ⟨_, above, below⟩ := h
  by_contra infinite
  have beyond := beyond_of_not_finite (Bool.eq_false_iff.2 infinite)
  split at beyond
  · exact below beyond
  · exact above beyond

/-- The cast of the whole part loses nothing. -/
theorem Castable.toInt_whole (h : f.Castable) : (Int64.ofInt f.whole).toInt = f.whole :=
  Int64.toInt_ofInt_of_le h.whole_bounds.1 h.whole_bounds.2

/-- An integer and a double compare by their positions, infinities and what is not a number
included. -/
theorem orderInt_eq (f : Binary64) (i : Int64) :
    f.orderInt i = compare (i.toInt * unit) f.position := by
  have pos : (0 : Int) < unit := by exact_mod_cast unit_pos
  have above : twoPow63.rank ≤ f.rank → compare (i.toInt * unit) f.position = .lt := by
    intro le
    have bound := le_position_iff.1 le
    have lt := mul_lt_mul_of_pos_right i.toInt_lt pos
    exact compare_lt_iff_lt.2 (lt.trans_le bound)
  have below : f.rank < -twoPow63.rank → compare (i.toInt * unit) f.position = .gt := by
    intro lt
    have bound := position_lt_iff.1 lt
    have le := mul_le_mul_of_nonneg_right i.le_toInt pos.le
    exact compare_gt_iff_gt.2 (by linarith)
  by_cases nan : f.isNaN
  · have beyond := beyond_of_not_finite (isFinite_of_isNaN nan)
    rw [orderInt, if_pos nan]
    split
    case isTrue negative => exact (below (by simpa [negative] using beyond)).symm
    case isFalse positive => exact (above (by simpa [positive] using beyond)).symm
  · rw [orderInt, if_neg nan]
    split_ifs with hi lo
    · exact (above hi).symm
    · exact (below lo).symm
    · -- the whole parts decide, and where they agree the integer is the whole part of the double
      have castable : f.Castable := ⟨Bool.eq_false_iff.2 nan, hi, lo⟩
      obtain ⟨least, greatest⟩ := f.remainder_bounds
      rw [compare_int64, castable.toInt_whole, ← f.whole_mul_unit_add_remainder,
        compare_mul_add least greatest]

end Cast

end Binary64

end Tabular
