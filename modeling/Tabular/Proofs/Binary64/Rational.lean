import Mathlib.Data.Rat.Floor
import Mathlib.Tactic.FieldSimp
import Tabular.Proofs.Binary64.Order

/-!
# The rationals that doubles denote

`Binary64.toRat` reads the bits of a finite number as sign, exponent and significand. It is the
position divided by the unit (`Binary64.toRat_eq`), and so numbers compare as rationals, with each other
(`Binary64.order_eq_compare_toRat`) and with integers (`Binary64.orderInt_eq_compare_toRat`).
-/

namespace Tabular.Binary64

/-- The absolute value that the bits of a finite number denote. Only the smallest exponent has no
leading bit, and it counts as the next one. -/
def size (f : Binary64) : ℚ :=
  if f.exponent = 0 then f.fraction / 2 ^ 52 * 2 ^ (-1022 : ℤ)
  else (1 + f.fraction / 2 ^ 52) * 2 ^ (f.exponent - 1023 : ℤ)

/-- The rational that the bits of a finite number denote. -/
def toRat (f : Binary64) : ℚ := if f.negative then -f.size else f.size

/-- The infinity of the given sign. -/
def infinity (negative : Bool) : Binary64 := ⟨negative, infinityMagnitude, by decide⟩

section Values

variable (f g : Binary64)

/-- The unit, in the factors of the smallest exponent and of a significand. -/
lemma unit_cast : (unit : ℚ) = 2 ^ 52 * 2 ^ 1022 := by
  rw [← pow_add, unit_eq]
  exact Nat.cast_pow ..

/-- The units of a number, each worth `2 ^ -1074`, add to its size. -/
lemma units_div_unit : (f.units : ℚ) / unit = f.size := by
  rw [unit_cast, size]
  cases h : f.exponent with
  | zero =>
    rw [units_of_exponent_eq_zero h, if_pos rfl, zpow_neg, div_mul_eq_div_div]
    rfl
  | succ n =>
    have shift : (2 : ℚ) ^ (((n + 1 : Nat) : ℤ) - 1023) = 2 ^ n / 2 ^ 1022 := by
      rw [show ((n + 1 : Nat) : ℤ) - 1023 = n - (1022 : Nat) by omega, zpow_sub₀ two_ne_zero]
      rfl
    rw [units_of_exponent_eq_succ h, if_neg (Nat.succ_ne_zero n), shift]
    have pos : (2 : ℚ) ^ 1022 ≠ 0 := pow_ne_zero _ two_ne_zero
    generalize (2 : ℚ) ^ 1022 = u at pos ⊢
    push_cast
    field_simp
    norm_num

/-- A finite number is its position, counted in units. -/
theorem toRat_eq : f.toRat = f.position / unit := by
  rw [toRat, ← units_div_unit, position, signed]
  split <;> push_cast <;> ring

lemma unit_cast_pos : (0 : ℚ) < unit := Nat.cast_pos.2 unit_pos

/-- Rationals of doubles compare as the positions do. -/
lemma compare_toRat : compare f.toRat g.toRat = compare f.position g.position := by
  rw [toRat_eq, toRat_eq]
  have lt (p q : Int) : (p / unit : ℚ) < q / unit ↔ p < q := by
    rw [div_lt_div_iff_of_pos_right unit_cast_pos, Int.cast_lt]
  exact compare_eq_compare (lt _ _) (lt _ _)

/-- An integer compares with the rational of a double as its units do with the position. -/
lemma compare_int_toRat (i : Int) :
    compare (i : ℚ) f.toRat = compare (i * unit) f.position := by
  rw [toRat_eq]
  apply compare_eq_compare
  · rw [lt_div_iff₀ unit_cast_pos]
    norm_cast
  · rw [div_lt_iff₀ unit_cast_pos]
    norm_cast

/-- Doubles compare as the rationals that their bits give, which for finite numbers are their values. -/
theorem order_eq_compare_toRat : f.order g = compare f.toRat g.toRat := by
  rw [order_eq, compare_toRat]

/-- An integer and a double compare as the rationals that they denote. -/
theorem orderInt_eq_compare_toRat (i : Int64) : f.orderInt i = compare (i.toInt : ℚ) f.toRat := by
  rw [orderInt_eq, compare_int_toRat]

end Values

/-- Sizes are not negative. -/
lemma size_nonneg (f : Binary64) : 0 ≤ f.size := by
  rw [← units_div_unit]
  positivity

/-- The whole part of a size is a quotient of naturals. -/
lemma floor_size (f : Binary64) : ⌊f.size⌋ = (f.units / unit : Nat) := by
  rw [← units_div_unit]
  exact Rat.floor_natCast_div_natCast ..

/-- The whole part of a number is cut toward zero. -/
theorem whole_eq (f : Binary64) :
    f.whole = if 0 ≤ f.toRat then ⌊f.toRat⌋ else ⌈f.toRat⌉ := by
  have nonneg := f.size_nonneg
  cases negative : f.negative with
  | false =>
    have toRat : f.toRat = f.size := by simp [toRat, negative]
    rw [toRat, if_pos nonneg, floor_size]
    simp [whole, signed, negative]
  | true =>
    have toRat : f.toRat = -f.size := by simp [toRat, negative]
    have whole : f.whole = -⌊f.size⌋ := by simp [whole, signed, negative, floor_size]
    rw [toRat, whole, Int.ceil_neg]
    split
    case isTrue le =>
      -- the negative zero
      have zero : f.size = 0 := le_antisymm (neg_nonneg.1 le) nonneg
      simp [zero]
    case isFalse => rfl

/-- Every finite number lies between the infinities. -/
lemma order_infinity {f : Binary64} (h : f.isFinite) (negative : Bool) :
    f.order (infinity negative) = if negative then .gt else .lt := by
  have lt : f.magnitude < infinityMagnitude := by simpa [isFinite] using h
  have bounds : -(infinityMagnitude : Int) < f.rank ∧ f.rank < infinityMagnitude := by
    simp only [rank, signed]
    split <;> omega
  rw [order_eq, ← compare_rank]
  cases negative with
  | false => exact compare_lt_iff_lt.2 bounds.2
  | true => exact compare_gt_iff_gt.2 bounds.1

/-- Every integer lies between the infinities. -/
lemma orderInt_infinity (negative : Bool) (i : Int64) :
    (infinity negative).orderInt i = if negative then .gt else .lt := by
  cases negative <;> rfl

end Tabular.Binary64
