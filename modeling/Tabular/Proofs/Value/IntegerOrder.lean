import Tabular.Proofs.Value.Order
import Tabular.Proofs.Value.Scalar

/-!
# The order of integer literals

An integer that does not fit 64 bits is stored as the nearest double (`Value.Stores`). Rounding keeps it
beyond all integers that fit, on its side, and never makes a larger integer the smaller one
(`Value.Stores.toRat_le_toRat`). So integer literals of any length keep their order, and those that fit keep
it strictly (`Value.order_integers`).
-/

namespace Tabular.Value

/-- The value stores an integer: as it is when it fits, and as the double that it is rounded to
otherwise. -/
inductive Stores (n : ℤ) : Value → Prop where
  | int {i : Int64} :
    Fits n →
    i.toInt = n →
    Stores n (int i)
  | float {f : Binary64} :
    ¬ Fits n →
    f.negative = decide (n < 0) →
    f.IsRounded |(n : ℚ)| →
    Stores n (float f)

/-- The rational that a number is compared by. -/
def toRat : Value → ℚ
  | int i => i.toInt
  | float f => f.toRat
  | null | bool _ | text _ => 0

/-- The value of an integer numeral stores its integer. -/
lemma stores_value (negative : Bool) (digits : Text) :
    Stores (Numeral.intValue negative digits) (Numeral.integer negative digits).value := by
  by_cases fits : Fits (Numeral.intValue negative digits)
  · obtain ⟨i, eq, value⟩ := Numeral.value_of_fits fits
    rw [eq]
    exact .int fits value
  · rw [Numeral.value_of_not_fits fits]
    refine .float fits (Numeral.negative_of_not_fits fits).symm ?_
    rw [Numeral.abs_intValue]
    exact Binary64.isRounded_ofRatio negative _ one_pos

/-- The value of an integer literal stores its integer. -/
lemma stores_ofScalar {t : Text} {n : ℤ} (h : t.IsInteger n) : Stores n (ofScalar t) := by
  obtain ⟨negative, digits, formed, rfl, rfl⟩ := Text.isInteger_iff.1 h
  have spelling : Spelling (Numeral.integer negative digits).text (Numeral.integer negative digits).value :=
    .number formed rfl
  rw [← formed.tight_text.trim_eq_self] at spelling
  rw [spelling.ofScalar_eq]
  exact stores_value negative digits

namespace Stores

variable {m n : ℤ} {v w : Value}

/-- Stored integers compare as their rationals. -/
lemma order_eq (hv : Stores m v) (hw : Stores n w) : v.order w = compare v.toRat w.toRat := by
  cases hv with
  | @int i _ _ =>
    cases hw with
    | @int j _ _ =>
      have cast : compare i.toInt j.toInt = compare (i.toInt : ℚ) j.toInt :=
        compare_eq_compare Int.cast_lt.symm Int.cast_lt.symm
      exact (compare_int64 i j).trans cast
    | @float g _ _ _ => exact g.orderInt_eq_compare_toRat i
  | @float f _ _ _ =>
    cases hw with
    | @int j _ _ =>
      have swap : compare f.toRat (j.toInt : ℚ) = (compare (j.toInt : ℚ) f.toRat).swap :=
        Std.OrientedCmp.eq_swap
      exact (congrArg Ordering.swap (f.orderInt_eq_compare_toRat j)).trans swap.symm
    | @float g _ _ _ => exact f.order_eq_compare_toRat g

/-- An integer that fits is stored as it is. -/
lemma toRat_of_fits (hv : Stores n v) (fits : Fits n) : v.toRat = n := by
  cases hv with
  | int _ eq => exact congrArg Int.cast eq
  | float wide => exact absurd fits wide

end Stores

section Wide

variable {n : ℤ} {f : Binary64}

/-- An integer that does not fit is at least `2 ^ 63` in size. -/
lemma two_pow_le_abs (wide : ¬ Fits n) : 2 ^ 63 ≤ |n| := by
  rw [Fits] at wide
  rcases abs_cases n with ⟨eq, _⟩ | ⟨eq, _⟩
  · rw [eq]
    omega
  · rw [eq]
    omega

/-- What does not fit is not rounded to a size below the first one that does not fit. -/
lemma two_pow_le_size (wide : ¬ Fits n) (rounded : f.IsRounded |(n : ℚ)|) : 2 ^ 63 ≤ f.size := by
  have limit := Binary64.isRounded_size (f := .twoPow63) (by decide)
  rw [← Binary64.size_twoPow63]
  apply limit.size_le_size rounded
  rw [Binary64.size_twoPow63]
  exact_mod_cast two_pow_le_abs wide

/-- A double with the sign of an integer that is not negative is its size. -/
lemma toRat_of_nonneg (negative : f.negative = decide (n < 0)) (nonneg : 0 ≤ n) :
    f.toRat = f.size := by
  rw [Binary64.toRat, negative, decide_eq_false (not_lt.2 nonneg)]
  rfl

/-- A double with the sign of a negative integer is its size below zero. -/
lemma toRat_of_neg (negative : f.negative = decide (n < 0)) (neg : n < 0) : f.toRat = -f.size := by
  rw [Binary64.toRat, negative, decide_eq_true neg]
  rfl

end Wide

/-- A larger integer is not stored as a smaller number. -/
lemma Stores.toRat_le_toRat {m n : ℤ} {v w : Value} (hv : Stores m v) (hw : Stores n w) (le : m ≤ n) :
    v.toRat ≤ w.toRat := by
  cases hv with
  | @int i fits eq =>
    rw [(Stores.int fits eq).toRat_of_fits fits]
    cases hw with
    | @int j fits' eq' =>
      rw [(Stores.int fits' eq').toRat_of_fits fits']
      exact_mod_cast le
    | @float g wide negative rounded =>
      have beyond := two_pow_le_size wide rounded
      have above : 2 ^ 63 ≤ n := by
        rw [Fits] at fits wide
        omega
      have bound : (m : ℚ) ≤ 2 ^ 63 := by exact_mod_cast fits.2.trans (by decide)
      rw [toRat, toRat_of_nonneg negative (above.trans' (by decide))]
      exact bound.trans beyond
  | @float f wide negative rounded =>
    have beyond := two_pow_le_size wide rounded
    cases hw with
    | @int j fits eq =>
      have below : m < 0 := by
        rw [Fits] at fits wide
        omega
      have bound : (-2 ^ 63 : ℚ) ≤ n := by exact_mod_cast fits.1
      rw [(Stores.int fits eq).toRat_of_fits fits, toRat, toRat_of_neg negative below]
      linarith
    | @float g wide' negative' rounded' =>
      rw [toRat, toRat]
      rcases lt_or_ge m 0 with neg | nonneg
      · rw [toRat_of_neg negative neg]
        rcases lt_or_ge n 0 with neg' | nonneg'
        · -- on the negative side the sizes are in the other order
          have sizes := rounded'.size_le_size rounded (by
            rw [abs_of_neg (by exact_mod_cast neg'), abs_of_neg (by exact_mod_cast neg)]
            exact_mod_cast neg_le_neg le)
          rw [toRat_of_neg negative' neg']
          exact neg_le_neg sizes
        · rw [toRat_of_nonneg negative' nonneg']
          linarith [f.size_nonneg, g.size_nonneg]
      · have sizes := rounded.size_le_size rounded' (by
          rw [abs_of_nonneg (by exact_mod_cast nonneg), abs_of_nonneg (by exact_mod_cast nonneg.trans le)]
          exact_mod_cast le)
        rw [toRat_of_nonneg negative nonneg, toRat_of_nonneg negative' (nonneg.trans le)]
        exact sizes

/-- Integer literals of any length keep the order of their integers, whether they are stored as integers or
as doubles, and keep it strictly while they fit 64 bits. -/
theorem order_integers {s t : Text} {m n : ℤ} (hs : s.IsInteger m) (ht : t.IsInteger n) (le : m ≤ n) :
    (ofScalar s).order (ofScalar t) ≠ .gt ∧
      (m < n → Fits m → Fits n → (ofScalar s).order (ofScalar t) = .lt) := by
  have left := stores_ofScalar hs
  have right := stores_ofScalar ht
  rw [left.order_eq right]
  constructor
  · rw [Ne, compare_gt_iff_gt]
    exact not_lt.2 (left.toRat_le_toRat right le)
  · intro lt fits fits'
    rw [left.toRat_of_fits fits, right.toRat_of_fits fits']
    exact compare_lt_iff_lt.2 (by exact_mod_cast lt)

/-- The largest integer that fits is not above the next one, which is stored as a double, nor is that one
above one of four hundred digits, which is stored as infinity; the least and the largest that fit are in
strict order. -/
theorem order_integers_sample :
    (ofScalar "9223372036854775807".toList).order (ofScalar "9223372036854775808".toList) ≠ .gt ∧
      (ofScalar "9223372036854775808".toList).order (ofScalar (List.replicate 400 '9')) ≠ .gt ∧
      (ofScalar "-9223372036854775808".toList).order (ofScalar "9223372036854775807".toList) = .lt := by
  have least : Text.IsInteger "-9223372036854775808".toList (-2 ^ 63) :=
    .minus (by decide) (List.all_eq_true.1 rfl)
  have largest : Text.IsInteger "9223372036854775807".toList (2 ^ 63 - 1) :=
    .plain (by decide) (List.all_eq_true.1 rfl)
  have wide : Text.IsInteger "9223372036854775808".toList (2 ^ 63) :=
    .plain (by decide) (List.all_eq_true.1 rfl)
  have huge : Text.IsInteger (List.replicate 400 '9') (Text.natural (List.replicate 400 '9')) :=
    .plain (by decide) fun c mem => by rw [List.eq_of_mem_replicate mem]; decide
  have bounds := (order_integers least largest (by decide)).2
  exact ⟨(order_integers largest wide (by decide)).1, (order_integers wide huge (by decide +kernel)).1,
    bounds (by decide) ⟨by decide, by decide⟩ ⟨by decide, by decide⟩⟩

end Tabular.Value
