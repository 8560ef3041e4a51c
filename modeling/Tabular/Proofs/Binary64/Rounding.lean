import Tabular.Binary64.Basic
import Tabular.Proofs.Binary64.Rational

/-!
# Rounding to the nearest double

`Binary64.IsRounded` says what a size is rounded to without saying how it is found: no double is nearer,
and a tie goes to the even significand. This leaves one double for each size
(`Binary64.IsRounded.magnitude_eq`), so that larger sizes are never rounded to smaller ones
(`Binary64.IsRounded.size_le_size`). The double that is made of a quotient is the one that the quotient is
rounded to (`Binary64.isRounded_ofRatio`).
-/

namespace Tabular.Binary64

/-- The size is rounded to the double: none is nearer, and if another is as near then this one has the
even significand. An infinity counts as `2 ^ 1024`, the number that would follow the largest finite one
(`size_infinity`). -/
structure IsRounded (x : ℚ) (f : Binary64) : Prop where
  isNaN : f.isNaN = false
  nearest : ∀ g : Binary64, g.isNaN = false → |x - f.size| ≤ |x - g.size|
  even : ∀ g : Binary64, g.isNaN = false → |x - f.size| = |x - g.size| →
    f.size = g.size ∨ f.significand % 2 = 0

/-- With no fraction the size is a power of two. -/
lemma size_of_fraction_eq_zero {f : Binary64} {n : Nat} (exponent : f.exponent = n + 1023)
    (fraction : f.fraction = 0) : f.size = 2 ^ n := by
  have shift : ((n + 1023 : Nat) : ℤ) - 1023 = n := by omega
  have ne : n + 1023 ≠ 0 := by omega
  rw [size, exponent, fraction, if_neg ne, shift, Nat.cast_zero, zero_div, add_zero, one_mul]
  exact zpow_natCast 2 n

/-- An infinity has the size of the power of two behind the largest finite number. -/
lemma size_infinity (negative : Bool) : (infinity negative).size = 2 ^ 1024 :=
  size_of_fraction_eq_zero (by cases negative <;> decide) (by cases negative <;> decide)

/-- The first double above all integers of 64 bits has the size that its name says. -/
lemma size_twoPow63 : twoPow63.size = 2 ^ 63 :=
  size_of_fraction_eq_zero (by decide) (by decide)

/-- Rounding a quotient gives a number. -/
lemma isNaN_ofRatio (negative : Bool) (num den : Nat) : (ofRatio negative num den).isNaN = false :=
  decide_eq_false (Nat.not_lt.2 (Nat.min_le_right _ _))

section Sizes

variable {f g : Binary64}

/-- Sizes and magnitudes are in the same order. -/
lemma size_lt_size_iff : f.size < g.size ↔ f.magnitude < g.magnitude := by
  rw [← units_div_unit, ← units_div_unit, div_lt_div_iff_of_pos_right unit_cast_pos, Nat.cast_lt,
    units_lt_units_iff]

/-- One size has one magnitude. -/
lemma size_eq_size_iff : f.size = g.size ↔ f.magnitude = g.magnitude := by
  rw [eq_iff_le_not_lt, eq_iff_le_not_lt, ← not_lt, size_lt_size_iff, size_lt_size_iff, not_lt]

/-- A significand is even when the magnitude is. -/
lemma significand_mod_two (f : Binary64) : f.significand % 2 = f.magnitude % 2 := by
  have parts := f.magnitude_eq
  rw [significand, Nat.one_shiftLeft]
  split <;> omega

/-- A magnitude that counts `r` steps from the start of the exponent `e` has their size, also when the
last step reaches the next exponent. -/
lemma units_eq_of_magnitude {e r : Nat} (magnitude : f.magnitude = 2 ^ 52 * e + r)
    (le : r ≤ 2 ^ 53) (lead : 0 < e → 2 ^ 52 ≤ r) : f.units = r * 2 ^ e := by
  have parts := f.magnitude_eq
  have fraction := f.fraction_lt
  rcases Nat.lt_or_ge r (2 ^ 52) with small | large
  · have zero : e = 0 := by omega
    have exponent : f.exponent = 0 := by omega
    have rest : f.fraction = r := by omega
    rw [units_of_exponent_eq_zero exponent, rest, zero, pow_zero, mul_one]
  rcases le.lt_or_eq with within | carry
  · have exponent : f.exponent = e + 1 := by omega
    have rest : 2 ^ 52 + f.fraction = r := by omega
    rw [units_of_exponent_eq_succ exponent, rest]
  · have exponent : f.exponent = e + 1 + 1 := by omega
    have rest : f.fraction = 0 := by omega
    rw [units_of_exponent_eq_succ exponent, rest, carry, pow_succ, Nat.add_zero]
    ring

/-- Doubles are multiples of the spacing of an exponent, unless they lie below all doubles of this
exponent. -/
lemma units_cases (f : Binary64) (e : Nat) :
    (∃ k, f.units = k * 2 ^ e) ∨ 0 < e ∧ f.units < 2 ^ 52 * 2 ^ e := by
  rcases Nat.lt_or_ge e f.exponent with lt | le
  · obtain ⟨n, succ⟩ := Nat.exists_eq_succ_of_ne_zero (Nat.ne_zero_of_lt lt)
    have spacing : 2 ^ n = 2 ^ (n - e) * 2 ^ e := by
      rw [← pow_add]
      congr 1
      omega
    exact .inl ⟨_, by rw [units_of_exponent_eq_succ succ, spacing, ← mul_assoc]⟩
  · rcases Nat.eq_zero_or_pos e with rfl | pos
    · exact .inl ⟨f.units, by rw [pow_zero, mul_one]⟩
    · have below : 2 ^ (52 + f.exponent) ≤ 2 ^ (52 + e) := Nat.pow_le_pow_right two_pos (by omega)
      rw [pow_add _ _ e] at below
      exact .inr ⟨pos, f.units_lt.trans_le below⟩

/-- An infinity counts as many units as the exponent behind the largest starts with. -/
lemma units_infinity (negative : Bool) : (infinity negative).units = 2 ^ 52 * 2 ^ 2046 :=
  units_eq_of_magnitude rfl (by decide) (fun _ => le_rfl)

/-- No number counts more units than an infinity. -/
lemma units_le_infinity (h : g.isNaN = false) (negative : Bool) :
    g.units ≤ (infinity negative).units := by
  have le : g.magnitude ≤ infinityMagnitude := by simpa [isNaN] using h
  rw [← not_lt, units_lt_units_iff]
  exact not_lt.2 le

end Sizes

section Quotients

variable {num den e : Nat}

/-- A quotient is rounded down below the middle, up above it, and to the even side in the middle. -/
lemma roundToEven_cases (num den : Nat) :
    (roundToEven num den = num / den ∧
      (2 * (num % den) < den ∨ (2 * (num % den) = den ∧ num / den % 2 = 0))) ∨
    (roundToEven num den = num / den + 1 ∧
      (den < 2 * (num % den) ∨ (2 * (num % den) = den ∧ num / den % 2 = 1))) := by
  rw [roundToEven]
  split
  · right
    refine ⟨rfl, ?_⟩
    omega
  · left
    refine ⟨rfl, ?_⟩
    omega

/-- No multiple of the divisor is nearer than the rounded one, and if another is as near then the rounded
one is even. -/
lemma roundToEven_nearest (num : Nat) (pos : 0 < den) (k : Nat) :
    ((num : Int) - (roundToEven num den * den : Nat)).natAbs ≤ ((num : Int) - (k * den : Nat)).natAbs ∧
      (((num : Int) - (roundToEven num den * den : Nat)).natAbs =
          ((num : Int) - (k * den : Nat)).natAbs →
        roundToEven num den = k ∨ roundToEven num den % 2 = 0) := by
  have parts : num / den * den + num % den = num := Nat.div_add_mod' num den
  have rest := Nat.mod_lt num pos
  have next : (num / den + 1) * den = num / den * den + den := Nat.succ_mul _ _
  -- the two multiples around the quotient are nearer than all others on their sides
  have sides : k = num / den ∨ k = num / den + 1 ∨
      (k * den + den ≤ num / den * den) ∨ (num / den + 1) * den + den ≤ k * den := by
    rw [← Nat.succ_mul, ← Nat.succ_mul]
    rcases Nat.lt_trichotomy k (num / den) with below | same | above
    · exact .inr (.inr (.inl (Nat.mul_le_mul_right den below)))
    · exact .inl same
    · rcases Nat.eq_or_lt_of_le above with same | above
      · exact .inr (.inl same.symm)
      · exact .inr (.inr (.inr (Nat.mul_le_mul_right den above)))
  rcases roundToEven_cases num den with ⟨eq, near⟩ | ⟨eq, near⟩
  · rw [eq]
    rcases sides with rfl | rfl | below | above
    · exact ⟨le_rfl, fun _ => .inl rfl⟩
    · constructor <;> omega
    · constructor <;> omega
    · constructor <;> omega
  · rw [eq]
    rcases sides with rfl | rfl | below | above
    · constructor <;> omega
    · exact ⟨le_rfl, fun _ => .inl rfl⟩
    · constructor <;> omega
    · constructor <;> omega

/-- With the bits that are dropped, a quotient fills the 53 bits of a significand. -/
lemma drop_bounds (pos : 0 < den) (drop : (num / den).log2 - 52 = e) :
    num < 2 ^ 53 * (den * 2 ^ e) ∧ (0 < e → 2 ^ 52 * (den * 2 ^ e) ≤ num) := by
  have shift (n : Nat) : 2 ^ n * (den * 2 ^ e) = 2 ^ (n + e) * den := by
    rw [pow_add, mul_comm den, mul_assoc]
  rw [shift, shift]
  constructor
  · calc num
      _ < den * (num / den + 1) := Nat.lt_mul_div_succ num pos
      _ ≤ den * 2 ^ (53 + e) := by
        apply Nat.mul_le_mul_left
        apply Nat.succ_le_of_lt
        exact Nat.lt_log2_self.trans_le (Nat.pow_le_pow_right two_pos (by omega))
      _ = 2 ^ (53 + e) * den := mul_comm ..
  · intro dropped
    have log : (num / den).log2 = 52 + e := by omega
    have ne : num / den ≠ 0 := by
      intro zero
      rw [zero, Nat.log2_zero] at log
      omega
    calc 2 ^ (52 + e) * den
      _ ≤ num / den * den := Nat.mul_le_mul_right den (log ▸ Nat.log2_self_le ne)
      _ ≤ num := Nat.div_mul_le_self num den

/-- The rounded significand has 53 bits or is the power of two behind them. -/
lemma roundToEven_range (pos : 0 < den) (drop : (num / den).log2 - 52 = e) :
    roundToEven num (den * 2 ^ e) ≤ 2 ^ 53 ∧ (0 < e → 2 ^ 52 ≤ roundToEven num (den * 2 ^ e)) := by
  have pos' : 0 < den * 2 ^ e := Nat.mul_pos pos (Nat.two_pow_pos e)
  obtain ⟨above, below⟩ := drop_bounds pos drop
  have down : num / (den * 2 ^ e) < 2 ^ 53 := (Nat.div_lt_iff_lt_mul pos').2 above
  have up (dropped : 0 < e) : 2 ^ 52 ≤ num / (den * 2 ^ e) :=
    (Nat.le_div_iff_mul_le pos').2 (below dropped)
  rcases roundToEven_cases num (den * 2 ^ e) with ⟨eq, _⟩ | ⟨eq, _⟩
  · rw [eq]
    exact ⟨down.le, up⟩
  · rw [eq]
    exact ⟨down, fun dropped => Nat.le_succ_of_le (up dropped)⟩

/-- How far the size of a double is from the quotient, counted in units over the divisor. -/
def miss (num den : Nat) (f : Binary64) : Nat :=
  (((num * unit : Nat) : Int) - (f.units * den : Nat)).natAbs

/-- No double is nearer to a quotient than the one with the rounded magnitude. -/
lemma miss_le_of_magnitude (pos : 0 < den) {f : Binary64} (eq : f.magnitude = roundMagnitude num den)
    (g : Binary64) :
    miss num den f ≤ miss num den g ∧
      (miss num den f = miss num den g → f.units = g.units ∨ f.significand % 2 = 0) := by
  obtain ⟨e, drop⟩ : ∃ e, (num * unit / den).log2 - 52 = e := ⟨_, rfl⟩
  obtain ⟨most, lead⟩ := roundToEven_range pos drop
  obtain ⟨-, below⟩ := drop_bounds pos drop
  have nearest := roundToEven_nearest (num * unit) (Nat.mul_pos pos (Nat.two_pow_pos e))
  have magnitude : f.magnitude = 2 ^ 52 * e + roundToEven (num * unit) (den * 2 ^ e) := by
    rw [eq, roundMagnitude, drop, Nat.shiftLeft_eq, Nat.shiftLeft_eq, mul_comm e]
  have units := units_eq_of_magnitude magnitude most lead
  have even := f.significand_mod_two
  generalize roundToEven (num * unit) (den * 2 ^ e) = r at *
  have scale (k : Nat) : k * 2 ^ e * den = k * (den * 2 ^ e) := by rw [mul_assoc, mul_comm (2 ^ e)]
  rw [miss, miss, units, scale]
  rcases g.units_cases e with ⟨k, multiple⟩ | ⟨dropped, small⟩
  · obtain ⟨le, tie⟩ := nearest k
    rw [multiple, scale]
    refine ⟨le, fun same => ?_⟩
    rcases tie same with rfl | two
    · exact .inl rfl
    · exact .inr (by omega)
  · -- what lies below the exponent of the quotient is farther than the first double of this exponent
    obtain ⟨le, -⟩ := nearest (2 ^ 52)
    have lt : g.units * den < 2 ^ 52 * (den * 2 ^ e) :=
      scale (2 ^ 52) ▸ Nat.mul_lt_mul_of_pos_right small pos
    have reach := below dropped
    generalize g.units * den = G at *
    generalize 2 ^ 52 * (den * 2 ^ e) = B at *
    omega

/-- A quotient whose rounded magnitude is past the infinity is past it itself. -/
lemma miss_le_of_past (pos : 0 < den) (past : infinityMagnitude < roundMagnitude num den)
    {f g : Binary64} (eq : f.magnitude = infinityMagnitude) (number : g.isNaN = false) :
    miss num den f ≤ miss num den g ∧ (miss num den f = miss num den g → f.units = g.units) := by
  obtain ⟨e, drop⟩ : ∃ e, (num * unit / den).log2 - 52 = e := ⟨_, rfl⟩
  obtain ⟨most, -⟩ := roundToEven_range pos drop
  obtain ⟨-, below⟩ := drop_bounds pos drop
  rw [roundMagnitude, drop, Nat.shiftLeft_eq, Nat.shiftLeft_eq, infinityMagnitude,
    Nat.shiftLeft_eq] at past
  have large : 2046 ≤ e := by omega
  have units : f.units = (infinity false).units := units_eq_units eq
  have le : g.units * den ≤ f.units * den :=
    Nat.mul_le_mul_right den (units ▸ units_le_infinity number false)
  have reach : f.units * den ≤ num * unit := by
    calc f.units * den
      _ = 2 ^ 52 * (den * 2 ^ 2046) := by rw [units, units_infinity, mul_assoc, mul_comm (2 ^ 2046)]
      _ ≤ 2 ^ 52 * (den * 2 ^ e) := by
        gcongr
        decide
      _ ≤ num * unit := below (by omega)
  rw [miss, miss]
  constructor
  · omega
  · intro same
    apply Nat.eq_of_mul_eq_mul_right pos
    omega

/-- No number is nearer to a quotient than the one it is rounded to, and if another is as near then it has
the same units or the rounded one is even. -/
lemma miss_ofRatio_le (negative : Bool) (num : Nat) (pos : 0 < den) {g : Binary64}
    (number : g.isNaN = false) :
    miss num den (ofRatio negative num den) ≤ miss num den g ∧
      (miss num den (ofRatio negative num den) = miss num den g →
        (ofRatio negative num den).units = g.units ∨ (ofRatio negative num den).significand % 2 = 0) := by
  rcases Nat.lt_or_ge infinityMagnitude (roundMagnitude num den) with past | within
  · have magnitude : (ofRatio negative num den).magnitude = infinityMagnitude :=
      Nat.min_eq_right past.le
    obtain ⟨le, tie⟩ := miss_le_of_past pos past magnitude number
    exact ⟨le, fun same => .inl (tie same)⟩
  · exact miss_le_of_magnitude pos (Nat.min_eq_left within) g

/-- How far a size is from a quotient is what the double misses it by. -/
lemma abs_sub_size (num : Nat) (pos : 0 < den) (f : Binary64) :
    |(num / den : ℚ) - f.size| = miss num den f / (den * unit) := by
  have den_pos : (0 : ℚ) < den := Nat.cast_pos.2 pos
  have unit_pos := unit_cast_pos
  have miss_cast : (miss num den f : ℚ) = |(num * unit : ℚ) - f.units * den| := by
    rw [miss, Nat.cast_natAbs]
    push_cast
    rfl
  rw [← units_div_unit, miss_cast, div_sub_div _ _ den_pos.ne' unit_pos.ne', abs_div,
    abs_of_pos (mul_pos den_pos unit_pos), mul_comm (den : ℚ) f.units]

/-- A quotient is rounded to the double that is made of it. -/
theorem isRounded_ofRatio (negative : Bool) (num : Nat) (pos : 0 < den) :
    IsRounded (num / den) (ofRatio negative num den) := by
  have scale : (0 : ℚ) < den * unit := mul_pos (Nat.cast_pos.2 pos) unit_cast_pos
  refine ⟨isNaN_ofRatio negative num den, ?nearest, ?even⟩
  case nearest =>
    intro g number
    rw [abs_sub_size num pos, abs_sub_size num pos, div_le_div_iff_of_pos_right scale, Nat.cast_le]
    exact (miss_ofRatio_le negative num pos number).1
  case even =>
    intro g number same
    rw [abs_sub_size num pos, abs_sub_size num pos, div_left_inj' scale.ne', Nat.cast_inj] at same
    rcases (miss_ofRatio_le negative num pos number).2 same with units | even
    · exact .inl (by rw [← units_div_unit, ← units_div_unit, units])
    · exact .inr even

end Quotients

/-- What is as near to a number as to a smaller one lies above the middle between them. -/
lemma add_le_two_mul {x a b : ℚ} (lt : b < a) (near : |x - a| ≤ |x - b|) : a + b ≤ 2 * x := by
  by_contra! below
  rw [abs_of_neg (by linarith : x - a < 0)] at near
  rcases abs_cases (x - b) with ⟨eq, _⟩ | ⟨eq, _⟩ <;> linarith

/-- What is as near to the smaller of two numbers as to the larger one lies in the lower half between
them. -/
lemma two_mul_le_add {x a b : ℚ} (lt : a < b) (near : |x - a| ≤ |x - b|) : 2 * x ≤ a + b := by
  by_contra! above
  rw [abs_of_pos (by linarith : 0 < x - a)] at near
  rcases abs_cases (x - b) with ⟨eq, _⟩ | ⟨eq, _⟩ <;> linarith

namespace IsRounded

variable {x y : ℚ} {f g : Binary64}

/-- No double lies between two that a size is rounded to. -/
lemma not_between {h : Binary64} (hf : IsRounded x f) (hg : IsRounded x g) (number : h.isNaN = false)
    (above : f.magnitude < h.magnitude) : ¬ h.magnitude < g.magnitude := by
  intro below
  have left := two_mul_le_add (size_lt_size_iff.2 above) (hf.nearest h number)
  have right := add_le_two_mul (size_lt_size_iff.2 below) (hg.nearest h number)
  have lt := size_lt_size_iff.2 (above.trans below)
  linarith

/-- Of two doubles that a size is rounded to, neither has the smaller magnitude. -/
lemma not_magnitude_lt (hf : IsRounded x f) (hg : IsRounded x g) : ¬ f.magnitude < g.magnitude := by
  intro lt
  have sizes := size_lt_size_iff.2 lt
  have same : |x - f.size| = |x - g.size| :=
    le_antisymm (hf.nearest g hg.isNaN) (hg.nearest f hf.isNaN)
  -- two doubles with even significands are no neighbours
  have left := (hf.even g hg.isNaN same).resolve_left sizes.ne
  have right := (hg.even f hf.isNaN same.symm).resolve_left sizes.ne'
  rw [significand_mod_two] at left right
  have le : f.magnitude + 1 ≤ g.magnitude := lt
  obtain ⟨h, next⟩ : ∃ h : Binary64, h.magnitude = f.magnitude + 1 :=
    ⟨⟨false, f.magnitude + 1, le.trans_lt g.magnitude_lt⟩, rfl⟩
  have number : h.isNaN = false := by
    have bound := hg.isNaN
    simp only [Binary64.isNaN, decide_eq_false_iff_not, Nat.not_lt] at bound ⊢
    omega
  exact hf.not_between hg number (by omega) (by omega)

/-- A size is rounded to one double only, the sign aside. -/
theorem magnitude_eq (hf : IsRounded x f) (hg : IsRounded x g) : f.magnitude = g.magnitude :=
  le_antisymm (Nat.not_lt.1 (hg.not_magnitude_lt hf)) (Nat.not_lt.1 (hf.not_magnitude_lt hg))

/-- A larger size is not rounded to a smaller one. -/
theorem size_le_size (hf : IsRounded x f) (hg : IsRounded y g) (le : x ≤ y) : f.size ≤ g.size := by
  by_contra! lt
  -- the middle between the two doubles keeps the sizes from changing places, so they are the same
  have above := add_le_two_mul lt (hf.nearest g hg.isNaN)
  have below := two_mul_le_add lt (hg.nearest f hf.isNaN)
  obtain rfl : x = y := by linarith
  exact lt.ne' (size_eq_size_iff.2 (hf.magnitude_eq hg))

end IsRounded

/-- The size of a double is rounded to this double. -/
lemma isRounded_size {f : Binary64} (h : f.isNaN = false) : IsRounded f.size f where
  isNaN := h
  nearest g _ := by
    rw [sub_self, abs_zero]
    exact abs_nonneg _
  even g _ same := by
    rw [sub_self, abs_zero] at same
    exact .inl (sub_eq_zero.1 (abs_eq_zero.1 same.symm))

/-- A sign and a magnitude make one double. -/
lemma eq_of_magnitude {f g : Binary64} (negative : f.negative = g.negative)
    (magnitude : f.magnitude = g.magnitude) : f = g := by
  obtain ⟨_, _, _⟩ := f
  obtain ⟨_, _, _⟩ := g
  cases negative
  cases magnitude
  rfl

/-- Rounding a quotient under a sign gives the only double that has the sign and is rounded to. -/
theorem eq_ofRatio_iff {f : Binary64} {negative : Bool} {num den : Nat} (pos : 0 < den) :
    f = ofRatio negative num den ↔ f.negative = negative ∧ IsRounded (num / den) f := by
  have rounded := isRounded_ofRatio negative num pos
  constructor
  · rintro rfl
    exact ⟨rfl, rounded⟩
  · rintro ⟨sign, rounded'⟩
    exact eq_of_magnitude sign (rounded'.magnitude_eq rounded)

end Tabular.Binary64
