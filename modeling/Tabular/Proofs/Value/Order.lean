import Tabular.Proofs.Binary64.Rational
import Tabular.Value

/-!
# The order of values

Two values compare by their kind, then by their number, then by their letters (`Value.order_eq`), and
each of the three is a key in a linear order. So the order of values is a total preorder
(`Value.order_preorder`), in which integers and doubles lie as the numbers they denote
(`Value.order_exact`).
-/

namespace Tabular.Value

/-- The number that a value is compared by, counted in units. -/
def number : Value → Int
  | bool b => b.toNat
  | int i => i.toInt * Binary64.unit
  | float f => f.position
  | null | text _ => 0

/-- The letters that a value is compared by. -/
def letters : Value → Text
  | text t => t
  | null | bool _ | int _ | float _ => []

/-- The value is a double that is not a number. -/
def isNaN : Value → Bool
  | float f => f.isNaN
  | null | bool _ | int _ | text _ => false

/-- The value is an integer or a finite double. -/
def isFinite : Value → Bool
  | int _ => true
  | float f => f.isFinite
  | null | bool _ | text _ => false

/-- Booleans compare as zero and one. -/
lemma compare_bool (a b : Bool) : compare a b = compare (a.toNat : Int) b.toNat := by
  cases a <;> cases b <;> rfl

/-- Integers compare as their units do. -/
lemma compare_mul_unit (i j : Int64) :
    compare (i.toInt * Binary64.unit) (j.toInt * Binary64.unit) = compare i j := by
  have pos : (0 : Int) < Binary64.unit := by exact_mod_cast Binary64.unit_pos
  rw [compare_int64]
  exact compare_eq_compare (mul_lt_mul_iff_left₀ pos) (mul_lt_mul_iff_left₀ pos)

/-- Values of two kinds compare by kind. -/
lemma order_of_kindRank_ne {v w : Value} (h : v.kindRank ≠ w.kindRank) :
    v.order w = compare v.kindRank w.kindRank := by
  cases v <;> cases w <;> first | rfl | exact absurd rfl h

/-- Values of one kind compare by number, then by letters. -/
lemma order_of_kindRank_eq {v w : Value} (h : v.kindRank = w.kindRank) :
    v.order w = (compare v.number w.number).then (compare v.letters w.letters) := by
  cases v with
  | null =>
    cases w with
    | null => rfl
    | _ => cases h
  | bool a =>
    cases w with
    | bool b => exact (compare_bool a b).trans Ordering.then_eq.symm
    | _ => cases h
  | int i =>
    cases w with
    | int j => exact (compare_mul_unit i j).symm.trans Ordering.then_eq.symm
    | float g => exact (g.orderInt_eq i).trans Ordering.then_eq.symm
    | _ => cases h
  | float f =>
    cases w with
    | int j =>
      have swap : compare f.position (j.toInt * Binary64.unit) = (f.orderInt j).swap := by
        rw [f.orderInt_eq]
        exact Std.OrientedCmp.eq_swap
      exact swap.symm.trans Ordering.then_eq.symm
    | float g => exact (f.order_eq g).trans Ordering.then_eq.symm
    | _ => cases h
  | text s =>
    cases w with
    | text t => rfl
    | _ => cases h

/-- Values compare by kind, then by number, then by letters. -/
theorem order_eq :
    order = compareLex (compareOn kindRank) (compareLex (compareOn number) (compareOn letters)) := by
  funext v w
  simp only [compareLex, compareOn]
  by_cases kind : v.kindRank = w.kindRank
  · rw [order_of_kindRank_eq kind, compare_eq_iff_eq.2 kind, Ordering.eq_then]
  · rw [order_of_kindRank_ne kind]
    obtain lt | gt := Nat.lt_or_gt_of_ne kind
    · rw [compare_lt_iff_lt.2 lt, Ordering.lt_then]
    · rw [compare_gt_iff_gt.2 gt, Ordering.gt_then]

instance : Std.TransCmp order := by
  rw [order_eq]
  infer_instance

/-- Equal values are of one variant, and at least one of them is a number if they are doubles. -/
lemma variant_of_same {v w : Value} (h : v.same w) :
    v.ctorIdx = w.ctorIdx ∧ ¬ (v.isNaN ∧ w.isNaN) := by
  cases v with
  | float f =>
    cases w with
    | float g =>
      obtain ⟨left, _, _⟩ := Binary64.same_iff.1 h
      exact ⟨rfl, fun ⟨nan, _⟩ => Bool.false_ne_true (left.symm.trans nan)⟩
    | _ => cases h
  | _ => cases w <;> first | exact ⟨rfl, nofun⟩ | cases h

/-- Values of one variant share a place in the order when they are equal, unless neither is a
number. -/
lemma order_eq_eq_iff {v w : Value} (variant : v.ctorIdx = w.ctorIdx)
    (number : ¬ (v.isNaN ∧ w.isNaN)) : v.order w = .eq ↔ v.same w := by
  cases v with
  | null =>
    cases w with
    | null => exact iff_of_true rfl rfl
    | _ => cases variant
  | bool a =>
    cases w with
    | bool b => exact compare_eq_iff_eq.trans beq_iff_eq.symm
    | _ => cases variant
  | int i =>
    cases w with
    | int j => exact Std.compare_eq_iff_eq.trans beq_iff_eq.symm
    | _ => cases variant
  | float f =>
    cases w with
    | float g => exact Binary64.order_eq_eq_iff_same number
    | _ => cases variant
  | text s =>
    cases w with
    | text t => exact Std.compare_eq_iff_eq.trans beq_iff_eq.symm
    | _ => cases variant

/-- Every integer and every finite double lies between the infinities. -/
lemma order_infinity {v : Value} (h : v.isFinite) (negative : Bool) :
    v.order (float (.infinity negative)) = if negative then .gt else .lt := by
  cases v with
  | int i => exact Binary64.orderInt_infinity negative i
  | float f => exact Binary64.order_infinity h negative
  | _ => cases h

/-- The order of values is a total preorder. Exchanging two values reverses it, every value shares its
own place, and it is transitive; values that share a place compare alike with every other. Equal values
share a place, and of one variant only equal values do, unless neither is a number. -/
theorem order_preorder (a b c : Value) :
    b.order a = (a.order b).swap ∧ a.order a = .eq ∧
      ((a.order b).isLE → (b.order c).isLE → (a.order c).isLE) ∧
      (a.order b = .eq → b.order a = .eq ∧ (b.order c = .eq → a.order c = .eq)) ∧
      (a.order b = .eq → a.order c = b.order c ∧ c.order a = c.order b) ∧
      (a.same b → a.order b = .eq) ∧
      (a.ctorIdx = b.ctorIdx → ¬ (a.isNaN ∧ b.isNaN) → a.order b = .eq → a.same b) := by
  have congr (eq : a.order b = .eq) : a.order c = b.order c := Std.TransCmp.congr_left eq
  refine ⟨Std.OrientedCmp.eq_swap, Std.ReflCmp.compare_self, Std.TransCmp.isLE_trans,
    ?equivalent, ?congruent, ?complete, ?sound⟩
  case equivalent =>
    intro eq
    exact ⟨Std.OrientedCmp.eq_symm eq, fun eq' => (congr eq).trans eq'⟩
  case congruent =>
    intro eq
    exact ⟨congr eq, Std.TransCmp.congr_right eq⟩
  case complete =>
    intro same
    obtain ⟨variant, number⟩ := variant_of_same same
    exact (order_eq_eq_iff variant number).2 same
  case sound =>
    intro variant number eq
    exact (order_eq_eq_iff variant number).1 eq

/-- The integer `2 ^ 53` and the double `2 ^ 53` share a place below the integer after them, and the two
zeros share one. -/
theorem order_preorder_sample :
    let double := float (.ofBits 0x4340000000000000)
    let zero := float (.ofBits 0)
    let negativeZero := float (.ofBits 0x8000000000000000)
    ((int 9007199254740992).order (int 9007199254740993)).isLE ∧
      double.order (int 9007199254740992) = .eq ∧
      (int 9007199254740992).order (int 9007199254740993) = double.order (int 9007199254740993) ∧
      negativeZero.order zero = .eq ∧ negativeZero.same zero := by
  intro double zero negativeZero
  have eq : (int 9007199254740992).order double = .eq := by decide
  have le : (double.order (int 9007199254740993)).isLE := by decide
  have same : negativeZero.same zero := by decide
  obtain ⟨_, _, trans, equivalent, congruent, _⟩ :=
    order_preorder (int 9007199254740992) double (int 9007199254740993)
  obtain ⟨_, _, _, _, _, complete, sound⟩ := order_preorder negativeZero zero zero
  have zeros := complete same
  exact ⟨trans (eq ▸ rfl) le, (equivalent eq).1, (congruent eq).1, zeros, sound rfl (by decide) zeros⟩

/-- Numbers compare as the rationals they denote, an integer with a double and a double with a double,
and the infinities lie beyond all of them. A double that reaches the cast of its whole part is finite,
and its whole part, cut toward zero, is a 64-bit integer that the cast does not change. -/
theorem order_exact :
    (∀ (i : Int64) (f : Binary64), f.isFinite →
      (int i).order (float f) = compare (i.toInt : ℚ) f.toRat ∧
      (float f).order (int i) = (compare (i.toInt : ℚ) f.toRat).swap) ∧
    (∀ f g : Binary64, f.isFinite → g.isFinite →
      (float f).order (float g) = compare f.toRat g.toRat) ∧
    (∀ v : Value, v.isFinite →
      v.order (float (.infinity false)) = .lt ∧ (float (.infinity false)).order v = .gt ∧
      v.order (float (.infinity true)) = .gt ∧ (float (.infinity true)).order v = .lt) ∧
    (∀ f : Binary64, f.Castable →
      f.isFinite ∧ f.whole = (if 0 ≤ f.toRat then ⌊f.toRat⌋ else ⌈f.toRat⌉) ∧
      -2 ^ 63 ≤ f.whole ∧ f.whole < 2 ^ 63 ∧ (Int64.ofInt f.whole).toInt = f.whole) := by
  refine ⟨?mixed, ?doubles, ?infinities, ?cast⟩
  case mixed =>
    intro i f _
    have order : f.orderInt i = compare (i.toInt : ℚ) f.toRat := f.orderInt_eq_compare_toRat i
    exact ⟨order, congrArg Ordering.swap order⟩
  case doubles =>
    intro f g _ _
    exact f.order_eq_compare_toRat g
  case infinities =>
    intro v finite
    have above := order_infinity finite false
    have below := order_infinity finite true
    exact ⟨above, Std.OrientedCmp.gt_of_lt above, below, Std.OrientedCmp.lt_of_gt below⟩
  case cast =>
    intro f castable
    obtain ⟨lo, hi⟩ := castable.whole_bounds
    exact ⟨castable.isFinite, f.whole_eq, lo, hi, castable.toInt_whole⟩

/-- The integer after `2 ^ 53` lies above the double `2 ^ 53`, whose whole part the cast keeps. -/
theorem order_exact_sample :
    let double := Binary64.ofBits 0x4340000000000000
    let zero := Binary64.ofBits 0
    compare (9007199254740993 : ℚ) double.toRat = .gt ∧ compare zero.toRat double.toRat = .lt ∧
      (float double).order (float (.infinity false)) = .lt ∧
      (Int64.ofInt double.whole).toInt = 9007199254740992 := by
  intro double zero
  obtain ⟨mixed, doubles, infinities, cast⟩ := order_exact
  have finite : double.isFinite := by decide
  have castable : double.Castable := ⟨by decide, by decide, by decide⟩
  have above : (int 9007199254740993).order (float double) = .gt := by decide
  have below : (float zero).order (float double) = .lt := by decide
  obtain ⟨order, _⟩ := mixed 9007199254740993 double finite
  obtain ⟨infinity, _⟩ := infinities (float double) finite
  obtain ⟨_, _, _, _, whole⟩ := cast double castable
  exact ⟨order.symm.trans above, (doubles zero double (by decide) finite).symm.trans below, infinity,
    whole.trans (by decide)⟩

end Tabular.Value
