/-!
# Double-precision numbers

The binary interchange format of 64 bits, as a sign and a magnitude. The magnitude is the word
without its sign bit: eleven bits of exponent above fifty-two bits of fraction. Magnitudes grow with
the numbers they stand for, so most of the order is the order of natural numbers. A quotient of naturals
is rounded to the nearest number, with ties to the even significand, and past the largest finite number
to the infinity.
-/

namespace Tabular

/-- A double-precision number, infinities and not-a-number included. -/
structure Binary64 where
  negative : Bool
  magnitude : Nat
  magnitude_lt : magnitude < 1 <<< 63
deriving DecidableEq

namespace Binary64

/-- The number that a 64-bit word encodes. -/
def ofBits (w : UInt64) : Binary64 :=
  ⟨1 <<< 63 ≤ w.toNat, w.toNat % (1 <<< 63), Nat.mod_lt _ (by decide)⟩

/-- The 64-bit word that encodes the number. -/
def toBits (f : Binary64) : UInt64 :=
  UInt64.ofNat ((if f.negative then 1 <<< 63 else 0) + f.magnitude)

/-- Encoding gives back the word that was decoded. -/
theorem toBits_ofBits (w : UInt64) : (ofBits w).toBits = w := by
  apply UInt64.toNat_inj.1
  have lt := w.toNat_lt
  simp only [ofBits, toBits, decide_eq_true_eq, UInt64.toNat_ofNat', Nat.reduceShiftLeft]
  split <;> omega

/-- Decoding gives back the number that was encoded. -/
theorem ofBits_toBits (f : Binary64) : ofBits f.toBits = f := by
  obtain ⟨negative, magnitude, lt⟩ := f
  have toNat : (toBits ⟨negative, magnitude, lt⟩).toNat =
      (if negative then 1 <<< 63 else 0) + magnitude := by
    simp only [toBits, UInt64.toNat_ofNat']
    apply Nat.mod_eq_of_lt
    split <;> omega
  cases negative <;> simp only [ofBits, toNat, mk.injEq] <;> simp <;> omega

/-- The magnitude of the infinities, above every finite one. -/
def infinityMagnitude : Nat := 2047 <<< 52

/-- The encoding stands for no number. -/
def isNaN (f : Binary64) : Bool := infinityMagnitude < f.magnitude

/-- The number is one of the infinities. -/
def isInfinite (f : Binary64) : Bool := f.magnitude == infinityMagnitude

/-- The number has a rational value. -/
def isFinite (f : Binary64) : Bool := f.magnitude < infinityMagnitude

/-- The finest distance of two numbers is `2 ^ -1074`; values are counted in it. -/
def unit : Nat := 1 <<< 1074

/-- The biased exponent. -/
def exponent (f : Binary64) : Nat := f.magnitude >>> 52

/-- The bits of the significand that are written out. -/
def fraction (f : Binary64) : Nat := f.magnitude % (1 <<< 52)

/-- The distance to the next larger magnitude, counted in units. -/
def spacing (f : Binary64) : Nat := 1 <<< (f.exponent - 1)

/-- The significand, with the leading bit that only the smallest exponent lacks. -/
def significand (f : Binary64) : Nat :=
  if f.exponent = 0 then f.fraction else (1 <<< 52) + f.fraction

/-- The absolute value of a finite number, counted in units. -/
def units (f : Binary64) : Nat := f.significand * f.spacing

/-- The sign of the number, applied to a size. -/
def signed (f : Binary64) (n : Nat) : Int := if f.negative then -(n : Int) else n

/-- The whole part of a finite number, cut toward zero. -/
def whole (f : Binary64) : Int := f.signed (f.units / unit)

/-- What the cut toward zero drops, counted in units. -/
def remainder (f : Binary64) : Int := f.signed (f.units % unit)

/-- The place of a number in the numeric order, where both zeros share one. -/
def rank (f : Binary64) : Int := f.signed f.magnitude

/-- The place of an encoding in the order of all encodings, where each has its own. -/
def totalRank (f : Binary64) : Int :=
  if f.negative then -(f.magnitude : Int) - 1 else f.magnitude

/-- The numeric order; the order of the encodings as soon as one is not a number. -/
def order (f g : Binary64) : Ordering :=
  if f.isNaN || g.isNaN then compare f.totalRank g.totalRank else compare f.rank g.rank

/-- Equal as numbers: the zeros agree, and what is not a number equals nothing. -/
def same (f g : Binary64) : Bool := !f.isNaN && !g.isNaN && f.rank == g.rank

/-- The number `2 ^ 63`, the first above every 64-bit integer. -/
def twoPow63 : Binary64 := ⟨false, 1086 <<< 52, by decide⟩

/-- The order of an integer and a number, found without widening the integer. What is not a number
lies beyond all numbers on the side of its sign. -/
def orderInt (f : Binary64) (i : Int64) : Ordering :=
  if f.isNaN then if f.negative then .gt else .lt
  else if twoPow63.rank ≤ f.rank then .lt
  else if f.rank < -twoPow63.rank then .gt
  else (compare i (Int64.ofInt f.whole)).then (compare 0 f.remainder)

/-- The natural nearest to `num / den`, the even one of two. -/
def roundToEven (num den : Nat) : Nat :=
  let down := num / den
  let rest := 2 * (num % den)
  if den < rest ∨ (rest = den ∧ down % 2 = 1) then down + 1 else down

/-- The magnitude nearest to `num / den`. A significand has 53 bits, so the quotient in units drops
as many low bits as it has above that. A carry out of the significand moves to the next exponent by
itself, because exponent and fraction are adjacent. -/
def roundMagnitude (num den : Nat) : Nat :=
  let scaled := num * unit
  let drop := (scaled / den).log2 - 52
  (drop <<< 52) + roundToEven scaled (den <<< drop)

/-- The number nearest to `num / den`, with the given sign. -/
def ofRatio (negative : Bool) (num den : Nat) : Binary64 :=
  ⟨negative, min (roundMagnitude num den) infinityMagnitude,
    Nat.lt_of_le_of_lt (Nat.min_le_right ..) (by decide)⟩

end Binary64

end Tabular
