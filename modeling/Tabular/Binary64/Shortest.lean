import Tabular.Binary64.Basic
import Tabular.Text.Basic

/-!
# Shortest decimal text

A finite number is written with the fewest digits that read back to it, and among those with the
ones nearest to it. A number lies in the interval of all reals that round to it; the digits are
taken from the coarsest decimal grid that meets the interval.

All quantities are naturals: every finite number is a multiple of `10 ^ -1074`, and a quarter of
that counts the ends of the intervals.
-/

namespace Tabular.Binary64

/-- The reals that round to one number, counted in quarters of `10 ^ -1074`, with the number itself.
The ends belong to the interval when `closed`. -/
structure Interval where
  low : Nat
  value : Nat
  high : Nat
  closed : Bool

/-- The interval holds the point. -/
def Interval.contains (r : Interval) (point : Nat) : Bool :=
  if r.closed then r.low ≤ point && point ≤ r.high else r.low < point && point < r.high

/-- The finest distance of two numbers, counted in units of `10 ^ -1074`. -/
def decimalUnit : Nat := Nat.pow 5 1074

/-- The interval of a finite number that is not zero. Below a power of two the numbers lie twice as
close, and an end rounds to the number exactly when its significand is even. -/
def interval (f : Binary64) : Interval :=
  let value := 4 * f.units
  let below := if f.fraction = 0 ∧ 1 < f.exponent then f.spacing else 2 * f.spacing
  { low := (value - below) * decimalUnit
    value := value * decimalUnit
    high := (value + 2 * f.spacing) * decimalUnit
    closed := f.significand % 2 = 0 }

/-- The multiple of `step` in the interval that is nearest to its number, the upper one of two. -/
def Interval.nearest? (r : Interval) (step : Nat) : Option Nat :=
  let down := r.value / step
  let up := down + 1
  match r.contains (down * step), r.contains (up * step) with
  | true, true => some (if 2 * (r.value % step) < step then down else up)
  | true, false => some down
  | false, true => some up
  | false, false => none

/-- Digits `n` and a grid `k` with `n * 10 ^ k` in the interval, for the coarsest grid up to the
given one that meets it. The finest grid holds the number itself. -/
def Interval.coarsest (r : Interval) : Nat → Nat × Nat
  | 0 => (r.value / 4, 0)
  | k + 1 =>
    match r.nearest? (4 * Nat.pow 10 (k + 1)) with
    | some n => (n, k + 1)
    | none => r.coarsest k

/-- More decimal digits than `n` has: a bit is less than 0.30103 digits. -/
def digitBound (n : Nat) : Nat := (n.log2 + 1) * 30103 / 100000 + 1

/-- Digits `n` and a grid `k` such that `n * 10 ^ k` counts a finite number that is not zero in
units of `10 ^ -1074`, with as few digits as read back. -/
def shortest (f : Binary64) : Nat × Nat := f.interval.coarsest (digitBound f.interval.high)

/-- The text of `n * 10 ^ (k - 1074)`, without an exponent. -/
def positional (n k : Nat) : Text :=
  let digits := Nat.toDigits 10 n
  let places := 1074 - k
  if places = 0 then digits ++ List.replicate (k - 1074) '0'
  else if places < digits.length then
    digits.take (digits.length - places) ++ '.' :: digits.drop (digits.length - places)
  else '0' :: '.' :: List.replicate (places - digits.length) '0' ++ digits

/-- The text of a number without its sign. -/
def sizeText (f : Binary64) : Text :=
  if f.isInfinite then "inf".toList
  else if f.magnitude = 0 then ['0']
  else positional f.shortest.1 f.shortest.2

/-- The text of a number, with its sign also on zero. -/
def toText (f : Binary64) : Text :=
  if f.isNaN then "NaN".toList
  else if f.negative then '-' :: f.sizeText
  else f.sizeText

end Tabular.Binary64
