import Tabular.Binary64.Basic
import Tabular.Binary64.Shortest
import Tabular.Text.Basic

/-!
# Values

What a cell of a table holds. Cells are untyped: any value may stand in any column. All values
together are in one order, `Null < Bool < numbers < Text`, where integers and doubles are compared
exactly as numbers.

A literal has no declared type: its spelling decides which value it stands for, with `null` first, then
the booleans, then numbers, and text for all the rest. Quotes around a literal are taken off before its
spelling is looked at.
-/

namespace Tabular

/-- A single cell. -/
inductive Value where
  | null
  | bool (b : Bool)
  | int (i : Int64)
  | float (f : Binary64)
  | text (t : Text)
deriving DecidableEq

namespace Value

/-- The value is missing. -/
def isNull : Value → Bool
  | null => true
  | _ => false

/-- The place of the kind of a value among all kinds; the two kinds of numbers share one. -/
def kindRank : Value → Nat
  | null => 0
  | bool _ => 1
  | int _ | float _ => 2
  | text _ => 3

/-- The order of all values. -/
def order : Value → Value → Ordering
  | null, null => .eq
  | bool a, bool b => compare a b
  | int i, int j => compare i j
  | float f, float g => f.order g
  | int i, float f => f.orderInt i
  | float f, int i => (f.orderInt i).swap
  | text s, text t => compare s t
  | v, w => compare v.kindRank w.kindRank

/-- Two values of one kind are equal; an integer never equals a double. -/
def same : Value → Value → Bool
  | null, null => true
  | bool a, bool b => a == b
  | int i, int j => i == j
  | float f, float g => f.same g
  | text s, text t => s == t
  | _, _ => false

/-- The decimal text of an integer. -/
def intText (n : Int) : Text :=
  if n < 0 then '-' :: Nat.toDigits 10 n.natAbs else Nat.toDigits 10 n.natAbs

/-- The text of a value as it is shown. -/
def toText : Value → Text
  | null => "NULL".toList
  | bool b => if b then "true".toList else "false".toList
  | int i => intText i.toInt
  | float f => f.toText
  | text t => t

/-- A stable sort of values by their order. -/
def sort (vs : List Value) : List Value := vs.mergeSort fun v w => (v.order w).isLE

end Value

/-- One row of values. -/
abbrev Row := List Value

/-- A number as it is spelled: digits, or digits around a point. -/
inductive Numeral where
  | integer (negative : Bool) (digits : Text)
  | decimal (negative : Bool) (whole fraction : Text)
deriving DecidableEq

namespace Numeral

/-- The text is one or more ASCII digits. -/
def isDigits (t : Text) : Bool := !t.isEmpty && t.all Char.isDigit

/-- A leading minus sign, and the text after it. -/
def sign : Text → Bool × Text
  | '-' :: t => (true, t)
  | t => (false, t)

/-- The number without its sign, if the text spells one. -/
def unsigned? (negative : Bool) (t : Text) : Option Numeral :=
  if isDigits t then some (integer negative t)
  else
    match t.dropWhile (· ≠ '.') with
    | '.' :: fraction =>
      let whole := t.takeWhile (· ≠ '.')
      if whole.all Char.isDigit && isDigits fraction then some (decimal negative whole fraction)
      else none
    | _ => none

/-- The number that the whole text spells. -/
def ofText? (t : Text) : Option Numeral := unsigned? (sign t).1 (sign t).2

/-- The value of a string of digits. -/
def digitsValue (t : Text) : Nat := Nat.ofDigitChars 10 t 0

/-- The integer that signed digits stand for. -/
def intValue (negative : Bool) (digits : Text) : Int :=
  if negative then -(digitsValue digits : Int) else digitsValue digits

/-- The value of a number: an integer while it fits 64 bits, the nearest double otherwise. -/
def value : Numeral → Value
  | integer negative digits =>
    let n := intValue negative digits
    if Int64.minValue.toInt ≤ n ∧ n ≤ Int64.maxValue.toInt then .int (Int64.ofInt n)
    else .float (.ofRatio negative (digitsValue digits) 1)
  | decimal negative whole fraction =>
    .float (.ofRatio negative (digitsValue (whole ++ fraction)) (Nat.pow 10 fraction.length))

end Numeral

namespace Value

/-- The value that an unquoted literal stands for. -/
def ofScalar (token : Text) : Value :=
  let t := token.trim
  if t.lowerAscii = "null".toList then null
  else if t = "true".toList then bool true
  else if t = "false".toList then bool false
  else
    match Numeral.ofText? t with
    | some n => n.value
    | none => text t

/-- The text with every escaped apostrophe made plain, from left to right. -/
def unescape : Text → Text
  | [] => []
  | '\\' :: '\'' :: t => '\'' :: unescape t
  | c :: t => c :: unescape t

/-- The literal without the apostrophes around it and with those inside made plain. A literal that
is not quoted only loses the blanks around it. -/
def unquote (token : Text) : Text :=
  match token.trim with
  | '\'' :: t => if t.getLast? = some '\'' then unescape t.dropLast else '\'' :: t
  | t => t

/-- The value that a literal stands for, as it is written in a statement. -/
def ofLiteral (token : Text) : Value := ofScalar (unquote token)

end Value

end Tabular
