/-!
# Texts

A text is a list of characters, so that every reader of the library is a recursion on its input.
This module holds trimming, words and the other cuts that do not depend on quoting, and the form in which
properties of characters are given as ranges of code points.
-/

namespace Tabular

/-- A text, character by character. -/
abbrev Text := List Char

namespace Text

/-- Inclusive ranges of code points, in increasing order. -/
abbrev Ranges := List (Nat × Nat)

/-- Some range holds the character. -/
def Ranges.contains (rs : Ranges) (c : Char) : Bool :=
  rs.any fun r => r.1 ≤ c.toNat && c.toNat ≤ r.2

/-- Characters with the Unicode property White_Space. -/
def isBlank (c : Char) : Bool :=
  let n := c.toNat
  (9 ≤ n && n ≤ 13) || n == 0x20 || n == 0x85 || n == 0xA0 || n == 0x1680 ||
    (0x2000 ≤ n && n ≤ 0x200A) || n == 0x2028 || n == 0x2029 || n == 0x202F || n == 0x205F ||
    n == 0x3000

/-- The text consists of blanks only. -/
def allBlank (t : Text) : Bool := t.all isBlank

/-- The text without its longest end of characters satisfying `p`. -/
def dropEndWhile (p : Char → Bool) (t : Text) : Text := (t.reverse.dropWhile p).reverse

/-- The text without leading blanks. -/
def trimStart (t : Text) : Text := t.dropWhile isBlank

/-- The text without trailing blanks. -/
def trimEnd (t : Text) : Text := t.dropEndWhile isBlank

/-- The text without blanks at either end. -/
def trim (t : Text) : Text := t.trimStart.trimEnd

/-- The maximal runs of characters that are not blank, in order. -/
def words (t : Text) : List Text := (t.splitOnP isBlank).filter (!·.isEmpty)

/-- The text after `lead`, when the text starts with it. -/
def after? : (lead t : Text) → Option Text
  | [], t => some t
  | _ :: _, [] => none
  | l :: lead, c :: t => if c = l then after? lead t else none

/-- The parts before and after the last occurrence of `d`. -/
def cutLast? (d : Char) : Text → Option (Text × Text)
  | [] => none
  | c :: t =>
    match cutLast? d t with
    | some (before, rest) => some (c :: before, rest)
    | none => if c = d then some ([], t) else none

/-- The text with ASCII capitals made small, all else unchanged. -/
def lowerAscii (t : Text) : Text := t.map Char.toLower

/-- The number of bytes of the text in UTF-8. -/
def byteSize : Text → Nat
  | [] => 0
  | c :: t => c.utf8Size + byteSize t

/-- The text filled up with spaces to at least `width` characters. -/
def padTo (width : Nat) (t : Text) : Text := t ++ List.replicate (width - t.length) ' '

/-- What is found after a start completes it to the text. -/
theorem after?_eq_some_iff {lead t rest : Text} : after? lead t = some rest ↔ t = lead ++ rest := by
  induction lead generalizing t with
  | nil => simp [after?]
  | cons l lead ih =>
    cases t with
    | nil => simp [after?]
    | cons c t => by_cases h : c = l <;> simp [after?, h, ih]

/-- There is no cut exactly when the delimiter does not occur. -/
theorem cutLast?_eq_none_iff {d : Char} {t : Text} : cutLast? d t = none ↔ d ∉ t := by
  induction t with
  | nil => simp [cutLast?]
  | cons c t ih =>
    unfold cutLast?
    cases h : cutLast? d t with
    | some cut =>
      have mem : d ∈ t := Decidable.of_not_not fun hn => by simp [ih.2 hn] at h
      simp [mem]
    | none =>
      have notMem := ih.1 h
      by_cases e : c = d
      · simp [e]
      · simp [e, Ne.symm e, notMem]

/-- The cut is at the given place as soon as the delimiter does not occur after it. -/
theorem cutLast?_append_cons {d : Char} {before rest : Text} (h : d ∉ rest) :
    cutLast? d (before ++ d :: rest) = some (before, rest) := by
  induction before with
  | nil => simp [cutLast?, cutLast?_eq_none_iff.2 h]
  | cons c before ih => simp [cutLast?, ih]

end Text

end Tabular
