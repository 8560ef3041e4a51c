import Mathlib.Tactic.Lemma
import Tabular.Text.Unicode

/-!
# Classes of characters

How blanks, ASCII letters, digits and word characters lie to each other: letters are word characters,
and no blank is a word character, no digit is a blank and no digit is a letter.

Of an ASCII text only the capitals change in lower case, each by itself (`Text.IsAscii.lowercase_eq`), and
a word character stays one. So the words of the text stay where they are
(`Text.IsAscii.takeWhile_lowerAscii`).
-/

namespace Tabular.Text

/-- No blank belongs to a word. -/
lemma isWordChar_of_isBlank {c : Char} (h : isBlank c) : isWordChar c = false := by
  -- there are few blanks, so each of them is looked up in the table of letters
  have table : ∀ n ∈ [9, 10, 11, 12, 13, 0x20, 0x85, 0xA0, 0x1680, 0x2000, 0x2001, 0x2002, 0x2003,
      0x2004, 0x2005, 0x2006, 0x2007, 0x2008, 0x2009, 0x200A, 0x2028, 0x2029, 0x202F, 0x205F, 0x3000],
      isWordChar (Char.ofNat n) = false := by
    decide +kernel
  have := table c.toNat (by simp [isBlank] at h ⊢; omega)
  rwa [Char.ofNat_toNat] at this

/-- The digits stand between `0` and `9`. -/
lemma toNat_of_isDigit {c : Char} (h : c.isDigit) : 48 ≤ c.toNat ∧ c.toNat ≤ 57 := by
  simpa [Char.isDigit, UInt32.le_iff_toNat_le] using h

/-- The ASCII letters stand between `A` and `z`. -/
lemma toNat_of_isAlpha {c : Char} (h : c.isAlpha) : 65 ≤ c.toNat ∧ c.toNat ≤ 122 := by
  rcases Bool.or_eq_true_iff.1 h with upper | lower
  · obtain ⟨first, last⟩ : c.val ≥ 'A'.val ∧ c.val ≤ 'Z'.val := of_decide_eq_true upper
    exact ⟨UInt32.le_iff_toNat_le.1 first, Nat.le_trans (UInt32.le_iff_toNat_le.1 last) (by decide)⟩
  · obtain ⟨first, last⟩ := Bool.and_eq_true_iff.1 lower
    have first := UInt32.le_iff_toNat_le.1 (of_decide_eq_true first)
    exact ⟨Nat.le_trans (by decide) first, UInt32.le_iff_toNat_le.1 (of_decide_eq_true last)⟩

/-- An ASCII letter belongs to a word. -/
lemma isWordChar_of_isAlpha {c : Char} (h : c.isAlpha) : isWordChar c := by
  have ascii : c.toNat < 128 := Nat.lt_of_le_of_lt (toNat_of_isAlpha h).2 (by decide)
  have letter : c.isAlphanum := Bool.or_eq_true_iff.2 (.inl h)
  simp [isWordChar, isAlphanumeric, ascii, letter]

/-- What becomes a small letter was a letter. -/
lemma isAlpha_of_toLower {c : Char} (h : c.toLower.isLower) : c.isAlpha := by
  refine Bool.or_eq_true_iff.2 ?_
  by_cases upper : c.isUpper
  · exact .inl upper
  · have same : c.toLower = c := dif_neg fun range => upper (decide_eq_true range)
    rw [same] at h
    exact .inr h

/-- A text whose small form has small letters only has letters only. -/
lemma isAlpha_of_lowerAscii {t : Text} (h : ∀ c ∈ t.lowerAscii, c.isLower) : ∀ c ∈ t, c.isAlpha :=
  fun c mem => isAlpha_of_toLower (h c.toLower (List.mem_map_of_mem mem))

/-- No digit is a blank. -/
lemma isBlank_of_isDigit {c : Char} (h : c.isDigit) : isBlank c = false := by
  have range := toNat_of_isDigit h
  simp [isBlank]
  omega

/-- No digit is a letter. -/
lemma isAlpha_of_isDigit {c : Char} (h : c.isDigit) : c.isAlpha = false := by
  have digit := toNat_of_isDigit h
  refine Bool.eq_false_iff.2 fun alpha => ?_
  have letter := toNat_of_isAlpha alpha
  omega

/-- All characters of the text are ASCII characters. -/
def IsAscii (t : Text) : Prop := ∀ c ∈ t, c.toNat < 128

instance (t : Text) : Decidable t.IsAscii :=
  decidable_of_iff (t.all (·.toNat < 128)) (by simp [IsAscii])

/-- Whatever stands before it, an ASCII text gets small letters one by one. -/
lemma lowercaseAfter_eq {t : Text} (h : t.IsAscii) (before : Text) :
    lowercaseAfter before t = t.lowerAscii := by
  induction t generalizing before with
  | nil => rfl
  | cons c t ih =>
    obtain ⟨first, others⟩ := List.forall_mem_cons.1 h
    have sigma : c ≠ 'Σ' := by
      rintro rfl
      exact absurd first (by decide)
    have single : lowerChar c = [c.toLower] := if_pos first
    rw [lowercaseAfter, if_neg sigma, single, ih others]
    rfl

/-- In lower case an ASCII text changes its capitals only. -/
lemma IsAscii.lowercase_eq {t : Text} (h : t.IsAscii) : t.lowercase = t.lowerAscii :=
  lowercaseAfter_eq h []

/-- The case of a letter makes no difference to what a word is made of. -/
lemma isWordChar_toLower {c : Char} (h : c.toNat < 128) : isWordChar c.toLower = isWordChar c := by
  have table : ∀ n < 128, isWordChar (Char.ofNat n).toLower = isWordChar (Char.ofNat n) := by
    decide +kernel
  have := table c.toNat h
  rwa [Char.ofNat_toNat] at this

/-- Small letters leave the word that an ASCII text starts with as long as it is. -/
lemma IsAscii.takeWhile_lowerAscii {t : Text} (h : t.IsAscii) :
    t.lowerAscii.takeWhile isWordChar = lowerAscii (t.takeWhile isWordChar) := by
  induction t with
  | nil => rfl
  | cons c t ih =>
    obtain ⟨first, others⟩ := List.forall_mem_cons.1 h
    have same := isWordChar_toLower first
    have rest := ih others
    rw [lowerAscii] at rest ⊢
    rw [List.map_cons, List.takeWhile_cons, List.takeWhile_cons, same, rest]
    cases isWordChar c with
    | true => rfl
    | false => rfl

/-- An ASCII text has a byte for each character. -/
lemma IsAscii.byteSize_eq {t : Text} (h : t.IsAscii) : t.byteSize = t.length := by
  induction t with
  | nil => rfl
  | cons c t ih =>
    obtain ⟨first, others⟩ := List.forall_mem_cons.1 h
    have size : c.utf8Size = 1 :=
      Char.utf8Size_eq_one_iff.2 (UInt32.le_iff_toNat_le.2 (Nat.le_of_lt_succ first))
    rw [byteSize, size, ih others, List.length_cons, Nat.add_comm]

end Tabular.Text
