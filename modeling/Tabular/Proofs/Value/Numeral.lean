import Tabular.Proofs.Binary64.Rounding
import Tabular.Proofs.Text.Classes
import Tabular.Proofs.Text.Trim
import Tabular.Value

/-!
# Spellings of numbers

A number is spelled by an optional minus sign and either digits or digits around a point
(`Numeral.text`). These spellings, and no other texts, are read as numbers
(`Numeral.ofText?_eq_some_iff`). The decimal text of a 64-bit integer is one of them, and its value is
the integer (`Numeral.value_ofInt`). The value of a number is never a double that is not a number
(`Numeral.value_cases`).
-/

namespace Tabular

namespace Numeral

/-- The sign as it is spelled. -/
def signText (negative : Bool) : Text := if negative then ['-'] else []

/-- The number has a minus sign. -/
def negative : Numeral → Bool
  | integer negative _ => negative
  | decimal negative _ _ => negative

/-- What is spelled behind the sign. -/
def body : Numeral → Text
  | integer _ digits => digits
  | decimal _ whole fraction => whole ++ '.' :: fraction

/-- How the number is spelled. -/
def text (n : Numeral) : Text := signText n.negative ++ n.body

/-- The parts are digits, and only the one in front of a point may be empty. -/
def WellFormed : Numeral → Prop
  | integer _ digits => isDigits digits
  | decimal _ whole fraction => (∀ c ∈ whole, c.isDigit) ∧ isDigits fraction

/-- The number that the decimal text of an integer spells. -/
def ofInt (i : Int) : Numeral := integer (decide (i < 0)) (Nat.toDigits 10 i.natAbs)

/-- Digits are one or more characters, each of which is one. -/
lemma isDigits_iff {t : Text} : isDigits t ↔ t ≠ [] ∧ ∀ c ∈ t, c.isDigit := by
  rw [isDigits, Bool.and_eq_true, Bool.not_eq_true', List.isEmpty_eq_false_iff, List.all_eq_true]

/-- A digit differs from every character that is none. -/
lemma ne_of_isDigit {c d : Char} (h : c.isDigit) (other : d.isDigit = false) : c ≠ d := by
  rintro rfl
  exact Bool.false_ne_true (other.symm.trans h)

/-- Behind the sign there are digits and points only. -/
lemma WellFormed.of_mem_body {n : Numeral} (h : n.WellFormed) {c : Char} (mem : c ∈ n.body) :
    c.isDigit ∨ c = '.' := by
  cases n with
  | integer negative digits => exact .inl ((isDigits_iff.1 h).2 c mem)
  | decimal negative whole fraction =>
    rcases List.mem_append.1 mem with mem | mem
    · exact .inl (h.1 c mem)
    · rcases List.mem_cons.1 mem with rfl | mem
      · exact .inr rfl
      · exact .inl ((isDigits_iff.1 h.2).2 c mem)

/-- A spelling consists of digits, points and minus signs. -/
lemma WellFormed.of_mem_text {n : Numeral} (h : n.WellFormed) {c : Char} (mem : c ∈ n.text) :
    c.isDigit ∨ c = '.' ∨ c = '-' := by
  rcases List.mem_append.1 mem with mem | mem
  · cases sign : n.negative with
    | true =>
      rw [sign] at mem
      exact .inr (.inr (List.mem_singleton.1 mem))
    | false =>
      rw [sign] at mem
      cases mem
  · exact (h.of_mem_body mem).imp_right .inl

/-- No spelling of a number is empty. -/
lemma WellFormed.text_ne_nil {n : Numeral} (h : n.WellFormed) : n.text ≠ [] := by
  apply List.append_ne_nil_of_right_ne_nil
  cases n with
  | integer negative digits => exact (isDigits_iff.1 h).1
  | decimal negative whole fraction => exact List.append_ne_nil_of_right_ne_nil _ (List.cons_ne_nil _ _)

/-- No spelling of a number has letters only. -/
lemma WellFormed.not_isAlpha_text {n : Numeral} (h : n.WellFormed) : ¬ ∀ c ∈ n.text, c.isAlpha := by
  intro letters
  obtain ⟨c, mem⟩ := List.exists_mem_of_ne_nil _ h.text_ne_nil
  have letter := letters c mem
  rcases h.of_mem_text mem with digit | rfl | rfl
  · rw [Text.isAlpha_of_isDigit digit] at letter
    cases letter
  · cases letter
  · cases letter

/-- Exactly the spellings without a sign are read as numbers of a given sign. -/
lemma unsigned?_eq_some_iff {negative : Bool} {t : Text} {n : Numeral} :
    unsigned? negative t = some n ↔ n.WellFormed ∧ n.negative = negative ∧ t = n.body := by
  constructor
  · intro h
    unfold unsigned? at h
    split at h
    · next digits =>
      cases h
      exact ⟨digits, rfl, rfl⟩
    split at h
    · next fraction point =>
      simp only at h
      split at h
      · next parts =>
        cases h
        obtain ⟨whole, digits⟩ := Bool.and_eq_true_iff.1 parts
        refine ⟨⟨List.all_eq_true.1 whole, digits⟩, rfl, ?_⟩
        rw [body, ← point]
        exact List.takeWhile_append_dropWhile.symm
      · cases h
    · cases h
  · rintro ⟨formed, rfl, rfl⟩
    cases n with
    | integer negative digits => exact if_pos formed
    | decimal negative whole fraction =>
      have point : ¬ isDigits (whole ++ '.' :: fraction) := by
        intro digits
        have digit := (isDigits_iff.1 digits).2 '.' (by simp)
        cases digit
      have before : ∀ c ∈ whole, decide (c ≠ '.') = true :=
        fun c mem => decide_eq_true (ne_of_isDigit (formed.1 c mem) rfl)
      have rest : (whole ++ '.' :: fraction).dropWhile (· ≠ '.') = '.' :: fraction := by
        rw [List.dropWhile_append_of_pos before]
        rfl
      have first : (whole ++ '.' :: fraction).takeWhile (· ≠ '.') = whole := by
        rw [List.takeWhile_append_of_pos before]
        exact List.append_nil _
      have parts : (whole.all Char.isDigit && isDigits fraction) = true :=
        Bool.and_eq_true_iff.2 ⟨List.all_eq_true.2 formed.1, formed.2⟩
      rw [body, unsigned?, if_neg point, rest]
      simp only [first]
      exact if_pos parts

/-- A text that does not start with a minus sign has none to take off. -/
lemma sign_of_head? {t : Text} (h : t.head? ≠ some '-') : sign t = (false, t) := by
  cases t with
  | nil => rfl
  | cons c t =>
    rw [sign]
    intro u minus
    cases minus
    exact h rfl

/-- Exactly the spellings of numbers are read as these numbers. -/
lemma ofText?_eq_some_iff {t : Text} {n : Numeral} :
    ofText? t = some n ↔ n.WellFormed ∧ t = n.text := by
  rw [ofText?, unsigned?_eq_some_iff]
  constructor
  · rintro ⟨formed, sign_eq, eq⟩
    refine ⟨formed, ?_⟩
    rw [text, sign_eq, ← eq]
    by_cases minus : t.head? = some '-'
    · obtain ⟨u, rfl⟩ := List.head?_eq_some_iff.1 minus
      rfl
    · rw [sign_of_head? minus]
      rfl
  · rintro ⟨formed, rfl⟩
    cases negative : n.negative with
    | true =>
      rw [text, negative]
      exact ⟨formed, rfl, rfl⟩
    | false =>
      have head : n.body.head? ≠ some '-' := by
        intro minus
        rcases formed.of_mem_body (List.mem_of_mem_head? minus) with digit | point
        · cases digit
        · cases point
      have spelled : n.text = n.body := by
        rw [text, negative]
        rfl
      rw [spelled, sign_of_head? head]
      exact ⟨formed, rfl, rfl⟩

/-- No spelling of a number has a blank at its ends. -/
lemma WellFormed.tight_text {n : Numeral} (h : n.WellFormed) : n.text.Tight := by
  have notBlank : ∀ c ∈ n.text, Text.isBlank c = false := by
    intro c mem
    rcases h.of_mem_text mem with digit | rfl | rfl
    · exact Text.isBlank_of_isDigit digit
    · rfl
    · rfl
  exact ⟨fun c mem => notBlank c (List.mem_of_mem_head? mem),
    fun c mem => notBlank c (List.mem_of_getLast? mem)⟩

/-- The decimal text of an integer has digits behind its sign. -/
lemma wellFormed_ofInt (i : Int) : (ofInt i).WellFormed :=
  isDigits_iff.2 ⟨Nat.toDigits_ne_nil, fun _ mem =>
    Nat.isDigit_of_mem_toDigits (by decide) (by decide) mem⟩

/-- The number of an integer is spelled as its decimal text. -/
lemma text_ofInt (i : Int) : (ofInt i).text = Value.intText i := by
  by_cases negative : i < 0
  · simp [ofInt, text, Numeral.negative, body, signText, Value.intText, negative]
  · simp [ofInt, text, Numeral.negative, body, signText, Value.intText, negative]

/-- The digits of an integer, under its sign, have its value. -/
lemma intValue_ofInt (i : Int) :
    intValue (decide (i < 0)) (Nat.toDigits 10 i.natAbs) = i := by
  rw [intValue, digitsValue, Nat.ofDigitChars_ten_toDigits]
  by_cases negative : i < 0
  · rw [if_pos (decide_eq_true negative)]
    omega
  · rw [if_neg (by simpa using negative)]
    omega

/-- The number that the text of a 64-bit integer spells is this integer. -/
lemma value_ofInt (i : Int64) : (ofInt i.toInt).value = .int i := by
  have low : Int64.minValue.toInt ≤ i.toInt := Int64.minValue_le_toInt i
  have high : i.toInt ≤ Int64.maxValue.toInt := Int64.toInt_le i
  rw [ofInt, value]
  simp only [intValue_ofInt]
  rw [if_pos ⟨low, high⟩, Int64.ofInt_toInt]

/-- The value of a number is an integer or a double that is a number. -/
lemma value_cases (n : Numeral) :
    (∃ i, n.value = .int i) ∨ ∃ f, n.value = .float f ∧ f.isNaN = false := by
  cases n with
  | integer negative digits =>
    rw [value]
    by_cases fits : Int64.minValue.toInt ≤ intValue negative digits ∧
        intValue negative digits ≤ Int64.maxValue.toInt
    · exact .inl ⟨_, if_pos fits⟩
    · exact .inr ⟨_, if_neg fits, Binary64.isNaN_ofRatio _ _ _⟩
  | decimal negative whole fraction => exact .inr ⟨_, rfl, Binary64.isNaN_ofRatio _ _ _⟩

end Numeral

end Tabular
