import Mathlib.Data.List.Forall2
import Mathlib.Data.Nat.Digits.Defs
import Tabular.Proofs.Value.Canonical

/-!
# Kinds of scalars

Which value an unquoted literal has, told from its characters alone: `null` in any case, one of two words,
an integer, a decimal, or any other text (`Text.IsOfKind`). An integer counts its digits by their places
(`Text.natural`), so its value is exact as long as it fits 64 bits; a wider one and a decimal are rounded to
the nearest double. Every text is of one kind, and that is the kind of its value
(`Value.ofScalar_classified`).
-/

namespace Tabular

namespace Value

/-- The five kinds of values. -/
inductive Kind where
  | null
  | bool
  | int
  | float
  | text
deriving DecidableEq

/-- The kind of a value. -/
def kind : Value → Kind
  | null => .null
  | bool _ => .bool
  | int _ => .int
  | float _ => .float
  | text _ => .text

/-- The integer fits 64 bits. -/
def Fits (n : ℤ) : Prop := -2 ^ 63 ≤ n ∧ n ≤ 2 ^ 63 - 1

end Value

namespace Text

/-- The natural number that digits stand for: the last one counts ones, the one before it tens, and so
on. -/
def natural (digits : Text) : ℕ := Nat.ofDigits 10 (digits.reverse.map fun c => c.toNat - '0'.toNat)

/-- The text is `null`, each of its letters small or capital. -/
def IsNull (t : Text) : Prop :=
  List.Forall₂ (fun c small => c = small ∨ c = small.toUpper) t "null".toList

/-- The text is one or more digits, with or without a minus sign, and stands for the integer. -/
inductive IsInteger : Text → ℤ → Prop where
  | plain {digits} :
    digits ≠ [] →
    (∀ c ∈ digits, c.isDigit) →
    IsInteger digits (natural digits)
  | minus {digits} :
    digits ≠ [] →
    (∀ c ∈ digits, c.isDigit) →
    IsInteger ('-' :: digits) (-natural digits)

/-- The text is any digits, a point and one or more digits, with or without a minus sign, and stands for a
rational of this size. -/
inductive IsDecimal : Text → (negative : Bool) → (size : ℚ) → Prop where
  | plain {whole fraction} :
    (∀ c ∈ whole, c.isDigit) →
    fraction ≠ [] →
    (∀ c ∈ fraction, c.isDigit) →
    IsDecimal (whole ++ '.' :: fraction) false
      (natural whole + natural fraction / 10 ^ fraction.length)
  | minus {whole fraction} :
    (∀ c ∈ whole, c.isDigit) →
    fraction ≠ [] →
    (∀ c ∈ fraction, c.isDigit) →
    IsDecimal ('-' :: (whole ++ '.' :: fraction)) true
      (natural whole + natural fraction / 10 ^ fraction.length)

/-- The text has the form of the kind. -/
def IsOfKind (t : Text) : Value.Kind → Prop
  | .null => t.IsNull
  | .bool => t = "true".toList ∨ t = "false".toList
  | .int => ∃ n, t.IsInteger n ∧ Value.Fits n
  | .float => (∃ n, t.IsInteger n ∧ ¬ Value.Fits n) ∨ ∃ negative x, t.IsDecimal negative x
  | .text => ¬ t.IsNull ∧ t ≠ "true".toList ∧ t ≠ "false".toList ∧ (∀ n, ¬ t.IsInteger n) ∧
      ∀ negative x, ¬ t.IsDecimal negative x

/-- The small letters stand between `a` and `z`. -/
lemma toNat_of_isLower {c : Char} (h : c.isLower) : 97 ≤ c.toNat ∧ c.toNat ≤ 122 := by
  obtain ⟨least, most⟩ := Bool.and_eq_true_iff.1 h
  exact ⟨of_decide_eq_true least, of_decide_eq_true most⟩

/-- A capital stands 32 places before its small letter. -/
lemma toNat_toLower (c : Char) :
    c.toLower.toNat = if 65 ≤ c.toNat ∧ c.toNat ≤ 90 then c.toNat + 32 else c.toNat := by
  by_cases range : 65 ≤ c.toNat ∧ c.toNat ≤ 90
  · have eq : c.toLower.val = c.val + 32 := congrArg Char.val (dif_pos range)
    have shift : c.toLower.toNat = (c.toNat + 32) % 2 ^ 32 := congrArg UInt32.toNat eq
    rw [if_pos range, shift, Nat.mod_eq_of_lt (by omega)]
  · have eq : c.toLower = c := dif_neg range
    rw [eq, if_neg range]

/-- A small letter stands 32 places behind its capital. -/
lemma toNat_toUpper {c : Char} (h : c.isLower) : c.toUpper.toNat + 32 = c.toNat := by
  have range : 'a'.val ≤ c.val ∧ c.val ≤ 'z'.val := toNat_of_isLower h
  have eq : c.toUpper = ⟨c.val + ('A'.val - 'a'.val), _⟩ := dif_pos range
  have shift : c.toUpper.toNat = (c.val + ('A'.val - 'a'.val)).toNat := by
    rw [eq]
    rfl
  have A : 'A'.val.toNat = 65 := rfl
  have a : 'a'.val.toNat = 97 := rfl
  have bounds : 97 ≤ c.val.toNat ∧ c.val.toNat ≤ 122 := range
  rw [UInt32.toNat_add, UInt32.toNat_sub, A, a] at shift
  rw [shift, Char.toNat]
  omega

/-- A small letter is made of itself and of its capital. -/
lemma toLower_eq_iff {c small : Char} (h : small.isLower) :
    c.toLower = small ↔ c = small ∨ c = small.toUpper := by
  have range := toNat_of_isLower h
  have upper := toNat_toUpper h
  rw [← Char.toNat_inj, ← Char.toNat_inj, ← Char.toNat_inj, toNat_toLower]
  split <;> omega

/-- A text is a small one in another case when each letter is. -/
lemma lowerAscii_eq_iff {t small : Text} (lower : ∀ c ∈ small, c.isLower) :
    t.lowerAscii = small ↔ List.Forall₂ (fun c s => c = s ∨ c = s.toUpper) t small := by
  induction t generalizing small with
  | nil =>
    rw [List.forall₂_nil_left_iff]
    exact eq_comm
  | cons c t ih =>
    cases small with
    | nil => exact iff_of_false (List.cons_ne_nil _ _) nofun
    | cons s small =>
      obtain ⟨first, others⟩ := List.forall_mem_cons.1 lower
      rw [List.forall₂_cons, ← ih others, ← toLower_eq_iff first]
      exact List.cons.injEq _ _ _ _ ▸ Iff.rfl

/-- Exactly the spellings of the missing value become `null` in small letters. -/
lemma isNull_iff {t : Text} : t.IsNull ↔ t.lowerAscii = "null".toList :=
  (lowerAscii_eq_iff (List.all_eq_true.1 rfl)).symm

/-- Digits in front count by as many places as there are digits behind them. -/
lemma natural_append (s t : Text) : natural (s ++ t) = natural s * 10 ^ t.length + natural t := by
  rw [natural, List.reverse_append, List.map_append, Nat.ofDigits_append, List.length_map,
    List.length_reverse, Nat.add_comm, Nat.mul_comm]
  rfl

/-- Digits that are read from the left count by their places. -/
lemma digitsValue_eq (t : Text) : Numeral.digitsValue t = natural t := by
  induction t using List.reverseRecOn with
  | nil => rfl
  | append_singleton t c ih =>
    have last : natural [c] = c.toNat - '0'.toNat := Nat.ofDigits_singleton
    rw [natural_append, last, ← ih, Numeral.digitsValue, Nat.ofDigitChars_append, Nat.ofDigitChars_cons,
      List.length_singleton, pow_one, Nat.mul_comm]
    rfl

/-- Exactly the integer numerals have the form of an integer. -/
lemma isInteger_iff {t : Text} {n : ℤ} :
    t.IsInteger n ↔ ∃ negative digits, (Numeral.integer negative digits).WellFormed ∧
      t = (Numeral.integer negative digits).text ∧ Numeral.intValue negative digits = n := by
  constructor
  · rintro (⟨ne, all⟩ | ⟨ne, all⟩)
    · refine ⟨false, _, Numeral.isDigits_iff.2 ⟨ne, all⟩, rfl, ?_⟩
      rw [← digitsValue_eq]
      rfl
    · refine ⟨true, _, Numeral.isDigits_iff.2 ⟨ne, all⟩, rfl, ?_⟩
      rw [← digitsValue_eq]
      rfl
  · rintro ⟨negative, digits, formed, rfl, rfl⟩
    obtain ⟨ne, all⟩ := Numeral.isDigits_iff.1 formed
    rw [Numeral.intValue, digitsValue_eq]
    cases negative with
    | false => exact .plain ne all
    | true => exact .minus ne all

/-- Exactly the numerals with a point have the form of a decimal. -/
lemma isDecimal_iff {t : Text} {negative : Bool} {x : ℚ} :
    t.IsDecimal negative x ↔ ∃ whole fraction, (Numeral.decimal negative whole fraction).WellFormed ∧
      t = (Numeral.decimal negative whole fraction).text ∧
      (Numeral.digitsValue (whole ++ fraction) / (10 ^ fraction.length : ℕ) : ℚ) = x := by
  have size (whole fraction : Text) :
      (Numeral.digitsValue (whole ++ fraction) / (10 ^ fraction.length : ℕ) : ℚ) =
        natural whole + natural fraction / 10 ^ fraction.length := by
    have pos : (10 : ℚ) ^ fraction.length ≠ 0 := pow_ne_zero _ (by norm_num)
    rw [digitsValue_eq, natural_append]
    push_cast
    rw [add_div, mul_div_cancel_right₀ _ pos]
  constructor
  · rintro (⟨whole, ne, all⟩ | ⟨whole, ne, all⟩)
    · exact ⟨_, _, ⟨whole, Numeral.isDigits_iff.2 ⟨ne, all⟩⟩, rfl, size _ _⟩
    · exact ⟨_, _, ⟨whole, Numeral.isDigits_iff.2 ⟨ne, all⟩⟩, rfl, size _ _⟩
  · rintro ⟨whole, fraction, ⟨all, digits⟩, rfl, rfl⟩
    obtain ⟨ne, all'⟩ := Numeral.isDigits_iff.1 digits
    rw [size]
    cases negative with
    | false => exact .plain all ne all'
    | true => exact .minus all ne all'

end Text

namespace Numeral

/-- An integer fits when it lies between the least and the largest integer of 64 bits. -/
lemma fits_iff {n : ℤ} :
    Value.Fits n ↔ Int64.minValue.toInt ≤ n ∧ n ≤ Int64.maxValue.toInt := Iff.rfl

variable {negative : Bool} {digits : Text}

/-- An integer that fits has its own value. -/
lemma value_of_fits (h : Value.Fits (intValue negative digits)) :
    ∃ i, (integer negative digits).value = .int i ∧ i.toInt = intValue negative digits :=
  ⟨_, if_pos (fits_iff.1 h), Int64.toInt_ofInt_of_le h.1 (Int.lt_of_le_sub_one h.2)⟩

/-- An integer that does not fit is rounded to a double. -/
lemma value_of_not_fits (h : ¬ Value.Fits (intValue negative digits)) :
    (integer negative digits).value = .float (.ofRatio negative (digitsValue digits) 1) :=
  if_neg (mt fits_iff.2 h)

/-- The sign of an integer that does not fit is that of its value. -/
lemma negative_of_not_fits (h : ¬ Value.Fits (intValue negative digits)) :
    decide (intValue negative digits < 0) = negative := by
  rw [Value.Fits] at h
  cases negative with
  | false => simp [intValue]
  | true =>
    simp only [intValue, if_true] at h ⊢
    simp only [decide_eq_true_eq]
    omega

/-- The size of an integer is the value of its digits. -/
lemma abs_intValue (negative : Bool) (digits : Text) :
    |(intValue negative digits : ℚ)| = digitsValue digits / (1 : ℕ) := by
  cases negative <;> simp [intValue]

end Numeral

namespace Value

variable {t : Text} {v : Value}

/-- What spells a value has the form of its kind. -/
lemma Spelling.isOfKind (h : Spelling t v) : t.IsOfKind v.kind := by
  cases h with
  | null null => exact Text.isNull_iff.2 null
  | @bool b word =>
    cases b with
    | false => exact .inr word
    | true => exact .inl word
  | @number n formed spelled =>
    cases n with
    | integer negative digits =>
      have form : t.IsInteger (Numeral.intValue negative digits) :=
        Text.isInteger_iff.2 ⟨_, _, formed, spelled, rfl⟩
      by_cases fits : Fits (Numeral.intValue negative digits)
      · obtain ⟨i, eq, -⟩ := Numeral.value_of_fits fits
        rw [eq]
        exact ⟨_, form, fits⟩
      · rw [Numeral.value_of_not_fits fits]
        exact .inl ⟨_, form, fits⟩
    | decimal negative whole fraction =>
      exact .inr ⟨_, _, Text.isDecimal_iff.2 ⟨_, _, formed, spelled, rfl⟩⟩
  | text null word number =>
    refine ⟨mt Text.isNull_iff.1 null, word true, word false, ?integer, ?decimal⟩
    case integer =>
      intro n form
      obtain ⟨_, _, formed, spelled, -⟩ := Text.isInteger_iff.1 form
      exact number _ formed spelled
    case decimal =>
      intro negative x form
      obtain ⟨_, _, formed, spelled, -⟩ := Text.isDecimal_iff.1 form
      exact number _ formed spelled

/-- A text that has the form of a kind spells a value of this kind. -/
lemma exists_spelling {k : Kind} (h : t.IsOfKind k) : ∃ v, Spelling t v ∧ v.kind = k := by
  cases k with
  | null => exact ⟨_, .null (Text.isNull_iff.1 h), rfl⟩
  | bool =>
    rcases h with word | word
    · exact ⟨bool true, .bool word, rfl⟩
    · exact ⟨bool false, .bool word, rfl⟩
  | int =>
    obtain ⟨n, form, fits⟩ := h
    obtain ⟨negative, digits, formed, spelled, rfl⟩ := Text.isInteger_iff.1 form
    obtain ⟨i, eq, -⟩ := Numeral.value_of_fits fits
    exact ⟨_, .number formed spelled, by rw [eq]; rfl⟩
  | float =>
    rcases h with ⟨n, form, wide⟩ | ⟨negative, x, form⟩
    · obtain ⟨negative, digits, formed, spelled, rfl⟩ := Text.isInteger_iff.1 form
      exact ⟨_, .number formed spelled, by rw [Numeral.value_of_not_fits wide]; rfl⟩
    · obtain ⟨whole, fraction, formed, spelled, rfl⟩ := Text.isDecimal_iff.1 form
      exact ⟨_, .number formed spelled, rfl⟩
  | text =>
    obtain ⟨null, yes, no, integer, decimal⟩ := h
    refine ⟨_, .text (mt Text.isNull_iff.2 null) ?word ?number, rfl⟩
    case word =>
      intro b
      cases b with
      | false => exact no
      | true => exact yes
    case number =>
      intro n formed spelled
      cases n with
      | integer negative digits => exact integer _ (Text.isInteger_iff.2 ⟨_, _, formed, spelled, rfl⟩)
      | decimal negative whole fraction =>
        exact decimal _ _ (Text.isDecimal_iff.2 ⟨_, _, formed, spelled, rfl⟩)

/-- The kind of the value of a scalar is the one whose form the scalar has. -/
lemma kind_ofScalar_eq_iff {token : Text} {k : Kind} :
    (ofScalar token).kind = k ↔ token.trim.IsOfKind k := by
  constructor
  · rintro rfl
    exact (spelling_ofScalar token).isOfKind
  · intro h
    obtain ⟨v, spelling, rfl⟩ := exists_spelling h
    rw [spelling.ofScalar_eq]

/-- Only numbers spell integers and doubles. -/
lemma Spelling.exists_numeral (h : Spelling t v) (kind : v.kind = .int ∨ v.kind = .float) :
    ∃ n : Numeral, n.WellFormed ∧ t = n.text ∧ n.value = v := by
  cases h with
  | number formed spelled => exact ⟨_, formed, spelled, rfl⟩
  | _ => rcases kind with kind | kind <;> cases kind

/-- Exactly the forms of integers that fit spell stored integers. -/
lemma spelling_int_iff {n : ℤ} :
    (∃ i, Spelling t (int i) ∧ i.toInt = n) ↔ t.IsInteger n ∧ Fits n := by
  constructor
  · rintro ⟨i, spelling, rfl⟩
    obtain ⟨n, formed, spelled, eq⟩ := spelling.exists_numeral (.inl rfl)
    cases n with
    | integer negative digits =>
      by_cases fits : Fits (Numeral.intValue negative digits)
      · obtain ⟨j, eq', value⟩ := Numeral.value_of_fits fits
        cases eq.symm.trans eq'
        rw [value]
        exact ⟨Text.isInteger_iff.2 ⟨_, _, formed, spelled, rfl⟩, fits⟩
      · cases eq.symm.trans (Numeral.value_of_not_fits fits)
    | decimal negative whole fraction => cases eq
  · rintro ⟨form, fits⟩
    obtain ⟨negative, digits, formed, spelled, rfl⟩ := Text.isInteger_iff.1 form
    obtain ⟨i, eq, value⟩ := Numeral.value_of_fits fits
    exact ⟨i, eq ▸ .number formed spelled, value⟩

/-- Exactly the forms of decimals and of integers that do not fit spell doubles, each the one that the size
is rounded to. -/
lemma spelling_float_iff {f : Binary64} :
    Spelling t (float f) ↔
      (∃ n, t.IsInteger n ∧ ¬ Fits n ∧ f.negative = decide (n < 0) ∧ f.IsRounded |(n : ℚ)|) ∨
        ∃ negative x, t.IsDecimal negative x ∧ f.negative = negative ∧ f.IsRounded x := by
  constructor
  · intro spelling
    obtain ⟨n, formed, spelled, eq⟩ := spelling.exists_numeral (.inr rfl)
    cases n with
    | integer negative digits =>
      by_cases fits : Fits (Numeral.intValue negative digits)
      · obtain ⟨i, eq', -⟩ := Numeral.value_of_fits fits
        cases eq.symm.trans eq'
      · have rounds : .float f = Value.float (.ofRatio negative _ 1) :=
          eq.symm.trans (Numeral.value_of_not_fits fits)
        obtain ⟨sign, rounded⟩ := (Binary64.eq_ofRatio_iff one_pos).1 (float.inj rounds)
        rw [← Numeral.abs_intValue negative] at rounded
        rw [← Numeral.negative_of_not_fits fits] at sign
        exact .inl ⟨_, Text.isInteger_iff.2 ⟨_, _, formed, spelled, rfl⟩, fits, sign, rounded⟩
    | decimal negative whole fraction =>
      have rounds : Binary64.ofRatio negative _ (10 ^ fraction.length) = f := float.inj eq
      obtain ⟨sign, rounded⟩ := (Binary64.eq_ofRatio_iff (by positivity)).1 rounds.symm
      exact .inr ⟨_, _, Text.isDecimal_iff.2 ⟨_, _, formed, spelled, rfl⟩, sign, rounded⟩
  · rintro (⟨n, form, wide, sign, rounded⟩ | ⟨negative, x, form, sign, rounded⟩)
    · obtain ⟨negative, digits, formed, spelled, rfl⟩ := Text.isInteger_iff.1 form
      rw [Numeral.negative_of_not_fits wide] at sign
      rw [Numeral.abs_intValue] at rounded
      have rounds := (Binary64.eq_ofRatio_iff one_pos).2 ⟨sign, rounded⟩
      rw [rounds, ← Numeral.value_of_not_fits wide]
      exact .number formed spelled
    · obtain ⟨whole, fraction, formed, spelled, rfl⟩ := Text.isDecimal_iff.1 form
      have rounds := (Binary64.eq_ofRatio_iff (by positivity)).2 ⟨sign, rounded⟩
      rw [rounds]
      exact .number formed spelled

/-- Each boolean has one spelling. -/
lemma spelling_bool_iff {b : Bool} : Spelling t (bool b) ↔ t = (bool b).toText := by
  constructor
  · intro h
    generalize eq : bool b = v at h
    cases h with
    | null _ => cases eq
    | bool word =>
      cases eq
      exact word
    | @number n _ _ =>
      rcases n.value_cases with ⟨i, eq'⟩ | ⟨f, eq', _⟩
      · cases eq.trans eq'
      · cases eq.trans eq'
    | text _ _ _ => cases eq
  · exact .bool

/-- There is one missing value. -/
lemma kind_eq_null_iff : v.kind = .null ↔ v = null := by
  cases v with
  | null => exact iff_of_true rfl rfl
  | _ => exact iff_of_false nofun nofun

/-- The values of the last kind are the texts. -/
lemma kind_eq_text_iff : v.kind = .text ↔ ∃ u, v = text u := by
  cases v with
  | text u => exact iff_of_true rfl ⟨u, rfl⟩
  | _ => exact iff_of_false nofun nofun

/-- A scalar without the blanks around it has the form of exactly one kind, and its value is of this kind.
An integer that fits 64 bits is its exact value; any other integer and every decimal is rounded to the
nearest double, under its sign; and a text of no other kind is itself. -/
theorem ofScalar_classified (token : Text) :
    (∃! k, token.trim.IsOfKind k) ∧
    (∀ k, (ofScalar token).kind = k ↔ token.trim.IsOfKind k) ∧
    (ofScalar token = null ↔ token.trim.IsNull) ∧
    (∀ b, ofScalar token = bool b ↔ token.trim = if b then "true".toList else "false".toList) ∧
    (∀ n : ℤ, (∃ i, ofScalar token = int i ∧ i.toInt = n) ↔ token.trim.IsInteger n ∧ Fits n) ∧
    (∀ f, ofScalar token = float f ↔
      (∃ n, token.trim.IsInteger n ∧ ¬ Fits n ∧ f.negative = decide (n < 0) ∧
        f.IsRounded |(n : ℚ)|) ∨
      ∃ negative x, token.trim.IsDecimal negative x ∧ f.negative = negative ∧ f.IsRounded x) ∧
    (∀ u, ofScalar token = text u ↔ u = token.trim ∧ token.trim.IsOfKind .text) := by
  have kind (k : Kind) : (ofScalar token).kind = k ↔ token.trim.IsOfKind k := kind_ofScalar_eq_iff
  refine ⟨?one, kind, ?null, ?bool, ?int, ?float, ?text⟩
  case one => exact ⟨_, (kind _).1 rfl, fun k form => ((kind k).2 form).symm⟩
  case null => exact kind_eq_null_iff.symm.trans (kind .null)
  case bool => exact fun b => ofScalar_eq_iff.trans spelling_bool_iff
  case int =>
    intro n
    simp only [ofScalar_eq_iff]
    exact spelling_int_iff
  case float => exact fun f => ofScalar_eq_iff.trans spelling_float_iff
  case text =>
    intro u
    constructor
    · intro eq
      exact ⟨(ofScalar_eq_iff.1 eq).eq_of_text, (kind .text).1 (by rw [eq]; rfl)⟩
    · rintro ⟨rfl, form⟩
      obtain ⟨u, eq⟩ := kind_eq_text_iff.1 ((kind .text).2 form)
      rw [eq, (ofScalar_eq_iff.1 eq).eq_of_text]

/-- The least integer of 64 bits is exact, also with zeros in front, and the one below it is a double.
Without a digit behind its point a text is no decimal. -/
theorem ofScalar_classified_sample :
    (∃ i, ofScalar "-09223372036854775808 ".toList = int i ∧ i.toInt = -2 ^ 63) ∧
      (ofScalar "-9223372036854775809".toList).kind = .float ∧
      Text.IsOfKind "1.".toList .text := by
  obtain ⟨-, -, -, -, int, -⟩ := ofScalar_classified "-09223372036854775808 ".toList
  obtain ⟨-, kind, -⟩ := ofScalar_classified "-9223372036854775809".toList
  obtain ⟨-, -, -, -, -, -, text⟩ := ofScalar_classified "1.".toList
  have least : Text.IsInteger "-09223372036854775808".toList (-2 ^ 63) :=
    .minus (by decide) (List.all_eq_true.1 rfl)
  have below : Text.IsInteger "-9223372036854775809".toList (-2 ^ 63 - 1) :=
    .minus (by decide) (List.all_eq_true.1 rfl)
  refine ⟨(int _).2 ⟨least, by decide, by decide⟩, (kind .float).2 (.inl ⟨_, below, ?_⟩), ?_⟩
  · exact fun fits => absurd fits.1 (by decide)
  · exact ((text "1.".toList).1 (by decide)).2

end Value

end Tabular
