import Tabular.Proofs.Value.Numeral

/-!
# Canonical values

`Value.Spelling` says which value a text without blanks around it spells, with no order in which the
spellings are tried. A scalar has exactly the value that it spells without the blanks around it
(`Value.ofScalar_eq_iff`), so no text spells two values.

A value is canonical when it is no double that is not a number and when it is read back from its own
text, doubles excepted. Every scalar has a canonical value (`Value.canonical_ofScalar`).
-/

namespace Tabular

namespace Value

/-- The text spells the value. -/
inductive Spelling (t : Text) : Value → Prop where
  | null :
    t.lowerAscii = "null".toList →
    Spelling t null
  | bool {b} :
    t = (bool b).toText →
    Spelling t (bool b)
  | number {n : Numeral} :
    n.WellFormed →
    t = n.text →
    Spelling t n.value
  | text :
    t.lowerAscii ≠ "null".toList →
    (∀ b, t ≠ (bool b).toText) →
    (∀ n : Numeral, n.WellFormed → t ≠ n.text) →
    Spelling t (text t)

/-- The value is a number as far as it is a double, and any other value is read from its own text. -/
structure Canonical (v : Value) : Prop where
  /-- A double is a number. -/
  isNaN : ∀ f, v = float f → f.isNaN = false
  /-- The text of a value other than a double has this value. -/
  ofScalar_toText : (∀ f, v ≠ float f) → ofScalar v.toText = v

/-- Blanks around a scalar make no difference. -/
lemma ofScalar_of_padded {t token : Text} (h : Text.Padded t token) : ofScalar token = ofScalar t := by
  rw [ofScalar, ofScalar, h.trim_eq]

/-- A scalar has the value of what trimming leaves of it. -/
lemma ofScalar_trim (token : Text) : ofScalar token.trim = ofScalar token :=
  (ofScalar_of_padded (Text.padded_trim token)).symm

/-- The text of a boolean has letters only. -/
lemma isAlpha_toText_bool (b : Bool) : ∀ c ∈ (bool b).toText, c.isAlpha := by
  cases b with
  | false => exact List.all_eq_true.1 rfl
  | true => exact List.all_eq_true.1 rfl

/-- Every spelling of the missing value has letters only. -/
lemma isAlpha_of_null {t : Text} (h : t.lowerAscii = "null".toList) : ∀ c ∈ t, c.isAlpha := by
  apply Text.isAlpha_of_lowerAscii
  rw [h]
  exact List.all_eq_true.1 rfl

/-- The value of a scalar is spelled by it, without the blanks around it. -/
lemma spelling_ofScalar (token : Text) : Spelling token.trim (ofScalar token) := by
  rw [ofScalar]
  by_cases null : token.trim.lowerAscii = "null".toList
  · rw [if_pos null]
    exact .null null
  rw [if_neg null]
  by_cases yes : token.trim = "true".toList
  · rw [if_pos yes]
    exact .bool yes
  rw [if_neg yes]
  by_cases no : token.trim = "false".toList
  · rw [if_pos no]
    exact .bool no
  rw [if_neg no]
  cases spelled : Numeral.ofText? token.trim with
  | some n =>
    obtain ⟨formed, eq⟩ := Numeral.ofText?_eq_some_iff.1 spelled
    exact .number formed eq
  | none =>
    refine .text null ?_ ?_
    · intro b
      cases b with
      | false => exact no
      | true => exact yes
    · intro n formed eq
      have read := Numeral.ofText?_eq_some_iff.2 ⟨formed, eq⟩
      cases spelled.symm.trans read

/-- No two spellings overlap, so it makes no difference in which order they are tried. -/
lemma Spelling.ofScalar_eq {token : Text} {v : Value} (h : Spelling token.trim v) :
    ofScalar token = v := by
  rw [ofScalar]
  cases h with
  | null null => exact if_pos null
  | @bool b eq =>
    rw [eq]
    cases b with
    | false => rfl
    | true => rfl
  | @number n formed eq =>
    have word := formed.not_isAlpha_text
    have null : n.text.lowerAscii ≠ "null".toList := fun null => word (isAlpha_of_null null)
    have yes : n.text ≠ "true".toList := fun yes => word (yes ▸ isAlpha_toText_bool true)
    have no : n.text ≠ "false".toList := fun no => word (no ▸ isAlpha_toText_bool false)
    have read : Numeral.ofText? n.text = some n := Numeral.ofText?_eq_some_iff.2 ⟨formed, rfl⟩
    rw [eq, if_neg null, if_neg yes, if_neg no, read]
  | text null bool number =>
    have none : Numeral.ofText? token.trim = none := by
      refine Option.eq_none_iff_forall_ne_some.2 fun n read => ?_
      obtain ⟨formed, eq⟩ := Numeral.ofText?_eq_some_iff.1 read
      exact number n formed eq
    have yes : token.trim ≠ "true".toList := bool true
    have no : token.trim ≠ "false".toList := bool false
    rw [if_neg null, if_neg yes, if_neg no, none]

/-- A scalar has exactly the value that it spells without the blanks around it. -/
lemma ofScalar_eq_iff {token : Text} {v : Value} : ofScalar token = v ↔ Spelling token.trim v := by
  constructor
  · rintro rfl
    exact spelling_ofScalar token
  · exact Spelling.ofScalar_eq

/-- The decimal text of a 64-bit integer is read back as this integer. -/
lemma ofScalar_toText_int (i : Int64) : ofScalar (int i).toText = int i := by
  have formed := Numeral.wellFormed_ofInt i.toInt
  have spelled : Spelling (Numeral.ofInt i.toInt).text (Numeral.ofInt i.toInt).value :=
    .number formed rfl
  rw [Numeral.value_ofInt, ← formed.tight_text.trim_eq_self] at spelled
  rw [toText, ← Numeral.text_ofInt]
  exact spelled.ofScalar_eq

/-- A text is spelled by itself alone. -/
lemma Spelling.eq_of_text {t u : Text} (h : Spelling t (.text u)) : u = t := by
  generalize spelled : Value.text u = v at h
  cases h with
  | null _ => cases spelled
  | bool _ => cases spelled
  | @number n _ _ =>
    rcases n.value_cases with ⟨i, eq⟩ | ⟨f, eq, _⟩
    · cases spelled.trans eq
    · cases spelled.trans eq
  | text _ _ _ =>
    cases spelled
    rfl

/-- A double that is spelled is a number. -/
lemma Spelling.isNaN {t : Text} {f : Binary64} (h : Spelling t (.float f)) : f.isNaN = false := by
  generalize spelled : Value.float f = v at h
  cases h with
  | null _ => cases spelled
  | bool _ => cases spelled
  | @number n _ _ =>
    rcases n.value_cases with ⟨i, eq⟩ | ⟨g, eq, number⟩
    · cases spelled.trans eq
    · cases spelled.trans eq
      exact number
  | text _ _ _ => cases spelled

/-- Every scalar has a canonical value. -/
lemma canonical_ofScalar (token : Text) : (ofScalar token).Canonical := by
  generalize read : ofScalar token = v
  have spelled := ofScalar_eq_iff.1 read
  cases v with
  | null => exact ⟨nofun, fun _ => rfl⟩
  | bool b =>
    refine ⟨nofun, fun _ => ?_⟩
    cases b with
    | false => rfl
    | true => rfl
  | int i => exact ⟨nofun, fun _ => ofScalar_toText_int i⟩
  | float f =>
    refine ⟨?_, fun other => absurd rfl (other f)⟩
    rintro _ ⟨⟩
    exact spelled.isNaN
  | text t =>
    obtain rfl := spelled.eq_of_text
    exact ⟨nofun, fun _ => (ofScalar_trim token).trans read⟩

end Value

end Tabular
