import Tabular.Proofs.Text.Words
import Tabular.Proofs.Traversal
import Tabular.Store.Column

/-!
# Column declarations

A column is well formed when its name is a word without commas and its type one or more such words with
single spaces between them. A declaration writes these words in a row (`Column.Declared`). Declarations
with commas between them are read as the columns (`Column.read_intercalate`), and only well-formed
columns are ever read (`Column.wellFormed_of_read`).
-/

namespace Tabular.Column
open Text (Spaced)

/-- The text is one or more characters, none of which is blank or a comma. -/
def IsWord (t : Text) : Prop := t.IsWord ∧ ',' ∉ t

instance (t : Text) : Decidable (IsWord t) :=
  decidable_of_iff ((t ≠ [] ∧ t.any Text.isBlank = false) ∧ ',' ∉ t)
    (and_congr_left' (and_congr_right' (List.any_eq_false.trans
      (forall₂_congr fun _ _ => iff_of_eq (Bool.not_eq_true _)))))

/-- The words are the type of the column, as it is kept. -/
structure Typed (c : Column) (words : List Text) : Prop where
  ne_nil : words ≠ []
  isWord : ∀ w ∈ words, IsWord w
  declaredType : c.declaredType = [' '].intercalate words

/-- The name of the column is a word without commas, and its type is words without commas, with single
spaces between them. -/
structure WellFormed (c : Column) : Prop where
  name : IsWord c.name
  typed : ∃ words, c.Typed words

/-- The text declares the column: its name and the words of its type in a row. -/
structure Declared (c : Column) (t : Text) : Prop where
  name : IsWord c.name
  spaced : ∃ words, c.Typed words ∧ Spaced (c.name :: words) t

/-- The type that a column has by default is a word. -/
lemma isWord_defaultType : IsWord defaultType := by decide

/-- A column is made of its name and the words of its type. -/
lemma Typed.ofWords_eq {c : Column} {words : List Text} (h : c.Typed words) :
    ofWords c.name words = c := by
  cases words with
  | nil => exact absurd rfl h.ne_nil
  | cons w ws =>
    have type := h.declaredType
    cases c
    exact congrArg _ type.symm

/-- Words without commas make a well-formed column. -/
lemma wellFormed_ofWords {name : Text} {type : List Text} (h : IsWord name)
    (words : ∀ w ∈ type, IsWord w) : (ofWords name type).WellFormed := by
  cases type with
  | nil =>
    have default : ∀ w ∈ [defaultType], IsWord w := by
      intro w mem
      rw [List.mem_singleton.1 mem]
      exact isWord_defaultType
    exact ⟨h, [defaultType], List.cons_ne_nil _ _, default, rfl⟩
  | cons w ws => exact ⟨h, w :: ws, List.cons_ne_nil _ _, words, rfl⟩

namespace Declared

variable {c : Column} {t : Text} (h : c.Declared t)
include h

/-- What declares a column is read as it, with any blanks around it. -/
lemma ofText?_of_padded {u : Text} (padded : Text.Padded t u) : ofText? u = some c := by
  obtain ⟨words, typed, spaced⟩ := h.spaced
  have isWord : ∀ w ∈ c.name :: words, Text.IsWord w :=
    List.forall_mem_cons.2 ⟨h.name.1, fun w mem => (typed.isWord w mem).1⟩
  rw [ofText?, Text.words_of_padded padded, Text.words_of_spaced spaced isWord]
  exact congrArg some typed.ofWords_eq

/-- What declares a column is read as it after trimming, too. -/
lemma ofText?_trim : ofText? t.trim = some c := by
  obtain ⟨left, right, hl, hr, eq⟩ := Text.padded_trim t
  have words := Text.words_of_padded (Text.padded_trim t)
  have whole := h.ofText?_of_padded (.refl t)
  rw [ofText?, words] at whole
  rw [ofText?, whole]

/-- A declaration has no comma. -/
lemma not_comma_mem : ',' ∉ t := by
  obtain ⟨words, typed, spaced⟩ := h.spaced
  intro mem
  refine spaced.forall_mem (P := (· ≠ ',')) ?_ ?_ ',' mem rfl
  · rintro c blank rfl
    cases blank
  · intro w mem c mem'
    rintro rfl
    rcases List.mem_cons.1 mem with rfl | mem
    · exact h.name.2 mem'
    · exact (typed.isWord w mem).2 mem'

end Declared

/-- The usual declaration of a column. -/
def declaration (c : Column) : Text := c.name ++ ' ' :: c.declaredType

/-- The usual declaration declares the column, also behind blanks. -/
lemma WellFormed.declared {c : Column} (h : c.WellFormed) {left : Text} (blank : left.allBlank) :
    c.Declared (left ++ c.declaration) := by
  obtain ⟨named, words, typed⟩ := h
  refine ⟨named, words, typed, ?_⟩
  rw [declaration, typed.declaredType]
  have space : Text.allBlank [' '] := rfl
  exact .cons blank space (List.cons_ne_nil _ _) (Text.spaced_intercalate typed.ne_nil)

section

variable {columns : List Column} {parts : List Text} (h : List.Forall₂ Declared columns parts)
include h

/-- Declarations with commas between them are read as the columns that they declare. -/
lemma read_intercalate (ne : columns ≠ []) :
    (declarations ([','].intercalate parts)).mapM ofText? = some columns := by
  have ne' : parts ≠ [] := by
    rintro rfl
    exact ne (List.forall₂_nil_right_iff.1 h)
  have commas : ∀ t ∈ parts, ',' ∉ t :=
    forall_mem_of_forall₂ h.flip fun _ _ declared => declared.not_comma_mem
  rw [declarations, List.splitOn_intercalate ',' commas ne', mapM_eq_some_iff,
    List.forall₂_map_left_iff]
  exact h.flip.imp fun _ _ declared => declared.ofText?_trim

end

/-- No columns are read from blanks. -/
lemma not_allBlank_of_read {body : Text} {columns : List Column}
    (h : (declarations body).mapM ofText? = some columns) : ¬ body.allBlank := by
  intro blank
  have noComma : ',' ∉ body := fun mem => Text.not_allBlank_of_mem mem rfl blank
  rw [declarations, List.splitOn_eq_singleton noComma, List.map_singleton,
    Text.trim_eq_nil_iff.2 blank] at h
  cases h

/-- A column that is read from a text without commas is well formed. -/
lemma wellFormed_of_ofText? {t : Text} {c : Column} (noComma : ',' ∉ t) (h : ofText? t = some c) :
    c.WellFormed := by
  have isWord : ∀ w ∈ t.words, IsWord w := by
    intro w mem
    obtain ⟨word, chars⟩ := Text.of_mem_words mem
    exact ⟨word, fun comma => noComma (chars ',' comma)⟩
  unfold ofText? at h
  split at h
  · cases h
  · next name type eq =>
    cases h
    rw [eq] at isWord
    obtain ⟨named, words⟩ := List.forall_mem_cons.1 isWord
    exact wellFormed_ofWords named words

/-- Only well-formed columns are read. -/
lemma wellFormed_of_read {body : Text} {columns : List Column}
    (h : (declarations body).mapM ofText? = some columns) : ∀ c ∈ columns, c.WellFormed := by
  have read := mapM_eq_some_iff.1 h
  rw [declarations, List.forall₂_map_left_iff] at read
  have parts : ∀ part ∈ body.splitOn ',', ',' ∉ part := by
    intro part mem comma
    have cut := (Text.of_mem_splitOnP mem ',' comma).1
    cases cut
  refine forall_mem_of_forall₂ ((List.forall₂_and_left _ _).2 ⟨parts, read⟩).flip ?_
  intro c part ⟨noComma, found⟩
  exact wellFormed_of_ofText? (fun mem => noComma (Text.mem_of_mem_trim mem)) found

end Tabular.Column
