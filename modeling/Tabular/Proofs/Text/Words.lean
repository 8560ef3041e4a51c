import Tabular.Proofs.Text.Trim

/-!
# Words

`Text.Spaced` is a row of words as it is written: blanks between them, and any blanks around them. Such a
row is taken apart into these words (`Text.words_of_spaced`), and what a text is taken apart into are its
words, without blanks (`Text.of_mem_words`).
-/

namespace Tabular.Text

/-- The text is one or more characters that are not blank. -/
def IsWord (t : Text) : Prop := t ≠ [] ∧ ∀ c ∈ t, isBlank c = false

/-- The words stand in the text in a row, with blanks between them and any blanks around them. -/
inductive Spaced : List Text → Text → Prop where
  | last {word left right} :
    allBlank left →
    allBlank right →
    Spaced [word] (left ++ (word ++ right))
  | cons {word left gap words t} :
    allBlank left →
    allBlank gap →
    gap ≠ [] →
    Spaced words t →
    Spaced (word :: words) (left ++ (word ++ (gap ++ t)))

/-- A part between two cuts has the characters of the text that do not cut. -/
lemma of_mem_splitOnP {p : Char → Bool} {t part : Text} (h : part ∈ t.splitOnP p) :
    ∀ c ∈ part, p c = false ∧ c ∈ t := by
  induction t generalizing part with
  | nil =>
    rw [List.splitOnP_nil, List.mem_singleton] at h
    subst h
    exact nofun
  | cons d t ih =>
    obtain ⟨first, parts, eq⟩ := List.exists_cons_of_ne_nil (List.splitOnP_ne_nil p t)
    have kept : ∀ {u}, u ∈ t.splitOnP p → ∀ c ∈ u, p c = false ∧ c ∈ d :: t :=
      fun mem c mem' => ⟨(ih mem c mem').1, List.mem_cons_of_mem _ (ih mem c mem').2⟩
    rw [List.splitOnP_cons_eq_if_modifyHead] at h
    cases cut : p d with
    | true =>
      rw [if_pos cut] at h
      rcases List.mem_cons.1 h with rfl | mem
      · exact nofun
      · exact kept mem
    | false =>
      rw [if_neg (Bool.eq_false_iff.1 cut), eq, List.modifyHead_cons] at h
      rcases List.mem_cons.1 h with rfl | mem
      · intro c mem
        rcases List.mem_cons.1 mem with rfl | mem
        · exact ⟨cut, List.mem_cons_self⟩
        · exact kept (eq ▸ List.mem_cons_self) c mem
      · exact kept (eq ▸ List.mem_cons_of_mem _ mem)

/-- What a text is taken apart into are words, made of its characters. -/
lemma of_mem_words {t word : Text} (h : word ∈ t.words) : word.IsWord ∧ ∀ c ∈ word, c ∈ t := by
  obtain ⟨mem, ne⟩ := List.mem_filter.1 h
  have parts := of_mem_splitOnP mem
  refine ⟨⟨?_, fun c mem => (parts c mem).1⟩, fun c mem => (parts c mem).2⟩
  rintro rfl
  exact Bool.false_ne_true ne

/-- A blank separates the words before it from those after it. -/
lemma words_append_blank {c : Char} (blank : isBlank c) (t u : Text) :
    (t ++ c :: u).words = t.words ++ u.words := by
  rw [words, words, words, List.splitOnP_append_cons _ _ blank, List.filter_append]

/-- Blanks in front add no words. -/
lemma words_append_left {left : Text} (blank : left.allBlank) (t : Text) :
    (left ++ t).words = t.words := by
  induction left with
  | nil => rfl
  | cons c left ih =>
    have blanks := allBlank_iff.1 blank
    have first := words_append_blank (blanks c List.mem_cons_self) [] (left ++ t)
    apply first.trans
    exact ih (allBlank_iff.2 fun d mem => blanks d (List.mem_cons_of_mem _ mem))

/-- Blanks between two texts separate their words. -/
lemma words_append_gap {gap : Text} (blank : gap.allBlank) (ne : gap ≠ []) (t u : Text) :
    (t ++ (gap ++ u)).words = t.words ++ u.words := by
  obtain ⟨c, gap, rfl⟩ := List.exists_cons_of_ne_nil ne
  have blanks := allBlank_iff.1 blank
  rw [List.cons_append, words_append_blank (blanks c List.mem_cons_self), words_append_left]
  exact allBlank_iff.2 fun d mem => blanks d (List.mem_cons_of_mem _ mem)

/-- Blanks at the end add no words. -/
lemma words_append_right {right : Text} (blank : right.allBlank) (t : Text) :
    (t ++ right).words = t.words := by
  by_cases ne : right = []
  · rw [ne, List.append_nil]
  · have gap := words_append_gap blank ne t []
    rw [List.append_nil] at gap
    exact gap.trans (List.append_nil _)

/-- Blanks around a text add no words. -/
lemma words_of_padded {t u : Text} (h : Padded t u) : u.words = t.words := by
  obtain ⟨left, right, hl, hr, rfl⟩ := h
  rw [words_append_right hr, words_append_left hl]

/-- Trimming adds no characters. -/
lemma mem_of_mem_trim {t : Text} {c : Char} (mem : c ∈ t.trim) : c ∈ t := by
  obtain ⟨left, right, -, -, eq⟩ := padded_trim t
  rw [eq]
  exact List.mem_append_left _ (List.mem_append_right _ mem)

/-- A word is the only word of itself. -/
lemma IsWord.words_eq {t : Text} (h : t.IsWord) : t.words = [t] := by
  rw [words, List.splitOnP_eq_singleton h.2]
  exact List.filter_cons_of_pos (by simp [h.1])

/-- Words in a row are taken apart again. -/
lemma words_of_spaced {words : List Text} {t : Text} (h : Spaced words t)
    (word : ∀ w ∈ words, IsWord w) : t.words = words := by
  induction h with
  | last hl hr =>
    rw [words_append_left hl, words_append_right hr]
    exact (word _ List.mem_cons_self).words_eq
  | cons hl hg ne _ ih =>
    obtain ⟨first, others⟩ := List.forall_mem_cons.1 word
    rw [words_append_left hl, words_append_gap hg ne, first.words_eq, ih others]
    rfl

/-- What holds of blanks and of the characters of the words holds of all characters. -/
lemma Spaced.forall_mem {P : Char → Prop} (blank : ∀ c, isBlank c → P c) {words : List Text} {t : Text}
    (h : Spaced words t) (word : ∀ w ∈ words, ∀ c ∈ w, P c) : ∀ c ∈ t, P c := by
  have blanks : ∀ {gap : Text}, gap.allBlank → ∀ c ∈ gap, P c :=
    fun all c mem => blank c (allBlank_iff.1 all c mem)
  induction h with
  | last hl hr =>
    rw [List.forall_mem_append, List.forall_mem_append]
    exact ⟨blanks hl, word _ List.mem_cons_self, blanks hr⟩
  | cons hl hg _ _ ih =>
    obtain ⟨first, others⟩ := List.forall_mem_cons.1 word
    rw [List.forall_mem_append, List.forall_mem_append, List.forall_mem_append]
    exact ⟨blanks hl, first, blanks hg, ih others⟩

/-- Words with single spaces between them are such a row. -/
lemma spaced_intercalate {words : List Text} (ne : words ≠ []) :
    Spaced words ([' '].intercalate words) := by
  have none : allBlank [] := rfl
  have space : allBlank [' '] := rfl
  induction words with
  | nil => exact absurd rfl ne
  | cons word words ih =>
    cases words with
    | nil =>
      rw [List.intercalate_singleton]
      have single : Spaced [word] ([] ++ (word ++ [])) := .last none none
      rwa [List.append_nil, List.nil_append] at single
    | cons word' words =>
      rw [List.intercalate_cons_of_ne_nil (List.cons_ne_nil _ _), List.append_assoc]
      exact .cons none space (List.cons_ne_nil _ _) (ih (List.cons_ne_nil _ _))

end Tabular.Text
