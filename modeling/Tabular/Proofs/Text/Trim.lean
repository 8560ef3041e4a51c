import Mathlib.Data.List.DropRight
import Tabular.Text.Basic

/-!
# Trimming and padding

A text is padded by blanks around it, and tight when neither of its ends is a blank. Trimming finds
the one tight text that the text pads (`tight_trim`, `padded_trim`, `Tight.trim_eq`); that trimming twice
changes nothing more and which texts are trimmed away follow from it.
-/

namespace Tabular.Text

/-- Neither end of the text is a blank. -/
def Tight (t : Text) : Prop :=
  (∀ c ∈ t.head?, isBlank c = false) ∧ ∀ c ∈ t.getLast?, isBlank c = false

instance (t : Text) : Decidable t.Tight :=
  decidable_of_iff (t.head?.any isBlank = false ∧ t.getLast?.any isBlank = false)
    (and_congr (Option.any_eq_false _ _) (Option.any_eq_false _ _))

/-- The second text is the first one with blanks around it. -/
def Padded (t u : Text) : Prop :=
  ∃ left right, allBlank left ∧ allBlank right ∧ u = left ++ t ++ right

/-- A text is blank when each of its characters is. -/
lemma allBlank_iff {t : Text} : allBlank t ↔ ∀ c ∈ t, isBlank c := List.all_eq_true

/-- Two blank texts make a blank text. -/
lemma allBlank_append {t u : Text} (ht : t.allBlank) (hu : u.allBlank) : (t ++ u).allBlank := by
  rw [allBlank_iff] at *
  intro c mem
  obtain mem | mem := List.mem_append.1 mem
  · exact ht c mem
  · exact hu c mem

/-- A text with a character that is no blank is not blank. -/
lemma not_allBlank_of_mem {t : Text} {c : Char} (mem : c ∈ t) (h : isBlank c = false) :
    ¬ t.allBlank := by
  intro blank
  have := allBlank_iff.1 blank c mem
  rw [h] at this
  cases this

lemma Padded.refl (t : Text) : Padded t t := ⟨[], [], rfl, rfl, by simp⟩

lemma Padded.space_cons (t : Text) : Padded t (' ' :: t) := ⟨[' '], [], rfl, rfl, by simp⟩

/-- More blanks in front still pad. -/
lemma Padded.append_left {t u blanks : Text} (h : Padded t u) (blank : blanks.allBlank) :
    Padded t (blanks ++ u) := by
  obtain ⟨left, right, hl, hr, rfl⟩ := h
  exact ⟨blanks ++ left, right, allBlank_append blank hl, hr, by simp⟩

/-- More blanks at the end still pad. -/
lemma Padded.append_right {t u blanks : Text} (h : Padded t u) (blank : blanks.allBlank) :
    Padded t (u ++ blanks) := by
  obtain ⟨left, right, hl, hr, rfl⟩ := h
  exact ⟨left, right ++ blanks, hl, allBlank_append hr blank, by simp⟩

/-- Blanks in front are trimmed away at the start. -/
lemma trimStart_append {left : Text} (h : left.allBlank) (t : Text) :
    trimStart (left ++ t) = trimStart t :=
  List.dropWhile_append_of_pos (allBlank_iff.1 h)

/-- What satisfies the test all through is dropped from the end as a whole. -/
lemma dropEndWhile_append {p : Char → Bool} {right : Text} (h : ∀ c ∈ right, p c) (t : Text) :
    dropEndWhile p (t ++ right) = dropEndWhile p t := by
  have all : ∀ c ∈ right.reverse, p c := by simpa using h
  rw [dropEndWhile, dropEndWhile, List.reverse_append, List.dropWhile_append_of_pos all]

@[simp] lemma trimStart_trimStart (t : Text) : t.trimStart.trimStart = t.trimStart :=
  List.dropWhile_idempotent isBlank t

/-- Trimming the start leaves nothing of exactly the blank texts. -/
lemma allBlank_eq_isEmpty (t : Text) : t.allBlank = t.trimStart.isEmpty := by
  rw [Bool.eq_iff_iff, List.isEmpty_iff, allBlank_iff]
  exact List.dropWhile_eq_nil_iff.symm

/-- Blanks behind are trimmed away at the end. -/
lemma trimEnd_append {right : Text} (h : right.allBlank) (t : Text) :
    trimEnd (t ++ right) = trimEnd t :=
  dropEndWhile_append (allBlank_iff.1 h) t

/-- A text that starts with no blank is trimmed to itself at the start. -/
lemma trimStart_eq_self {t : Text} (h : ∀ c ∈ t.head?, isBlank c = false) : trimStart t = t := by
  cases t with
  | nil => rfl
  | cons c t =>
    have := h c rfl
    exact List.dropWhile_cons_of_neg (by simp [this])

/-- Nothing is dropped when the last character fails the test. -/
lemma dropEndWhile_eq_self {p : Char → Bool} {t : Text} (h : ∀ c ∈ t.getLast?, p c = false) :
    dropEndWhile p t = t := by
  refine List.rdropWhile_eq_self_iff.2 fun ne => ?_
  rw [h _ (List.getLast?_eq_some_getLast ne)]
  exact Bool.false_ne_true

/-- A text that ends with no blank is trimmed to itself at the end. -/
lemma trimEnd_eq_self {t : Text} (h : ∀ c ∈ t.getLast?, isBlank c = false) : trimEnd t = t :=
  dropEndWhile_eq_self h

/-- What pads a tight text is trimmed to it. -/
lemma Tight.trim_eq {t u : Text} (tight : Tight t) (h : Padded t u) : u.trim = t := by
  obtain ⟨left, right, hl, hr, rfl⟩ := h
  rw [trim, List.append_assoc, trimStart_append hl]
  cases t with
  | nil =>
    have none : trimStart right = [] := List.dropWhile_eq_nil_iff.2 (allBlank_iff.1 hr)
    rw [List.nil_append, none]
    rfl
  | cons c t =>
    have start : trimStart (c :: t ++ right) = c :: t ++ right :=
      trimStart_eq_self fun d mem => tight.1 d mem
    rw [start, trimEnd_append hr, trimEnd_eq_self tight.2]

/-- What trimming takes from the end is a run of blanks. -/
lemma trim_append_blanks (t : Text) : t.trim ++ t.trimStart.rtakeWhile isBlank = t.trimStart :=
  List.rdropWhile_append_rtakeWhile

/-- A trimmed text is tight. -/
lemma tight_trim (t : Text) : Tight t.trim := by
  constructor
  · -- what is left of the end starts with the first character of the whole
    intro c mem
    have head : c ∈ t.trimStart.head? := by
      rw [← trim_append_blanks, List.head?_append, Option.mem_def.1 mem]
      rfl
    have first := List.head?_dropWhile_not isBlank t
    rw [trimStart] at head
    rw [Option.mem_def.1 head] at first
    exact first
  · intro c mem
    obtain ⟨ne, rfl⟩ := List.mem_getLast?_eq_getLast mem
    exact Bool.not_eq_true _ ▸ List.rdropWhile_last_not isBlank t.trimStart ne

/-- A text pads what trimming leaves of it. -/
lemma padded_trim (t : Text) : Padded t.trim t := by
  refine ⟨t.takeWhile isBlank, t.trimStart.rtakeWhile isBlank, ?_, ?_, ?_⟩
  · exact allBlank_iff.2 fun c mem => List.mem_takeWhile_imp mem
  · exact allBlank_iff.2 fun c mem => List.mem_rtakeWhile_imp mem
  · rw [List.append_assoc, trim_append_blanks]
    exact List.takeWhile_append_dropWhile.symm

lemma Tight.trim_eq_self {t : Text} (h : Tight t) : t.trim = t := h.trim_eq (.refl t)

lemma Tight.trim_space_cons {t : Text} (h : Tight t) : trim (' ' :: t) = t := h.trim_eq (.space_cons t)

/-- Blanks around a text make no difference to what is trimmed. -/
lemma Padded.trim_eq {t u : Text} (h : Padded t u) : u.trim = t.trim := by
  obtain ⟨left, right, hl, hr, rfl⟩ := h
  exact (tight_trim t).trim_eq (((padded_trim t).append_left hl).append_right hr)

@[simp] lemma trim_trim (t : Text) : t.trim.trim = t.trim := (tight_trim t).trim_eq_self

/-- Exactly the blank texts are trimmed away. -/
lemma trim_eq_nil_iff {t : Text} : t.trim = [] ↔ t.allBlank := by
  constructor
  · intro h
    obtain ⟨left, right, hl, hr, eq⟩ := h ▸ padded_trim t
    rw [eq, allBlank_iff]
    rw [allBlank_iff] at hl hr
    simpa [or_imp, forall_and] using ⟨hl, hr⟩
  · intro h
    exact Tight.trim_eq ⟨nofun, nofun⟩ ⟨[], t, rfl, h, rfl⟩

end Tabular.Text
