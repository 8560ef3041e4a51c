import Tabular.Proofs.Statement.Cursor
import Tabular.Proofs.Text.Classes
import Tabular.Settings

/-!
# Finding the file function of a statement

The names of the settings are compared with the beginning of a statement, and the longest one that is
found there wins. Where names and statement are ASCII texts and the names are made of word characters,
this is a search for the first word of the statement (`Settings.fileFunction?_eq_find?`): a name leads the
statement when it is this word in any case (`Settings.leads_iff_alike`), so all that are found have one
length and the last of them wins.
-/

namespace Tabular

namespace Text

/-- The longest run of word characters that a text starts with, behind the blanks. -/
def firstWord (t : Text) : Text := t.trimStart.takeWhile isWordChar

/-- The texts are the same except for the case of ASCII letters. -/
def Alike (t u : Text) : Prop := t.lowerAscii = u.lowerAscii

instance (t u : Text) : Decidable (t.Alike u) := inferInstanceAs (Decidable (_ = _))

/-- The second text starts with the first one, in any case of its letters, and goes on behind it. -/
def ProperlyBegins (t u : Text) : Prop := ∃ rest, rest ≠ [] ∧ Alike (t ++ rest) u

/-- Texts that differ in case only have one length. -/
lemma Alike.length_eq {t u : Text} (h : t.Alike u) : t.length = u.length := by
  have := congrArg List.length h
  rwa [lowerAscii, lowerAscii, List.length_map, List.length_map] at this

/-- A text that another one properly begins with is shorter. -/
lemma ProperlyBegins.length_lt {t u : Text} (h : t.ProperlyBegins u) : t.length < u.length := by
  obtain ⟨rest, ne, alike⟩ := h
  have pos := List.length_pos_iff.2 ne
  rw [← alike.length_eq, List.length_append]
  omega

/-- A text starts with a word when this word is the longest run of word characters. -/
lemma takeWhile_isWordChar_eq_iff {word t : Text} (h : ∀ c ∈ word, isWordChar c) :
    t.takeWhile isWordChar = word ↔ ∃ rest, t = word ++ rest ∧ rest.startsWord = false := by
  constructor
  · rintro rfl
    exact ⟨t.dropWhile isWordChar, List.takeWhile_append_dropWhile.symm, startsWord_dropWhile t⟩
  · rintro ⟨rest, rfl, stop⟩
    exact (Cursor.word_append h stop).1

end Text

namespace Settings
open Text (IsAscii)

/-- A name leads a text when the text has it in front, in small letters, as a whole word. -/
lemma leads_iff {lowered f : Text} :
    leads lowered f ↔ ∃ rest, lowered = f.lowercase ++ rest ∧ rest.startsWord = false := by
  unfold leads
  constructor
  · intro h
    split at h
    · next rest found =>
      exact ⟨rest, Text.after?_eq_some_iff.1 found, by simpa using h⟩
    · cases h
  · rintro ⟨rest, eq, stop⟩
    rw [Text.after?_eq_some_iff.2 eq]
    simpa using stop

/-- A name leads an ASCII statement when it is the first word of the statement. -/
lemma leads_iff_alike {f t : Text} (ascii : t.IsAscii) (name : f.IsAscii ∧ ∀ c ∈ f, Text.isWordChar c) :
    leads t.trimStart.lowercase f ↔ f.Alike t.firstWord := by
  obtain ⟨asciiName, word⟩ := name
  have asciiStart : t.trimStart.IsAscii := fun c mem => ascii c ((List.dropWhile_sublist _).subset mem)
  have wordLower : ∀ c ∈ f.lowerAscii, Text.isWordChar c := by
    intro c mem
    obtain ⟨b, mem', rfl⟩ := List.mem_map.1 mem
    rw [Text.isWordChar_toLower (asciiName b mem')]
    exact word b mem'
  rw [leads_iff, asciiStart.lowercase_eq, asciiName.lowercase_eq,
    ← Text.takeWhile_isWordChar_eq_iff wordLower, asciiStart.takeWhile_lowerAscii]
  exact eq_comm

/-- The last of some names is chosen unless the choice among the others is larger. -/
lemma longest?_concat (names : List Text) (name : Text) :
    longest? (names ++ [name]) =
      match longest? names with
      | some b => if b.byteSize ≤ name.byteSize then some name else some b
      | none => some name := by
  rw [longest?, List.foldl_append]
  rfl

/-- Among names of one size the last one is chosen. -/
lemma longest?_eq_getLast? {n : Nat} {names : List Text} (h : ∀ name ∈ names, name.byteSize = n) :
    longest? names = names.getLast? := by
  induction names using List.reverseRecOn with
  | nil => rfl
  | append_singleton names name ih =>
    obtain ⟨others, last⟩ := List.forall_mem_append.1 h
    rw [longest?_concat, ih others, List.getLast?_concat]
    cases found : names.getLast? with
    | none => rfl
    | some b =>
      have size := others b (List.mem_of_getLast? found)
      have size' := last name List.mem_cons_self
      exact if_pos (size.trans size'.symm).le

/-- Searching the names from the last one for the first word of the statement finds the function. -/
lemma fileFunction?_eq_find? {s : Settings} {t : Text} (ascii : t.IsAscii)
    (names : ∀ f ∈ s.fileFunctions, f.IsAscii ∧ ∀ c ∈ f, Text.isWordChar c) :
    s.fileFunction? t = s.fileFunctions.reverse.find? (·.Alike t.firstWord) := by
  have same : s.fileFunctions.filter (leads t.trimStart.lowercase) =
      s.fileFunctions.filter (·.Alike t.firstWord) := by
    refine List.filter_congr fun f mem => Bool.eq_iff_iff.2 ?_
    rw [leads_iff_alike ascii (names f mem), decide_eq_true_iff]
  have sizes : ∀ f ∈ s.fileFunctions.filter (·.Alike t.firstWord),
      f.byteSize = t.firstWord.length := by
    intro f mem
    obtain ⟨mem, alike⟩ := List.mem_filter.1 mem
    rw [(names f mem).1.byteSize_eq]
    exact (of_decide_eq_true alike).length_eq
  rw [fileFunction?, same, longest?_eq_getLast? sizes, List.getLast?_filter]

/-- The function is the last of the names that are the first word of the statement. -/
lemma fileFunction?_eq_some_iff {s : Settings} {t : Text} (ascii : t.IsAscii)
    (names : ∀ f ∈ s.fileFunctions, f.IsAscii ∧ ∀ c ∈ f, Text.isWordChar c) {f : Text} :
    s.fileFunction? t = some f ↔ f.Alike t.firstWord ∧
      ∃ before after, s.fileFunctions = before ++ f :: after ∧ ∀ g ∈ after, ¬ g.Alike t.firstWord := by
  rw [fileFunction?_eq_find? ascii names, List.find?_eq_some_iff_append, decide_eq_true_iff]
  refine and_congr_right fun _ => ?_
  constructor
  · rintro ⟨after, before, split, others⟩
    refine ⟨before.reverse, after.reverse, ?_, fun g mem => ?_⟩
    · rw [← List.reverse_reverse s.fileFunctions, split]
      simp
    · simpa using others g (List.mem_reverse.1 mem)
  · rintro ⟨before, after, split, others⟩
    refine ⟨after.reverse, before.reverse, by simp [split], fun g mem => ?_⟩
    simpa using others g (List.mem_reverse.1 mem)

/-- With ASCII names of word characters, the function of an ASCII statement is the last of the names that
are the first word of the statement, in any case of its letters; there is one exactly when some name is
this word. A name is never found where it only begins the first word, or another name that is the first
word. -/
theorem fileFunction?_firstWord {s : Settings} {t : Text} (ascii : t.IsAscii)
    (names : ∀ f ∈ s.fileFunctions, f.IsAscii ∧ ∀ c ∈ f, Text.isWordChar c) :
    ((s.fileFunction? t).isSome ↔ ∃ f ∈ s.fileFunctions, f.Alike t.firstWord) ∧
    (∀ f, s.fileFunction? t = some f ↔ f.Alike t.firstWord ∧
      ∃ before after, s.fileFunctions = before ++ f :: after ∧ ∀ g ∈ after, ¬ g.Alike t.firstWord) ∧
    (∀ f, f.ProperlyBegins t.firstWord → s.fileFunction? t ≠ some f) ∧
    ∀ f, ∀ g ∈ s.fileFunctions, g.Alike t.firstWord → f.ProperlyBegins g →
      s.fileFunction? t ≠ some f := by
  have last {f} := fileFunction?_eq_some_iff ascii names (f := f)
  refine ⟨?found, fun f => last, ?firstWord, ?other⟩
  case found =>
    rw [fileFunction?_eq_find? ascii names, List.find?_isSome]
    simp only [List.mem_reverse, decide_eq_true_iff]
  case firstWord =>
    intro f begins found
    exact absurd (last.1 found).1.length_eq begins.length_lt.ne
  case other =>
    intro f g _ same begins found
    have size := (last.1 found).1.length_eq.trans same.length_eq.symm
    exact absurd size begins.length_lt.ne

/-- Two names begin alike, and one of them is configured twice, in two cases: the longer word is found as
it was configured last, and the shorter name only where it is the whole word. -/
theorem fileFunction?_firstWord_sample :
    let s : Settings := {
      fileFunctions := ["read_csv_auto".toList, "Read_CSV_Auto".toList, "read_csv".toList] }
    s.fileFunction? " READ_csv_AUTO('x')".toList = some "Read_CSV_Auto".toList ∧
      s.fileFunction? " READ_csv_AUTO('x')".toList ≠ some "read_csv".toList ∧
      s.fileFunction? "\tread_CSV ('x')".toList = some "read_csv".toList ∧
      ¬ (s.fileFunction? "read_csvx('x')".toList).isSome := by
  intro s
  have names : ∀ f ∈ s.fileFunctions, f.IsAscii ∧ ∀ c ∈ f, Text.isWordChar c := by
    have all : s.fileFunctions.all fun f => f.all (·.toNat < 128) && f.all Text.isWordChar := by decide
    simpa [Text.IsAscii, forall_and] using all
  obtain ⟨-, auto, short, -⟩ :=
    fileFunction?_firstWord (t := " READ_csv_AUTO('x')".toList) (by decide) names
  obtain ⟨-, plain, -⟩ :=
    fileFunction?_firstWord (t := "\tread_CSV ('x')".toList) (by decide) names
  obtain ⟨none, -⟩ := fileFunction?_firstWord (t := "read_csvx('x')".toList) (by decide) names
  refine ⟨?auto, ?short, ?plain, ?none⟩
  case auto =>
    exact (auto _).2 ⟨by decide, ["read_csv_auto".toList], ["read_csv".toList], rfl, by decide⟩
  case short => exact short _ ⟨"_auto".toList, by decide, by decide⟩
  case plain =>
    exact (plain _).2 ⟨by decide, ["read_csv_auto".toList, "Read_CSV_Auto".toList], [], rfl, nofun⟩
  case none => exact fun found => absurd (none.1 found) (by decide)

end Settings

end Tabular
