import Mathlib.Data.List.TakeWhile
import Tabular.Proofs.Text.Classes
import Tabular.Proofs.Text.Trim
import Tabular.Statement.Cursor

/-!
# What the reading steps read

* A name is a whole run of word characters: blanks may come before it, and no word character may follow
  (`Cursor.name?_eq_some_iff`).
* A keyword is read as a name that spells it (`Cursor.keyword?_eq_some_iff`), so no text starts with two
  different keywords.
* `Text.NamesText` is a list of names as it is written; it is read back as these names
  (`Cursor.names?_append`), and nothing else is (`Cursor.exists_of_names?`).
* A text can be divided in only one way: `Text.append_inj_of_blank` for blanks, `Text.NameBefore.inj` for
  names and `Text.NamesText.inj` for lists of names.
-/

namespace Tabular

namespace Text

/-- The text is one or more word characters. -/
def IsName (t : Text) : Prop := t ≠ [] ∧ ∀ c ∈ t, isWordChar c

instance (t : Text) : Decidable t.IsName :=
  decidable_of_iff (t ≠ [] ∧ t.all isWordChar) (and_congr_right' List.all_eq_true)

/-- The text is one or more small ASCII letters. -/
def IsKeyword (t : Text) : Prop := t ≠ [] ∧ ∀ c ∈ t, c.isLower

instance (t : Text) : Decidable t.IsKeyword :=
  decidable_of_iff (t ≠ [] ∧ t.all Char.isLower) (and_congr_right' List.all_eq_true)

/-- The name stands in front of a rest that does not run on with a word character. -/
structure NameBefore (name rest : Text) : Prop where
  isName : name.IsName
  stop : rest.startsWord = false

/-- The text spells the keyword, in any case of its letters, in front of a rest that does not run on
with a word character. -/
structure KeywordBefore (word spelled rest : Text) : Prop where
  spells : spelled.lowerAscii = word
  stop : rest.startsWord = false

/-- One or more names as they are written, with a comma between two of them and blanks around it. -/
inductive NamesText where
  | last (name : Text)
  | cons (name left right : Text) (others : NamesText)

namespace NamesText

/-- How the names are written. -/
def text : NamesText → Text
  | last name => name
  | cons name left right others => name ++ (left ++ ',' :: (right ++ others.text))

/-- The names alone. -/
def names : NamesText → List Text
  | last name => [name]
  | cons name _ _ others => name :: others.names

/-- The names are names, and only blanks stand around the commas. -/
def WellFormed : NamesText → Prop
  | last name => name.IsName
  | cons name left right others => name.IsName ∧ left.allBlank ∧ right.allBlank ∧ others.WellFormed

end NamesText

/-- A name starts with no blank. -/
lemma IsName.head_not_blank {t : Text} (h : t.IsName) : ∀ c ∈ t.head?, isBlank c = false := by
  intro c mem
  refine Bool.eq_false_iff.2 fun blank => ?_
  have word := h.2 c (List.mem_of_mem_head? mem)
  rw [isWordChar_of_isBlank blank] at word
  cases word

/-- A text with a name in front starts with no blank. -/
lemma IsName.head_append {t : Text} (h : t.IsName) (rest : Text) :
    ∀ c ∈ (t ++ rest).head?, isBlank c = false := by
  rw [List.head?_append_of_ne_nil _ h.1]
  exact h.head_not_blank

/-- A text with a name in front does not start with a character from outside of words. -/
lemma IsName.append_ne_cons {name : Text} (h : name.IsName) {d : Char} (outside : isWordChar d = false)
    (t u : Text) : name ++ t ≠ d :: u := by
  intro eq
  cases name with
  | nil => exact h.1 rfl
  | cons c name =>
    cases eq
    rw [h.2 d List.mem_cons_self] at outside
    cases outside

/-- No word starts with a blank. -/
lemma startsWord_of_isBlank {c : Char} (h : isBlank c) (t : Text) : startsWord (c :: t) = false :=
  isWordChar_of_isBlank h

/-- Blanks in front start no word, if none starts behind them. -/
lemma startsWord_gap {gap rest : Text} (blank : gap.allBlank) (stop : rest.startsWord = false) :
    startsWord (gap ++ rest) = false := by
  cases gap with
  | nil => exact stop
  | cons c gap => exact startsWord_of_isBlank (allBlank_iff.1 blank c List.mem_cons_self) _

/-- One or more blanks in front start no word. -/
lemma startsWord_append_gap {gap : Text} (blank : gap.allBlank) (ne : gap ≠ []) (rest : Text) :
    startsWord (gap ++ rest) = false := by
  obtain ⟨c, gap, rfl⟩ := List.exists_cons_of_ne_nil ne
  exact startsWord_of_isBlank (allBlank_iff.1 blank c List.mem_cons_self) _

/-- Behind a whole word no other one starts. -/
lemma startsWord_dropWhile (t : Text) : startsWord (t.dropWhile isWordChar) = false := by
  have first := List.head?_dropWhile_not isWordChar t
  rw [startsWord]
  cases head : (t.dropWhile isWordChar).head? with
  | none => rfl
  | some c =>
    rw [head] at first
    exact first

/-- What spells a keyword is a name. -/
lemma IsKeyword.isName {word spelled : Text} (h : word.IsKeyword) (spells : spelled.lowerAscii = word) :
    spelled.IsName := by
  obtain ⟨ne, lower⟩ := h
  subst spells
  constructor
  · rintro rfl
    exact ne rfl
  · exact fun c mem => isWordChar_of_isAlpha (isAlpha_of_lowerAscii lower c mem)

/-- A keyword, as it is spelled, is a name that ends where the keyword does. -/
lemma KeywordBefore.nameBefore {word spelled rest : Text} (h : KeywordBefore word spelled rest)
    (keyword : word.IsKeyword) : NameBefore spelled rest :=
  ⟨keyword.isName h.spells, h.stop⟩

/-- Skipping blanks finds the part behind them. -/
lemma trimStart_eq_iff {t u : Text} :
    t.trimStart = u ↔ (∀ c ∈ u.head?, isBlank c = false) ∧ ∃ gap, gap.allBlank ∧ t = gap ++ u := by
  constructor
  · rintro rfl
    refine ⟨?_, t.takeWhile isBlank, ?_, List.takeWhile_append_dropWhile.symm⟩
    · intro c mem
      have first := List.head?_dropWhile_not isBlank t
      rw [← trimStart, Option.mem_def.1 mem] at first
      exact first
    · exact allBlank_iff.2 fun c mem => List.mem_takeWhile_imp mem
  · rintro ⟨head, gap, blank, rfl⟩
    rw [trimStart_append blank, trimStart_eq_self head]

end Text

namespace Cursor
open Text (IsName IsKeyword NameBefore KeywordBefore NamesText)

/-- A run of word characters ends where a text begins that does not start with one. -/
lemma word_append {name rest : Text} (word : ∀ c ∈ name, Text.isWordChar c)
    (stop : rest.startsWord = false) :
    (name ++ rest).takeWhile Text.isWordChar = name ∧
      (name ++ rest).dropWhile Text.isWordChar = rest := by
  have none : rest.takeWhile Text.isWordChar = [] ∧ rest.dropWhile Text.isWordChar = rest := by
    cases rest with
    | nil => exact ⟨rfl, rfl⟩
    | cons c rest =>
      have outside : ¬ Text.isWordChar c := Bool.eq_false_iff.1 stop
      exact ⟨List.takeWhile_cons_of_neg outside, List.dropWhile_cons_of_neg outside⟩
  constructor
  · rw [List.takeWhile_append_of_pos word, none.1, List.append_nil]
  · rw [List.dropWhile_append_of_pos word, none.2]

/-- A name is the longest run of word characters behind the blanks, and there has to be one. -/
theorem name?_eq_some_iff {t name rest : Text} :
    name? t = some (name, rest) ↔ NameBefore name rest ∧ t.trimStart = name ++ rest := by
  constructor
  · intro h
    unfold name? at h
    simp only at h
    split at h
    · cases h
    · next ne =>
      cases h
      refine ⟨⟨⟨?_, fun c mem => List.mem_takeWhile_imp mem⟩, ?_⟩, ?_⟩
      · simpa using ne
      · exact Text.startsWord_dropWhile t.trimStart
      · exact List.takeWhile_append_dropWhile.symm
  · rintro ⟨⟨named, stop⟩, eq⟩
    obtain ⟨taken, left⟩ := word_append named.2 stop
    rw [name?, eq]
    simp [taken, left, named.1]

/-- A name is read behind blanks, up to the first character that is no word character. -/
lemma name?_gap {gap name rest : Text} (blank : gap.allBlank) (h : NameBefore name rest) :
    name? (gap ++ (name ++ rest)) = some (name, rest) :=
  name?_eq_some_iff.2 ⟨h, Text.trimStart_eq_iff.2 ⟨h.isName.head_append rest, gap, blank, rfl⟩⟩

/-- What is read as a name is one. -/
lemma isName_of_name? {t name rest : Text} (h : name? t = some (name, rest)) : name.IsName :=
  (name?_eq_some_iff.1 h).1.isName

/-- A word is found where the text spells it, in any case. -/
lemma wordEnd?_eq_some_iff {word t rest : Text} :
    wordEnd? word t = some rest ↔ ∃ spelled : Text, spelled.lowerAscii = word ∧ t = spelled ++ rest := by
  induction word generalizing t with
  | nil => simp [wordEnd?, Text.lowerAscii]
  | cons w word ih =>
    cases t with
    | nil => simp [wordEnd?, Text.lowerAscii]
    | cons c t =>
      constructor
      · intro h
        rw [wordEnd?] at h
        split at h
        · next same =>
          obtain ⟨spelled, rfl, rfl⟩ := ih.1 h
          exact ⟨c :: spelled, congrArg (· :: _) same, rfl⟩
        · cases h
      · rintro ⟨spelled, spells, eq⟩
        cases spelled with
        | nil => cases spells
        | cons d spelled =>
          cases spells
          cases eq
          rw [wordEnd?, if_pos rfl]
          exact ih.2 ⟨spelled, rfl, rfl⟩

/-- A keyword is read as a name that spells it. -/
theorem keyword?_eq_some_iff {word t rest : Text} (keyword : word.IsKeyword) :
    keyword? word t = some rest ↔
      ∃ spelled : Text, spelled.lowerAscii = word ∧ name? t = some (spelled, rest) := by
  constructor
  · intro h
    unfold keyword? at h
    split at h
    · next found =>
      split at h
      · cases h
      · next stop =>
        cases h
        obtain ⟨spelled, spells, eq⟩ := wordEnd?_eq_some_iff.1 found
        refine ⟨spelled, spells, name?_eq_some_iff.2 ⟨⟨keyword.isName spells, ?_⟩, eq⟩⟩
        exact Bool.eq_false_iff.2 stop
    · cases h
  · rintro ⟨spelled, spells, read⟩
    obtain ⟨⟨_, stop⟩, eq⟩ := name?_eq_some_iff.1 read
    rw [keyword?, wordEnd?_eq_some_iff.2 ⟨spelled, spells, eq⟩]
    simp [stop]

/-- A keyword is read behind blanks. -/
lemma keyword?_gap {word gap spelled rest : Text} (keyword : word.IsKeyword) (blank : gap.allBlank)
    (h : KeywordBefore word spelled rest) : keyword? word (gap ++ (spelled ++ rest)) = some rest :=
  (keyword?_eq_some_iff keyword).2 ⟨spelled, h.spells, name?_gap blank (h.nameBefore keyword)⟩

/-- A keyword is found behind blanks, where the text spells it as a whole word. -/
lemma exists_of_keyword? {word t rest : Text} (keyword : word.IsKeyword)
    (h : keyword? word t = some rest) :
    ∃ gap spelled, gap.allBlank ∧ KeywordBefore word spelled rest ∧ t = gap ++ (spelled ++ rest) := by
  obtain ⟨spelled, spells, read⟩ := (keyword?_eq_some_iff keyword).1 h
  obtain ⟨⟨_, stop⟩, eq⟩ := name?_eq_some_iff.1 read
  obtain ⟨_, gap, blank, split⟩ := Text.trimStart_eq_iff.1 eq
  exact ⟨gap, spelled, blank, ⟨spells, stop⟩, split⟩

/-- Blanks before a name make no difference. -/
lemma name?_congr {t u : Text} (h : t.trimStart = u.trimStart) : name? t = name? u := by
  rw [name?, name?, h]

/-- Blanks before a keyword make no difference. -/
lemma keyword?_congr {t u : Text} (h : t.trimStart = u.trimStart) (word : Text) :
    keyword? word t = keyword? word u := by
  rw [keyword?, keyword?, h]

/-- A keyword that was read shortens the text. -/
lemma length_of_keyword? {word t rest : Text} (ne : word ≠ []) (h : keyword? word t = some rest) :
    rest.length < t.length := by
  have le := length_trimStart_le t
  unfold keyword? at h
  split at h
  · next found =>
    split at h
    · cases h
    · cases h
      obtain ⟨spelled, rfl, eq⟩ := wordEnd?_eq_some_iff.1 found
      rw [Text.lowerAscii, ne_eq, List.map_eq_nil_iff] at ne
      have pos := List.length_pos_iff.2 ne
      rw [eq, List.length_append] at le
      omega
  · cases h

/-- A text starts with at most one keyword. -/
lemma keyword_unique {word word' t rest rest' : Text} (keyword : word.IsKeyword)
    (keyword' : word'.IsKeyword) (h : keyword? word t = some rest)
    (h' : keyword? word' t = some rest') : word = word' := by
  obtain ⟨spelled, rfl, read⟩ := (keyword?_eq_some_iff keyword).1 h
  obtain ⟨spelled', rfl, read'⟩ := (keyword?_eq_some_iff keyword').1 h'
  cases read.symm.trans read'
  rfl

/-- A character is read behind blanks, unless it is one. -/
lemma symbol?_eq_some_iff {d : Char} {t rest : Text} :
    symbol? d t = some rest ↔ t.trimStart = d :: rest := by
  unfold symbol?
  split
  · next c r eq =>
    rw [eq]
    by_cases same : c = d
    · simp [same]
    · simp [same]
  · next eq =>
    rw [eq]
    simp

/-- A character is found behind blanks. -/
lemma symbol?_gap {d : Char} (notBlank : Text.isBlank d = false) {gap rest : Text}
    (blank : gap.allBlank) : symbol? d (gap ++ d :: rest) = some rest := by
  refine symbol?_eq_some_iff.2 (Text.trimStart_eq_iff.2 ⟨?_, gap, blank, rfl⟩)
  rintro c ⟨⟩
  exact notBlank

/-- In front of a name no other character is read. -/
lemma symbol?_eq_none_of_name? {d : Char} (outside : Text.isWordChar d = false)
    {t name rest : Text} (h : name? t = some (name, rest)) : symbol? d t = none := by
  obtain ⟨⟨named, _⟩, eq⟩ := name?_eq_some_iff.1 h
  refine Option.eq_none_iff_forall_ne_some.2 fun rest' read => ?_
  rw [symbol?_eq_some_iff, eq] at read
  exact named.append_ne_cons outside rest rest' read

/-- A name with no comma behind it is the only one. -/
lemma names?_of_last {t name rest : Text} (first : name? t = some (name, rest))
    (last : symbol? ',' rest = none) : names? t = some ([name], rest) := by
  rw [names?]
  split
  · next none => cases first.symm.trans none
  · next some =>
    cases first.symm.trans some
    split
    · rfl
    · next comma => cases last.symm.trans comma

/-- Behind a name and a comma more names are read. -/
lemma names?_of_comma {t name rest rest' : Text} (first : name? t = some (name, rest))
    (comma : symbol? ',' rest = some rest') :
    names? t = (names? rest').map fun p => (name :: p.1, p.2) := by
  rw [names?]
  split
  · next none => cases first.symm.trans none
  · next some =>
    cases first.symm.trans some
    split
    · next last => cases comma.symm.trans last
    · next comma' =>
      cases comma.symm.trans comma'
      cases names? rest' with
      | none => rfl
      | some p => rfl

/-- The names that are read behind a first one, and the text after them. -/
def others? (t : Text) : Option (List Text × Text) :=
  match symbol? ',' t with
  | some rest => names? rest
  | none => some ([], t)

/-- Names are a first name and the other ones behind it. -/
lemma names?_eq (t : Text) :
    names? t = (name? t).bind fun first => (others? first.2).map fun p => (first.1 :: p.1, p.2) := by
  cases first : name? t with
  | none =>
    rw [names?]
    split
    · rfl
    · next some => cases first.symm.trans some
  | some p =>
    obtain ⟨name, rest⟩ := p
    rw [Option.bind_some]
    cases comma : symbol? ',' rest with
    | none => rw [names?_of_last first comma, others?, comma, Option.map_some]
    | some rest' => rw [names?_of_comma first comma, others?, comma]

/-- The first of the names is read by itself. -/
lemma exists_name?_of_names? {t : Text} {p : List Text × Text} (h : names? t = some p) :
    ∃ name rest, name? t = some (name, rest) := by
  rw [names?] at h
  split at h
  · cases h
  · next first => exact ⟨_, _, first⟩

/-- A list of names is read as these names, when no further comma follows it. -/
lemma names?_append {p : NamesText} (h : p.WellFormed) {rest : Text} (stop : rest.startsWord = false)
    (last : symbol? ',' rest = none) {gap : Text} (blank : gap.allBlank) :
    names? (gap ++ (p.text ++ rest)) = some (p.names, rest) := by
  induction p generalizing gap with
  | last name => exact names?_of_last (name?_gap blank ⟨h, stop⟩) last
  | cons name left right others ih =>
    obtain ⟨named, hl, hr, formed⟩ := h
    have assoc : (NamesText.cons name left right others).text ++ rest =
        name ++ (left ++ ',' :: (right ++ (others.text ++ rest))) := by
      simp [NamesText.text]
    have comma : symbol? ',' (left ++ ',' :: (right ++ (others.text ++ rest))) =
        some (right ++ (others.text ++ rest)) := symbol?_gap rfl hl
    have stop' : Text.startsWord (left ++ ',' :: (right ++ (others.text ++ rest))) = false :=
      Text.startsWord_gap hl rfl
    rw [assoc, names?_of_comma (name?_gap blank ⟨named, stop'⟩) comma, ih formed hr]
    rfl

/-- What is read as names is a list of them, behind blanks and with no further comma after it. -/
lemma exists_of_names? {t rest : Text} {names : List Text} (h : names? t = some (names, rest)) :
    rest.startsWord = false ∧ symbol? ',' rest = none ∧
      ∃ gap p, gap.allBlank ∧ NamesText.WellFormed p ∧ p.names = names ∧ t = gap ++ (p.text ++ rest) := by
  induction t using names?.induct generalizing names with
  | case1 t none =>
    rw [names?] at h
    split at h
    · cases h
    · next some => cases none.symm.trans some
  | case2 t name rest' first last =>
    rw [names?_of_last first last] at h
    cases h
    obtain ⟨⟨named, stop⟩, eq⟩ := name?_eq_some_iff.1 first
    obtain ⟨_, gap, blank, split⟩ := Text.trimStart_eq_iff.1 eq
    exact ⟨stop, last, gap, .last name, blank, named, rfl, split⟩
  | case3 t name rest' first rest'' comma _ names' after found ih =>
    rw [names?_of_comma first comma, found] at h
    cases h
    obtain ⟨stop, last, right, others, hr, formed, rfl, rfl⟩ := ih found
    obtain ⟨⟨named, _⟩, eq⟩ := name?_eq_some_iff.1 first
    obtain ⟨_, gap, blank, rfl⟩ := Text.trimStart_eq_iff.1 eq
    obtain ⟨_, left, hl, rfl⟩ := Text.trimStart_eq_iff.1 (symbol?_eq_some_iff.1 comma)
    refine ⟨stop, last, gap, .cons name left right others, blank, ⟨named, hl, hr, formed⟩, rfl, ?_⟩
    simp [NamesText.text]
  | case4 t name rest' first rest'' comma _ none _ =>
    rw [names?_of_comma first comma, none] at h
    cases h

end Cursor

namespace Text

/-- A text can be divided in one way into blanks and a part that starts with no blank. -/
lemma append_inj_of_blank {gap gap' t t' : Text} (blank : gap.allBlank) (blank' : gap'.allBlank)
    (head : ∀ c ∈ t.head?, isBlank c = false) (head' : ∀ c ∈ t'.head?, isBlank c = false)
    (h : gap ++ t = gap' ++ t') : gap = gap' ∧ t = t' := by
  have same : t = t' :=
    calc t = (gap ++ t).trimStart := (trimStart_eq_iff.2 ⟨head, gap, blank, rfl⟩).symm
      _ = (gap' ++ t').trimStart := congrArg trimStart h
      _ = t' := trimStart_eq_iff.2 ⟨head', gap', blank', rfl⟩
  subst same
  exact ⟨List.append_cancel_right h, rfl⟩

/-- A text can be divided in one way into a name and what follows it. -/
lemma NameBefore.inj {name name' rest rest' : Text} (h : NameBefore name rest)
    (h' : NameBefore name' rest') (eq : name ++ rest = name' ++ rest') :
    name = name' ∧ rest = rest' := by
  have none : allBlank [] := rfl
  have read : Cursor.name? (name ++ rest) = some (name, rest) := Cursor.name?_gap none h
  have read' : Cursor.name? (name' ++ rest') = some (name', rest') := Cursor.name?_gap none h'
  rw [eq] at read
  cases read.symm.trans read'
  exact ⟨rfl, rfl⟩

namespace NamesText

/-- A list of names starts with a name. -/
lemma WellFormed.exists_name {p : NamesText} (h : p.WellFormed) (rest : Text) :
    ∃ name t, name.IsName ∧ p.text ++ rest = name ++ t := by
  cases p with
  | last name => exact ⟨name, rest, h, rfl⟩
  | cons name left right others => exact ⟨name, _, h.1, List.append_assoc _ _ _⟩

/-- A text with a list of names in front starts with no blank. -/
lemma WellFormed.head_append {p : NamesText} (h : p.WellFormed) (rest : Text) :
    ∀ c ∈ (p.text ++ rest).head?, isBlank c = false := by
  obtain ⟨name, t, named, eq⟩ := h.exists_name rest
  rw [eq]
  exact named.head_append t

/-- A text can be divided in one way into a list of names and what follows it, and the names can be told
apart in one way. -/
lemma inj {p p' : NamesText} (h : p.WellFormed) (h' : p'.WellFormed) {rest rest' : Text}
    (stop : rest.startsWord = false) (stop' : rest'.startsWord = false)
    (last : Cursor.symbol? ',' rest = none) (last' : Cursor.symbol? ',' rest' = none)
    (eq : p.text ++ rest = p'.text ++ rest') : p = p' ∧ rest = rest' := by
  -- a comma is read after a name that is not the last one
  have comma : ∀ {left right t : Text}, left.allBlank →
      Cursor.symbol? ',' (left ++ ',' :: (right ++ t)) = some (right ++ t) :=
    fun blank => Cursor.symbol?_gap rfl blank
  have before : ∀ {name left t : Text}, name.IsName → left.allBlank →
      NameBefore name (left ++ ',' :: t) :=
    fun named blank => ⟨named, startsWord_gap blank rfl⟩
  induction p generalizing p' with
  | last name =>
    cases p' with
    | last name' =>
      obtain ⟨rfl, same⟩ := NameBefore.inj ⟨h, stop⟩ ⟨h', stop'⟩ eq
      exact ⟨rfl, same⟩
    | cons name' left right others =>
      obtain ⟨named, hl, hr, _⟩ := h'
      simp only [text, List.append_assoc, List.cons_append] at eq
      obtain ⟨_, rfl⟩ := NameBefore.inj ⟨h, stop⟩ (before named hl) eq
      cases last.symm.trans (comma hl)
  | cons name left right others ih =>
    obtain ⟨named, hl, hr, formed⟩ := h
    cases p' with
    | last name' =>
      simp only [text, List.append_assoc, List.cons_append] at eq
      obtain ⟨_, rfl⟩ := NameBefore.inj (before named hl) ⟨h', stop'⟩ eq
      cases last'.symm.trans (comma hl)
    | cons name' left' right' others' =>
      obtain ⟨named', hl', hr', formed'⟩ := h'
      simp only [text, List.append_assoc, List.cons_append] at eq
      obtain ⟨rfl, after⟩ := NameBefore.inj (before named hl) (before named' hl') eq
      have head : ∀ {t : Text}, ∀ c ∈ (',' :: t).head?, isBlank c = false := by
        rintro t c ⟨⟩
        rfl
      obtain ⟨rfl, behind⟩ := append_inj_of_blank hl hl' head head after
      obtain ⟨rfl, tails⟩ := append_inj_of_blank hr hr' (formed.head_append rest)
        (formed'.head_append rest') (List.cons.inj behind).2
      obtain ⟨rfl, same⟩ := ih formed formed' tails
      exact ⟨rfl, same⟩

end NamesText

end Text

end Tabular
