import Tabular.Text.Unicode

/-!
# Reading steps

The steps that the readers of statements share. A step takes the text that is left and returns what
it read with the text left after it, or nothing. Blanks before what it reads are skipped. A step
that reads something always shortens the text.
-/

namespace Tabular.Cursor

/-- The text after a word of small ASCII letters, which the text may spell in any case. -/
def wordEnd? : (word t : Text) → Option Text
  | [], t => some t
  | _ :: _, [] => none
  | w :: word, c :: t => if c.toLower = w then wordEnd? word t else none

/-- The text after a keyword, which must not run on into further word characters. -/
def keyword? (word t : Text) : Option Text :=
  match wordEnd? word t.trimStart with
  | some rest => if rest.startsWord then none else some rest
  | none => none

/-- The text after several keywords in a row. -/
def keywords? : (words : List Text) → Text → Option Text
  | [], t => some t
  | word :: words, t =>
    match keyword? word t with
    | some rest => keywords? words rest
    | none => none

/-- The text after one given character. -/
def symbol? (d : Char) (t : Text) : Option Text :=
  match t.trimStart with
  | c :: rest => if c = d then some rest else none
  | [] => none

/-- A name, which is a run of word characters as long as possible, and the text after it. -/
def name? (t : Text) : Option (Text × Text) :=
  let start := t.trimStart
  let name := start.takeWhile Text.isWordChar
  if name.isEmpty then none else some (name, start.dropWhile Text.isWordChar)

/-- Skipping blanks never lengthens a text. -/
theorem length_trimStart_le (t : Text) : t.trimStart.length ≤ t.length :=
  (List.dropWhile_sublist Text.isBlank).length_le

/-- A character that was read shortens the text. -/
theorem length_of_symbol? {d : Char} {t rest : Text} (h : symbol? d t = some rest) :
    rest.length < t.length := by
  have le := length_trimStart_le t
  unfold symbol? at h
  split at h
  · next c r e =>
    split at h
    · cases h
      rw [e] at le
      exact le
    · cases h
  · cases h

/-- A name that was read shortens the text. -/
theorem length_of_name? {t name rest : Text} (h : name? t = some (name, rest)) :
    rest.length < t.length := by
  have le := length_trimStart_le t
  unfold name? at h
  simp only at h
  split at h
  · cases h
  · next ne =>
    cases h
    have split := congrArg List.length
      (List.takeWhile_append_dropWhile (p := Text.isWordChar) (l := t.trimStart))
    have pos : 0 < (t.trimStart.takeWhile Text.isWordChar).length :=
      List.length_pos_iff.2 fun e => ne (by simp [e])
    rw [List.length_append] at split
    omega

/-- One or more names with commas between them, and the text after the last one. -/
def names? (t : Text) : Option (List Text × Text) :=
  match first : name? t with
  | none => none
  | some (name, rest) =>
    match comma : symbol? ',' rest with
    | none => some ([name], rest)
    | some rest' =>
      have : rest'.length < t.length :=
        Nat.lt_trans (length_of_symbol? comma) (length_of_name? first)
      match names? rest' with
      | some (names, rest'') => some (name :: names, rest'')
      | none => none
termination_by t.length

end Tabular.Cursor
