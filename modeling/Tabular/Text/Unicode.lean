import Tabular.Text.AlphanumericTable
import Tabular.Text.CasingTable
import Tabular.Text.HiddenTable

/-!
# Texts beyond ASCII

What texts of all scripts are asked for by the properties of their characters.

* Names and keywords are made of word characters: letters, numbers and the underscore.
* Full lower-casing of a text is not a map over characters: one capital has two characters as its
  lower-case form, and the Greek sigma has a form of its own at the end of a word.
* A text that came from outside is shown inside a message between double quotes, on one line, with every
  character that has no picture of its own given by number.
-/

namespace Tabular.Text

/-- Letters and numbers of any script. -/
def isAlphanumeric (c : Char) : Bool :=
  if c.toNat < 128 then c.isAlphanum else alphanumericRanges.contains c

/-- The characters that names are made of. -/
def isWordChar (c : Char) : Bool := isAlphanumeric c || c == '_'

/-- The text starts with a word character. -/
def startsWord (t : Text) : Bool := t.head?.any isWordChar

/-- Characters that have case, in either form. -/
def isCased (c : Char) : Bool :=
  if c.toNat < 128 then c.isAlpha else casedRanges.contains c

/-- Characters that do not interrupt a word when its case is looked at. -/
def isCaseIgnorable (c : Char) : Bool := caseIgnorableRanges.contains c

/-- The run maps this code point. -/
def LowerRun.covers (r : LowerRun) (n : Nat) : Bool :=
  r.first ≤ n && n ≤ r.last && (n - r.first) % r.step == 0

/-- The lower-case form of a character taken alone. -/
def lowerChar (c : Char) : Text :=
  if c.toNat < 128 then [c.toLower]
  else if c = 'İ' then ['i', '\u0307']
  else
    match lowerRuns.find? (·.covers c.toNat) with
    | some r => [Char.ofNat (r.image + (c.toNat - r.first))]
    | none => [c]

/-- The first character that is not case-ignorable has case. -/
def meetsCased (t : Text) : Bool := (t.dropWhile isCaseIgnorable).head?.any isCased

/-- A sigma between these texts, the first one read backwards, ends a word. -/
def endsWord (before rest : Text) : Bool := meetsCased before && !meetsCased rest

/-- The lower-case form of what follows `before`, which is read backwards. -/
def lowercaseAfter (before : Text) : Text → Text
  | [] => []
  | c :: rest =>
    (if c = 'Σ' then [if endsWord before rest then 'ς' else 'σ'] else lowerChar c) ++
      lowercaseAfter (c :: before) rest

/-- The text in lower case. -/
def lowercase (t : Text) : Text := lowercaseAfter [] t

/-- Characters shown by number: controls, marks, and what prints as nothing or as space. -/
def isHidden (c : Char) : Bool :=
  if c.toNat < 128 then c.toNat < 32 || c.toNat == 127 else hiddenRanges.contains c

/-- One character inside the quotes. -/
def quotedChar (c : Char) : Text :=
  if c = '"' ∨ c = '\\' then ['\\', c]
  else if c = '\x00' then ['\\', '0']
  else if c = '\t' then ['\\', 't']
  else if c = '\n' then ['\\', 'n']
  else if c = '\r' then ['\\', 'r']
  else if isHidden c then '\\' :: 'u' :: '\x7b' :: Nat.toDigits 16 c.toNat ++ ['\x7d']
  else [c]

/-- The text between double quotes. -/
def quoted (t : Text) : Text := '"' :: t.flatMap quotedChar ++ ['"']

end Tabular.Text
