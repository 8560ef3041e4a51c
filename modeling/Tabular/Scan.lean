import Tabular.Text.Basic
import Tabular.Value

/-!
# Scanning

Cutting a text at a delimiter that quoting protects. An apostrophe opens or closes a quoted part
unless the character right before it is a backslash. Parentheses are counted outside quotes, where
the scan asks for it, and then protect a delimiter too. So a list of parenthesized tuples such as
`(1, 'a'), (2, 'b')` is cut into tuples, a tuple into literals, and the literals are read as values.
-/

namespace Tabular

/-- What decides the role of the next character. -/
structure Scan where
  /-- An apostrophe is open. -/
  quoted : Bool := false
  /-- The character before was a backslash. -/
  escaped : Bool := false
  /-- Opening less closing parentheses so far. It is counted exactly; for a text with fewer than `2 ^ 31`
  parentheses a signed counter of 32 bits would do. -/
  depth : Int := 0
  /-- Some parenthesis closed more than were open. -/
  underflow : Bool := false
deriving DecidableEq

namespace Scan

/-- The scan before the first character. -/
def start : Scan := {}

/-- The character opens or closes a quoted part here. -/
def toggles (s : Scan) (c : Char) : Bool := c == '\'' && !s.escaped

/-- The scan after one more character. -/
def next (nesting : Bool) (s : Scan) (c : Char) : Scan :=
  let s' := { s with escaped := c == '\\' }
  if s.toggles c then { s' with quoted := !s.quoted }
  else if s.quoted || !nesting then s'
  else if c = '(' then { s' with depth := s.depth + 1 }
  else if c = ')' then
    { s' with depth := s.depth - 1, underflow := s.underflow || s.depth - 1 < 0 }
  else s'

/-- The character is a delimiter that nothing protects. -/
def cuts (delimiter : Char) (nesting : Bool) (s : Scan) (c : Char) : Bool :=
  c == delimiter && !s.toggles c && !s.quoted &&
    (!nesting || (c != '(' && c != ')' && s.depth == 0))

/-- The scan after a whole text. -/
def after (nesting : Bool) (s : Scan) (t : Text) : Scan := t.foldl (next nesting) s

/-- The parts of a text between the cuts, unchanged and in order. -/
def pieces (delimiter : Char) (nesting : Bool) : Scan → Text → List Text
  | _, [] => [[]]
  | s, c :: t =>
    let rest := pieces delimiter nesting (s.next nesting c) t
    if s.cuts delimiter nesting c then [] :: rest else rest.modifyHead (c :: ·)

/-- Every parenthesis that opened is closed, and none closed before it opened. -/
def isBalanced (s : Scan) : Bool := s.depth == 0 && !s.underflow

/-- A scan goes on over a second text where it stood after the first. -/
theorem after_append (nesting : Bool) (s : Scan) (t u : Text) :
    s.after nesting (t ++ u) = (s.after nesting t).after nesting u :=
  List.foldl_append

/-- Only the delimiter cuts. -/
theorem eq_of_cuts {d c : Char} {nesting : Bool} {s : Scan} (h : s.cuts d nesting c) : c = d := by
  simp only [cuts, Bool.and_eq_true, beq_iff_eq] at h
  exact h.1.1.1

/-- There is at least one piece, also of the empty text. -/
theorem pieces_ne_nil (d : Char) (nesting : Bool) (s : Scan) (t : Text) :
    pieces d nesting s t ≠ [] := by
  induction t generalizing s with
  | nil => simp [pieces]
  | cons c t ih =>
    unfold pieces
    simp only
    split
    · simp
    · simpa using ih (s.next nesting c)

/-- Cutting loses nothing but the delimiters. -/
theorem intercalate_pieces (d : Char) (nesting : Bool) (s : Scan) (t : Text) :
    [d].intercalate (pieces d nesting s t) = t := by
  induction t generalizing s with
  | nil => rfl
  | cons c t ih =>
    have ih := ih (s.next nesting c)
    have ne := pieces_ne_nil d nesting (s.next nesting c) t
    unfold pieces
    simp only
    split
    · next h =>
      rw [List.intercalate_cons_of_ne_nil ne, ih, eq_of_cuts h]
      rfl
    · obtain ⟨p, ps, e⟩ := List.exists_cons_of_ne_nil ne
      rw [e] at ih ⊢
      cases ps with
      | nil => simpa using ih
      | cons q ps => simpa using ih

end Scan

/-- A text under scan, and how far the scan has come. -/
structure Scanner where
  state : Scan := {}
  rest : Text

namespace Scanner

/-- A scanner at the start of a text. -/
def ofText (t : Text) : Scanner := { rest := t }

/-- The pieces of the text that is left, with the scanner at its end. -/
def split (sc : Scanner) (delimiter : Char) (nesting : Bool) : List Text × Scanner :=
  (sc.state.pieces delimiter nesting sc.rest, ⟨sc.state.after nesting sc.rest, []⟩)

end Scanner

namespace Tuples

/-- What is wrong with a list of tuples. -/
inductive Fault where
  | openQuote
  | unbalanced
  /-- A piece between two commas is not one parenthesized tuple. -/
  | notATuple (piece : Text)
deriving DecidableEq

/-- The wording of a fault. -/
def Fault.message : Fault → Text
  | openQuote => "unterminated quoted literal".toList
  | unbalanced => "unbalanced parentheses in the value list".toList
  | notATuple piece => "expected a parenthesized tuple, found `".toList ++ piece ++ "`".toList

/-- The scan of a whole text, with parentheses counted. -/
def nested (t : Text) : Scan := Scan.start.after true t

/-- The text closes every quote and parenthesis that it opens. -/
def isClosed (t : Text) : Bool := !(nested t).quoted && (nested t).isBalanced

/-- The inside of a text in parentheses, when the last character closes the first one and none
before it does. -/
def inside? (piece : Text) : Option Text :=
  match piece.trim with
  | '(' :: t =>
    if t.getLast? = some ')' && isClosed t.dropLast then some t.dropLast else none
  | _ => none

/-- The inside of one tuple between two commas. -/
def tuple (piece : Text) : Except Fault Text :=
  match inside? piece with
  | some inner => .ok inner
  | none => .error (.notATuple piece.trim)

/-- The insides of all tuples of a list; a blank list has none. -/
def split (list : Text) : Except Fault (List Text) :=
  if list.allBlank then .ok []
  else if (nested list).quoted then .error .openQuote
  else if !(nested list).isBalanced then .error .unbalanced
  else (Scan.start.pieces ',' true list).mapM tuple

/-- The literals of a tuple, trimmed and still quoted; a blank tuple has none. Only quotes protect a
comma here. -/
def literals (tuple : Text) : List Text :=
  if tuple.allBlank then [] else (Scan.start.pieces ',' false tuple).map Text.trim

/-- The values of a tuple. -/
def row (tuple : Text) : Row := (literals tuple).map Value.ofLiteral

/-- The rows of a list of tuples. -/
def rows (list : Text) : Except Fault (List Row) := (split list).map (·.map row)

end Tuples

end Tabular
