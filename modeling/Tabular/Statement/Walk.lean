import Tabular.Statement.Reader

/-!
# Reading by position

The reader of statements as a walk: one position moves along a text that stays as it is, and all steps
share it. A keyword is tried by walking over its letters, and the position is put back where it was when
the text has other ones. Nothing here holds the position inside the text or bounds a loop; a walk that
leaves the text or goes on for too long comes to grief.
-/

namespace Tabular

/-- What stops a walk. -/
inductive Walk.Fault where
  /-- The position is behind the end of the text. -/
  | outside (position : Nat)
  /-- There is no character to read at the position. -/
  | unread (position : Nat)
  /-- A loop goes on after as many rounds as it was given. -/
  | endless
deriving DecidableEq

/-- A walk along a text: from a position to what was found and the position where the walk ended. -/
def Walk (α : Type) : Type := Text → Nat → Except Walk.Fault (α × Nat)

namespace Walk
open Statement (declared inserted unrouted)

instance : Monad Walk where
  pure a := fun _ p => .ok (a, p)
  bind w f := fun input p =>
    match w input p with
    | .ok (a, q) => f a input q
    | .error fault => .error fault

/-- The walk that comes to grief. -/
def fail {α : Type} (fault : Fault) : Walk α := fun _ _ => .error fault

/-- The whole text. -/
def whole : Walk Text := fun input p => .ok (input, p)

/-- Where the walk is. -/
def position : Walk Nat := fun _ p => .ok (p, p)

/-- Goes on from another position, which may be at most behind the last character. -/
def moveTo (target : Nat) : Walk Unit := fun input _ =>
  if target ≤ input.length then .ok ((), target) else .error (.outside target)

/-- Goes on to the next character. -/
def advance : Walk Unit := do moveTo ((← position) + 1)

/-- No character is left. -/
def atEnd : Walk Bool := fun input p => .ok (decide (input.length ≤ p), p)

/-- The character at the position. -/
def current : Walk Char := fun input p =>
  match input[p]? with
  | some c => .ok (c, p)
  | none => .error (.unread p)

/-- The text from the position on. -/
def remaining : Walk Text := fun input p =>
  if p ≤ input.length then .ok (input.drop p, p) else .error (.outside p)

/-- There is a character at the position, and it passes the test. -/
def meets (test : Char → Bool) : Walk Bool := do
  if ← atEnd then return false
  return test (← current)

/-- Passes over characters as long as they pass the test, one in a round. -/
def passWhile (test : Char → Bool) : (rounds : Nat) → Walk Text
  | 0 => do if ← meets test then fail .endless else return []
  | rounds + 1 => do
    if ← meets test then
      let c ← current
      advance
      return c :: (← passWhile test rounds)
    else return []

/-- Passes over a run of characters, in at most as many rounds as the text has characters. -/
def run (test : Char → Bool) : Walk Text := do passWhile test (← whole).length

/-- Passes over blanks. -/
def skipBlanks : Walk Unit := do
  let _ ← run Text.isBlank

/-- Passes over one given character, if it is the next one. -/
def symbol (d : Char) : Walk Bool := do
  if ← meets (· == d) then
    advance
    return true
  else return false

/-- Passes over the letters of a word, in any case, up to the first one that differs. -/
def letters : Text → Walk Bool
  | [] => return true
  | w :: word => do
    if ← meets (·.toLower == w.toLower) then
      advance
      letters word
    else return false

/-- Passes over a keyword behind blanks, which must not run on into further word characters. Where there is
none, the walk is back where it was. -/
def keyword (word : Text) : Walk Bool := do
  let start ← position
  skipBlanks
  if ← letters word then
    if ← meets Text.isWordChar then
      moveTo start
      return false
    else return true
  else
    moveTo start
    return false

/-- Passes over keywords in a row, up to the first one that is missing. -/
def keywords : List Text → Walk Bool
  | [] => return true
  | word :: words => do if ← keyword word then keywords words else return false

/-- Looks for keywords in a row, and goes back. -/
def peek (words : List Text) : Walk Bool := do
  let start ← position
  let found ← keywords words
  moveTo start
  return found

/-- Passes over keywords that are known to be there. -/
def pass : List Text → Walk Unit
  | [] => return ()
  | word :: words => do
    let _ ← keyword word
    pass words

/-- Passes over a name behind blanks, if there is one. -/
def name? : Walk (Option Text) := do
  skipBlanks
  let name ← run Text.isWordChar
  return if name.isEmpty then none else some name

/-- Passes over more names, each behind a comma, one in a round. -/
def moreNames (names : List Text) : (rounds : Nat) → Walk (Option (List Text))
  | 0 => do
    skipBlanks
    if ← symbol ',' then fail .endless else return some names
  | rounds + 1 => do
    skipBlanks
    if ← symbol ',' then
      match ← name? with
      | some name => moreNames (names ++ [name]) rounds
      | none => return none
    else return some names

/-- What follows `create table`. -/
def createTable : Walk (Except Defect Statement) := do
  match ← name? with
  | none => return .error .noTableName
  | some name =>
    skipBlanks
    if ← symbol '(' then return declared name (← remaining)
    else return .error .noColumnList

/-- What follows `insert into`. -/
def insertInto : Walk (Except Defect Statement) := do
  match ← name? with
  | none => return .error .noTableName
  | some table =>
    if ← keyword "values".toList then return inserted table (← remaining)
    else return .error .noValuesKeyword

/-- What follows `drop table`. -/
def dropTable : Walk (Except Defect Statement) := do
  match ← name? with
  | none => return .error .noTableName
  | some name =>
    skipBlanks
    return if ← atEnd then .ok (.dropTable name) else .error .textAfterName

/-- The columns of a query; there are at most as many as the text has characters. -/
def selection? : Walk (Option Selection) := do
  skipBlanks
  if ← symbol '*' then return some .all
  else
    match ← name? with
    | none => return none
    | some name => return (← moreNames [name] (← whole).length).map .named

/-- The clause of a query, if it has one. -/
def clause? : Walk (Option (Option Clause)) := do
  skipBlanks
  if ← atEnd then return some none
  else if ← keyword "where".toList then
    let condition ← remaining
    return if condition.allBlank then none else some (some (.ofText condition))
  else return none

/-- What follows `select`. -/
def query? : Walk (Option Query) := do
  match ← selection? with
  | none => return none
  | some selection =>
    if ← keyword "from".toList then
      match ← name? with
      | none => return none
      | some table => return (← clause?).map fun clause => { selection, table, clause }
    else return none

/-- The first of the kinds whose keywords the text has at the position. -/
def route? : List StatementKind → Walk (Option StatementKind)
  | [] => return none
  | kind :: kinds => do if ← peek kind.keywords then return some kind else route? kinds

/-- The statement of a kind whose keywords have been found. -/
def ofKind (settings : Settings) (kind : StatementKind) : Walk (Except Error Statement) := do
  pass kind.keywords
  match kind with
  | .createTable => return (← createTable).mapError (.malformed .createTable)
  | .insertInto => return (← insertInto).mapError (.malformed .insertInto)
  | .dropTable => return (← dropTable).mapError (.malformed .dropTable)
  | .select =>
    match ← query? with
    | some query => return .ok (.select query)
    | none => return .error (.unsupported .wideSelect settings.guidance)

/-- The statement that a text spells, of which the blanks and semicolons around it are off. -/
def read (settings : Settings) : Walk (Except Error Statement) := do
  match ← route? StatementKind.all with
  | some kind => ofKind settings kind
  | none => return .error (unrouted settings (← whole))

end Walk

end Tabular
