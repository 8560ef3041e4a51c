import Tabular.Shell.Command
import Tabular.Shell.CommandLine

/-!
# Interactive sessions

A session reads lines. Lines are collected until one ends with a semicolon; what was collected then
runs as a script. A line that starts with a dot is a command when nothing is collected.
-/

namespace Tabular.Shell

/-- The database, and the lines collected since the last script. -/
structure Session where
  db : Database := {}
  pending : Text := []

namespace Session

/-- The lines at the start of a session. -/
def greeting : Text := version ++ "\nType '.help' for help, '.quit' to exit\n\n".toList

/-- What is written before a line is read. -/
def prompt (s : Session) : Text := (if s.pending.isEmpty then "minidb> " else "   ...> ").toList

/-- What a line of input asks for. -/
inductive Action where
  | command (c : Command)
  /-- Go on as before. -/
  | skip
  /-- Collect more lines. -/
  | collect (pending : Text)
  /-- Run what was collected. -/
  | submit (script : Text)
deriving DecidableEq

/-- What a line asks for, given the lines collected before it. -/
def action (s : Session) (line : Text) : Action :=
  let input := line.trim
  if input.head? = some '.' && s.pending.isEmpty then .command (.ofLine input)
  else if input.isEmpty then .skip
  else
    let pending := s.pending ++ input ++ ['\n']
    if input.getLast? = some ';' then .submit pending else .collect pending

/-- The reply to a result: the result in print, or a word where it is empty. -/
def reply (format : Format) (r : ResultSet) : Option Output :=
  if r.isEmpty then some (.outLine "OK".toList) else format.print r

/-- What a script that has run writes: a reply to each result. -/
def report (format : Format) : Except Script.Failure (List ResultSet) → Transcript
  | .ok results => .ofReplies (results.map (reply format))
  | .error failure => ⟨[.error failure.message], 0⟩

/-- What becomes of a session. -/
inductive Next where
  | goOn (s : Session)
  /-- The program has ended with an exit code. -/
  | ended (code : Nat)

/-- What a line writes, and what becomes of the session. -/
def feed (console : Console) (s : Session) (line : Text) : List Output × Next :=
  match s.action line with
  | .command .quit => ([], .ended 0)
  | .command c => (c.outputs console.bytes s.db, .goOn s)
  | .skip => ([], .goOn s)
  | .collect pending => ([], .goOn { s with pending })
  | .submit script =>
    let (result, db) := s.db.executeScript script
    let t := report console.format result
    (t.outputs, if t.code = 0 then .goOn { db } else .ended t.code)

/-- The transcript of a session from here on. It ends with its input, at a line that cannot be read or that
asks for it, or at a result that cannot be printed. -/
def run (console : Console) (s : Session) : List (Except ReadFailure Text) → Transcript
  | [] => ⟨[.out s.prompt], 0⟩
  | .error e :: _ => ⟨[.out s.prompt, .error e.message], 1⟩
  | .ok line :: lines =>
    match s.feed console line with
    | (outputs, .ended code) => ⟨.out s.prompt :: outputs, code⟩
    | (outputs, .goOn s') =>
      let rest := s'.run console lines
      ⟨.out s.prompt :: outputs ++ rest.outputs, rest.code⟩

end Session

/-- The lines of an input, each without the line feed that ends it. -/
def inputLines (bytes : List UInt8) : List (List UInt8) :=
  let lines := bytes.splitOn 10
  if lines.getLast? = some [] then lines.dropLast else lines

/-- The transcript of a whole session on the bytes of its input. -/
def Console.interact (console : Console) (input : List UInt8) : Transcript :=
  let lines := (inputLines input).map fun line => decode line.toByteArray
  let rest := ({} : Session).run console lines
  ⟨.out Session.greeting :: rest.outputs, rest.code⟩

/-- The console of the program, which does not ask the allocator but estimates. -/
def Format.console (format : Format) : Console := ⟨format, Catalog.bytes⟩

/-- The transcript of a whole session of the program on the bytes of its input. -/
def interact (format : Format) (input : List UInt8) : Transcript := format.console.interact input

end Tabular.Shell
