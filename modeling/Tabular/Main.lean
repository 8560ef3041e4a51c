import Tabular.Shell.Session

/-!
# The program

Files and streams around the pure shell: arguments select what to do, lines are read one by one, and
what the shell decides to write is written.
-/

open Tabular Tabular.Shell

/-- Writes a piece of text to its stream. -/
def Tabular.Shell.Output.write : Output → IO Unit
  | .out t => do (← IO.getStdout).putStr (String.ofList t)
  | .err t => do (← IO.getStderr).putStr (String.ofList t)

/-- Writes all that a transcript holds. -/
def Tabular.Shell.Transcript.write (t : Transcript) : IO UInt32 := do
  t.outputs.forM Output.write
  return UInt32.ofNat t.code

/-- The failure behind an error of the system. -/
def Tabular.Shell.ReadFailure.ofSystem : IO.Error → ReadFailure
  | .noFileOrDirectory .. => .notFound
  | .inappropriateType .. => .isDirectory
  | e => .system (toString e).toList

/-- The text of a file. -/
def readText (path : Text) : IO (Except ReadFailure Text) := do
  try
    return decode (← IO.FS.readBinFile (String.ofList path))
  catch e =>
    return .error (.ofSystem e)

/-- The bytes up to the next line feed, with it; none at the end of the input. -/
partial def readLine (input : IO.FS.Stream) (line : ByteArray) : IO ByteArray := do
  let byte ← input.read 1
  if byte.isEmpty then return line
  let line := line ++ byte
  if byte.data == #[10] then return line else readLine input line

/-- Feeds lines to a session until the input or the session ends. -/
partial def converse (console : Console) (s : Session) : IO UInt32 := do
  Output.write (.out s.prompt)
  (← IO.getStdout).flush
  let line ← readLine (← IO.getStdin) .empty
  if line.isEmpty then return 0
  match decode line with
  | .error e => (Transcript.failed e.message).write
  | .ok text =>
    let (outputs, next) := s.feed console text
    outputs.forM Output.write
    match next with
    | .goOn s' => converse console s'
    | .ended code => return UInt32.ofNat code

/-- Runs the program. -/
def main (args : List String) : IO UInt32 := do
  match Invocation.ofArgs (args.map String.toList) with
  | .print line => (⟨[.outLine line], 0⟩ : Transcript).write
  | .refuse message => (Transcript.failed message).write
  | .script format path => (runScript format (← readText path)).write
  | .interact format =>
    Output.write (.out Session.greeting)
    converse format.console {}
