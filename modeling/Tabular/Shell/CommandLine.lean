import Tabular.Shell.Transcript

/-!
# The command line

What the arguments of the program ask for. They are read from left to right, and the first one that
decides ends the reading.
-/

namespace Tabular.Shell

/-- The version of the program. -/
def version : Text := "minidb v0.1.0".toList

/-- The text of `--help`. -/
def helpText : Text :=
  version ++ " - minimal in-memory SQL engine\n\n".toList ++
  "Usage:\n".toList ++
  "  minidb [--csv] [SCRIPT]\n\n".toList ++
  "Without SCRIPT an interactive shell reads statements from stdin.\n".toList ++
  "Statements end with ';'. Set RUST_LOG (e.g. RUST_LOG=debug) for engine logs.\n\n".toList ++
  "Options:\n".toList ++
  "  --csv        print results as CSV instead of a text table\n".toList ++
  "  -h, --help   show this help\n".toList ++
  "  -v, --version".toList

/-- What the arguments ask for. -/
inductive Invocation where
  /-- Print a line and end. -/
  | print (line : Text)
  /-- Refuse the arguments. -/
  | refuse (message : Text)
  /-- Run the script in a file. -/
  | script (format : Format) (path : Text)
  /-- Read statements from the input. -/
  | interact (format : Format)
deriving DecidableEq

namespace Invocation

/-- The invocation of the arguments that are left, after those read so far. -/
def ofArgsFrom (format : Format) (path : Option Text) : List Text → Invocation
  | [] =>
    match path with
    | some path => script format path
    | none => interact format
  | arg :: args =>
    if arg = "--csv".toList then ofArgsFrom .csv path args
    else if arg = "--help".toList ∨ arg = "-h".toList then print helpText
    else if arg = "--version".toList ∨ arg = "-v".toList then print version
    else if arg.head? = some '-' then refuse ("unknown option ".toList ++ arg)
    else
      match path with
      | none => ofArgsFrom format (some arg) args
      | some _ => refuse ("unexpected argument ".toList ++ arg)

/-- The invocation that a list of arguments means. -/
def ofArgs (args : List Text) : Invocation := ofArgsFrom .grid none args

end Invocation

/-- Why a file or an input line could not be read. -/
inductive ReadFailure where
  | notFound
  | isDirectory
  | notUtf8
  /-- Another failure, in the words of the system. -/
  | system (message : Text)
deriving DecidableEq

/-- The wording of a failure to read. -/
def ReadFailure.message : ReadFailure → Text
  | notFound => "No such file or directory (os error 2)".toList
  | isDirectory => "Is a directory (os error 21)".toList
  | notUtf8 => "stream did not contain valid UTF-8".toList
  | system message => message

/-- The text that bytes encode. -/
def decode (bytes : ByteArray) : Except ReadFailure Text :=
  match String.fromUTF8? bytes with
  | some s => .ok s.toList
  | none => .error .notUtf8

/-- The run of a script on an empty database. It prints only the results that are not empty, and
nothing at all when a statement is refused. A result that cannot be printed cuts it short. -/
def runScript (format : Format) (content : Except ReadFailure Text) : Transcript :=
  match content with
  | .error e => .failed e.message
  | .ok script =>
    match (({} : Database).executeScript script).1 with
    | .error failure => .failed failure.message
    | .ok results => .ofReplies ((results.filter (!·.isEmpty)).map format.print)

end Tabular.Shell
