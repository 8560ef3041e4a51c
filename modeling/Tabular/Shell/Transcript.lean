import Tabular.Database
import Tabular.ResultSet

/-!
# Transcripts

What a run of the program writes to its two streams, and the code that it ends with. All decisions
of the program are functions to transcripts. A text grid with a column that is too wide cannot be printed:
it ends the program on the spot, with what was written before it.
-/

namespace Tabular.Shell

/-- A piece of text for one of the two streams. -/
inductive Output where
  | out (t : Text)
  | err (t : Text)
deriving DecidableEq

namespace Output

/-- A line for the output stream. -/
def outLine (t : Text) : Output := out (t ++ ['\n'])

/-- A line for the error stream that reports an error. -/
def error (message : Text) : Output := err ("Error: ".toList ++ message ++ ['\n'])

end Output

/-- What was written, in order, and the exit code. -/
structure Transcript where
  outputs : List Output
  code : Nat := 0
deriving DecidableEq

namespace Transcript

/-- All that went to the output stream. -/
def out (t : Transcript) : Text := t.outputs.flatMap fun
  | .out s => s
  | .err _ => []

/-- All that went to the error stream. -/
def err (t : Transcript) : Text := t.outputs.flatMap fun
  | .out _ => []
  | .err s => s

/-- The transcript of a run that ends with an error. -/
def failed (message : Text) : Transcript := ⟨[.error message], 1⟩

/-- The exit code of a run that was cut short because something could not be printed. -/
def cutShort : Nat := 101

/-- The transcript of replies in order, up to the first one that cannot be printed. -/
def ofReplies : List (Option Output) → Transcript
  | [] => ⟨[], 0⟩
  | some output :: replies =>
    let rest := ofReplies replies
    ⟨output :: rest.outputs, rest.code⟩
  | none :: _ => ⟨[], cutShort⟩

end Transcript

/-- How result sets are printed. -/
inductive Format where
  | grid
  | csv
deriving DecidableEq

/-- A result set in print, if it can be printed. -/
def Format.print : Format → ResultSet → Option Output
  | grid, r => r.toGrid?.map .outLine
  | csv, r => some (.out r.toCsv)

/-- What the program writes for and with: the form of result sets, and the number of bytes that the tables
of a catalog take up, which the allocator of the system knows. -/
structure Console where
  format : Format
  bytes : Catalog → Nat

end Tabular.Shell
