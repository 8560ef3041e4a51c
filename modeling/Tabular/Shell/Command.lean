import Tabular.Shell.Transcript

/-!
# Dot commands

Lines of the interactive shell that are no statements: they ask about the database or end the shell. How
many bytes the tables take up is for the allocator to say; the program itself writes an estimate.
-/

namespace Tabular

/-- The size of a word in bytes. -/
def wordBytes : Nat := 8

/-- The bytes of all members of a list together. -/
def totalBytes {α : Type} (bytes : α → Nat) : List α → Nat
  | [] => 0
  | a :: as => bytes a + totalBytes bytes as

/-- The bytes of a value. -/
def Value.bytes : Value → Nat
  | text t => wordBytes + t.byteSize
  | _ => wordBytes

/-- The bytes of a column. -/
def Column.bytes (c : Column) : Nat := wordBytes + c.name.byteSize + c.declaredType.byteSize

/-- The bytes of a table. -/
def Table.bytes (t : Table) : Nat :=
  wordBytes + t.name.byteSize + totalBytes Column.bytes t.columns +
    totalBytes (totalBytes Value.bytes) t.rows

/-- An estimate of the bytes that all tables take up: their texts in UTF-8, and a word for each table, column
and value. It is nothing exactly where there is no table. -/
def Catalog.bytes (c : Catalog) : Nat := totalBytes (fun e => e.2.bytes) c.entries

namespace Shell

/-- A line that starts with a dot. -/
inductive Command where
  | quit
  | help
  | tables
  | schema (name : Text)
  | memory
  | unknown (line : Text)
deriving DecidableEq

namespace Command

/-- The command that a line gives: its first word, and for a schema also its second. -/
def ofLine (line : Text) : Command :=
  match line.words with
  | word :: args =>
    if word = ".quit".toList ∨ word = ".exit".toList then quit
    else if word = ".help".toList then help
    else if word = ".tables".toList then tables
    else if word = ".memory".toList then memory
    else if word = ".schema".toList then
      match args with
      | name :: _ => schema name
      | [] => unknown line
    else unknown line
  | [] => unknown line

/-- What a command writes, given how many bytes tables take up. -/
def outputs (bytes : Catalog → Nat) (db : Database) : Command → List Output
  | quit => []
  | help => [.outLine ".tables          list tables".toList,
      .outLine ".schema TABLE    show the columns of TABLE".toList,
      .outLine ".memory          bytes held by all tables".toList,
      .outLine ".quit            exit the shell".toList]
  | tables => db.catalog.names.map .outLine
  | schema name =>
    match db.table? name with
    | some t => t.columns.map fun c => .outLine (c.name ++ [' '] ++ c.declaredType)
    | none => [.error ("table ".toList ++ name.quoted ++ " does not exist".toList)]
  | memory => [.outLine (Nat.toDigits 10 (bytes db.catalog) ++ " bytes".toList)]
  | unknown line => [.error ("unknown command ".toList ++ line ++ ", try .help".toList)]

end Command

end Shell

end Tabular
