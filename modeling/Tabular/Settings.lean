import Tabular.Text.Unicode

/-!
# Settings

What is said about statements that only a fuller engine could run: the engine to turn to, and the
functions that read files, by which such statements are known.
-/

namespace Tabular

/-- The settings of a database. They never influence what is stored. -/
structure Settings where
  /-- The engine recommended for statements that are not supported. -/
  fallbackEngine : Text := "DuckDB".toList
  /-- Functions that read files, in order of configuration. -/
  fileFunctions : List Text :=
    ["read_csv".toList, "read_csv_auto".toList, "read_parquet".toList, "read_json".toList,
      "read_json_auto".toList]

namespace Settings

/-- The settings with another engine to recommend. -/
def withFallbackEngine (name : Text) (s : Settings) : Settings := { s with fallbackEngine := name }

/-- The settings with one more function that reads files. -/
def withFileFunction (name : Text) (s : Settings) : Settings :=
  { s with fileFunctions := s.fileFunctions ++ [name] }

/-- The lower-case text starts with the function's name as a whole word. -/
def leads (lowered function : Text) : Bool :=
  match Text.after? function.lowercase lowered with
  | some rest => !rest.startsWord
  | none => false

/-- The longest of the names in bytes, the last one on a tie. -/
def longest? (names : List Text) : Option Text :=
  names.foldl (fun best name =>
    match best with
    | some b => if b.byteSize ≤ name.byteSize then some name else some b
    | none => some name) none

/-- The function for reading files that a statement starts with, as it is configured. -/
def fileFunction? (s : Settings) (statement : Text) : Option Text :=
  longest? (s.fileFunctions.filter (leads statement.trimStart.lowercase))

/-- The advice for statements that are not supported. -/
def guidance (s : Settings) : Text :=
  "This lightweight engine only runs CREATE TABLE, INSERT INTO ... VALUES, ".toList ++
  "SELECT <columns> FROM <table> [WHERE <column> <op> <value>] and DROP TABLE.\n".toList ++
  "Switch to the ".toList ++ s.fallbackEngine ++
  " engine for file reads and advanced queries, for example:\n".toList ++
  "  SELECT * FROM ".toList ++ s.fileFunctions.headD "read_csv".toList ++
  "('data.csv');\n".toList ++
  "  SELECT category, count(*) FROM sales GROUP BY category ORDER BY 2 DESC;".toList

end Settings

end Tabular
