import Tabular.Scan
import Tabular.Text.Unicode

/-!
# Errors

Why a statement is refused. An error says what happened in terms of the statement and the tables;
its wording is one function of it.
-/

namespace Tabular

/-- The kinds of statement. -/
inductive StatementKind where
  | createTable
  | insertInto
  | select
  | dropTable
deriving DecidableEq

/-- The name of a kind of statement, as messages give it. -/
def StatementKind.title : StatementKind → Text
  | createTable => "CREATE TABLE".toList
  | insertInto => "INSERT INTO".toList
  | select => "SELECT".toList
  | dropTable => "DROP TABLE".toList

/-- What is wrong with a statement of a known kind. -/
inductive Defect where
  | noTableName
  | noColumnList
  | openColumnList
  | textAfterColumns
  | noColumns
  | blankColumn
  | noValuesKeyword
  | noTuples
  | tuples (fault : Tuples.Fault)
  | textAfterName
  | notReadOnly
deriving DecidableEq

/-- The wording of a defect. -/
def Defect.message : Defect → Text
  | noTableName => "expected a table name".toList
  | noColumnList => "expected '(' after the table name".toList
  | openColumnList => "expected ')' after the column list".toList
  | textAfterColumns => "unexpected text after the column list".toList
  | noColumns => "a table needs at least one column".toList
  | blankColumn => "empty column definition".toList
  | noValuesKeyword => "expected VALUES after the table name".toList
  | noTuples => "expected at least one tuple after VALUES".toList
  | tuples fault => fault.message
  | textAfterName => "unexpected text after the table name".toList
  | notReadOnly => "only SELECT statements can run as a read-only query".toList

/-- What a fuller engine would have to provide. -/
inductive Feature where
  /-- The statement starts with a function that reads files. -/
  | fileFunction (name : Text)
  /-- The statement selects in a way that is not supported. -/
  | wideSelect
deriving DecidableEq

/-- The wording of a feature. -/
def Feature.message : Feature → Text
  | fileFunction name => "file-reading function ".toList ++ name ++ "()".toList
  | wideSelect => "SELECT beyond `SELECT <columns> FROM <table> [WHERE <condition>]`".toList

/-- Why a statement is refused. -/
inductive Error where
  | malformed (kind : StatementKind) (defect : Defect)
  | unrecognized (text : Text)
  | unknownTable (table : Text)
  | columnCount (table : Text) (expected actual : Nat)
  | unknownColumn (table column : Text)
  | unsupported (feature : Feature) (guidance : Text)
deriving DecidableEq

/-- The coarse classes of errors that callers branch on. -/
inductive ErrorClass where
  | malformed
  | unknownTable
  | columnCount
  | unknownColumn
  | unsupported
deriving DecidableEq

namespace Error

/-- The class of an error. A statement of no known kind counts as malformed. -/
def errorClass : Error → ErrorClass
  | malformed .. | unrecognized _ => .malformed
  | unknownTable _ => .unknownTable
  | columnCount .. => .columnCount
  | unknownColumn .. => .unknownColumn
  | unsupported .. => .unsupported

/-- A fuller engine might run the statement. -/
def isUnsupported (e : Error) : Bool := e.errorClass == .unsupported

/-- The wording of an error. -/
def message : Error → Text
  | malformed kind defect =>
    "Syntax error in ".toList ++ kind.title ++ " statement: ".toList ++ defect.message
  | unrecognized text => "Unrecognized statement: ".toList ++ text.quoted
  | unknownTable table => "Table ".toList ++ table.quoted ++ " does not exist".toList
  | columnCount table expected actual =>
    "Column count mismatch for table ".toList ++ table.quoted ++ ": expected ".toList ++
      Nat.toDigits 10 expected ++ " values, found ".toList ++ Nat.toDigits 10 actual
  | unknownColumn table column =>
    "Column ".toList ++ column.quoted ++ " does not exist in table ".toList ++ table.quoted
  | unsupported feature guidance =>
    "Unsupported feature: ".toList ++ feature.message ++ ['\n'] ++ guidance

end Error

end Tabular
