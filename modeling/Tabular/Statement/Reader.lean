import Tabular.Error
import Tabular.Query
import Tabular.Settings
import Tabular.Statement.Cursor

/-!
# Reading statements

The statements that a database runs, and how they are read. The leading keywords of a text decide its
kind; each kind then has one shape. There is no grammar beyond these four shapes.
-/

namespace Tabular

/-- A statement, as it was read. -/
inductive Statement where
  | createTable (name : Text) (columns : List Column)
  | insertInto (table : Text) (rows : List Row)
  | select (query : Query)
  | dropTable (name : Text)
deriving DecidableEq

/-- The kind of a statement. -/
def Statement.kind : Statement → StatementKind
  | createTable .. => .createTable
  | insertInto .. => .insertInto
  | select _ => .select
  | dropTable _ => .dropTable

namespace StatementKind

/-- All kinds, in the order in which their keywords are tried. -/
def all : List StatementKind := [createTable, insertInto, select, dropTable]

/-- The keywords that a statement of the kind starts with. -/
def keywords : StatementKind → List Text
  | createTable => ["create".toList, "table".toList]
  | insertInto => ["insert".toList, "into".toList]
  | select => ["select".toList]
  | dropTable => ["drop".toList, "table".toList]

/-- The kind whose keywords a text starts with, and the text after them. -/
def leading? (t : Text) : Option (StatementKind × Text) :=
  all.findSome? fun kind => (Cursor.keywords? kind.keywords t).map (kind, ·)

end StatementKind

namespace Statement

/-- The text of a statement without blanks around it and without the semicolons that end it. -/
def strip (sql : Text) : Text := (sql.trim.dropEndWhile (· == ';')).trimEnd

/-- The table that a column list declares; the list goes on to the last parenthesis. -/
def declared (name list : Text) : Except Defect Statement :=
  match list.cutLast? ')' with
  | none => .error .openColumnList
  | some (body, after) =>
    if !after.allBlank then .error .textAfterColumns
    else if body.allBlank then .error .noColumns
    else
      match (Column.declarations body).mapM Column.ofText? with
      | some columns => .ok (.createTable name columns)
      | none => .error .blankColumn

/-- The rows that a list of tuples inserts. -/
def inserted (table list : Text) : Except Defect Statement :=
  if list.allBlank then .error .noTuples
  else
    match Tuples.rows list with
    | .ok rows => .ok (.insertInto table rows)
    | .error fault => .error (.tuples fault)

/-- What is wrong with a text that starts with the keywords of no kind. -/
def unrouted (settings : Settings) (text : Text) : Error :=
  match settings.fileFunction? text with
  | some function => .unsupported (.fileFunction function) settings.guidance
  | none => .unrecognized text

/-- What follows `create table`: a name and a column list. -/
def readCreateTable (t : Text) : Except Defect Statement :=
  match Cursor.name? t with
  | none => .error .noTableName
  | some (name, rest) =>
    match Cursor.symbol? '(' rest with
    | none => .error .noColumnList
    | some list => declared name list

/-- What follows `insert into`: a name, a keyword and a list of tuples. -/
def readInsertInto (t : Text) : Except Defect Statement :=
  match Cursor.name? t with
  | none => .error .noTableName
  | some (table, rest) =>
    match Cursor.keyword? "values".toList rest with
    | none => .error .noValuesKeyword
    | some list => inserted table list

/-- What `drop table` is followed by: a name and nothing else. -/
def readDropTable (t : Text) : Except Defect Statement :=
  match Cursor.name? t with
  | none => .error .noTableName
  | some (name, rest) => if rest.allBlank then .ok (.dropTable name) else .error .textAfterName

/-- The columns of a query, and the text after them. -/
def readSelection? (t : Text) : Option (Selection × Text) :=
  match Cursor.symbol? '*' t with
  | some rest => some (.all, rest)
  | none => (Cursor.names? t).map fun (names, rest) => (.named names, rest)

/-- The clause of a query, if it has one; the clause takes all the text that is left. -/
def readClause? (t : Text) : Option (Option Clause) :=
  if t.allBlank then some none
  else
    match Cursor.keyword? "where".toList t with
    | some rest => if rest.allBlank then none else some (some (.ofText rest))
    | none => none

/-- What follows `select`: columns, a table and an optional clause. -/
def readQuery? (t : Text) : Option Query := do
  let (selection, rest) ← readSelection? t
  let rest ← Cursor.keyword? "from".toList rest
  let (table, rest) ← Cursor.name? rest
  let clause ← readClause? rest
  return { selection, table, clause }

/-- The statement that a text spells. A query of another shape may still be one that a fuller engine
could run, so it is not called malformed. -/
def read (settings : Settings) (sql : Text) : Except Error Statement :=
  let text := strip sql
  match StatementKind.leading? text with
  | some (.createTable, rest) => (readCreateTable rest).mapError (.malformed .createTable)
  | some (.insertInto, rest) => (readInsertInto rest).mapError (.malformed .insertInto)
  | some (.dropTable, rest) => (readDropTable rest).mapError (.malformed .dropTable)
  | some (.select, rest) =>
    match readQuery? rest with
    | some query => .ok (.select query)
    | none => .error (.unsupported .wideSelect settings.guidance)
  | none => .error (unrouted settings text)

end Statement

end Tabular
