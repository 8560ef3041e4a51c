import Tabular.Query
import Tabular.Statement.Reader
import Tabular.Store.Catalog

/-!
# Databases

A database runs one statement after another. Each run gives an answer and the database after it. A
statement that is refused leaves the database as it was, except that inserting keeps the rows before
the first one that does not fit.

A script is a text of statements with semicolons between them. Its statements run in order, each on
the database that the ones before it left, up to the first that is refused.
-/

namespace Tabular

/-- The stored tables and the settings. -/
structure Database where
  catalog : Catalog := {}
  settings : Settings := {}

namespace Database

/-- A database without tables. -/
def withSettings (settings : Settings) : Database := { settings }

/-- The table found under a name. -/
def table? (db : Database) (name : Text) : Option Table := db.catalog.find? name

/-- Stores a table without rows, in place of one with the same name. -/
def createTable (db : Database) (name : Text) (columns : List Column) :
    Except Error ResultSet × Database :=
  (.ok .empty, { db with catalog := db.catalog.put { name, columns } })

/-- Inserts rows in order into a table, up to the first that does not fit. -/
def insertInto (db : Database) (table : Text) (rows : List Row) :
    Except Error ResultSet × Database :=
  match db.catalog.table table with
  | .error e => (.error e, db)
  | .ok t =>
    let (t', failure) := t.insertRows rows
    (match failure with
      | some e => .error e
      | none => .ok .empty, { db with catalog := db.catalog.put t' })

/-- The answer to a query. -/
def select (db : Database) (q : Query) : Except Error ResultSet :=
  match db.catalog.table q.table with
  | .error e => .error e
  | .ok t => q.answer t

/-- Removes a table and its rows. -/
def dropTable (db : Database) (name : Text) : Except Error ResultSet × Database :=
  match db.catalog.table name with
  | .error e => (.error e, db)
  | .ok _ => (.ok .empty, { db with catalog := db.catalog.erase name })

/-- Runs a statement that was read. -/
def run (db : Database) : Statement → Except Error ResultSet × Database
  | .createTable name columns => db.createTable name columns
  | .insertInto table rows => db.insertInto table rows
  | .select q => (db.select q, db)
  | .dropTable name => db.dropTable name

/-- Reads and runs a statement. -/
def execute (db : Database) (sql : Text) : Except Error ResultSet × Database :=
  match Statement.read db.settings sql with
  | .error e => (.error e, db)
  | .ok statement => db.run statement

/-- Reads and answers a query; no other statement is accepted. -/
def query (db : Database) (sql : Text) : Except Error ResultSet :=
  match Statement.read db.settings sql with
  | .error e => .error e
  | .ok (.select q) => db.select q
  | .ok statement => .error (.malformed statement.kind .notReadOnly)

end Database

namespace Script

/-- The statements of a script, trimmed, without the blank ones. A quoted semicolon separates
nothing. -/
def statements (script : Text) : List Text :=
  ((Scan.start.pieces ';' false script).map Text.trim).filter (!·.isEmpty)

/-- The failure that stopped a script. -/
structure Failure where
  /-- How many statements ran before it. -/
  index : Nat
  statement : Text
  cause : Error
deriving DecidableEq

/-- The wording of a failure, which counts statements from one. -/
def Failure.message (f : Failure) : Text :=
  "statement ".toList ++ Nat.toDigits 10 (f.index + 1) ++ " failed: ".toList ++ f.cause.message

end Script

namespace Database

/-- Runs statements in order, the first of which has the given place in its script. -/
def executeFrom (db : Database) (index : Nat) :
    List Text → Except Script.Failure (List ResultSet) × Database
  | [] => (.ok [], db)
  | statement :: statements =>
    match db.execute statement with
    | (.error cause, db') => (.error { index, statement, cause }, db')
    | (.ok result, db') =>
      match db'.executeFrom (index + 1) statements with
      | (.error failure, db'') => (.error failure, db'')
      | (.ok results, db'') => (.ok (result :: results), db'')

/-- Runs a script. -/
def executeScript (db : Database) (script : Text) :
    Except Script.Failure (List ResultSet) × Database :=
  db.executeFrom 0 (Script.statements script)

end Database

end Tabular
