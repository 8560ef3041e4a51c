import Tabular.Main
import Tabular.Proofs.Binary64.Order
import Tabular.Proofs.Binary64.Rational
import Tabular.Proofs.Database.Atomicity
import Tabular.Proofs.Database.Comparison
import Tabular.Proofs.Database.Concatenation
import Tabular.Proofs.Database.History
import Tabular.Proofs.Database.Independence
import Tabular.Proofs.Database.Insertion
import Tabular.Proofs.Database.Lookup
import Tabular.Proofs.Database.Reachable
import Tabular.Proofs.Database.Refusal
import Tabular.Proofs.Database.Script
import Tabular.Proofs.Database.Select
import Tabular.Proofs.Database.Shape
import Tabular.Proofs.Database.Statements
import Tabular.Proofs.Database.Stored
import Tabular.Proofs.Query.Answer
import Tabular.Proofs.Query.Condition
import Tabular.Proofs.ResultSet.Csv
import Tabular.Proofs.ResultSet.Grid
import Tabular.Proofs.Scan.Cuts
import Tabular.Proofs.Scan.Division
import Tabular.Proofs.Scan.Pieces
import Tabular.Proofs.Scan.Tokens
import Tabular.Proofs.Scan.Tuples
import Tabular.Proofs.Settings
import Tabular.Proofs.Shell.Agreement
import Tabular.Proofs.Shell.Replies
import Tabular.Proofs.Shell.Submission
import Tabular.Proofs.Shell.Visits
import Tabular.Proofs.Statement.Comparison
import Tabular.Proofs.Statement.Cursor
import Tabular.Proofs.Statement.Definition
import Tabular.Proofs.Statement.Insertion
import Tabular.Proofs.Statement.Leading
import Tabular.Proofs.Statement.Query
import Tabular.Proofs.Statement.Reader
import Tabular.Proofs.Statement.Terminator
import Tabular.Proofs.Statement.Walk
import Tabular.Proofs.Store.Catalog
import Tabular.Proofs.Store.Column
import Tabular.Proofs.Text.Trim
import Tabular.Proofs.Value.Canonical
import Tabular.Proofs.Value.IntegerOrder
import Tabular.Proofs.Value.Order
import Tabular.Proofs.Value.Quote
import Tabular.Proofs.Value.Scalar
