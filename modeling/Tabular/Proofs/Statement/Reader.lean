import Tabular.Proofs.Statement.Cursor
import Tabular.Proofs.Traversal
import Tabular.Statement.Reader

/-!
# What reading a statement can give

* `Statement.read_eq_ok` and `Statement.read_eq_error` are the inversions of reading: how a statement is
  read (`Statement.ReadFrom`), and which forms an error has.
* `Statement.columns_ne_nil_of_read`: a table that is declared has a column, because cutting the body
  of a column list always gives at least one piece.
* `Statement.isName_of_read`: a table that is declared is named by a name.
* `Statement.rows_of_read`: the rows that are inserted are those of a list of tuples.
* `Statement.read_trim`: blanks around a statement make no difference.
* `Statement.clause_of_read`: a query that is read has the clause that some text makes.
* `Statement.errorClass_of_read`: an error of reading is about the text alone, never about a table.
-/

namespace Tabular.Statement

/-- Mapping errors makes no success. -/
lemma mapError_eq_ok {α ε ε' : Type} {f : ε → ε'} {x : Except ε α} {a : α}
    (h : x.mapError f = .ok a) : x = .ok a := by
  cases x with
  | error e => cases h
  | ok b =>
    cases h
    rfl

/-- Mapping errors makes errors of errors only. -/
lemma mapError_eq_error {α ε ε' : Type} {f : ε → ε'} {x : Except ε α} {e' : ε'}
    (h : x.mapError f = .error e') : ∃ e, x = .error e ∧ e' = f e := by
  cases x with
  | error e =>
    cases h
    exact ⟨e, rfl, rfl⟩
  | ok b => cases h

/-- A column list declares at least one column. -/
lemma columns_ne_nil_of_declarations {body : Text} {columns : List Column}
    (h : (Column.declarations body).mapM Column.ofText? = some columns) : columns ≠ [] := by
  rintro rfl
  have none : Column.declarations body = [] := by
    have read := mapM_eq_some_iff.1 h
    rwa [List.forall₂_nil_right_iff] at read
  -- cutting a body at its commas gives a piece even where there is no comma
  exact List.splitOn_ne_nil ',' body (List.map_eq_nil_iff.1 none)

/-- A column list that declares a table is read as its declarations. -/
lemma declared_eq_ok {name list : Text} {s : Statement} (h : declared name list = .ok s) :
    ∃ body columns, (Column.declarations body).mapM Column.ofText? = some columns ∧
      s = .createTable name columns := by
  unfold declared at h
  split at h
  · cases h
  · next body after _ =>
    split at h
    · cases h
    split at h
    · cases h
    split at h
    · next columns read =>
      cases h
      exact ⟨body, columns, read, rfl⟩
    · cases h

/-- A list of tuples that inserts rows is read as them. -/
lemma inserted_eq_ok {table list : Text} {s : Statement} (h : inserted table list = .ok s) :
    ∃ rows, Tuples.rows list = .ok rows ∧ s = .insertInto table rows := by
  unfold inserted at h
  split at h
  · cases h
  split at h
  · next rows read =>
    cases h
    exact ⟨rows, read, rfl⟩
  · cases h

/-- A text of no kind is not supported or not recognized. -/
lemma unrouted_cases (settings : Settings) (text : Text) :
    (∃ feature, unrouted settings text = .unsupported feature settings.guidance) ∨
      unrouted settings text = .unrecognized text := by
  unfold unrouted
  split
  · exact .inl ⟨_, rfl⟩
  · exact .inr rfl

/-- After `create table` a name and the columns of a list of declarations are read. -/
lemma readCreateTable_eq_ok {t : Text} {s : Statement} (h : readCreateTable t = .ok s) :
    ∃ name rest body columns, Cursor.name? t = some (name, rest) ∧
      (Column.declarations body).mapM Column.ofText? = some columns ∧
      s = .createTable name columns := by
  unfold readCreateTable at h
  split at h
  · cases h
  · next name rest named =>
    split at h
    · cases h
    · obtain ⟨body, columns, read, eq⟩ := declared_eq_ok h
      exact ⟨name, rest, body, columns, named, read, eq⟩

/-- After `insert into` the rows of a list of tuples are read. -/
lemma readInsertInto_eq_ok {t : Text} {s : Statement} (h : readInsertInto t = .ok s) :
    ∃ table list rows, Tuples.rows list = .ok rows ∧ s = .insertInto table rows := by
  unfold readInsertInto at h
  split at h
  · cases h
  split at h
  · cases h
  · obtain ⟨rows, read, eq⟩ := inserted_eq_ok h
    exact ⟨_, _, rows, read, eq⟩

/-- After `drop table` a name is read. -/
lemma readDropTable_eq_ok {t : Text} {s : Statement} (h : readDropTable t = .ok s) :
    ∃ name, s = .dropTable name := by
  unfold readDropTable at h
  split at h
  · cases h
  split at h
  · cases h
    exact ⟨_, rfl⟩
  · cases h

/-- How a statement is read from a text: the kind that leads the text, and what its reader finds. -/
inductive ReadFrom (text : Text) : Statement → Prop where
  | createTable {rest name after body columns} :
    StatementKind.leading? text = some (.createTable, rest) →
    Cursor.name? rest = some (name, after) →
    (Column.declarations body).mapM Column.ofText? = some columns →
    ReadFrom text (.createTable name columns)
  | insertInto {rest table list rows} :
    StatementKind.leading? text = some (.insertInto, rest) →
    Tuples.rows list = .ok rows →
    ReadFrom text (.insertInto table rows)
  | select {rest q} :
    StatementKind.leading? text = some (.select, rest) →
    readQuery? rest = some q →
    ReadFrom text (.select q)
  | dropTable {rest name} :
    StatementKind.leading? text = some (.dropTable, rest) →
    ReadFrom text (.dropTable name)

/-- A statement is read by the reader of the kind that leads the text. -/
lemma read_eq_ok {settings : Settings} {sql : Text} {s : Statement}
    (h : read settings sql = .ok s) : ReadFrom (strip sql) s := by
  unfold read at h
  simp only at h
  split at h
  · next rest lead =>
    obtain ⟨_, _, _, _, named, declared, rfl⟩ := readCreateTable_eq_ok (mapError_eq_ok h)
    exact .createTable lead named declared
  · next rest lead =>
    obtain ⟨_, _, _, rows, rfl⟩ := readInsertInto_eq_ok (mapError_eq_ok h)
    exact .insertInto lead rows
  · next rest lead =>
    obtain ⟨_, rfl⟩ := readDropTable_eq_ok (mapError_eq_ok h)
    exact .dropTable lead
  · next rest lead =>
    split at h
    · next q read =>
      cases h
      exact .select lead read
    · cases h
  · cases h

/-- An error of reading says that the text is malformed, not supported or of no known kind. -/
lemma read_eq_error {settings : Settings} {sql : Text} {e : Error}
    (h : read settings sql = .error e) :
    (∃ kind defect, e = .malformed kind defect) ∨
    (∃ feature, e = .unsupported feature settings.guidance) ∨
    e = .unrecognized (strip sql) := by
  unfold read at h
  simp only at h
  split at h
  · obtain ⟨defect, _, eq⟩ := mapError_eq_error h
    exact .inl ⟨_, defect, eq⟩
  · obtain ⟨defect, _, eq⟩ := mapError_eq_error h
    exact .inl ⟨_, defect, eq⟩
  · obtain ⟨defect, _, eq⟩ := mapError_eq_error h
    exact .inl ⟨_, defect, eq⟩
  · split at h
    · cases h
    · cases h
      exact .inr (.inl ⟨_, rfl⟩)
  · cases h
    exact .inr (unrouted_cases settings (strip sql))

/-- A table that is declared has a column. -/
lemma columns_ne_nil_of_read {settings : Settings} {sql name : Text} {columns : List Column}
    (h : read settings sql = .ok (.createTable name columns)) : columns ≠ [] := by
  cases read_eq_ok h with
  | createTable _ _ declared => exact columns_ne_nil_of_declarations declared

/-- A table that is declared is named by a name. -/
lemma isName_of_read {settings : Settings} {sql name : Text} {columns : List Column}
    (h : read settings sql = .ok (.createTable name columns)) : name.IsName := by
  cases read_eq_ok h with
  | createTable _ named _ => exact Cursor.isName_of_name? named

/-- The rows that are inserted are those of a list of tuples. -/
lemma rows_of_read {settings : Settings} {sql name : Text} {rows : List Row}
    (h : read settings sql = .ok (.insertInto name rows)) : ∃ list, Tuples.rows list = .ok rows := by
  cases read_eq_ok h with
  | insertInto _ rows => exact ⟨_, rows⟩

/-- The statement in a text is a tight text that ends in no semicolon, with blanks around it. -/
lemma strip_of_padded {t sql : Text} (tight : t.Tight) (last : t.getLast? ≠ some ';')
    (h : Text.Padded t sql) : strip sql = t := by
  have kept : Text.dropEndWhile (· == ';') t = t := by
    refine Text.dropEndWhile_eq_self fun c mem => beq_eq_false_iff_ne.2 ?_
    rintro rfl
    exact last mem
  rw [strip, tight.trim_eq h, kept, Text.trimEnd_eq_self tight.2]

/-- Blanks around a statement make no difference. -/
lemma read_trim (settings : Settings) (sql : Text) : read settings sql.trim = read settings sql := by
  have same : strip sql.trim = strip sql := by rw [strip, strip, Text.trim_trim]
  rw [read, read, same]

/-- The clause of a query is made by a text. -/
lemma clause_of_readQuery? {t : Text} {q : Query} (h : readQuery? t = some q) {clause : Clause}
    (mem : clause ∈ q.clause) : ∃ text, clause = .ofText text := by
  obtain ⟨_, _, h⟩ := Option.bind_eq_some_iff.1 h
  obtain ⟨_, _, h⟩ := Option.bind_eq_some_iff.1 h
  obtain ⟨_, _, h⟩ := Option.bind_eq_some_iff.1 h
  obtain ⟨_, read, h⟩ := Option.bind_eq_some_iff.1 h
  cases h
  cases mem
  unfold readClause? at read
  split at read
  · cases read
  split at read
  · split at read
    · cases read
    · cases read
      exact ⟨_, rfl⟩
  · cases read

/-- A query that is read has the clause that some text makes. -/
lemma clause_of_read {settings : Settings} {sql : Text} {q : Query}
    (h : read settings sql = .ok (.select q)) {clause : Clause} (mem : clause ∈ q.clause) :
    ∃ text, clause = .ofText text := by
  cases read_eq_ok h with
  | select _ read => exact clause_of_readQuery? read mem

/-- An error of reading is not about a table. -/
lemma errorClass_of_read {settings : Settings} {sql : Text} {e : Error}
    (h : read settings sql = .error e) :
    e.errorClass = .malformed ∨ e.errorClass = .unsupported := by
  obtain ⟨_, _, rfl⟩ | ⟨_, rfl⟩ | rfl := read_eq_error h
  · exact .inl rfl
  · exact .inr rfl
  · exact .inl rfl

end Tabular.Statement
