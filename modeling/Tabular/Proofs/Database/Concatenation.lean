import Tabular.Proofs.Database.Insertion

/-!
# Insertions in two parts

An insertion may be split between two of its tuples. Inserting two lists with a comma between them does
what inserting the first list does, and then, if that succeeded, what inserting the second one does
(`Database.execute_insertion_append`): the same tables are left, and the answer is the same.
-/

namespace Tabular.Database

/-- Executes a text, and after it a second one unless the first one fails. -/
def executeThen (db : Database) (sql sql' : Text) : Except Error ResultSet × Database :=
  match db.execute sql with
  | (.ok _, db') => db'.execute sql'
  | failed => failed

/-- Rows are inserted in one go as in two, unless those inserted first fail. -/
lemma insertInto_append {db : Database} (wf : db.catalog.WellFormed) (name : Text)
    (rows rows' : List Row) :
    db.insertInto name (rows ++ rows') =
      match db.insertInto name rows with
      | (.ok _, db') => db'.insertInto name rows'
      | failed => failed := by
  cases found : db.table? name with
  | none => simp only [insertInto, table_eq_error found]
  | some t =>
    simp only [insertInto, table_eq_ok found, Table.insertRows_append]
    have inserted := t.insertRows_eq rows
    cases first : t.insertRows rows with
    | mk t' failure =>
      cases failure with
      | some e => rfl
      | none =>
        rw [first] at inserted
        have eq : t' = t.append (Table.fitting t.width rows) := congrArg Prod.fst inserted
        have key : Name.key name = Name.key t'.name := by rw [eq, Table.name_append, wf.key_name found]
        -- the second part finds the table as the first one left it
        have again : (db.catalog.put t').table name = .ok t' := by
          rw [Catalog.table, Catalog.find?_put, if_pos key]
        have name_eq : (t'.insertRows rows').1.name = t'.name := by
          rw [Table.insertRows_eq, Table.name_append]
        simp only [again]
        rw [Catalog.put_put _ (congrArg Name.key name_eq)]

/-- A text that inserts a list of tuples inserts their rows. -/
lemma execute_insertion {name : Text} (named : name.IsName) {tuples : List Text} {list : Text}
    (split : Tuples.split list = .ok tuples) (notBlank : list.allBlank = false) (db : Database) :
    db.execute (Statement.insertion name list) = db.insertInto name (tuples.map Tuples.row) := by
  rw [execute, Statement.read_insertion_of_split db.settings named split notBlank]
  rfl

/-- In a reachable database, inserting two lists of tuples with a comma between them leaves the same
database and gives the same answer as inserting the first list and, if that succeeds, the second one.
The answer is a success, or that there is no such table, or that a row has the wrong width. -/
theorem execute_insertion_append {db : Database} (h : db.Reachable) {name : Text} (named : name.IsName)
    {list list' : Text} (notBlank : list.allBlank = false) (notBlank' : list'.allBlank = false)
    {tuples tuples' : List Text} (split : Tuples.split list = .ok tuples)
    (split' : Tuples.split list' = .ok tuples') {left right : Text} (hl : left.allBlank)
    (hr : right.allBlank) :
    ∃ answer db',
      db.execute (Statement.insertion name (list ++ left ++ ',' :: (right ++ list'))) = (answer, db') ∧
      db.executeThen (Statement.insertion name list) (Statement.insertion name list') = (answer, db') ∧
      (answer = .ok .empty ∨ answer = .error (.unknownTable name) ∨
        ∃ t n, db.table? name = some t ∧
          answer = .error (.columnCount t.name t.columns.length n)) := by
  have whole := Tuples.split_append split notBlank split' notBlank' hl hr
  have notBlank_whole : (list ++ left ++ ',' :: (right ++ list')).allBlank = false := by
    refine Bool.eq_false_iff.2 (Text.not_allBlank_of_mem (c := ',') ?_ rfl)
    simp
  have joined := execute_insertion named whole notBlank_whole db
  rw [List.map_append, insertInto_append h.wellFormed, ← execute_insertion named split notBlank] at joined
  have answered := db.insertInto_answer name ((tuples ++ tuples').map Tuples.row)
  rw [← execute_insertion named whole notBlank_whole] at answered
  have parts : db.executeThen (Statement.insertion name list) (Statement.insertion name list') =
      db.execute (Statement.insertion name (list ++ left ++ ',' :: (right ++ list'))) := by
    rw [executeThen, joined]
    cases db.execute (Statement.insertion name list) with
    | mk answer db' =>
      cases answer with
      | error e => rfl
      | ok r => exact execute_insertion named split' notBlank' db'
  rw [parts]
  generalize db.execute (Statement.insertion name (list ++ left ++ ',' :: (right ++ list'))) = outcome
    at answered
  obtain ⟨answer, db'⟩ := outcome
  exact ⟨answer, db', rfl, rfl, answered⟩

/-- The two parts of an insertion; the second one has a misfit. -/
def sampleHalves : Text × Text := ("(5, ')'), (7, 8)".toList, "(9, 9), (3)".toList)

/-- The misfit in the second part leaves all rows before it, in one insertion as in two. -/
theorem execute_insertion_append_sample :
    sample.Reachable ∧
      ∃ db', sample.execute (Statement.insertion "t".toList "(5, ')'), (7, 8) , (9, 9), (3)".toList) =
          (.error (.columnCount "T".toList 2 1), db') ∧
        sample.executeThen (Statement.insertion "t".toList sampleHalves.1)
            (Statement.insertion "t".toList sampleHalves.2) =
          (.error (.columnCount "T".toList 2 1), db') := by
  have split : Tuples.split sampleHalves.1 = .ok ["5, ')'".toList, "7, 8".toList] := by
    decide +kernel
  have split' : Tuples.split sampleHalves.2 = .ok ["9, 9".toList, "3".toList] := by
    decide +kernel
  have named : Text.IsName "t".toList := by decide
  have blank : Text.allBlank [' '] := rfl
  have fails : (sample.execute (Statement.insertion "t".toList
      "(5, ')'), (7, 8) , (9, 9), (3)".toList)).1 = .error (.columnCount "T".toList 2 1) := by
    decide +kernel
  obtain ⟨answer, db', one, two, -⟩ :=
    execute_insertion_append sample_reachable named rfl rfl split split' blank blank
  have same : answer = .error (.columnCount "T".toList 2 1) := by
    rw [← fails]
    exact (congrArg Prod.fst one).symm
  rw [same] at one two
  exact ⟨sample_reachable, db', one, two⟩

end Tabular.Database
