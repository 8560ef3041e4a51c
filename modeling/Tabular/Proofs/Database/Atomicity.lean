import Tabular.Proofs.Database.Select

/-!
# What a failure leaves behind

A text that fails leaves the database as it was, with one exception: an insertion that stops at a row
of the wrong width keeps the rows before that one (`execute_atomic`). Both for that exception and for
an insertion that succeeds, `Extended` says that one stored table has more rows and that nothing else
is different.
-/

namespace Tabular.Database

/-- The second database is the first with more rows at the end of one stored table. -/
def Extended (db : Database) (t : Table) (rows : List Row) (db' : Database) : Prop :=
  ∃ before key after,
    db.catalog.entries = before ++ (key, t) :: after ∧
    db' = { db with catalog := ⟨before ++ (key, t.append rows) :: after⟩ }

/-- The ways in which executing a text can fail: the error, and the database that is left. -/
inductive Failed (db : Database) (sql : Text) : Error → Database → Prop where
  | halfway {name rows t k row db'} :
    Statement.read db.settings sql = .ok (.insertInto name rows) →
    db.table? name = some t →
    rows[k]? = some row →
    row.length ≠ t.columns.length →
    (∀ r ∈ rows.take k, r.length = t.columns.length) →
    db.Extended t (rows.take k) db' →
    Failed db sql (.columnCount t.name t.columns.length row.length) db'
  | untouched {e} :
    e.errorClass ≠ .columnCount →
    Failed db sql e db

/-- Appending under a name extends the table that the name finds. -/
lemma extended_append {db : Database} (wf : db.catalog.WellFormed) {name : Text} {t : Table}
    (rows : List Row) (h : db.table? name = some t) : db.Extended t rows (db.append name rows) := by
  obtain ⟨before, after, split, eq⟩ := wf.append_split rows h
  refine ⟨before, _, after, split, ?_⟩
  rw [append, eq]

/-- A query never fails over the number of values in a row. -/
lemma errorClass_of_select {db : Database} (wf : db.catalog.WellFormed) {q : Query} {e : Error}
    (h : db.select q = .error e) : e.errorClass ≠ .columnCount := by
  have means := means_select wf q
  rw [h] at means
  cases means with
  | noTable _ => nofun
  | noColumn _ _ _ _ _ => nofun

/-- What an outcome with an error does to the tables is what a failure may do. -/
lemma Outcome.failed {db db' : Database} {sql : Text} {e : Error} (wf : db.catalog.WellFormed)
    (out : db.Outcome (Statement.read db.settings sql) (.error e) db') : db.Failed sql e db' := by
  -- the reading and the error are generalized so that the outcome can be taken apart
  generalize reading : Statement.read db.settings sql = r at out
  generalize answer : Except.error e = a at out
  cases out with
  | refused cls =>
    cases answer
    apply Failed.untouched
    rcases cls with cls | cls
    · rw [cls]
      nofun
    · rw [cls]
      nofun
  | created _ => cases answer
  | inserted _ _ => cases answer
  | stopped found at_ ne kept =>
    cases answer
    refine .halfway reading found at_ ne ?_ (extended_append wf _ found)
    rw [← kept]
    exact fun _ => Table.length_of_mem_fitting
  | insertedNowhere _ =>
    cases answer
    exact .untouched nofun
  | selected =>
    apply Failed.untouched
    exact errorClass_of_select wf answer.symm
  | dropped _ => cases answer
  | droppedNowhere _ =>
    cases answer
    exact .untouched nofun

/-- Inserting into a table that exists either succeeds with all rows or meets a misfit. -/
lemma Outcome.of_insertInto {db db' : Database} {name : Text} {rows : List Row} {t : Table}
    {answer : Except Error ResultSet} (out : db.Outcome (.ok (.insertInto name rows)) answer db')
    (h : db.table? name = some t) :
    (answer = .ok .empty ∧ (∀ row ∈ rows, row.length = t.width) ∧ db' = db.append name rows) ∨
    ((∃ e, answer = .error e) ∧ ∃ row ∈ rows, row.length ≠ t.width) := by
  cases out with
  | inserted found fit =>
    cases found.symm.trans h
    exact .inl ⟨rfl, fit, rfl⟩
  | stopped found at_ ne _ =>
    cases found.symm.trans h
    exact .inr ⟨⟨_, rfl⟩, _, List.mem_of_getElem? at_, ne⟩
  | insertedNowhere none => cases none.symm.trans h

/-- In a reachable database a text that fails keeps the database as it was, except that an insertion
keeps the rows before its first misfit. Inserting into a table that exists succeeds exactly when all
rows fit, and then appends all of them. -/
theorem execute_atomic {db : Database} (h : db.Reachable) (sql : Text) :
    (∀ e, (db.execute sql).1 = .error e → db.Failed sql e (db.execute sql).2) ∧
      ∀ name rows t, Statement.read db.settings sql = .ok (.insertInto name rows) →
        db.table? name = some t →
          ((∃ r, (db.execute sql).1 = .ok r) ↔ ∀ row ∈ rows, row.length = t.columns.length) ∧
          ((∀ row ∈ rows, row.length = t.columns.length) →
            db.Extended t rows (db.execute sql).2) := by
  have wf := h.wellFormed
  have out := execute_outcome wf sql
  constructor
  · intro e fails
    rw [fails] at out
    exact out.failed wf
  · intro name rows t reading found
    rw [reading] at out
    obtain ⟨ok, fit, eq⟩ | ⟨⟨e, fails⟩, row, mem, ne⟩ := out.of_insertInto found
    · rw [ok, eq]
      exact ⟨⟨fun _ => fit, fun _ => ⟨_, rfl⟩⟩, fun _ => extended_append wf rows found⟩
    · rw [fails]
      refine ⟨⟨?_, fun fit => (ne (fit row mem)).elim⟩, fun fit => (ne (fit row mem)).elim⟩
      rintro ⟨_, ok⟩
      cases ok

/-- An insertion of the sample that stops at its second row, and one that goes through. -/
theorem execute_atomic_sample :
    sample.Reachable ∧
      sample.Failed "insert into T values (5, 6), (7)".toList (.columnCount "T".toList 2 1)
        (sample.execute "insert into T values (5, 6), (7)".toList).2 ∧
      ∃ t, sample.table? "t".toList = some t ∧
        sample.Extended t [[.int 5, .int 6]] (sample.execute "INSERT INTO t VALUES (5, 6)".toList).2 :=
  ⟨sample_reachable, (execute_atomic sample_reachable _).1 _ (by decide +kernel), _,
    (by decide +kernel : sample.table? "t".toList = some
      { name := "T".toList
        columns := [⟨"a".toList, "INT".toList⟩, ⟨"b".toList, "TEXT".toList⟩]
        rows := [[.int 1, .text "x".toList], [.int 2, .text "y".toList]] }),
    ((execute_atomic sample_reachable _).2 "t".toList _ _ (by decide +kernel) (by decide +kernel)).2
      (by decide +kernel)⟩

end Tabular.Database
