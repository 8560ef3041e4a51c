import Tabular.Proofs.Database.Lookup

/-!
# Comparisons agree on one order

The rows that a comparison selects are those of `Table.matching`, read at the places of the selected
columns (`Database.execute_comparing`). All operators compare with the same order of values, so their
answers fit together: each row is below, equal to or above a literal, and the other operators join or
complement these three, in the tables and in the answers to the texts with the written operators
(`Database.Compares`). A greater literal has more rows below it and fewer above it
(`Database.comparisons_consistent`).
-/

namespace Tabular

namespace Comparison

/-- Every order is accepted by exactly one of three operators. -/
lemma existsUnique_accepts (o : Ordering) : ∃! op, op ∈ [lt, eq, gt] ∧ accepts op o := by
  cases o with
  | lt =>
    have only : ∀ op ∈ [lt, eq, gt], accepts op .lt → op = lt := by decide
    exact ⟨lt, by decide, fun op h => only op h.1 h.2⟩
  | eq =>
    have only : ∀ op ∈ [lt, eq, gt], accepts op .eq → op = eq := by decide
    exact ⟨eq, by decide, fun op h => only op h.1 h.2⟩
  | gt =>
    have only : ∀ op ∈ [lt, eq, gt], accepts op .gt → op = gt := by decide
    exact ⟨gt, by decide, fun op h => only op h.1 h.2⟩

/-- What `<` or `=` accepts is what `<=` does. -/
lemma accepts_le_iff (o : Ordering) : accepts le o ↔ accepts lt o ∨ accepts eq o := by
  cases o <;> decide

/-- What `>` or `=` accepts is what `>=` does. -/
lemma accepts_ge_iff (o : Ordering) : accepts ge o ↔ accepts gt o ∨ accepts eq o := by
  cases o <;> decide

/-- What `=` does not accept is what `!=` does. -/
lemma accepts_ne_iff (o : Ordering) : accepts ne o ↔ ¬ accepts eq o := by
  cases o <;> decide

/-- What is below a value is below every greater one. -/
lemma accepts_lt_of_isLE {stored v w : Value} (h : (v.order w).isLE)
    (below : accepts lt (stored.order v)) : accepts lt (stored.order w) :=
  beq_iff_eq.2 (Std.TransCmp.lt_of_lt_of_isLE (beq_iff_eq.1 below) h)

/-- What is above a value is above every smaller one. -/
lemma accepts_gt_of_isLE {stored v w : Value} (h : (v.order w).isLE)
    (above : accepts gt (stored.order w)) : accepts gt (stored.order v) := by
  have below : w.order stored = .lt := Std.OrientedCmp.gt_iff_lt.1 (beq_iff_eq.1 above)
  exact beq_iff_eq.2 (Std.OrientedCmp.gt_iff_lt.2 (Std.TransCmp.lt_of_isLE_of_lt h below))

end Comparison

namespace Table

/-- The stored value in a row and a column, both given by their places. -/
def stored? (t : Table) (i place : Nat) : Option Value := t.rows[i]?.bind (·[place]?)

/-- The places of the rows whose value in a column compares with a value as the operator says, in the
order of insertion. -/
def matching (t : Table) (place : Nat) (op : Comparison) (v : Value) : List Nat :=
  (List.range t.rows.length).filter fun i =>
    (t.stored? i place).any fun stored => op.accepts (stored.order v)

/-- The answer has the declared names at the places of some columns, and the values stored there in
some rows. -/
structure Reads (t : Table) (places chosen : List Nat) (answer : ResultSet) : Prop where
  columns : answer.columns.map some = places.map fun place => t.columns[place]?.map Column.name
  rows : answer.rows.map (List.map some) = chosen.map fun i => places.map (t.stored? i)

/-- Rows are determined by the values that are read in them. -/
lemma injective_map_some : Function.Injective (List.map (List.map (some (α := Value)))) :=
  List.map_injective_iff.2 (List.map_injective_iff.2 (Option.some_injective Value))

/-- Fewer rows are a part of the answer for more rows. -/
lemma Reads.sublist {t : Table} {places chosen chosen' : List Nat} {answer answer' : ResultSet}
    (h : t.Reads places chosen answer) (h' : t.Reads places chosen' answer')
    (less : chosen.Sublist chosen') : answer.rows.Sublist answer'.rows := by
  have rows : (answer.rows.map (List.map some)).Sublist (answer'.rows.map (List.map some)) := by
    rw [h.rows, h'.rows]
    exact less.map _
  obtain ⟨part, sublist, eq⟩ := List.sublist_map_iff.1 rows
  rwa [injective_map_some eq]

/-- The places that are read determine the answer. -/
lemma Reads.unique {t : Table} {places chosen : List Nat} {answer answer' : ResultSet}
    (h : t.Reads places chosen answer) (h' : t.Reads places chosen answer') : answer = answer' := by
  obtain ⟨columns, rows⟩ := answer
  obtain ⟨columns', rows'⟩ := answer'
  have names : Function.Injective (List.map (some (α := Text))) :=
    List.map_injective_iff.2 (Option.some_injective Text)
  obtain rfl : columns = columns' := names (h.columns.trans h'.columns.symm)
  obtain rfl : rows = rows' := injective_map_some (h.rows.trans h'.rows.symm)
  rfl

variable {t : Table} {place : Nat} {op : Comparison} {v : Value}

/-- A value is stored in a row of the table. -/
lemma stored?_lt {i : Nat} {stored : Value} (h : t.stored? i place = some stored) :
    i < t.rows.length := by
  obtain ⟨row, at_, _⟩ := Option.bind_eq_some_iff.1 h
  exact (List.getElem?_eq_some_iff.1 at_).1

/-- In a well-formed table every row has a value in every column. -/
lemma WellFormed.exists_stored (wf : t.WellFormed) (lt : place < t.width) {i : Nat}
    (row : i < t.rows.length) : ∃ stored, t.stored? i place = some stored := by
  have long := wf.lt_length lt t.rows[i] (List.getElem_mem row)
  refine ⟨t.rows[i][place], ?_⟩
  rw [stored?, List.getElem?_eq_getElem row, Option.bind_some, List.getElem?_eq_getElem long]

/-- The rows that match have a value that the operator accepts. -/
lemma mem_matching_iff {i : Nat} :
    i ∈ t.matching place op v ↔
      ∃ stored, t.stored? i place = some stored ∧ op.accepts (stored.order v) := by
  rw [matching, List.mem_filter, List.mem_range, Option.any_eq_true]
  constructor
  · rintro ⟨_, found⟩
    exact found
  · rintro ⟨stored, found, accepted⟩
    exact ⟨stored?_lt found, stored, found, accepted⟩

/-- A row whose value is known is selected when the operator accepts its order. -/
lemma mem_matching_of_stored {i : Nat} {stored : Value} (h : t.stored? i place = some stored) :
    i ∈ t.matching place op v ↔ op.accepts (stored.order v) := by
  rw [mem_matching_iff, h]
  simp

/-- The rows that match are in the order of insertion. -/
lemma pairwise_matching : (t.matching place op v).Pairwise (· < ·) :=
  List.pairwise_lt_range.filter _

/-- The rows that match are rows of the table. -/
lemma lt_of_mem_matching {i : Nat} (mem : i ∈ t.matching place op v) : i < t.rows.length := by
  obtain ⟨stored, found, _⟩ := mem_matching_iff.1 mem
  exact stored?_lt found

/-- Every row matches exactly one of three operators. -/
lemma WellFormed.existsUnique_matching (wf : t.WellFormed) (lt : place < t.width) (v : Value) {i : Nat}
    (row : i < t.rows.length) :
    ∃! op, op ∈ [Comparison.lt, .eq, .gt] ∧ i ∈ t.matching place op v := by
  obtain ⟨stored, found⟩ := wf.exists_stored lt row
  simp only [mem_matching_of_stored found]
  exact Comparison.existsUnique_accepts _

/-- The rows for `<=` are those for `<` and those for `=`. -/
lemma mem_matching_le_iff {i : Nat} : i ∈ t.matching place .le v ↔
    i ∈ t.matching place .lt v ∨ i ∈ t.matching place .eq v := by
  simp only [mem_matching_iff, Comparison.accepts_le_iff, and_or_left, exists_or]

/-- The rows for `>=` are those for `>` and those for `=`. -/
lemma mem_matching_ge_iff {i : Nat} : i ∈ t.matching place .ge v ↔
    i ∈ t.matching place .gt v ∨ i ∈ t.matching place .eq v := by
  simp only [mem_matching_iff, Comparison.accepts_ge_iff, and_or_left, exists_or]

/-- The rows for `!=` are those that `=` leaves out. -/
lemma WellFormed.mem_matching_ne_iff (wf : t.WellFormed) (lt : place < t.width) {i : Nat}
    (row : i < t.rows.length) :
    i ∈ t.matching place .ne v ↔ i ∉ t.matching place .eq v := by
  obtain ⟨stored, found⟩ := wf.exists_stored lt row
  rw [mem_matching_of_stored found, mem_matching_of_stored found, Comparison.accepts_ne_iff]

/-- The rows that match are those with a property, if the property says which rows match. -/
lemma matching_eq_filter {chosen : Nat → Prop} [DecidablePred chosen]
    (h : ∀ i < t.rows.length, i ∈ t.matching place op v ↔ chosen i) :
    t.matching place op v = (List.range t.rows.length).filter chosen := by
  refine List.filter_congr fun i mem => ?_
  rw [Bool.eq_iff_iff, decide_eq_true_iff, ← h i (List.mem_range.1 mem), matching, List.mem_filter]
  exact (and_iff_right mem).symm

/-- An operator that accepts more selects more rows, in the same order. -/
lemma matching_sublist {w : Value} {op' : Comparison}
    (more : ∀ stored : Value, op.accepts (stored.order v) → op'.accepts (stored.order w)) :
    (t.matching place op v).Sublist (t.matching place op' w) := by
  refine List.monotone_filter_right _ fun i accepted => ?_
  obtain ⟨stored, found, accepted⟩ := (Option.any_eq_true _ _).1 accepted
  exact (Option.any_eq_true _ _).2 ⟨stored, found, more stored accepted⟩

/-- A greater value has more rows below it. -/
lemma matching_lt_sublist {w : Value} (h : (v.order w).isLE) :
    (t.matching place .lt v).Sublist (t.matching place .lt w) :=
  matching_sublist fun _ => Comparison.accepts_lt_of_isLE h

/-- A smaller value has more rows above it. -/
lemma matching_gt_sublist {w : Value} (h : (v.order w).isLE) :
    (t.matching place .gt w).Sublist (t.matching place .gt v) :=
  matching_sublist fun _ => Comparison.accepts_gt_of_isLE h

/-- The rows that are kept are read at the places of the rows that match. -/
lemma map_matching {β : Type} (f : Option Row → β) :
    (t.rows.filter fun row => row[place]?.any fun stored => op.accepts (stored.order v)).map
        (fun row => f (some row)) =
      (t.matching place op v).map fun i => f t.rows[i]? := by
  generalize accepted : (fun stored : Value => op.accepts (stored.order v)) = p
  have all : t.rows.map some = (List.range t.rows.length).map (t.rows[·]?) :=
    List.ext_getElem (by simp) fun i _ lt => by simp
  have cell : ∀ i, (t.stored? i place).any p = t.rows[i]?.any fun row => row[place]?.any p := by
    intro i
    rw [stored?, Option.any_bind]
    rfl
  calc
    _ = ((t.rows.map some).filter fun row => row.any (·[place]?.any p)).map f := by
      rw [List.filter_map, List.map_map]
      rfl
    _ = (((List.range t.rows.length).map (t.rows[·]?)).filter fun row => row.any (·[place]?.any p)).map
        f := by rw [all]
    _ = ((List.range t.rows.length).filter fun i => (t.stored? i place).any p).map
        fun i => f t.rows[i]? := by
      rw [List.filter_map, List.map_map]
      exact congrArg (List.map _) (List.filter_congr fun i _ => (cell i).symm)
    _ = _ := by rw [matching, accepted]

end Table

/-- The query for a comparison keeps the rows whose value in the first column found under the name
compares with the literal. -/
lemma Statement.keeps_comparingQuery {t : Table} {columns : ColumnsText}
    {table column gap token literal : Text} {op : Comparison} {place : Nat} {row : Row}
    (first : t.FirstAt column place) :
    (comparingQuery columns table column gap token literal op).Keeps t row ↔
      row[place]?.any fun stored => op.accepts (stored.order (.ofLiteral literal)) := by
  rw [Option.any_eq_true]
  constructor
  · intro keeps
    exact keeps _ rfl _ rfl place first
  · rintro found clause ⟨⟩ condition ⟨⟩ place' first'
    cases first.unique first'
    exact found

namespace Database
open Statement (IsLiteral comparing comparingQuery)

/-- A statement is answered with the values that a table has at the places of some columns in some rows,
and the database stays as it is. -/
def Answers (db : Database) (t : Table) (places : List Nat) (sql : Text) (chosen : List Nat) : Prop :=
  ∃ answer, db.execute sql = (.ok answer, db) ∧ t.Reads places chosen answer

/-- The comparisons of a column with a literal, each as it is written, are answered from three lists of
rows: those below the literal, those equal to it and those above it. All rows are in the order of
insertion. -/
structure Compares (db : Database) (t : Table) (places : List Nat) (sql : Text → Text)
    (below equal above : List Nat) : Prop where
  lt : db.Answers t places (sql "<".toList) below
  eq : db.Answers t places (sql "=".toList) equal
  gt : db.Answers t places (sql ">".toList) above
  le : db.Answers t places (sql "<=".toList)
    ((List.range t.rows.length).filter fun i => i ∈ below ∨ i ∈ equal)
  ge : db.Answers t places (sql ">=".toList)
    ((List.range t.rows.length).filter fun i => i ∈ above ∨ i ∈ equal)
  ne : db.Answers t places (sql "!=".toList) ((List.range t.rows.length).filter (· ∉ equal))
  ne' : db.Answers t places (sql "<>".toList) ((List.range t.rows.length).filter (· ∉ equal))

/-- If each written operator is answered with the rows that match, the answers fit together. -/
lemma compares_of_answers {db : Database} {t : Table} (wf : t.WellFormed) {place : Nat}
    (lt : place < t.width) {places : List Nat} {sql : Text → Text} {v : Value}
    (h : ∀ token op, (token, op) ∈ Comparison.tokens →
      db.Answers t places (sql token) (t.matching place op v)) :
    db.Compares t places sql (t.matching place .lt v) (t.matching place .eq v)
      (t.matching place .gt v) := by
  have others : t.matching place .ne v =
      (List.range t.rows.length).filter (· ∉ t.matching place .eq v) :=
    Table.matching_eq_filter fun _ row => wf.mem_matching_ne_iff lt row
  constructor
  case lt => exact h _ _ (by decide)
  case eq => exact h _ _ (by decide)
  case gt => exact h _ _ (by decide)
  case le =>
    rw [← Table.matching_eq_filter fun _ _ => Table.mem_matching_le_iff]
    exact h _ _ (by decide)
  case ge =>
    rw [← Table.matching_eq_filter fun _ _ => Table.mem_matching_ge_iff]
    exact h _ _ (by decide)
  case ne =>
    rw [← others]
    exact h _ _ (by decide)
  case ne' =>
    rw [← others]
    exact h _ _ (by decide)

/-- A comparison is answered with the rows that match, read at the places of the selection. -/
lemma execute_comparing {db : Database} (wf : db.catalog.WellFormed) {t : Table} {name : Text}
    (named : name.IsName) (found : db.table? name = some t) {columns : ColumnsText}
    (formed : columns.WellFormed) {places : List Nat} (resolves : columns.selection.Resolves t places)
    {column : Text} (named' : column.IsName) {place : Nat} (first : t.FirstAt column place)
    {gap token literal : Text} {op : Comparison} (blank : gap.allBlank)
    (mem : (token, op) ∈ Comparison.tokens) (h : IsLiteral literal) :
    db.Answers t places (comparing columns name column gap token literal)
      (t.matching place op (.ofLiteral literal)) := by
  let q := comparingQuery columns name column gap token literal op
  have read := Statement.read_comparing db.settings formed named named' blank mem h
  have selected : q.selection.places t = .ok places := Selection.places_eq_ok_iff.2 resolves
  have kept : (t.rows.filter fun row => q.Keeps t row) = t.rows.filter fun row =>
      row[place]?.any fun stored => op.accepts (stored.order (.ofLiteral literal)) := by
    refine List.filter_congr fun row _ => ?_
    rw [Bool.eq_iff_iff, decide_eq_true_iff]
    exact Statement.keeps_comparingQuery first
  have executed : db.execute (comparing columns name column gap token literal) =
      (.ok
        { columns := project [] places (t.columns.map Column.name)
          rows := ((q.selected t).filterMap t.row?).map (project .null places) },
      db) := by
    have answered : db.select q = q.answer t := select_of_some found
    rw [Query.answer, selected] at answered
    rw [execute, read]
    exact congrArg (·, db) answered
  refine ⟨_, executed, ⟨resolves.map_some_columns, ?_⟩⟩
  refine ((wf.table found).map_some_rows q resolves).trans ?_
  rw [kept]
  exact t.map_matching fun row => places.map fun place => row.bind (·[place]?)

/-- In a reachable database let a name find a table, a selection stand for places in it and a name find a
column. The answer to a comparison of this column with a literal reads the rows that match, in the order
of insertion. Every row matches exactly one of `<`, `=` and `>`; `<=` and `>=` join two of them, and `!=`
and `<>` both complement `=`: so it is with the operators, and so it is with the answers to the texts that
have them. A greater literal has at least the same rows below it, and at most the same above. -/
theorem comparisons_consistent {db : Database} (h : db.Reachable) {t : Table} (mem : t ∈ db.tables)
    {name : Text} (names : name = t.name ∨ (name.IsName ∧ Name.key name = Name.key t.name))
    {columns : ColumnsText} (formed : columns.WellFormed) {places : List Nat}
    (resolves : columns.selection.Resolves t places) {column : Text} (named : column.IsName)
    {place : Nat} (first : t.FirstAt column place) {gap : Text} (blank : gap.allBlank) :
    (∀ token op literal, (token, op) ∈ Comparison.tokens → IsLiteral literal →
      db.Answers t places (comparing columns name column gap token literal)
        (t.matching place op (.ofLiteral literal))) ∧
    (∀ op v, (t.matching place op v).Pairwise (· < ·) ∧
      ∀ i ∈ t.matching place op v, i < t.rows.length) ∧
    (∀ v, ∀ i < t.rows.length,
      ∃! op, op ∈ [Comparison.lt, .eq, .gt] ∧ i ∈ t.matching place op v) ∧
    (∀ v i, (i ∈ t.matching place .le v ↔ i ∈ t.matching place .lt v ∨ i ∈ t.matching place .eq v) ∧
      (i ∈ t.matching place .ge v ↔ i ∈ t.matching place .gt v ∨ i ∈ t.matching place .eq v)) ∧
    (∀ v, ∀ i < t.rows.length, i ∈ t.matching place .ne v ↔ i ∉ t.matching place .eq v) ∧
    (∀ literal, IsLiteral literal →
      db.Compares t places (comparing columns name column gap · literal)
        (t.matching place .lt (.ofLiteral literal)) (t.matching place .eq (.ofLiteral literal))
        (t.matching place .gt (.ofLiteral literal))) ∧
    (∀ literal, IsLiteral literal →
      db.execute (comparing columns name column gap "!=".toList literal) =
        db.execute (comparing columns name column gap "<>".toList literal)) ∧
    ∀ literal literal', IsLiteral literal → IsLiteral literal' →
      ((Value.ofLiteral literal).order (.ofLiteral literal')).isLE →
        ∃ below below' above above',
          db.execute (comparing columns name column gap "<".toList literal) = (.ok below, db) ∧
          db.execute (comparing columns name column gap "<".toList literal') = (.ok below', db) ∧
          db.execute (comparing columns name column gap ">".toList literal) = (.ok above, db) ∧
          db.execute (comparing columns name column gap ">".toList literal') = (.ok above', db) ∧
          below.rows.Sublist below'.rows ∧ above'.rows.Sublist above.rows := by
  obtain ⟨named', found⟩ := h.table?_eq_some mem names
  have wf : t.WellFormed := h.wellFormed.table found
  have lt : place < t.width := first.lt_width
  have answers : ∀ token op literal, (token, op) ∈ Comparison.tokens → IsLiteral literal →
      db.Answers t places (comparing columns name column gap token literal)
        (t.matching place op (.ofLiteral literal)) :=
    fun _ _ _ token written =>
      execute_comparing h.wellFormed named' found formed resolves named first blank token written
  have compares : ∀ literal, IsLiteral literal →
      db.Compares t places (comparing columns name column gap · literal)
        (t.matching place .lt (.ofLiteral literal)) (t.matching place .eq (.ofLiteral literal))
        (t.matching place .gt (.ofLiteral literal)) :=
    fun literal written =>
      compares_of_answers wf lt fun token op token_mem => answers token op literal token_mem written
  refine ⟨answers, fun op v => ⟨Table.pairwise_matching, fun i => Table.lt_of_mem_matching⟩,
    fun v i row => wf.existsUnique_matching lt v row,
    fun v i => ⟨Table.mem_matching_le_iff, Table.mem_matching_ge_iff⟩,
    fun v i row => wf.mem_matching_ne_iff lt row, compares, ?same, ?monotone⟩
  case same =>
    intro literal written
    obtain ⟨answer, executed, reads⟩ := (compares literal written).ne
    obtain ⟨answer', executed', reads'⟩ := (compares literal written).ne'
    rw [executed, executed', reads.unique reads']
  case monotone =>
    intro literal literal' written written' le
    obtain ⟨below, isBelow, reads⟩ := (compares literal written).lt
    obtain ⟨below', isBelow', reads'⟩ := (compares literal' written').lt
    obtain ⟨above, isAbove, finds⟩ := (compares literal written).gt
    obtain ⟨above', isAbove', finds'⟩ := (compares literal' written').gt
    exact ⟨below, below', above, above', isBelow, isBelow', isAbove, isAbove',
      reads.sublist reads' (Table.matching_lt_sublist le),
      finds'.sublist finds (Table.matching_gt_sublist le)⟩

/-- In the sample a number is compared with a number, without a blank before the operator, and with a text,
which is greater than every number. -/
theorem comparisons_consistent_sample :
    sample.Reachable ∧ sampleTable ∈ sample.tables ∧
      sample.Answers sampleTable [1] "SELECT b FROM t WHERE A>= 2".toList
        (sampleTable.matching 0 .ge (.int 2)) ∧
      sampleTable.matching 0 .ge (.int 2) = [1] ∧
      ∃ below below' : ResultSet,
        sample.execute "SELECT b FROM t WHERE A< 2".toList = (.ok below, sample) ∧
          sample.execute "SELECT b FROM t WHERE A< x".toList = (.ok below', sample) ∧
          below.rows.Sublist below'.rows := by
  have stored : sampleTable ∈ sample.tables := by decide +kernel
  have names : "t".toList = sampleTable.name ∨
      (Text.IsName "t".toList ∧ Name.key "t".toList = Name.key sampleTable.name) :=
    .inr ⟨by decide, by decide +kernel⟩
  have formed : ColumnsText.WellFormed (.named (.last "b".toList)) := by
    have named : Text.IsName "b".toList := by decide
    exact named
  have resolves : Selection.Resolves sampleTable (.named ["b".toList]) [1] :=
    Selection.places_eq_ok_iff.1 (by decide +kernel)
  have named : Text.IsName "A".toList := by decide
  have first : sampleTable.FirstAt "A".toList 0 := Table.index?_eq_some_iff.1 (by decide +kernel)
  have two : IsLiteral "2".toList := ⟨by decide, by decide, by decide⟩
  have x : IsLiteral "x".toList := ⟨by decide, by decide, by decide⟩
  have none : Text.allBlank [] := rfl
  obtain ⟨answers, -, -, -, -, -, -, monotone⟩ :=
    comparisons_consistent sample_reachable stored names formed resolves named first none
  have le : ((Value.ofLiteral "2".toList).order (.ofLiteral "x".toList)).isLE := by decide +kernel
  have value : Value.ofLiteral "2".toList = .int 2 := by decide +kernel
  obtain ⟨below, below', -, -, executed, executed', -, -, sublist, -⟩ := monotone _ _ two x le
  refine ⟨sample_reachable, stored, ?_, by decide +kernel, below, below', executed, executed', sublist⟩
  rw [← value]
  exact answers ">=".toList .ge _ (by decide) two

end Database

end Tabular
