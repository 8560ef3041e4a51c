import Tabular.Proofs.Store.Catalog
import Tabular.Proofs.Traversal
import Tabular.Query

/-!
# Names, marks and projections

What the three parts of answering a query mean for one table.

* A name is resolved to the first column it finds (`Table.FirstAt`), both in a selection
  (`Selection.places_eq_ok_iff`, `Selection.places_eq_error_iff`) and in a condition
  (`Query.all_filter_iff`).
* Fetching the rows at the marked places is filtering (`Query.fetch_selected`).
* Where all places are in bounds, projecting reads each of them (`map_some_project`).
-/

namespace Tabular

namespace Table

/-- The place holds the first column that is found under the name. -/
def FirstAt (t : Table) (name : Text) (place : Nat) : Prop :=
  ∃ c, t.columns[place]? = some c ∧ Name.key c.name = Name.key name ∧
    ∀ c' ∈ t.columns.take place, Name.key c'.name ≠ Name.key name

/-- No column is found under the name. -/
def Lacks (t : Table) (name : Text) : Prop := ∀ c ∈ t.columns, Name.key c.name ≠ Name.key name

/-- A name is resolved to the first column it finds. -/
lemma index?_eq_some_iff {t : Table} {name : Text} {place : Nat} :
    Column.index? t.columns name = some place ↔ t.FirstAt name place := by
  rw [Column.index?, List.findIdx?_eq_some_iff_getElem]
  constructor
  · rintro ⟨lt, found, before⟩
    refine ⟨t.columns[place], List.getElem?_eq_getElem lt, eq_of_beq found, ?_⟩
    intro c mem
    obtain ⟨i, bound, rfl⟩ := List.mem_take_iff_getElem.1 mem
    have other := before i (Nat.lt_of_lt_of_le bound (Nat.min_le_left ..))
    exact fun same => other (beq_iff_eq.2 same)
  · rintro ⟨c, at_, found, before⟩
    obtain ⟨lt, rfl⟩ := List.getElem?_eq_some_iff.1 at_
    refine ⟨lt, beq_iff_eq.2 found, ?_⟩
    intro i bound same
    refine before _ (List.mem_take_iff_getElem.2 ⟨i, ?_, rfl⟩) (eq_of_beq same)
    exact Nat.lt_min.2 ⟨bound, Nat.lt_trans bound lt⟩

/-- No column is found exactly under the names that a table lacks. -/
lemma index?_eq_none_iff {t : Table} {name : Text} :
    Column.index? t.columns name = none ↔ t.Lacks name := by
  rw [Column.index?, List.findIdx?_eq_none_iff]
  refine forall₂_congr fun c _ => ?_
  rw [Column.isNamed, Name.agrees, beq_eq_false_iff_ne]

/-- A table does not lack the name of a column. -/
lemma FirstAt.not_lacks {t : Table} {name : Text} {place : Nat} (h : t.FirstAt name place) :
    ¬ t.Lacks name := by
  intro lacks
  rw [← index?_eq_none_iff, index?_eq_some_iff.2 h] at lacks
  cases lacks

/-- A name that is not lacking is that of a first column. -/
lemma exists_firstAt {t : Table} {name : Text} (h : ¬ t.Lacks name) :
    ∃ place, t.FirstAt name place := by
  cases found : Column.index? t.columns name with
  | none => exact (h (index?_eq_none_iff.1 found)).elim
  | some place => exact ⟨place, index?_eq_some_iff.1 found⟩

/-- A name has one first column. -/
lemma FirstAt.unique {t : Table} {name : Text} {i j : Nat} (hi : t.FirstAt name i)
    (hj : t.FirstAt name j) : i = j := by
  have same := index?_eq_some_iff.2 hi
  rw [index?_eq_some_iff.2 hj] at same
  exact (Option.some.inj same).symm

/-- A column has a place within the width of its table. -/
lemma FirstAt.lt_width {t : Table} {name : Text} {place : Nat} (h : t.FirstAt name place) :
    place < t.width := by
  obtain ⟨_, at_, _⟩ := h
  exact (List.getElem?_eq_some_iff.1 at_).1

/-- Selecting a name gives the place of the first column under it. -/
lemma place_eq_ok_iff {t : Table} {name : Text} {place : Nat} :
    t.place name = .ok place ↔ t.FirstAt name place := by
  rw [← index?_eq_some_iff, Table.place]
  split
  · next found => simp [found]
  · next found => simp [found]

/-- Finding a column fails exactly for a name that the table lacks, and the error has both names. -/
lemma place_eq_error_iff {t : Table} {name : Text} {e : Error} :
    t.place name = .error e ↔ t.Lacks name ∧ e = .unknownColumn t.name name := by
  rw [← index?_eq_none_iff, Table.place]
  split
  · next found => simp [found]
  · next found => simp [found, eq_comm]

end Table

namespace Selection

/-- The selection stands for these places: all of them in order, or for each name the place of the
first column under it. -/
inductive Resolves (t : Table) : Selection → List Nat → Prop where
  | all :
    Resolves t .all (List.range t.width)
  | named {names places} :
    List.Forall₂ t.FirstAt names places →
    Resolves t (.named names) places

/-- Selecting succeeds exactly with the places that the selection stands for. -/
lemma places_eq_ok_iff {t : Table} {s : Selection} {places : List Nat} :
    s.places t = .ok places ↔ s.Resolves t places := by
  cases s with
  | all =>
    constructor
    · intro h
      cases h
      exact .all
    · intro h
      cases h
      rfl
  | named names =>
    rw [Selection.places, mapM_eq_ok_iff]
    simp only [Table.place_eq_ok_iff]
    constructor
    · exact .named
    · intro h
      cases h with
      | named each => exact each

/-- Selecting fails exactly at the first name that the table lacks. -/
lemma places_eq_error_iff {t : Table} {s : Selection} {e : Error} :
    s.places t = .error e ↔
      ∃ before name after, s = .named (before ++ name :: after) ∧
        (∀ n ∈ before, ¬ t.Lacks n) ∧ t.Lacks name ∧ e = Error.unknownColumn t.name name := by
  have known : ∀ n, (∃ place, t.place n = .ok place) ↔ ¬ t.Lacks n := by
    intro n
    simp only [Table.place_eq_ok_iff]
    exact ⟨fun ⟨_, first⟩ => first.not_lacks, Table.exists_firstAt⟩
  cases s with
  | all =>
    constructor
    · intro h
      cases h
    · rintro ⟨_, _, _, eq, _⟩
      cases eq
  | named names =>
    rw [Selection.places, mapM_eq_error_iff]
    simp only [known, Table.place_eq_error_iff, named.injEq]

/-- A selection resolves to places within the width of its table. -/
lemma Resolves.lt_width {t : Table} {s : Selection} {places : List Nat} (h : s.Resolves t places) :
    ∀ place ∈ places, place < t.width := by
  intro place mem
  cases h with
  | all => exact List.mem_range.1 mem
  | named each =>
    induction each with
    | nil => cases mem
    | cons first _ ih =>
      obtain rfl | mem := List.mem_cons.1 mem
      · exact first.lt_width
      · exact ih mem

end Selection

namespace Query

/-- The row passes: where the clause is a condition on a column that the table has, the value in the
first such column satisfies it. -/
def Keeps (q : Query) (t : Table) (row : Row) : Prop :=
  ∀ clause ∈ q.clause, ∀ condition ∈ clause.condition, ∀ place,
    t.FirstAt condition.column place →
      ∃ v, row[place]? = some v ∧ condition.comparison.accepts (v.order condition.value) = true

/-- A filter of one column passes a row whose value there satisfies the condition. -/
lemma passes_column_iff {place : Nat} {condition : Condition} {row : Row} :
    (Filter.column place condition).passes row = true ↔
      ∃ v, row[place]? = some v ∧ condition.comparison.accepts (v.order condition.value) = true := by
  cases value : row[place]? with
  | none => simp [Filter.passes, value]
  | some v => simp [Filter.passes, value, Condition.holds]

/-- A query has a filter exactly when its clause spells a condition on a column that the table has,
and then the filter is bound to the first such column. -/
lemma filter_cases (q : Query) (t : Table) :
    (∃ clause condition place, q.clause = some clause ∧ clause.condition = some condition ∧
      t.FirstAt condition.column place ∧ q.filter t = some (.column place condition)) ∨
    (q.filter t = none ∧
      ∀ clause ∈ q.clause, ∀ condition ∈ clause.condition, t.Lacks condition.column) := by
  cases hq : q.clause with
  | none =>
    refine .inr ⟨?_, nofun⟩
    simp [Query.filter, hq]
  | some clause =>
    cases hc : clause.condition with
    | none =>
      refine .inr ⟨?_, ?_⟩
      · simp [Query.filter, hq, Clause.bind, hc, Filter.isAll]
      · intro _ same condition hc'
        cases same
        cases hc.symm.trans hc'
    | some condition =>
      cases found : Column.index? t.columns condition.column with
      | none =>
        refine .inr ⟨?_, ?_⟩
        · simp [Query.filter, hq, Clause.bind, hc, found, Filter.isAll]
        · intro _ same _ hc'
          cases same
          cases hc.symm.trans hc'
          exact Table.index?_eq_none_iff.1 found
      | some place =>
        refine .inl ⟨clause, condition, place, rfl, hc, Table.index?_eq_some_iff.1 found, ?_⟩
        simp [Query.filter, hq, Clause.bind, hc, found, Filter.isAll]

/-- The filter that is bound to a table passes the rows that the query keeps. -/
lemma all_filter_iff {q : Query} {t : Table} {row : Row} :
    (q.filter t).all (·.passes row) = true ↔ q.Keeps t row := by
  obtain ⟨clause, condition, place, hq, hc, first, filter⟩ | ⟨filter, lacks⟩ := q.filter_cases t
  · rw [filter, Option.all_some, passes_column_iff]
    constructor
    · intro pass clause' hq' condition' hc' place' first'
      cases hq.symm.trans hq'
      cases hc.symm.trans hc'
      cases first.unique first'
      exact pass
    · intro keeps
      exact keeps clause hq condition hc place first
  · rw [filter]
    refine ⟨fun _ clause hq condition hc place first => ?_, fun _ => rfl⟩
    exact (first.not_lacks (lacks clause hq condition hc)).elim

/-- A filter looks at a place within the width of its table. -/
lemma lt_width_of_filter {q : Query} {t : Table} {place : Nat} {condition : Condition}
    (h : q.filter t = some (.column place condition)) : place < t.width := by
  obtain ⟨_, _, _, _, _, first, filter⟩ | ⟨filter, _⟩ := q.filter_cases t
  · cases filter.symm.trans h
    exact first.lt_width
  · cases filter.symm.trans h

/-- Whether a query keeps a row can be decided, by its filter. -/
instance (q : Query) (t : Table) (row : Row) : Decidable (q.Keeps t row) :=
  decidable_of_iff _ all_filter_iff

end Query

/-- Fetching at the places of the set marks keeps the members that are marked. -/
lemma filterMap_setPlaces {α : Type} (p : α → Bool) (before as : List α) :
    (setPlaces before.length (as.map p)).filterMap ((before ++ as)[·]?) = as.filter p := by
  -- the places are counted in the whole list, so the members passed so far stay in the statement
  induction as generalizing before with
  | nil => rfl
  | cons a as ih =>
    have rest := ih (before ++ [a])
    rw [List.length_append, List.append_assoc] at rest
    have here : (before ++ a :: as)[before.length]? = some a := by
      rw [List.getElem?_append_right (Nat.le_refl _), Nat.sub_self]
      rfl
    cases mark : p a with
    | true =>
      rw [List.map_cons, mark, setPlaces, List.filterMap_cons_some here,
        List.filter_cons_of_pos mark]
      exact congrArg _ rest
    | false =>
      rw [List.map_cons, mark, setPlaces, List.filter_cons_of_neg (by simp [mark])]
      exact rest

/-- Only places where a mark stands are set. -/
lemma lt_of_mem_setPlaces {first place : Nat} {marks : List Bool}
    (h : place ∈ setPlaces first marks) : place < first + marks.length := by
  induction marks generalizing first with
  | nil => cases h
  | cons mark marks ih =>
    have shift : first + 1 + marks.length = first + (mark :: marks).length := by
      rw [List.length_cons]
      omega
    cases mark with
    | true =>
      obtain rfl | mem := List.mem_cons.1 h
      · exact Nat.lt_add_of_pos_right (Nat.succ_pos _)
      · have lt := ih mem
        rwa [shift] at lt
    | false =>
      have lt := ih h
      rwa [shift] at lt

namespace Query

/-- Only rows of the table are selected. -/
lemma lt_of_mem_selected {q : Query} {t : Table} {place : Nat} (h : place ∈ q.selected t) :
    place < t.rows.length := by
  have lt := lt_of_mem_setPlaces h
  rwa [Query.marks, List.length_map, Nat.zero_add] at lt

/-- Fetching the rows that are selected is filtering. -/
lemma fetch_selected (q : Query) (t : Table) :
    (q.selected t).filterMap t.row? = t.rows.filter fun row => q.Keeps t row := by
  have fetched := filterMap_setPlaces (fun row => (q.filter t).all (·.passes row)) [] t.rows
  refine fetched.trans (List.filter_congr fun row _ => ?_)
  rw [Bool.eq_iff_iff, all_filter_iff, decide_eq_true_iff]

end Query

/-- Every index that answering the query computes for the table is in bounds: those of the selected
columns, that of the column under the condition, and those of the selected rows. -/
structure Query.InBounds (q : Query) (t : Table) : Prop where
  columns : ∀ places, q.selection.places t = .ok places → ∀ place ∈ places,
    place < t.columns.length ∧ ∀ row ∈ t.rows, place < row.length
  condition : ∀ place condition, q.filter t = some (.column place condition) →
    place < t.columns.length ∧ ∀ row ∈ t.rows, place < row.length
  rows : ∀ place ∈ q.selected t, ∃ row, t.row? place = some row

/-- In a well-formed table every row is long enough for every column. -/
lemma Table.WellFormed.lt_length {t : Table} (wf : t.WellFormed) {place : Nat}
    (h : place < t.width) : ∀ row ∈ t.rows, place < row.length := by
  intro row mem
  rw [wf.length_row row mem]
  exact h

/-- Answering a query of a well-formed table stays in bounds. -/
lemma Table.WellFormed.inBounds {t : Table} (wf : t.WellFormed) (q : Query) : q.InBounds t := by
  refine ⟨?_, ?_, ?_⟩
  · intro places resolved place mem
    have lt := (Selection.places_eq_ok_iff.1 resolved).lt_width place mem
    exact ⟨lt, wf.lt_length lt⟩
  · intro place condition bound
    have lt := Query.lt_width_of_filter bound
    exact ⟨lt, wf.lt_length lt⟩
  · intro place mem
    exact ⟨_, List.getElem?_eq_getElem (Query.lt_of_mem_selected mem)⟩

/-- Where all places are in bounds, projecting reads each of them. -/
lemma map_some_project {α : Type} {default : α} {places : List Nat} {entries : List α}
    (h : ∀ place ∈ places, place < entries.length) :
    (project default places entries).map some = places.map (entries[·]?) := by
  rw [project, List.map_map]
  refine List.map_congr_left fun place mem => ?_
  have at_ := List.getElem?_eq_getElem (h place mem)
  simp [List.getD_eq_getElem?_getD, at_]

/-- The columns of an answer are the declared names at the places of the selection. -/
lemma Selection.Resolves.map_some_columns {s : Selection} {t : Table} {places : List Nat}
    (h : s.Resolves t places) :
    (project [] places (t.columns.map Column.name)).map some =
      places.map fun place => t.columns[place]?.map Column.name := by
  rw [map_some_project]
  · exact List.map_congr_left fun place _ => List.getElem?_map
  · intro place mem
    rw [List.length_map]
    exact h.lt_width place mem

/-- The rows of an answer are the values at the places of the selection, in the rows that the query
keeps. -/
lemma Table.WellFormed.map_some_rows {t : Table} (wf : t.WellFormed) (q : Query) {s : Selection}
    {places : List Nat} (h : s.Resolves t places) :
    (((q.selected t).filterMap t.row?).map (project .null places)).map (List.map some) =
      (t.rows.filter fun row => q.Keeps t row).map fun row => places.map (row[·]?) := by
  rw [q.fetch_selected, List.map_map]
  refine List.map_congr_left fun row mem => ?_
  have stored := (List.mem_filter.1 mem).1
  exact map_some_project fun place mem => wf.lt_length (h.lt_width place mem) row stored

end Tabular
