import Mathlib.Data.List.Nodup
import Mathlib.Data.List.TakeWhile
import Tabular.Store.Catalog

/-!
# Well-formed catalogs

A table is well formed when it has a column and each of its rows is as wide as the table; a catalog is
well formed when its tables are, when each table is stored under the key of its own name, and when no
two entries share a key.

* `Table.insertRows_eq` gives inserting as one equation: the rows before the first one that does not
  fit are appended, and that one is the failure.
* `Catalog.WellFormed.put_append` turns the replacement of a table by a longer one into appending rows
  at one key, which is an update of the catalog in place.
* `Catalog.WellFormed.put`, `Catalog.WellFormed.erase` and `Catalog.WellFormed.append` are the
  preservation of well-formedness.
* `Catalog.WellFormed.pairwise_names` and `Catalog.names_perm` describe the list of names.
-/

namespace Tabular

/-- The table has a column, and each row is as wide as the table. -/
structure Table.WellFormed (t : Table) : Prop where
  columns_ne_nil : t.columns ≠ []
  length_row : ∀ row ∈ t.rows, row.length = t.width

/-- Each table is well formed and stored under the key of its name, and no two share a key. -/
structure Catalog.WellFormed (c : Catalog) : Prop where
  keyed : ∀ e ∈ c.entries, e.1 = Name.key e.2.name
  keys_nodup : (c.entries.map Prod.fst).Nodup
  tables : ∀ e ∈ c.entries, e.2.WellFormed

namespace Table

/-- The rows before the first one that is not of the given width. -/
def fitting (width : Nat) (rows : List Row) : List Row := rows.takeWhile (·.length = width)

/-- The first row that is not of the given width. -/
def misfit? (width : Nat) (rows : List Row) : Option Row := rows.find? (·.length != width)

/-- The table with more rows at the end. -/
def append (t : Table) (rows : List Row) : Table := { t with rows := t.rows ++ rows }

@[simp] lemma name_append (t : Table) (rows : List Row) : (t.append rows).name = t.name := rfl

@[simp] lemma columns_append (t : Table) (rows : List Row) :
    (t.append rows).columns = t.columns := rfl

/-- Appending rows leaves the width as it is. -/
lemma width_append (t : Table) (rows : List Row) : (t.append rows).width = t.width := rfl

@[simp] lemma rows_append (t : Table) (rows : List Row) : (t.append rows).rows = t.rows ++ rows := rfl

@[simp] lemma append_nil (t : Table) : t.append [] = t := by
  cases t
  simp [append]

@[simp] lemma append_append (t : Table) (rows rows' : List Row) :
    (t.append rows).append rows' = t.append (rows ++ rows') := by
  simp [append]

/-- Every row before the first misfit fits. -/
lemma length_of_mem_fitting {width : Nat} {rows : List Row} {row : Row}
    (h : row ∈ fitting width rows) : row.length = width := by
  simpa using List.mem_takeWhile_imp h

/-- There is no misfit exactly when all rows are of the given width. -/
lemma misfit?_eq_none_iff {width : Nat} {rows : List Row} :
    misfit? width rows = none ↔ ∀ row ∈ rows, row.length = width := by
  simp [misfit?]

/-- If all rows are of the given width, then all come before a misfit. -/
lemma fitting_eq_self {width : Nat} {rows : List Row} (h : ∀ row ∈ rows, row.length = width) :
    fitting width rows = rows :=
  List.takeWhile_eq_self_iff.2 fun row mem => decide_eq_true (h row mem)

/-- The first misfit stands right after the rows that are kept. -/
lemma fitting_of_misfit? {width : Nat} {rows : List Row} {row : Row}
    (h : misfit? width rows = some row) :
    ∃ k, rows[k]? = some row ∧ row.length ≠ width ∧ fitting width rows = rows.take k := by
  induction rows with
  | nil => cases h
  | cons first rows ih =>
    by_cases fits : first.length = width
    · simp only [misfit?, List.find?_cons, fits, bne_self_eq_false] at h
      obtain ⟨k, found, ne, kept⟩ := ih h
      refine ⟨k + 1, found, ne, ?_⟩
      rw [fitting, List.takeWhile_cons_of_pos (by simpa using fits), List.take_succ_cons]
      exact congrArg _ kept
    · simp only [misfit?, List.find?_cons, bne_iff_ne.2 fits, Option.some.injEq] at h
      subst h
      exact ⟨0, rfl, fits, by simp [fitting, fits]⟩

/-- Inserting rows appends those before the first misfit, and fails at that one. -/
lemma insertRows_eq (t : Table) (rows : List Row) :
    t.insertRows rows = (t.append (fitting t.width rows),
      (misfit? t.width rows).map fun row => .columnCount t.name t.width row.length) := by
  induction rows generalizing t with
  | nil => simp [insertRows, fitting, misfit?]
  | cons row rows ih =>
    by_cases fits : row.length = t.width
    · have step : t.insert row = .ok (t.append [row]) := insert_eq_ok_iff.2 ⟨fits, rfl⟩
      simp only [insertRows, step, ih, name_append, append_append]
      rw [width_append]
      simp [fitting, misfit?, fits]
    · simp [insertRows, insert, fitting, misfit?, fits]

/-- Inserting the join of two lists is inserting one after the other, unless the first one fails. -/
lemma insertRows_append (t : Table) (rows rows' : List Row) :
    t.insertRows (rows ++ rows') =
      match t.insertRows rows with
      | (t', none) => t'.insertRows rows'
      | failed => failed := by
  induction rows generalizing t with
  | nil => rfl
  | cons row rows ih =>
    rw [List.cons_append, insertRows, insertRows]
    cases t.insert row with
    | ok t' => exact ih t'
    | error e => rfl

/-- Appending rows that fit leaves a table well formed. -/
lemma WellFormed.append {t : Table} (wf : t.WellFormed) {rows : List Row}
    (fit : ∀ row ∈ rows, row.length = t.width) : (t.append rows).WellFormed := by
  refine ⟨wf.columns_ne_nil, ?_⟩
  intro row mem
  rw [rows_append, List.mem_append] at mem
  obtain mem | mem := mem
  · exact wf.length_row row mem
  · exact fit row mem

end Table

namespace Catalog

/-- The catalog with more rows at the end of the table found under a name. -/
def append (c : Catalog) (name : Text) (rows : List Row) : Catalog :=
  ⟨c.entries.map fun e => if e.1 = Name.key name then (e.1, e.2.append rows) else e⟩

/-- A table that is found is stored under the key of the name. -/
lemma mem_of_find? {c : Catalog} {name : Text} {t : Table} (h : c.find? name = some t) :
    (Name.key name, t) ∈ c.entries := by
  obtain ⟨before, after, e, _⟩ := List.lookup_eq_some_iff.1 h
  rw [e]
  exact List.mem_append_right _ List.mem_cons_self

/-- Appended rows are found at the end of the one table, and nothing else changes. -/
lemma find?_append (c : Catalog) (name n : Text) (rows : List Row) :
    (c.append name rows).find? n =
      if Name.key n = Name.key name then (c.find? n).map (·.append rows) else c.find? n := by
  obtain ⟨entries⟩ := c
  simp only [find?, append]
  induction entries with
  | nil => simp
  | cons e es ih =>
    obtain ⟨key, t⟩ := e
    by_cases here : key = Name.key name
    · by_cases same : Name.key n = Name.key name
      · simp [here, same]
      · simp only [same, if_false] at ih
        simp [here, same, List.lookup_cons, beq_eq_false_iff_ne.2 same, ih]
    · by_cases found : Name.key n = key
      · simp [here, found]
      · simp [here, List.lookup_cons, beq_eq_false_iff_ne.2 found, ih]

/-- The keys of the entries after putting a table under a key. -/
lemma keys_putEntry (key : Text) (t : Table) (es : List (Text × Table)) :
    (putEntry key t es).map Prod.fst =
      if key ∈ es.map Prod.fst then es.map Prod.fst else es.map Prod.fst ++ [key] := by
  induction es with
  | nil => simp [putEntry]
  | cons e es ih =>
    by_cases here : e.1 = key
    · simp [putEntry, here]
    · simp only [putEntry, here, if_false, List.map_cons, ih, List.mem_cons, Ne.symm here, false_or]
      split
      · rfl
      · rfl

/-- Putting a table under a key adds no other entry. -/
lemma mem_putEntry {key : Text} {t : Table} {es : List (Text × Table)} {e : Text × Table}
    (h : e ∈ putEntry key t es) : e = (key, t) ∨ e ∈ es := by
  induction es with
  | nil => simpa [putEntry] using h
  | cons e' es ih =>
    unfold putEntry at h
    split at h
    · obtain rfl | mem := List.mem_cons.1 h
      · exact .inl rfl
      · exact .inr (List.mem_cons_of_mem _ mem)
    · obtain rfl | mem := List.mem_cons.1 h
      · exact .inr List.mem_cons_self
      · exact (ih mem).imp_right (List.mem_cons_of_mem _)

/-- Nothing is replaced under a key that does not occur. -/
lemma map_of_absent {key : Text} {es : List (Text × Table)} (f : Text × Table → Text × Table)
    (absent : key ∉ es.map Prod.fst) : (es.map fun e => if e.1 = key then f e else e) = es := by
  induction es with
  | nil => rfl
  | cons e es ih =>
    rw [List.map_cons, List.mem_cons, not_or] at absent
    rw [List.map_cons, if_neg (Ne.symm absent.1), ih absent.2]

/-- Putting a table under a key that occurs replaces the entry of that key in place. -/
lemma putEntry_eq_map {key : Text} {t : Table} {es : List (Text × Table)}
    (nodup : (es.map Prod.fst).Nodup) (mem : key ∈ es.map Prod.fst) :
    putEntry key t es = es.map fun e => if e.1 = key then (key, t) else e := by
  induction es with
  | nil => cases mem
  | cons e es ih =>
    rw [List.map_cons, List.nodup_cons] at nodup
    by_cases here : e.1 = key
    · have absent := nodup.1
      rw [here] at absent
      rw [putEntry, if_pos here, List.map_cons, if_pos here, map_of_absent _ absent]
    · have mem' : key ∈ es.map Prod.fst := by simpa [Ne.symm here] using mem
      simp [putEntry, here, ih nodup.2 mem']

/-- Of two entries put under one key the second one stays. -/
lemma putEntry_putEntry (key : Text) (t t' : Table) (es : List (Text × Table)) :
    putEntry key t' (putEntry key t es) = putEntry key t' es := by
  induction es with
  | nil => simp [putEntry]
  | cons e es ih =>
    by_cases here : e.1 = key
    · simp [putEntry, here]
    · simp [putEntry, here, ih]

/-- Of two tables put under one key the second one stays. -/
lemma put_put (c : Catalog) {t t' : Table} (same : Name.key t'.name = Name.key t.name) :
    (c.put t).put t' = c.put t' := by
  rw [put, put, put, same, putEntry_putEntry]

/-- The list of names has each table once. -/
lemma names_perm (c : Catalog) : c.names.Perm (c.entries.map (·.2.name)) :=
  List.mergeSort_perm ..

namespace WellFormed

/-- The empty catalog is well formed. -/
lemma empty : WellFormed {} :=
  ⟨fun _ h => (List.not_mem_nil h).elim, .nil, fun _ h => (List.not_mem_nil h).elim⟩

variable {c : Catalog} (wf : c.WellFormed)
include wf

/-- Every entry is found under its key. -/
lemma lookup_of_mem {e : Text × Table} (mem : e ∈ c.entries) : c.entries.lookup e.1 = some e.2 := by
  have nodup := wf.keys_nodup
  -- a tail of the entries need not be well formed, but its keys are distinct
  clear wf
  obtain ⟨entries⟩ := c
  simp only at mem nodup ⊢
  induction entries with
  | nil => cases mem
  | cons e' es ih =>
    rw [List.map_cons, List.nodup_cons] at nodup
    obtain rfl | mem := List.mem_cons.1 mem
    · exact List.lookup_cons_self
    · have other : e.1 ≠ e'.1 := fun same => nodup.1 (same ▸ List.mem_map_of_mem mem)
      rw [List.lookup_cons, beq_eq_false_iff_ne.2 other]
      exact ih mem nodup.2

/-- Every table is found under its own name. -/
lemma find?_name {e : Text × Table} (mem : e ∈ c.entries) : c.find? e.2.name = some e.2 := by
  have found := wf.lookup_of_mem mem
  rw [wf.keyed e mem] at found
  exact found

/-- A table that is found has a name with the key it is found under. -/
lemma key_name {name : Text} {t : Table} (h : c.find? name = some t) :
    Name.key t.name = Name.key name :=
  (wf.keyed _ (mem_of_find? h)).symm

/-- A table that is found is well formed. -/
lemma table {name : Text} {t : Table} (h : c.find? name = some t) : t.WellFormed :=
  wf.tables _ (mem_of_find? h)

/-- There is one entry under a key. -/
lemma eq_of_key {e e' : Text × Table} (mem : e ∈ c.entries) (mem' : e' ∈ c.entries)
    (same : e.1 = e'.1) : e = e' := by
  have found := wf.lookup_of_mem mem
  rw [same, wf.lookup_of_mem mem', Option.some_inj] at found
  exact Prod.ext same found.symm

/-- No two tables have names with one key. -/
lemma pairwise_key_ne :
    c.entries.Pairwise fun e e' => Name.key e.2.name ≠ Name.key e'.2.name := by
  have distinct := List.pairwise_map.1 wf.keys_nodup
  refine distinct.imp_of_mem ?_
  intro e e' mem mem' ne
  rw [← wf.keyed e mem, ← wf.keyed e' mem']
  exact ne

/-- Putting a well-formed table leaves a catalog well formed. -/
lemma put {t : Table} (wft : t.WellFormed) : (c.put t).WellFormed := by
  refine ⟨?_, ?_, ?_⟩
  · intro e mem
    obtain rfl | mem := mem_putEntry mem
    · rfl
    · exact wf.keyed e mem
  · have nodup := wf.keys_nodup
    rw [Catalog.put, keys_putEntry]
    split
    · exact nodup
    · next new =>
      refine List.nodup_append.2 ⟨nodup, List.nodup_singleton _, ?_⟩
      rintro key mem _ last rfl
      apply new
      rwa [← List.mem_singleton.1 last]
  · intro e mem
    obtain rfl | mem := mem_putEntry mem
    · exact wft
    · exact wf.tables e mem

/-- Erasing a name leaves a catalog well formed. -/
lemma erase (name : Text) : (c.erase name).WellFormed := by
  have sub : (c.erase name).entries.Sublist c.entries := List.filter_sublist
  exact ⟨fun e mem => wf.keyed e (sub.subset mem), wf.keys_nodup.sublist (sub.map _),
    fun e mem => wf.tables e (sub.subset mem)⟩

/-- Appending rows that fit their table leaves a catalog well formed. -/
lemma append {name : Text} {t : Table} {rows : List Row} (h : c.find? name = some t)
    (fit : ∀ row ∈ rows, row.length = t.width) : (c.append name rows).WellFormed := by
  refine ⟨?_, ?_, ?_⟩
  · intro e mem
    obtain ⟨e', mem', rfl⟩ := List.mem_map.1 mem
    split
    · exact wf.keyed e' mem'
    · exact wf.keyed e' mem'
  · have keys : (c.append name rows).entries.map Prod.fst = c.entries.map Prod.fst := by
      rw [Catalog.append, List.map_map]
      refine List.map_congr_left fun e _ => ?_
      simp only [Function.comp]
      split
      · rfl
      · rfl
    rw [keys]
    exact wf.keys_nodup
  · intro e mem
    obtain ⟨e', mem', rfl⟩ := List.mem_map.1 mem
    split
    · next here =>
      have same := wf.eq_of_key mem' (mem_of_find? h) here
      subst same
      exact (wf.tables _ mem').append fit
    · exact wf.tables e' mem'

/-- Replacing the table that a name finds by a longer one appends rows in place. -/
lemma put_append {name : Text} {t : Table} (rows : List Row) (h : c.find? name = some t) :
    c.put (t.append rows) = c.append name rows := by
  have mem := mem_of_find? h
  have key := wf.key_name h
  rw [Catalog.put, Catalog.append, Table.name_append, key,
    putEntry_eq_map wf.keys_nodup (List.mem_map_of_mem mem)]
  congr 1
  refine List.map_congr_left fun e mem' => ?_
  split
  · next here =>
    have same := wf.eq_of_key mem' mem here
    rw [same]
  · rfl

/-- Appending rows lengthens the one table that the name finds and leaves the entries around it. -/
lemma append_split {name : Text} {t : Table} (rows : List Row) (h : c.find? name = some t) :
    ∃ before after, c.entries = before ++ (Name.key name, t) :: after ∧
      c.append name rows = ⟨before ++ (Name.key name, t.append rows) :: after⟩ := by
  have nodup := wf.keys_nodup
  obtain ⟨before, after, split, _⟩ := List.lookup_eq_some_iff.1 h
  refine ⟨before, after, split, ?_⟩
  rw [split, List.map_append, List.map_cons, List.nodup_middle, List.nodup_cons, List.mem_append,
    not_or] at nodup
  obtain ⟨⟨notBefore, notAfter⟩, _⟩ := nodup
  rw [Catalog.append, split, List.map_append, List.map_cons, if_pos rfl, map_of_absent _ notBefore,
    map_of_absent _ notAfter]

/-- The names of a well-formed catalog are strictly increasing. -/
lemma pairwise_names : c.names.Pairwise fun a b => compare a b = .lt := by
  have sorted : c.names.Pairwise fun a b => (compare a b).isLE = true := by
    refine List.pairwise_mergeSort ?_ ?_ _
    · intro a b d
      exact Std.TransOrd.isLE_trans
    · intro a b
      rw [← Std.OrientedCmp.isGE_eq_isLE (a := a), Bool.or_eq_true]
      cases compare a b <;> simp
  have distinct : c.names.Nodup := by
    rw [c.names_perm.nodup_iff]
    refine List.pairwise_map.2 (wf.pairwise_key_ne.imp ?_)
    intro e e' ne same
    exact ne (congrArg Name.key same)
  refine sorted.imp₂ ?_ distinct
  intro a b le ne
  obtain lt | eq := Ordering.isLE_iff_eq_lt_or_eq_eq.1 le
  · exact lt
  · exact (ne (Std.LawfulEqOrd.eq_of_compare eq)).elim

end WellFormed

end Catalog

end Tabular
