import Mathlib.Algebra.Ring.Nat
import Mathlib.Data.List.Forall2
import Mathlib.Order.Bounds.Basic
import Tabular.Proofs.Text.Trim
import Tabular.ResultSet

/-!
# Aligned grids

* `Grid.AreWidths`: each width is the largest number of characters of a cell in its column. The widths of a
  grid are that, since widening by a row keeps it (`Grid.AreWidths.widen`).
* `Grid.Ruled`: a text is as long as the columns and the marks between them, with the marks in their places.
  Slots of these widths that are joined by the marks are ruled (`Grid.ruled_intercalate`), and each of them is
  found at the offset of its column (`Grid.extract_intercalate`).

So in a grid every line is laid out by the same widths, and every cell stands in it in full
(`ResultSet.toGrid_aligned`). A grid is printed exactly when no name and no cell is longer than a column can
be filled up to (`ResultSet.toGrid?_eq_some_iff`).
-/

namespace Tabular

/-- The cells of the grid of a result set, the header first. -/
def ResultSet.table (r : ResultSet) : List (List Text) := r.columns :: r.cells

/-- No name and no cell has more characters than a column can be filled up to. -/
def ResultSet.Narrow (r : ResultSet) : Prop := ∀ cells ∈ r.table, ∀ t ∈ cells, t.length ≤ Grid.widest

instance (r : ResultSet) : Decidable r.Narrow :=
  inferInstanceAs (Decidable (∀ cells ∈ r.table, ∀ t ∈ cells, t.length ≤ Grid.widest))

namespace Grid

/-- Each width is the largest length of a cell in its column. -/
def AreWidths (table : List (List Text)) (widths : List Nat) : Prop :=
  ∀ j w : Nat, widths[j]? = some w →
    IsGreatest {n | ∃ cells ∈ table, ∃ t : Text, cells[j]? = some t ∧ t.length = n} w

/-- Where a column begins on a line: behind the columns before it and a mark behind each of them. -/
def offset (widths : List Nat) (j : Nat) : Nat := (widths.take j).sum + 3 * j

/-- The text is as long as the columns and the marks between them, and in front of each column but the first
it has the mark. -/
structure Ruled (widths : List Nat) (mark text : Text) : Prop where
  length_eq : text.length = widths.sum + 3 * (widths.length - 1)
  mark_eq : ∀ j, j + 1 < widths.length →
    text.extract (offset widths (j + 1) - 3) (offset widths (j + 1)) = mark

/-- Up to blanks at its end, the line is one with each cell in full at the offset of its column, and with
spaces behind it up to the width of the column. -/
def IsLine (widths : List Nat) (cells : List Text) (line : Text) : Prop :=
  ∃ full : Text, full.trimEnd = line ∧ Ruled widths " | ".toList full ∧
    ∀ (j w : Nat) (t : Text), widths[j]? = some w → cells[j]? = some t →
      t.length ≤ w ∧
        full.extract (offset widths j) (offset widths j + w) = t ++ List.replicate (w - t.length) ' '

/-- The line has dashes in place of the columns and crosses between them. -/
def IsSeparator (widths : List Nat) (line : Text) : Prop :=
  Ruled widths "-+-".toList line ∧
    ∀ j w : Nat, widths[j]? = some w →
      line.extract (offset widths j) (offset widths j + w) = List.replicate w '-'

section Widths

variable {table : List (List Text)} {ws : List Nat}

/-- A column is widened to the longer of itself and the cell under it. -/
lemma getElem?_widen (ws ns : List Nat) (j : Nat) :
    (widen ws ns)[j]? = ws[j]?.map fun w => max w (ns[j]?.getD 0) := by
  induction ws generalizing ns j with
  | nil => rfl
  | cons w ws ih =>
    cases ns with
    | nil => simp [widen]
    | cons n ns =>
      cases j with
      | zero => rfl
      | succ j => exact ih ns j

/-- Widening adds no column. -/
lemma length_widen (ws ns : List Nat) : (widen ws ns).length = ws.length := by
  induction ws generalizing ns with
  | nil => rfl
  | cons w ws ih =>
    cases ns with
    | nil => rfl
    | cons n ns => exact congrArg (· + 1) (ih ns)

/-- A header alone has the widths of its names. -/
lemma areWidths_header (header : List Text) : AreWidths [header] (header.map List.length) := by
  intro j w at_
  rw [List.getElem?_map, Option.map_eq_some_iff] at at_
  obtain ⟨t, at_, rfl⟩ := at_
  constructor
  · exact ⟨header, List.mem_singleton_self header, t, at_, rfl⟩
  · rintro n ⟨cells, mem, t', at', rfl⟩
    rw [List.mem_singleton.1 mem, at_] at at'
    cases at'
    exact le_rfl

/-- Widening by a row gives the widths of the table with this row. -/
lemma AreWidths.widen (h : AreWidths table ws) (row : List Text) :
    AreWidths (table ++ [row]) (widen ws (row.map List.length)) := by
  intro j w at_
  rw [getElem?_widen, List.getElem?_map, Option.map_eq_some_iff] at at_
  obtain ⟨v, old, rfl⟩ := at_
  obtain ⟨⟨cells, mem, t, at_, length⟩, bound⟩ := h j v old
  constructor
  · cases new : row[j]? with
    | none => exact ⟨cells, List.mem_append_left _ mem, t, at_, by simp [length]⟩
    | some u =>
      obtain le | lt := le_or_gt u.length v
      · exact ⟨cells, List.mem_append_left _ mem, t, at_, by simp [length, le]⟩
      · refine ⟨row, List.mem_append_right _ (List.mem_singleton_self row), u, new, ?_⟩
        simp [lt.le]
  · rintro n ⟨cells', mem', t', at', rfl⟩
    obtain mem' | mem' := List.mem_append.1 mem'
    · exact (bound ⟨cells', mem', t', at', rfl⟩).trans (le_max_left _ _)
    · rw [List.mem_singleton.1 mem'] at at'
      simp [at']

/-- Widths that are widened by more rows are the widths of the larger table. -/
lemma areWidths_foldl (h : AreWidths table ws) (rows : List (List Text)) :
    AreWidths (table ++ rows)
      (rows.foldl (fun ws row => Grid.widen ws (row.map List.length)) ws) := by
  induction rows generalizing table ws with
  | nil => rwa [List.append_nil]
  | cons row rows ih => exact List.append_cons table row rows ▸ ih (h.widen row)

/-- The widths of a grid are those of its header and its rows. -/
lemma areWidths_widths (header : List Text) (rows : List (List Text)) :
    AreWidths (header :: rows) (widths header rows) :=
  areWidths_foldl (areWidths_header header) rows

/-- A grid has a width for each name of its header. -/
lemma length_widths (header : List Text) (rows : List (List Text)) :
    (widths header rows).length = header.length := by
  suffices all : ∀ ws : List Nat,
      (rows.foldl (fun ws row => widen ws (row.map List.length)) ws).length = ws.length by
    rw [widths, all, List.length_map]
  intro ws
  induction rows generalizing ws with
  | nil => rfl
  | cons row rows ih => exact (ih _).trans (length_widen ws _)

end Widths

section Ruled

variable {mark : Text}

@[simp] lemma offset_zero (ws : List Nat) : offset ws 0 = 0 := rfl

/-- A column in front takes its width and the mark behind it. -/
lemma offset_cons_succ (w : Nat) (ws : List Nat) (j : Nat) :
    offset (w :: ws) (j + 1) = w + 3 + offset ws j := by
  rw [offset, offset, List.take_succ_cons, List.sum_cons]
  omega

/-- Behind a text in front, parts are found farther on. -/
lemma extract_append (t u : Text) (p q : Nat) :
    (t ++ u).extract (t.length + p) (t.length + q) = u.extract p q := by
  rw [List.extract_eq_take_drop, List.extract_eq_take_drop, List.drop_length_add_append, Nat.add_sub_add_left]

/-- What stands in front is found there. -/
lemma extract_left (t u : Text) : (t ++ u).extract 0 t.length = t := by
  rw [List.extract_eq_take_drop, List.drop_zero, Nat.sub_zero, List.take_left]

/-- Behind a first slot and a mark, the other columns are found farther on. -/
lemma extract_cons (three : mark.length = 3) (slot rest : Text) (p q : Nat) :
    (slot ++ mark ++ rest).extract (slot.length + 3 + p) (slot.length + 3 + q) = rest.extract p q := by
  rw [← three, ← List.length_append]
  exact extract_append (slot ++ mark) rest p q

/-- Slots that are joined by marks are ruled by their lengths. -/
lemma ruled_intercalate (three : mark.length = 3) (slots : List Text) :
    Ruled (slots.map List.length) mark (mark.intercalate slots) := by
  induction slots with
  | nil => exact ⟨rfl, fun j lt => absurd lt (Nat.not_lt_zero _)⟩
  | cons slot slots ih =>
    cases slots with
    | nil =>
      refine ⟨by simp, fun j lt => ?_⟩
      exact absurd (Nat.lt_of_succ_lt_succ lt) (Nat.not_lt_zero j)
    | cons slot' slots =>
      rw [List.intercalate_cons_cons, List.map_cons]
      constructor
      · have length := ih.length_eq
        rw [List.length_append, List.length_append, length, three, List.sum_cons, List.length_cons,
          List.map_cons, List.length_cons]
        omega
      · intro j lt
        cases j with
        | zero =>
          have first := extract_append slot (mark ++ mark.intercalate (slot' :: slots)) 0 mark.length
          rw [extract_left, three, ← List.append_assoc] at first
          simpa [offset_cons_succ] using first
        | succ j =>
          have later := ih.mark_eq j (Nat.lt_of_succ_lt_succ lt)
          have le : 3 ≤ offset ((slot' :: slots).map List.length) (j + 1) := by
            rw [offset]
            omega
          rw [offset_cons_succ, Nat.add_sub_assoc le, extract_cons three, later]

/-- Each slot is found at the offset of its column. -/
lemma extract_intercalate (three : mark.length = 3) {slots : List Text} {j : Nat} {slot : Text}
    (at_ : slots[j]? = some slot) :
    (mark.intercalate slots).extract (offset (slots.map List.length) j)
      (offset (slots.map List.length) j + slot.length) = slot := by
  induction slots generalizing j with
  | nil => cases at_
  | cons first slots ih =>
    cases j with
    | zero =>
      cases at_
      rw [offset_zero, Nat.zero_add]
      cases slots with
      | nil => simp
      | cons second slots =>
        rw [List.intercalate_cons_cons, List.append_assoc]
        exact extract_left slot _
    | succ j =>
      have at_ : slots[j]? = some slot := at_
      cases slots with
      | nil => cases at_
      | cons second slots =>
        rw [List.intercalate_cons_cons, List.map_cons, offset_cons_succ, Nat.add_assoc _ _ slot.length,
          extract_cons three]
        exact ih at_

end Ruled

section Lines

variable {ws : List Nat}

/-- The text of a line of cells. -/
def content (widths : List Nat) (cells : List Text) : Text :=
  Text.trimEnd (" | ".toList.intercalate (List.zipWith Text.padTo widths cells))

/-- The text of the line between the header and the rows. -/
def rule (widths : List Nat) : Text := "-+-".toList.intercalate (widths.map (List.replicate · '-'))

/-- A cell that fits is filled up to the width of its column. -/
lemma length_padTo {w : Nat} {t : Text} (le : t.length ≤ w) : (t.padTo w).length = w := by
  rw [Text.padTo, List.length_append, List.length_replicate]
  omega

/-- Cells that fit their columns are laid out on a line. -/
lemma isLine_content {cells : List Text} (length : cells.length = ws.length)
    (fit : ∀ (j w : Nat) (t : Text), ws[j]? = some w → cells[j]? = some t → t.length ≤ w) :
    IsLine ws cells (content ws cells) := by
  have slots : (List.zipWith Text.padTo ws cells).map List.length = ws := by
    apply List.ext_getElem (by simp [length])
    intro j lt lt'
    rw [List.getElem_map, List.getElem_zipWith]
    exact length_padTo (fit j _ _ (List.getElem?_eq_getElem _) (List.getElem?_eq_getElem _))
  have three : " | ".toList.length = 3 := rfl
  have ruled := ruled_intercalate three (List.zipWith Text.padTo ws cells)
  rw [slots] at ruled
  refine ⟨_, rfl, ruled, fun j w t width at_ => ⟨fit j w t width at_, ?_⟩⟩
  have slot : (List.zipWith Text.padTo ws cells)[j]? = some (t.padTo w) := by
    rw [List.getElem?_zipWith, width, at_]
  have found := extract_intercalate three slot
  rwa [slots, length_padTo (fit j w t width at_)] at found

/-- The rule separates the header from the rows. -/
lemma isSeparator_rule (ws : List Nat) : IsSeparator ws (rule ws) := by
  have slots : (ws.map (List.replicate · '-')).map List.length = ws := by
    have same : List.length ∘ (List.replicate · '-') = id := funext fun _ => List.length_replicate
    rw [List.map_map, same, List.map_id]
  have three : "-+-".toList.length = 3 := rfl
  have ruled := ruled_intercalate three (ws.map (List.replicate · '-'))
  rw [slots] at ruled
  refine ⟨ruled, fun j w width => ?_⟩
  have slot : (ws.map (List.replicate · '-'))[j]? = some (List.replicate w '-') := by
    rw [List.getElem?_map, width]
    rfl
  have found := extract_intercalate three slot
  rwa [slots, List.length_replicate] at found

end Lines

section Newlines

variable {ws : List Nat} {cells : List Text} {c : Char}

/-- A join has no character that neither its parts nor the mark between them have. -/
lemma not_mem_intercalate {mark : Text} {slots : List Text} (hm : c ∉ mark) (hs : ∀ t ∈ slots, c ∉ t) :
    c ∉ mark.intercalate slots := by
  induction slots with
  | nil => exact List.not_mem_nil
  | cons slot slots ih =>
    obtain ⟨first, others⟩ := List.forall_mem_cons.1 hs
    cases slots with
    | nil => rwa [List.intercalate_singleton]
    | cons slot' slots =>
      rw [List.intercalate_cons_cons, List.mem_append, List.mem_append]
      exact not_or.2 ⟨not_or.2 ⟨first, hm⟩, ih others⟩

/-- Filling up a cell adds no character but spaces. -/
lemma not_mem_padTo {w : Nat} {t : Text} (ne : c ≠ ' ') (h : c ∉ t) : c ∉ t.padTo w := by
  rw [Text.padTo, List.mem_append]
  exact not_or.2 ⟨h, fun mem => ne (List.eq_of_mem_replicate mem)⟩

/-- Cells without line breaks are laid out on one line. -/
lemma newline_not_mem_content (oneLine : ∀ t ∈ cells, '\n' ∉ t) : '\n' ∉ content ws cells := by
  have padded : ∀ t ∈ List.zipWith Text.padTo ws cells, '\n' ∉ t := by
    rw [← List.map_uncurry_zip_eq_zipWith, List.forall_mem_map]
    rintro ⟨w, t⟩ mem
    exact not_mem_padTo (by decide) (oneLine t (List.of_mem_zip mem).2)
  intro mem
  exact not_mem_intercalate (by decide) padded ((List.rdropWhile_prefix Text.isBlank _).subset mem)

/-- The rule is one line. -/
lemma newline_not_mem_rule (ws : List Nat) : '\n' ∉ rule ws := by
  apply not_mem_intercalate (by decide)
  rw [List.forall_mem_map]
  exact fun w _ mem => absurd (List.eq_of_mem_replicate mem) (by decide)

/-- The count of the rows is one line. -/
lemma newline_not_mem_footer (count : Nat) : '\n' ∉ footer count := by
  have digits : '\n' ∉ Nat.toDigits 10 count := fun mem =>
    absurd (Nat.isDigit_of_mem_toDigits (by decide) (by decide) mem) (by decide)
  have word : '\n' ∉ (if count = 1 then " row)" else " rows)").toList := by
    split
    · decide
    · decide
  rw [footer, List.cons_append, List.mem_cons, List.mem_append]
  exact not_or.2 ⟨by decide, not_or.2 ⟨digits, word⟩⟩

/-- Lines that end in a newline, with one more line behind them, are lines joined by newlines. -/
lemma flatMap_newline_append (lines : List Text) (last : Text) :
    lines.flatMap (· ++ ['\n']) ++ last = ['\n'].intercalate (lines ++ [last]) := by
  induction lines with
  | nil => simp
  | cons line lines ih =>
    rw [List.flatMap_cons, List.append_assoc, ih, List.cons_append,
      List.intercalate_cons_of_ne_nil (List.append_ne_nil_of_right_ne_nil _ (List.cons_ne_nil _ _))]

end Newlines

/-- The lines of a grid. -/
lemma splitOn_render {header : List Text} {rows : List (List Text)}
    (oneLine : ∀ cells ∈ header :: rows, ∀ t ∈ cells, '\n' ∉ t) :
    (render header rows).splitOn '\n' =
      content (widths header rows) header :: rule (widths header rows) ::
        rows.map (content (widths header rows)) ++ [footer rows.length] := by
  obtain ⟨first, others⟩ := List.forall_mem_cons.1 oneLine
  have joined : render header rows = ['\n'].intercalate
      (content (widths header rows) header :: rule (widths header rows) ::
        rows.map (content (widths header rows)) ++ [footer rows.length]) := by
    rw [← flatMap_newline_append, List.flatMap_cons, List.flatMap_cons, List.flatMap_map,
      ← List.append_assoc]
    rfl
  rw [joined]
  apply List.splitOn_intercalate
  · rw [List.forall_mem_append, List.forall_mem_cons, List.forall_mem_cons, List.forall_mem_map,
      List.forall_mem_singleton]
    exact ⟨⟨newline_not_mem_content first, newline_not_mem_rule _,
      fun row mem => newline_not_mem_content (others row mem)⟩, newline_not_mem_footer _⟩
  · exact List.cons_ne_nil _ _

end Grid

namespace ResultSet
open Grid

/-- A grid is printed when no name and no cell in it is too long. -/
lemma toGrid?_of_narrow {r : ResultSet} (narrow : r.Narrow) : r.toGrid? = some r.toGrid := by
  have all : ∀ w ∈ widths r.columns r.cells, w ≤ widest := by
    intro w mem
    obtain ⟨j, width⟩ := List.getElem?_of_mem mem
    -- the width of a column is the length of one of its cells
    obtain ⟨⟨cells, mem', t, at_, rfl⟩, -⟩ := areWidths_widths r.columns r.cells j w width
    exact narrow cells mem' t (List.mem_of_getElem? at_)
  exact if_pos (by simpa using all)

/-- A grid whose rows are as long as its header is printed only when no name and no cell is too long. -/
lemma toGrid?_eq_some_iff {r : ResultSet} (rows : ∀ row ∈ r.rows, row.length = r.columns.length) :
    r.toGrid? = some r.toGrid ↔ r.Narrow := by
  refine ⟨fun printed cells mem t mem' => ?_, toGrid?_of_narrow⟩
  have all : ∀ w ∈ widths r.columns r.cells, w ≤ widest := by
    unfold toGrid? at printed
    split at printed
    · next all => simpa using all
    · cases printed
  have length : cells.length = r.columns.length := by
    obtain rfl | mem := List.mem_cons.1 mem
    · rfl
    · obtain ⟨row, stored, rfl⟩ := List.mem_map.1 mem
      rw [List.length_map, rows row stored]
  obtain ⟨j, at_⟩ := List.getElem?_of_mem mem'
  obtain ⟨lt, -⟩ := List.getElem?_eq_some_iff.1 at_
  have width : (widths r.columns r.cells)[j]? = some _ :=
    List.getElem?_eq_getElem (by rw [length_widths, ← length]; exact lt)
  have le := (areWidths_widths r.columns r.cells j _ width).2 ⟨cells, mem, t, at_, rfl⟩
  exact le.trans (all _ (List.mem_of_getElem? width))

/-- The grid of a result set with columns, whose rows are as long as the header and whose cells have no
newline, is printed exactly when no name and no cell is too long. It has a header, a separator, a line for
each row, and a footer. There are widths, each the largest number of characters in its column, by which all
of them are laid out: the header and the rows with every cell in full at the offset of its column, and the
separator with its crosses between the columns. -/
theorem toGrid_aligned {r : ResultSet} (columns : r.columns ≠ [])
    (rows : ∀ row ∈ r.rows, row.length = r.columns.length)
    (oneLine : ∀ cells ∈ r.table, ∀ t ∈ cells, '\n' ∉ t) :
    (r.toGrid? = some r.toGrid ↔ r.Narrow) ∧
    ∃ widths header separator lines,
      widths.length = r.columns.length ∧ AreWidths r.table widths ∧
      r.toGrid.splitOn '\n' = header :: separator :: lines ++ [footer r.rows.length] ∧
      (r.toGrid.splitOn '\n').length = r.rows.length + 3 ∧
      IsLine widths r.columns header ∧ IsSeparator widths separator ∧
      List.Forall₂ (fun row line => IsLine widths (row.map Value.toText) line) r.rows lines := by
  have grid : r.toGrid = render r.columns r.cells := if_neg (by simpa using columns)
  have length := length_widths r.columns r.cells
  have widest := areWidths_widths r.columns r.cells
  have split := splitOn_render oneLine
  rw [← grid, cells, List.length_map] at split
  have isLine : ∀ cells ∈ r.table, cells.length = r.columns.length → IsLine _ cells _ :=
    fun cells mem same => isLine_content (same.trans length.symm)
      fun j w t width at_ => (widest j w width).2 ⟨cells, mem, t, at_, rfl⟩
  refine ⟨toGrid?_eq_some_iff rows, _, _, _, _, length, widest, split, ?lines,
    isLine _ List.mem_cons_self rfl, isSeparator_rule _, ?rows⟩
  case lines =>
    rw [split]
    simp
  case rows =>
    rw [List.map_map, List.forall₂_map_right_iff, List.forall₂_same]
    intro row mem
    apply isLine _ (List.mem_cons_of_mem _ (List.mem_map_of_mem mem))
    rw [List.length_map, rows row mem]

/-- A result set with an accented letter and an empty cell at the end of a row. -/
def sampleGrid : ResultSet where
  columns := ["id".toList, "name".toList]
  rows := [[.int 1, .text "café, b".toList], [.int 22, .null], [.bool true, .text []]]

/-- The grid of the sample is printed. It has six lines, and its rows are laid out by the widths of its
columns. -/
theorem toGrid_aligned_sample :
    sampleGrid.toGrid? = some sampleGrid.toGrid ∧
    (sampleGrid.toGrid.splitOn '\n').length = 6 ∧
      ∃ widths lines, widths.length = 2 ∧ AreWidths sampleGrid.table widths ∧
        List.Forall₂ (fun row line => IsLine widths (row.map Value.toText) line) sampleGrid.rows lines := by
  obtain ⟨printed, widths, _, _, lines, length, widest, -, count, -, -, rows⟩ :=
    @toGrid_aligned sampleGrid (by decide) (by decide) (by decide +kernel)
  exact ⟨printed.2 (by decide +kernel), count, widths, lines, length, widest, rows⟩

end ResultSet

end Tabular
