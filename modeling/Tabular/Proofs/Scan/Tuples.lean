import Tabular.Proofs.Traversal
import Tabular.Proofs.Value.Quote

/-!
# Lists of tuples

`Tuples.Listed` is a list as it is written: items between commas, with any blanks around each of them.
When a scan passes over every item, the pieces of the list are its items with their blanks
(`Tuples.Listed.forall₂_pieces`). Exactly the lists of closed tuples are cut into tuples
(`Tuples.split_eq_ok_iff`), so a comma between two lists makes them one (`Tuples.split_append`).

Rows of texts are written as lists of quoted literals in parentheses (`Tuples.Spells`). Unless a text
ends in a backslash, such a list is read back as the same rows (`Tuples.rows_of_spells`).
-/

namespace Tabular.Tuples
open Text (Padded Tight)
open Scan (Passes start)

/-- The text lists the items, with commas between them and blanks around each. -/
inductive Listed : List Text → Text → Prop where
  | nil {blanks} :
    blanks.allBlank →
    Listed [] blanks
  | last {t u} :
    Padded t u →
    Listed [t] u
  | cons {t u ts v} :
    Padded t u →
    ts ≠ [] →
    Listed ts v →
    Listed (t :: ts) (u ++ ',' :: v)

/-- The text in parentheses. -/
def enclose (t : Text) : Text := '(' :: t ++ [')']

/-- The text lists one tuple of quoted literals for each row. -/
def Spells (rows : List (List Text)) (list : Text) : Prop :=
  ∃ inners,
    List.Forall₂ (fun row inner => Listed (row.map Value.quote) inner) rows inners ∧
    Listed (inners.map enclose) list

/-- A text in parentheses has no blanks at its ends. -/
lemma tight_enclose (t : Text) : Tight (enclose t) := by
  constructor
  · rintro c ⟨⟩
    rfl
  · intro c mem
    rw [enclose, List.getLast?_append] at mem
    cases mem
    rfl

section

variable {nesting : Bool}

/-- A scan for commas that passes over a text passes over it with blanks around it. -/
lemma passes_padded {t u : Text} (h : Passes ',' nesting t) (padded : Padded t u) :
    Passes ',' nesting u := by
  obtain ⟨left, right, hl, hr, rfl⟩ := padded
  exact ((Scan.passes_blanks (d := ',') rfl hl).append h).append (Scan.passes_blanks (d := ',') rfl hr)

lemma ordinary_comma : Scan.Ordinary ',' := by
  simp [Scan.Ordinary]

namespace Listed

/-- A list of texts that a scan passes over leaves the scan as at its start. -/
lemma after_eq {ts : List Text} {u : Text} (h : Listed ts u) (pass : ∀ t ∈ ts, Passes ',' nesting t) :
    start.after nesting u = start := by
  induction h with
  | nil blank => exact (Scan.passes_blanks (d := ',') rfl blank).after_eq
  | last padded => exact (passes_padded (pass _ List.mem_cons_self) padded).after_eq
  | cons padded _ _ ih =>
    obtain ⟨first, others⟩ := List.forall_mem_cons.1 pass
    rw [Scan.after_append, (passes_padded first padded).after_eq, Scan.after_cons,
      Scan.resting_start.next ordinary_comma, ih others]

/-- The pieces of a list are its items with the blanks around them. -/
lemma forall₂_pieces {ts : List Text} {u : Text} (h : Listed ts u) (ne : ts ≠ [])
    (pass : ∀ t ∈ ts, Passes ',' nesting t) :
    List.Forall₂ Padded ts (start.pieces ',' nesting u) := by
  induction h with
  | nil _ => exact absurd rfl ne
  | last padded =>
    have all := passes_padded (pass _ List.mem_cons_self) padded
    rw [Scan.pieces_eq_singleton_iff.2 all.uncut]
    exact .cons padded .nil
  | cons padded ne' _ ih =>
    obtain ⟨first, others⟩ := List.forall_mem_cons.1 pass
    have all := passes_padded first padded
    have rest : (start.after nesting _).Resting := all.after_eq.symm ▸ Scan.resting_start
    -- the comma behind the first item is a cut, and the other items are scanned from the start again
    rw [Scan.pieces_append_delimiter ordinary_comma rest, Scan.pieces_eq_singleton_iff.2 all.uncut]
    exact .cons padded (ih ne' others)

/-- A list holds the characters of its texts. -/
lemma mem {ts : List Text} {u t : Text} {c : Char} (h : Listed ts u) (ht : t ∈ ts) (hc : c ∈ t) :
    c ∈ u := by
  have padded_mem : ∀ {t u : Text}, Padded t u → c ∈ t → c ∈ u := by
    rintro t u ⟨left, right, _, _, rfl⟩ hc
    simp [hc]
  induction h with
  | nil _ => cases ht
  | last padded =>
    rw [List.mem_singleton.1 ht] at hc
    exact padded_mem padded hc
  | cons padded _ _ ih =>
    rw [List.mem_append]
    obtain rfl | ht := List.mem_cons.1 ht
    · exact .inl (padded_mem padded hc)
    · exact .inr (List.mem_cons_of_mem _ (ih ht))

/-- A list may have more blanks in front. -/
lemma append_left {ts : List Text} {u : Text} (h : Listed ts u) (blanks : Text)
    (blank : blanks.allBlank) :
    Listed ts (blanks ++ u) := by
  cases h with
  | nil blank' => exact .nil (by simp_all [Text.allBlank])
  | last padded => exact .last (padded.append_left blank)
  | cons padded ne rest =>
    rw [← List.append_assoc]
    exact .cons (padded.append_left blank) ne rest

/-- The blanks at the end of a list follow its last item, and without them it is the same list. -/
lemma exists_end {ts : List Text} {u : Text} (h : Listed ts u) (ne : ts ≠ []) :
    ∃ before t blanks, t ∈ ts ∧ blanks.allBlank ∧ u = before ++ t ++ blanks ∧
      Listed ts (before ++ t) := by
  induction h with
  | nil _ => exact absurd rfl ne
  | @last t u padded =>
    obtain ⟨left, right, hl, hr, rfl⟩ := padded
    exact ⟨left, t, right, List.mem_cons_self, hr, rfl, .last ⟨left, [], hl, rfl, by simp⟩⟩
  | @cons t u ts v padded ne' _ ih =>
    obtain ⟨before, t', blanks, mem, blank, rfl, listed⟩ := ih ne'
    refine ⟨u ++ ',' :: before, t', blanks, List.mem_cons_of_mem _ mem, blank, by simp, ?_⟩
    have whole := Listed.cons padded ne' listed
    simpa using whole

/-- A list may have more blanks at the end. -/
lemma append_right {ts : List Text} {u : Text} (h : Listed ts u) (blanks : Text)
    (blank : blanks.allBlank) :
    Listed ts (u ++ blanks) := by
  induction h with
  | nil blank' => exact .nil (Text.allBlank_append blank' blank)
  | last padded => exact .last (padded.append_right blank)
  | cons padded ne _ ih =>
    rw [List.append_assoc]
    exact .cons padded ne ih

/-- A comma between two lists makes them one. -/
lemma append {ts ts' : List Text} {u v : Text} (h : Listed ts u) (ne : ts ≠ [])
    (h' : Listed ts' v) (ne' : ts' ≠ []) : Listed (ts ++ ts') (u ++ ',' :: v) := by
  induction h with
  | nil _ => exact absurd rfl ne
  | last padded => exact .cons padded ne' h'
  | cons padded ne'' _ ih =>
    rw [List.append_assoc]
    exact .cons padded (List.append_ne_nil_of_left_ne_nil ne'' _) (ih ne'')

/-- A list that is not blank has at least one text. -/
lemma ne_nil {ts : List Text} {u : Text} (h : Listed ts u) (notBlank : u.allBlank = false) :
    ts ≠ [] := by
  rintro rfl
  cases h with
  | nil blank =>
    rw [notBlank] at blank
    cases blank

/-- The join of padded items lists them. -/
lemma of_forall₂_padded {ts us : List Text} (h : List.Forall₂ Padded ts us) (ne : ts ≠ []) :
    Listed ts ([','].intercalate us) := by
  induction h with
  | nil => exact absurd rfl ne
  | @cons t u ts us padded rest ih =>
    cases rest with
    | nil =>
      rw [List.intercalate_singleton]
      exact .last padded
    | cons _ _ =>
      rw [List.intercalate_cons_of_ne_nil (List.cons_ne_nil _ _), List.append_assoc]
      exact .cons padded (List.cons_ne_nil _ _) (ih (List.cons_ne_nil _ _))

end Listed

end

/-- A list of texts that a scan passes over is closed. -/
lemma isClosed_of_listed {ts : List Text} {u : Text} (h : Listed ts u)
    (pass : ∀ t ∈ ts, Passes ',' true t) : isClosed u := by
  rw [← Scan.resting_nested_iff, h.after_eq pass]
  exact Scan.resting_start

/-- A closed text in parentheses, with blanks around them, is one tuple. -/
lemma tuple_eq_ok {inner piece : Text} (closed : isClosed inner) (h : Padded (enclose inner) piece) :
    tuple piece = .ok inner := by
  have trimmed : piece.trim = '(' :: (inner ++ [')']) := (tight_enclose inner).trim_eq h
  simp [tuple, inside?, trimmed, closed]

/-- What is read as a tuple is a closed text in parentheses. -/
lemma of_tuple_eq_ok {inner piece : Text} (h : tuple piece = .ok inner) :
    isClosed inner ∧ Padded (enclose inner) piece := by
  have inside : inside? piece = some inner := by
    unfold tuple at h
    split at h
    · next found =>
      cases h
      exact found
    · cases h
  unfold inside? at inside
  split at inside
  · next t trimmed =>
    split at inside
    · next both =>
      cases inside
      obtain ⟨last, closed⟩ := Bool.and_eq_true_iff.1 both
      have enclosed : enclose t.dropLast = piece.trim := by
        have parts := List.dropLast_append_getLast? ')' (of_decide_eq_true last)
        rw [trimmed, enclose, List.cons_append, parts]
      exact ⟨closed, enclosed ▸ Text.padded_trim piece⟩
    · cases inside
  · cases inside

/-- A scan passes over closed texts in parentheses. -/
lemma passes_map_enclose {inners : List Text} (closed : ∀ t ∈ inners, isClosed t) :
    ∀ t ∈ inners.map enclose, Passes ',' true t := by
  intro t mem
  obtain ⟨inner, mem', rfl⟩ := List.mem_map.1 mem
  exact Scan.passes_enclose (closed inner mem')

/-- A list of closed tuples is cut into them. -/
lemma split_eq_ok {inners : List Text} {list : Text} (closed : ∀ t ∈ inners, isClosed t)
    (h : Listed (inners.map enclose) list) : split list = .ok inners := by
  have pass := passes_map_enclose closed
  cases inners with
  | nil =>
    cases h with
    | nil blank => rw [split, if_pos blank]
  | cons inner inners =>
    have paren : '(' ∈ list := h.mem (t := enclose inner) (by simp) (by simp [enclose])
    have notBlank : ¬ list.allBlank := Text.not_allBlank_of_mem paren rfl
    have rest : nested list = start := h.after_eq pass
    have pieces := List.forall₂_map_left_iff.1 (h.forall₂_pieces (by simp) pass)
    rw [split, if_neg notBlank, rest]
    have all := (List.forall₂_and_left _ _).2 ⟨closed, pieces⟩
    exact mapM_eq_ok_iff.2 (all.flip.imp fun _ _ both => tuple_eq_ok both.1 both.2)

/-- Exactly the lists of closed tuples are cut into tuples. -/
theorem split_eq_ok_iff {inners : List Text} {list : Text} :
    split list = .ok inners ↔ (∀ t ∈ inners, isClosed t) ∧ Listed (inners.map enclose) list := by
  constructor
  · intro h
    unfold split at h
    split at h
    · next blank =>
      cases h
      exact ⟨nofun, .nil blank⟩
    split at h
    · cases h
    split at h
    · cases h
    · have each := (mapM_eq_ok_iff.1 h).imp fun _ _ => of_tuple_eq_ok
      obtain ⟨closed, padded⟩ := (List.forall₂_and_left _ _).1 each.flip
      have ne : inners ≠ [] := by
        rintro rfl
        exact Scan.pieces_ne_nil _ _ _ _ (List.forall₂_nil_left_iff.1 padded)
      have joined := Listed.of_forall₂_padded (List.forall₂_map_left_iff.2 padded)
        (mt List.map_eq_nil_iff.1 ne)
      rw [Scan.intercalate_pieces] at joined
      exact ⟨closed, joined⟩
  · rintro ⟨closed, listed⟩
    exact split_eq_ok closed listed

/-- Two lists with a comma between them, and any blanks around it, are cut into the tuples of both. -/
lemma split_append {inners inners' : List Text} {list list' left right : Text}
    (h : split list = .ok inners) (notBlank : list.allBlank = false)
    (h' : split list' = .ok inners') (notBlank' : list'.allBlank = false)
    (hl : left.allBlank) (hr : right.allBlank) :
    split (list ++ left ++ ',' :: (right ++ list')) = .ok (inners ++ inners') := by
  obtain ⟨closed, listed⟩ := split_eq_ok_iff.1 h
  obtain ⟨closed', listed'⟩ := split_eq_ok_iff.1 h'
  rw [split_eq_ok_iff, List.map_append]
  constructor
  · intro t mem
    obtain mem | mem := List.mem_append.1 mem
    · exact closed t mem
    · exact closed' t mem
  · have first := listed.append_right left hl
    have second := listed'.append_left right hr
    exact first.append (listed.ne_nil notBlank) second (listed'.ne_nil notBlank')

/-- A scan passes over the literals of texts that end in no backslash. -/
lemma passes_quotes (nesting : Bool) {texts : List Text}
    (last : ∀ t ∈ texts, t.getLast? ≠ some '\\') :
    ∀ u ∈ texts.map Value.quote, Passes ',' nesting u := by
  intro u mem
  obtain ⟨t, mem', rfl⟩ := List.mem_map.1 mem
  exact Scan.passes_quote (by decide) (last t mem')

/-- A tuple of quoted texts is read as their values. -/
lemma row_of_listed {texts : List Text} {inner : Text} (h : Listed (texts.map Value.quote) inner)
    (last : ∀ t ∈ texts, t.getLast? ≠ some '\\') : row inner = texts.map Value.ofScalar := by
  cases texts with
  | nil =>
    cases h with
    | nil blank => rw [row, literals, if_pos blank, List.map_nil, List.map_nil]
  | cons t texts =>
    have quote : '\'' ∈ inner := h.mem (t := Value.quote t) (by simp) (by simp [Value.quote])
    have notBlank : ¬ inner.allBlank := Text.not_allBlank_of_mem quote rfl
    have pieces := h.forall₂_pieces (by simp) (passes_quotes false last)
    rw [List.forall₂_map_left_iff] at pieces
    rw [row, literals, if_neg notBlank, List.map_map, ← List.forall₂_eq_eq_eq,
      List.forall₂_map_left_iff, List.forall₂_map_right_iff]
    refine pieces.flip.imp fun piece t padded => ?_
    rw [Function.comp_apply, Value.ofLiteral, (Value.tight_quote t).trim_eq padded,
      Value.unquote_of_padded_quote (.refl _)]

/-- A list that spells rows of texts is cut into tuples that are read as these rows. -/
lemma split_of_spells {rows : List (List Text)} {list : Text} (h : Spells rows list)
    (last : ∀ row ∈ rows, ∀ t ∈ row, t.getLast? ≠ some '\\') :
    ∃ inners, split list = .ok inners ∧ inners.map row = rows.map (List.map Value.ofScalar) := by
  obtain ⟨inners, spelled, listed⟩ := h
  have each : List.Forall₂ (fun inner texts => isClosed inner ∧ row inner = texts.map Value.ofScalar)
      inners rows := by
    have all := (List.forall₂_and_left _ _).2 ⟨last, spelled⟩
    refine all.flip.imp fun inner texts both => ?_
    exact ⟨isClosed_of_listed both.2 (passes_quotes true both.1), row_of_listed both.2 both.1⟩
  obtain ⟨closed, values⟩ := (List.forall₂_and_left _ _).1 each
  refine ⟨inners, split_eq_ok closed listed, ?_⟩
  rwa [← List.forall₂_eq_eq_eq, List.forall₂_map_left_iff, List.forall₂_map_right_iff]

/-- A list that spells rows of texts is read as these rows. -/
lemma rows_of_spells {rows : List (List Text)} {list : Text} (h : Spells rows list)
    (last : ∀ row ∈ rows, ∀ t ∈ row, t.getLast? ≠ some '\\') :
    Tuples.rows list = .ok (rows.map (List.map Value.ofScalar)) := by
  obtain ⟨inners, split, values⟩ := split_of_spells h last
  rw [Tuples.rows, split, ← values]
  rfl

/-- Each value of the rows that are read is that of a literal. -/
lemma exists_literal_of_rows {list : Text} {rows : List Row} (h : Tuples.rows list = .ok rows) :
    ∀ row ∈ rows, ∀ v ∈ row, ∃ token, v = Value.ofLiteral token := by
  rw [Tuples.rows] at h
  cases inside : split list with
  | error fault =>
    rw [inside] at h
    cases h
  | ok inners =>
    rw [inside] at h
    cases h
    intro row mem v mem'
    obtain ⟨inner, _, rfl⟩ := List.mem_map.1 mem
    obtain ⟨token, _, rfl⟩ := List.mem_map.1 mem'
    exact ⟨token, rfl⟩

end Tabular.Tuples
