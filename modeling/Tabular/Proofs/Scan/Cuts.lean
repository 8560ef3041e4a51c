import Mathlib.Data.List.Basic
import Tabular.Proofs.Text.Trim
import Tabular.Scan

/-!
# Where a scan cuts

* `Scan.Uncut` says by positions that no character of a text is a cut; `Scan.pieces_eq_singleton_iff`
  says that this is what having one piece means.
* `Scan.pieces_append_delimiter`: behind a part that closes all it opened, a delimiter cuts, and the
  rest is scanned as if it stood alone.
* `Scan.after_raise`: the depth at which a text is scanned makes no difference as long as no
  parenthesis closes more than the text opened. So a closed text in parentheses is uncut and leaves
  the scan as it was (`Scan.passes_enclose`).
-/

namespace Tabular

namespace Scan

/-- No character of the text is a cut when the scan starts at the given place. -/
def Uncut (d : Char) (nesting : Bool) (s : Scan) (t : Text) : Prop :=
  ∀ before c after, t = before ++ c :: after → (s.after nesting before).cuts d nesting c = false

/-- No quote and no parenthesis is open, and none closed before it opened. -/
structure Resting (s : Scan) : Prop where
  unquoted : s.quoted = false
  depth : s.depth = 0
  underflow : s.underflow = false

/-- Neither a quote nor a backslash nor a parenthesis. -/
def Ordinary (c : Char) : Prop := c ∉ ['\'', '\\', '(', ')']

lemma ordinary_semicolon : Ordinary ';' := by simp [Ordinary]

lemma ordinary_newline : Ordinary '\n' := by simp [Ordinary]

@[simp] lemma after_nil (nesting : Bool) (s : Scan) : s.after nesting [] = s := rfl

@[simp] lemma after_cons (nesting : Bool) (s : Scan) (c : Char) (t : Text) :
    s.after nesting (c :: t) = (s.next nesting c).after nesting t := rfl

lemma resting_start : start.Resting := ⟨rfl, rfl, rfl⟩

/-- Exactly the closed texts bring a scan to rest. -/
lemma resting_nested_iff {t : Text} : (start.after true t).Resting ↔ Tuples.isClosed t := by
  simp only [Tuples.isClosed, Tuples.nested, isBalanced, Bool.and_eq_true, Bool.not_eq_true',
    beq_iff_eq]
  constructor
  · rintro ⟨unquoted, depth, underflow⟩
    exact ⟨unquoted, depth, underflow⟩
  · rintro ⟨unquoted, depth, underflow⟩
    exact ⟨unquoted, depth, underflow⟩

/-- The character is a parenthesis that is counted here. -/
def Counted (nesting : Bool) (s : Scan) (c : Char) : Prop :=
  nesting = true ∧ s.quoted = false ∧ (c = '(' ∨ c = ')')

/-- An opening parenthesis outside quotes is counted. -/
lemma next_opening {s : Scan} (h : s.quoted = false) :
    s.next true '(' = { s with escaped := false, depth := s.depth + 1 } := by
  simp [next, toggles, h]

/-- A closing parenthesis outside quotes is counted, and marked when none was open. -/
lemma next_closing {s : Scan} (h : s.quoted = false) :
    s.next true ')' =
      { s with
        escaped := false
        depth := s.depth - 1
        underflow := s.underflow || decide (s.depth - 1 < 0) } := by
  simp [next, toggles, h]

/-- Only the parentheses that are counted change more than quoting. -/
lemma next_of_not_counted {nesting : Bool} {s : Scan} {c : Char} (h : ¬ Counted nesting s c) :
    s.next nesting c = { s with quoted := s.quoted ^^ s.toggles c, escaped := c == '\\' } := by
  unfold next
  by_cases toggle : s.toggles c
  · simp [toggle]
  by_cases skip : s.quoted || !nesting
  · simp [toggle, skip]
  · have ne : ¬ (c = '(' ∨ c = ')') := fun paren => h ⟨by simp_all, by simp_all, paren⟩
    rw [not_or] at ne
    simp [toggle, skip, ne.1, ne.2]

/-- A character is an opening parenthesis that is counted, a closing one, or not counted. -/
lemma counted_cases (nesting : Bool) (s : Scan) (c : Char) :
    (nesting = true ∧ s.quoted = false ∧ c = '(') ∨ (nesting = true ∧ s.quoted = false ∧ c = ')') ∨
      ¬ Counted nesting s c := by
  unfold Counted
  tauto

/-- An ordinary character only takes the mark of a backslash away. -/
lemma next_of_ordinary {c : Char} (h : Ordinary c) (nesting : Bool) (s : Scan) :
    s.next nesting c = { s with escaped := false } := by
  simp only [Ordinary, List.mem_cons, List.not_mem_nil, or_false, not_or] at h
  obtain ⟨quote, backslash, opening, closing⟩ := h
  rw [next_of_not_counted fun counted => counted.2.2.elim opening closing]
  have plain : s.toggles c = false := by simp [toggles, quote]
  simp [plain, backslash]

/-- An ordinary character at the end opens and closes no quote. -/
lemma quoted_concat {c : Char} (ordinary : Ordinary c) {nesting : Bool} {s : Scan} (t : Text) :
    (s.after nesting (t ++ [c])).quoted = (s.after nesting t).quoted := by
  rw [after_append, after_cons, after_nil, next_of_ordinary ordinary]

/-- At rest, an ordinary character leaves the scan as at its start. -/
lemma Resting.next {s : Scan} (h : s.Resting) {c : Char} (ordinary : Ordinary c) (nesting : Bool) :
    s.next nesting c = start := by
  obtain ⟨quoted, escaped, depth, underflow⟩ := s
  obtain ⟨rfl, rfl, rfl⟩ := h
  exact next_of_ordinary ordinary nesting _

/-- At rest, an ordinary delimiter cuts. -/
lemma Resting.cuts {s : Scan} (h : s.Resting) {d : Char} (ordinary : Ordinary d) (nesting : Bool) :
    s.cuts d nesting d = true := by
  simp only [Ordinary, List.mem_cons, List.not_mem_nil, or_false, not_or] at ordinary
  obtain ⟨quote, -, opening, closing⟩ := ordinary
  simp [Scan.cuts, toggles, quote, opening, closing, h.unquoted, h.depth]

section

variable {d : Char} {nesting : Bool}

lemma uncut_nil (s : Scan) : Uncut d nesting s [] := by
  intro before c after eq
  cases before <;> cases eq

/-- A text is uncut when its first character does not cut and the rest is uncut behind it. -/
lemma uncut_cons_iff {s : Scan} {c : Char} {t : Text} :
    Uncut d nesting s (c :: t) ↔
      s.cuts d nesting c = false ∧ Uncut d nesting (s.next nesting c) t := by
  constructor
  · intro h
    refine ⟨h [] c t rfl, fun before c' after eq => ?_⟩
    exact h (c :: before) c' after (by rw [eq]; rfl)
  · rintro ⟨first, rest⟩ before c' after eq
    cases before with
    | nil =>
      cases eq
      exact first
    | cons b before =>
      cases eq
      exact rest before c' after rfl

/-- Two uncut texts, the second scanned behind the first, make an uncut text. -/
lemma Uncut.append {s : Scan} {t u : Text} (ht : Uncut d nesting s t)
    (hu : Uncut d nesting (s.after nesting t) u) : Uncut d nesting s (t ++ u) := by
  induction t generalizing s with
  | nil => exact hu
  | cons c t ih =>
    obtain ⟨first, rest⟩ := uncut_cons_iff.1 ht
    exact uncut_cons_iff.2 ⟨first, ih rest hu⟩

/-- Nothing cuts inside quotes. -/
lemma cuts_of_quoted {s : Scan} (h : s.quoted = true) (c : Char) : s.cuts d nesting c = false := by
  simp [cuts, h]

/-- A text has one piece exactly when it is uncut. -/
lemma pieces_eq_singleton_iff {s : Scan} {t : Text} :
    pieces d nesting s t = [t] ↔ Uncut d nesting s t := by
  induction t generalizing s with
  | nil => exact ⟨fun _ => uncut_nil s, fun _ => rfl⟩
  | cons c t ih =>
    rw [uncut_cons_iff, ← ih, pieces]
    have ne := pieces_ne_nil d nesting (s.next nesting c) t
    obtain ⟨p, ps, eq⟩ := List.exists_cons_of_ne_nil ne
    cases cut : s.cuts d nesting c with
    | true => simp [eq]
    | false => simp [eq]

/-- A cut ends the pieces before it, and the text behind it has pieces of its own. -/
lemma pieces_append_cut {s : Scan} {t : Text} {c : Char} (u : Text)
    (cut : (s.after nesting t).cuts d nesting c = true) :
    pieces d nesting s (t ++ c :: u) =
      pieces d nesting s t ++ pieces d nesting ((s.after nesting t).next nesting c) u := by
  induction t generalizing s with
  | nil =>
    rw [after_nil] at cut
    simp [pieces, cut]
  | cons b t ih =>
    have ih := ih (s := s.next nesting b) cut
    obtain ⟨p, ps, eq⟩ := List.exists_cons_of_ne_nil (pieces_ne_nil d nesting (s.next nesting b) t)
    rw [List.cons_append, pieces, pieces, ih, eq]
    cases s.cuts d nesting b with
    | true => simp
    | false => simp

/-- A delimiter behind a part that closes all it opened separates two texts that are cut on their
own. -/
lemma pieces_append_delimiter {s : Scan} {t : Text} (ordinary : Ordinary d)
    (rest : (s.after nesting t).Resting) (u : Text) :
    pieces d nesting s (t ++ d :: u) = pieces d nesting s t ++ pieces d nesting start u := by
  rw [pieces_append_cut u (rest.cuts ordinary nesting), rest.next ordinary]

/-- Parts that are uncut and close all they opened are the pieces of their join. -/
lemma pieces_intercalate (ordinary : Ordinary d) {ts : List Text} (ne : ts ≠ [])
    (uncut : ∀ t ∈ ts, Uncut d nesting start t)
    (rest : ∀ t ∈ ts, (start.after nesting t).Resting) :
    pieces d nesting start ([d].intercalate ts) = ts := by
  induction ts with
  | nil => exact absurd rfl ne
  | cons t ts ih =>
    obtain ⟨uncut_t, uncut⟩ := List.forall_mem_cons.1 uncut
    obtain ⟨rest_t, rest⟩ := List.forall_mem_cons.1 rest
    have first := pieces_eq_singleton_iff.2 uncut_t
    cases ts with
    | nil => simpa using first
    | cons t' ts =>
      have others := ih (List.cons_ne_nil _ _) uncut rest
      rw [List.intercalate_cons_of_ne_nil (List.cons_ne_nil _ _), List.append_assoc,
        List.singleton_append, pieces_append_delimiter ordinary rest_t, first, others]
      rfl

/-- A scan from the start passes over the text without a cut and ends as it started. -/
structure Passes (d : Char) (nesting : Bool) (t : Text) : Prop where
  uncut : Uncut d nesting start t
  after_eq : start.after nesting t = start

/-- What passes over two texts passes over both together. -/
lemma Passes.append {t u : Text} (ht : Passes d nesting t) (hu : Passes d nesting u) :
    Passes d nesting (t ++ u) where
  uncut := ht.uncut.append (ht.after_eq.symm ▸ hu.uncut)
  after_eq := by rw [after_append, ht.after_eq, hu.after_eq]

lemma passes_nil : Passes d nesting [] := ⟨uncut_nil start, rfl⟩

/-- A scan passes over an ordinary character that is not the delimiter. -/
lemma passes_cons {c : Char} {t : Text} (ordinary : Ordinary c) (ne : c ≠ d)
    (ht : Passes d nesting t) : Passes d nesting (c :: t) := by
  have next : start.next nesting c = start := resting_start.next ordinary nesting
  constructor
  · refine uncut_cons_iff.2 ⟨?_, next.symm ▸ ht.uncut⟩
    simp [cuts, ne]
  · rw [after_cons, next, ht.after_eq]

/-- Blanks are ordinary. -/
lemma ordinary_of_isBlank {c : Char} (h : Text.isBlank c) : Ordinary c := by
  intro mem
  simp only [List.mem_cons, List.not_mem_nil, or_false] at mem
  obtain rfl | rfl | rfl | rfl := mem <;> cases h

/-- A scan passes over blanks, unless the delimiter is one. -/
lemma passes_blanks (notBlank : Text.isBlank d = false) {blanks : Text} (h : blanks.allBlank) :
    Passes d nesting blanks := by
  induction blanks with
  | nil => exact passes_nil
  | cons c blanks ih =>
    obtain ⟨blank, rest⟩ := List.forall_mem_cons.1 (Text.allBlank_iff.1 h)
    refine passes_cons (ordinary_of_isBlank blank) ?_ (ih (Text.allBlank_iff.2 rest))
    rintro rfl
    rw [notBlank] at blank
    cases blank

end

/-- A scan that does not count parentheses keeps its counts. -/
lemma kept_of_not_nesting (s : Scan) (t : Text) :
    (s.after false t).depth = s.depth ∧ (s.after false t).underflow = s.underflow := by
  induction t generalizing s with
  | nil => exact ⟨rfl, rfl⟩
  | cons c t ih =>
    have step : s.next false c = { s with quoted := _, escaped := _ } :=
      next_of_not_counted fun counted => Bool.false_ne_true counted.1
    rw [after_cons, step]
    exact ih _

/-- A scan that does not count parentheses rests wherever no quote is open. -/
lemma resting_of_not_nesting {t : Text} (unquoted : (start.after false t).quoted = false) :
    (start.after false t).Resting :=
  ⟨unquoted, (kept_of_not_nesting start t).1, (kept_of_not_nesting start t).2⟩

/-- The scan with more parentheses open. -/
def raise (k : Int) (s : Scan) : Scan := { s with depth := s.depth + k }

@[simp] lemma quoted_raise (k : Int) (s : Scan) : (s.raise k).quoted = s.quoted := rfl

@[simp] lemma depth_raise (k : Int) (s : Scan) : (s.raise k).depth = s.depth + k := rfl

@[simp] lemma underflow_raise (k : Int) (s : Scan) : (s.raise k).underflow = s.underflow := rfl

/-- Once a parenthesis closed more than were open, this is never forgotten. -/
lemma underflow_next {nesting : Bool} {s : Scan} {c : Char} (h : (s.next nesting c).underflow = false) :
    s.underflow = false := by
  obtain ⟨rfl, unquoted, rfl⟩ | ⟨rfl, unquoted, rfl⟩ | inert := counted_cases nesting s c
  · rwa [next_opening unquoted] at h
  · rw [next_closing unquoted] at h
    exact (Bool.or_eq_false_iff.1 h).1
  · rwa [next_of_not_counted inert] at h

/-- A scan without the mark for a parenthesis that closed too many never had it. -/
lemma underflow_after {nesting : Bool} {s : Scan} {t : Text}
    (h : (s.after nesting t).underflow = false) : s.underflow = false := by
  induction t generalizing s with
  | nil => exact h
  | cons c t ih => exact underflow_next (ih h)

/-- One step where more parentheses are open does the same, unless it closes too many. -/
lemma next_raise {nesting : Bool} {s : Scan} {c : Char} {k : Int} (nonneg : 0 ≤ k)
    (h : (s.next nesting c).underflow = false) :
    (s.raise k).next nesting c = (s.next nesting c).raise k := by
  obtain ⟨rfl, unquoted, rfl⟩ | ⟨rfl, unquoted, rfl⟩ | inert := counted_cases nesting s c
  · rw [next_opening unquoted, next_opening (s := s.raise k) unquoted]
    simp only [raise, mk.injEq, true_and, and_true]
    omega
  · rw [next_closing unquoted] at h ⊢
    rw [next_closing (s := s.raise k) unquoted]
    -- what does not close too many here does so even less where more are open
    simp only [Bool.or_eq_false_iff, decide_eq_false_iff_not] at h
    simp only [raise, mk.injEq, true_and, h.1, Bool.false_or, decide_eq_decide]
    omega
  · rw [next_of_not_counted inert, next_of_not_counted (s := s.raise k) inert]
    rfl

/-- A text that never closes more parentheses than it opened is scanned alike wherever it stands. -/
lemma after_raise {nesting : Bool} {s : Scan} {t : Text} {k : Int} (nonneg : 0 ≤ k)
    (h : (s.after nesting t).underflow = false) :
    (s.raise k).after nesting t = (s.after nesting t).raise k := by
  induction t generalizing s with
  | nil => rfl
  | cons c t ih =>
    rw [after_cons, next_raise nonneg (underflow_after h), ih h, after_cons]

/-- The depth is never below zero as long as no parenthesis closed too many. -/
lemma depth_nonneg {nesting : Bool} {s : Scan} {t : Text} (nonneg : 0 ≤ s.depth)
    (h : (s.after nesting t).underflow = false) : 0 ≤ (s.after nesting t).depth := by
  induction t generalizing s with
  | nil => exact nonneg
  | cons c t ih =>
    have first := underflow_after (s := s.next nesting c) h
    refine ih ?_ h
    obtain ⟨rfl, unquoted, rfl⟩ | ⟨rfl, unquoted, rfl⟩ | inert := counted_cases nesting s c
    · rw [next_opening unquoted]
      exact Int.le_add_one nonneg
    · -- had the depth fallen below zero, this step would have been marked
      rw [next_closing unquoted] at first ⊢
      simpa using (Bool.or_eq_false_iff.1 first).2
    · rwa [next_of_not_counted inert]

/-- Inside a parenthesis nothing cuts, as long as no parenthesis closes too many. -/
lemma uncut_raise {d : Char} {t : Text} (h : (start.after true t).underflow = false) :
    Uncut d true (start.raise 1) t := by
  rintro before c after rfl
  rw [after_append] at h
  have closed := underflow_after h
  have depth := depth_nonneg (s := start) (Int.le_refl 0) closed
  -- the parenthesis around the text keeps the depth away from zero
  rw [after_raise (by decide) closed]
  have ne : (start.after true before).depth + 1 ≠ 0 := by omega
  simp [cuts, ne]

/-- A closed text in parentheses is passed over. -/
lemma passes_enclose {d : Char} {t : Text} (h : Tuples.isClosed t) :
    Passes d true ('(' :: t ++ [')']) := by
  have rest := resting_nested_iff.2 h
  have opened : start.after true ('(' :: t) = (start.after true t).raise 1 :=
    after_raise (s := start) (by decide) rest.underflow
  have closed : ((start.after true t).raise 1).next true ')' = _ := next_closing rest.unquoted
  constructor
  · have inner : Uncut d true start ('(' :: t) :=
      uncut_cons_iff.2 ⟨by simp [cuts], uncut_raise rest.underflow⟩
    exact inner.append (uncut_cons_iff.2 ⟨by simp [cuts], uncut_nil _⟩)
  · rw [after_append, opened, after_cons, after_nil, closed, quoted_raise, depth_raise,
      underflow_raise, rest.unquoted, rest.depth, rest.underflow]
    rfl

end Scan

end Tabular
