import Tabular.Database
import Tabular.Proofs.Statement.Reader

/-!
# Terminators

A statement may be followed by blanks and semicolons. Reading takes one run of semicolons away, with
the blanks around it (`Statement.strip_of_run`). Where blanks separate two runs, the first of them
is read as part of the statement (`Statement.terminated_iff`), so a terminator makes no difference
exactly as long as it adds to one run (`Statement.strip_append_iff`).
-/

namespace Tabular.Statement
open Text (allBlank dropEndWhile Padded Tight)

/-- A blank or a semicolon. -/
def isTerminal (c : Char) : Bool := Text.isBlank c || c == ';'

/-- The text without the blanks and semicolons at its end. -/
def body (t : Text) : Text := dropEndWhile isTerminal t

/-- At most one run of semicolons ends the text, with any blanks before and after it. -/
def Terminated (t : Text) : Prop :=
  ∃ gap k right, allBlank gap ∧ allBlank right ∧
    t = body t ++ gap ++ List.replicate k ';' ++ right

/-- Blanks are terminal. -/
lemma isTerminal_of_allBlank {t : Text} (h : allBlank t) : ∀ c ∈ t, isTerminal c := by
  intro c mem
  simp [isTerminal, Text.allBlank_iff.1 h c mem]

/-- A run of semicolons with blanks around it is terminal. -/
lemma isTerminal_of_run {gap right : Text} (hg : gap.allBlank) (hr : right.allBlank) (k : Nat) :
    ∀ c ∈ gap ++ List.replicate k ';' ++ right, isTerminal c := by
  intro c mem
  rw [List.mem_append, List.mem_append] at mem
  obtain (mem | mem) | mem := mem
  · exact isTerminal_of_allBlank hg c mem
  · rw [List.eq_of_mem_replicate mem]
    rfl
  · exact isTerminal_of_allBlank hr c mem

/-- Blanks and semicolons at the end do not belong to the body. -/
lemma body_append {z : Text} (terminal : ∀ c ∈ z, isTerminal c) (t : Text) :
    body (t ++ z) = body t :=
  Text.dropEndWhile_append terminal t

/-- A text that ends in neither a blank nor a semicolon is its body. -/
lemma body_eq_self {t : Text} (h : ∀ c ∈ t.getLast?, isTerminal c = false) : body t = t :=
  Text.dropEndWhile_eq_self h

/-- A body ends in neither a blank nor a semicolon. -/
lemma getLast?_body (t : Text) : ∀ c ∈ (body t).getLast?, isTerminal c = false := by
  intro c mem
  obtain ⟨ne, rfl⟩ := List.mem_getLast?_eq_getLast mem
  exact Bool.not_eq_true _ ▸ List.rdropWhile_last_not isTerminal t ne

/-- A blank text does not end in a semicolon. -/
lemma getLast?_ne_of_allBlank {t : Text} (h : t.allBlank) : t.getLast? ≠ some ';' := by
  intro eq
  exact Text.not_allBlank_of_mem (List.mem_of_getLast? eq) rfl h

/-- Blanks around a text add no semicolon to its end. -/
lemma getLast?_ne_of_padded {t u : Text} (last : t.getLast? ≠ some ';') (h : Padded t u) :
    u.getLast? ≠ some ';' := by
  obtain ⟨left, right, hl, hr, rfl⟩ := h
  intro eq
  rw [List.getLast?_append, List.getLast?_append] at eq
  obtain eq | ⟨-, eq⟩ := Option.or_eq_some_iff.1 eq
  · exact getLast?_ne_of_allBlank hr eq
  obtain eq | ⟨-, eq⟩ := Option.or_eq_some_iff.1 eq
  · exact last eq
  · exact getLast?_ne_of_allBlank hl eq

/-- No semicolon is taken from a text that ends in none. -/
lemma dropEndWhile_semicolon_eq_self {t : Text} (last : t.getLast? ≠ some ';') :
    dropEndWhile (· == ';') t = t := by
  refine Text.dropEndWhile_eq_self fun c mem => beq_eq_false_iff_ne.2 ?_
  rintro rfl
  exact last mem

/-- What trimming the start leaves ends as the text does. -/
lemma getLast?_of_getLast?_trimStart {t : Text} {c : Char} (h : t.trimStart.getLast? = some c) :
    t.getLast? = some c := by
  rw [← List.takeWhile_append_dropWhile (p := Text.isBlank) (l := t), List.getLast?_append]
  exact Option.or_eq_some_iff.2 (.inl h)

/-- Reading takes one run of semicolons away, with the blanks around it. -/
lemma strip_of_run {t left gap right : Text} (tight : Tight t) (last : t.getLast? ≠ some ';')
    (hl : left.allBlank) (hg : gap.allBlank) (hr : right.allBlank) (k : Nat) :
    strip (left ++ t ++ gap ++ List.replicate k ';' ++ right) = t := by
  have padded : Padded t (left ++ t ++ gap) := ⟨left, gap, hl, hg, rfl⟩
  generalize left ++ t ++ gap = u at padded
  cases k with
  | zero =>
    rw [List.replicate_zero, List.append_nil]
    exact strip_of_padded tight last (padded.append_right hr)
  | succ k =>
    -- the first semicolon stops the trimming at the start, and the last one that at the end
    have start : (u ++ List.replicate (k + 1) ';' ++ right).trimStart =
        u.trimStart ++ List.replicate (k + 1) ';' ++ right := by
      rw [List.append_assoc, Text.trimStart, List.dropWhile_append]
      split
      · next h =>
        rw [Text.trimStart, List.isEmpty_iff.1 h]
        rfl
      · exact (List.append_assoc _ _ _).symm
    have trimmed : (u ++ List.replicate (k + 1) ';' ++ right).trim =
        u.trimStart ++ List.replicate (k + 1) ';' := by
      rw [Text.trim, start, Text.trimEnd_append hr]
      refine Text.trimEnd_eq_self fun c mem => ?_
      rw [List.replicate_succ', ← List.append_assoc, List.getLast?_concat] at mem
      cases mem
      rfl
    have run : dropEndWhile (· == ';') (u.trimStart ++ List.replicate (k + 1) ';') =
        u.trimStart := by
      rw [Text.dropEndWhile_append fun c mem => beq_iff_eq.2 (List.eq_of_mem_replicate mem)]
      refine dropEndWhile_semicolon_eq_self fun eq => getLast?_ne_of_padded last padded ?_
      exact getLast?_of_getLast?_trimStart eq
    rw [strip, trimmed, run]
    exact tight.trim_eq padded

/-- A text without blanks and semicolons around it is read as it is. -/
lemma strip_eq_self {t : Text} (first : ∀ c ∈ t.head?, Text.isBlank c = false)
    (last : ∀ c ∈ t.getLast?, isTerminal c = false) : strip t = t := by
  have tight : t.Tight := ⟨first, fun c mem => (Bool.or_eq_false_iff.1 (last c mem)).1⟩
  refine strip_of_padded tight (fun eq => ?_) (.refl t)
  cases last ';' eq

/-- No word character is terminal. -/
lemma isTerminal_of_isWordChar {c : Char} (h : Text.isWordChar c) : isTerminal c = false := by
  refine Bool.or_eq_false_iff.2 ⟨Bool.eq_false_iff.2 fun blank => ?_, beq_eq_false_iff_ne.2 ?_⟩
  · rw [Text.isWordChar_of_isBlank blank] at h
    cases h
  · rintro rfl
    cases h

/-- The last character of a name ends a text that is read as it is. -/
lemma isTerminal_getLast?_append {name : Text} (named : name.IsName) (t : Text) :
    ∀ c ∈ (t ++ name).getLast?, isTerminal c = false := by
  intro c mem
  rw [List.getLast?_append_of_ne_nil _ named.1] at mem
  exact isTerminal_of_isWordChar (named.2 c (List.mem_of_getLast? mem))

/-- What is taken from the end is a run of semicolons. -/
lemma dropEndWhile_append_semicolons (t : Text) :
    dropEndWhile (· == ';') t ++ t.rtakeWhile (· == ';') = t :=
  List.rdropWhile_append_rtakeWhile

/-- What is read of a text has no blanks at its ends. -/
lemma tight_strip (t : Text) : Tight (strip t) := by
  have start : (dropEndWhile (· == ';') t.trim).trimStart = dropEndWhile (· == ';') t.trim := by
    refine Text.trimStart_eq_self fun c mem => (Text.tight_trim t).1 c ?_
    rw [← dropEndWhile_append_semicolons t.trim, List.head?_append, Option.mem_def.1 mem]
    rfl
  rw [strip, ← start]
  exact Text.tight_trim _

/-- Every text is what is read of it, with one run of semicolons after it and blanks around both. -/
lemma exists_run (t : Text) :
    ∃ left gap k right, left.allBlank ∧ gap.allBlank ∧ right.allBlank ∧
      t = left ++ strip t ++ gap ++ List.replicate k ';' ++ right := by
  obtain ⟨left, right, hl, hr, eq⟩ := Text.padded_trim t
  have run : ∀ c ∈ t.trim.rtakeWhile (· == ';'), c = ';' := by
    intro c mem
    exact beq_iff_eq.1 (List.mem_rtakeWhile_imp (p := (· == ';')) mem)
  have gap : strip t ++ (dropEndWhile (· == ';') t.trim).rtakeWhile Text.isBlank =
      dropEndWhile (· == ';') t.trim :=
    List.rdropWhile_append_rtakeWhile
  refine ⟨left, (dropEndWhile (· == ';') t.trim).rtakeWhile Text.isBlank,
    (t.trim.rtakeWhile (· == ';')).length, right, hl, ?_, hr, ?_⟩
  · exact Text.allBlank_iff.2 fun c mem => List.mem_rtakeWhile_imp mem
  · rw [← List.eq_replicate_of_mem run, List.append_assoc left, gap, List.append_assoc left,
      dropEndWhile_append_semicolons]
    exact eq

/-- A body has no blanks at its end. -/
lemma trim_body (t : Text) : (body t).trim = (body t).trimStart := by
  refine Text.trimEnd_eq_self fun c mem => ?_
  have last := getLast?_body t c (getLast?_of_getLast?_trimStart mem)
  exact (Bool.or_eq_false_iff.1 last).1

/-- A trimmed body does not end in a semicolon. -/
lemma getLast?_trim_body (t : Text) : (body t).trim.getLast? ≠ some ';' := by
  intro eq
  rw [trim_body] at eq
  have last := getLast?_body t ';' (getLast?_of_getLast?_trimStart eq)
  cases last

/-- What is read of a text that at most one run ends is its trimmed body. -/
lemma strip_of_terminated {t : Text} (h : Terminated t) : strip t = (body t).trim := by
  obtain ⟨gap, k, right, hg, hr, eq⟩ := h
  have left : allBlank ((body t).takeWhile Text.isBlank) :=
    Text.allBlank_iff.2 fun c mem => List.mem_takeWhile_imp mem
  have split : body t = (body t).takeWhile Text.isBlank ++ (body t).trim := by
    rw [trim_body]
    exact List.takeWhile_append_dropWhile.symm
  have whole : t = (body t).takeWhile Text.isBlank ++ (body t).trim ++ gap ++
      List.replicate k ';' ++ right := by
    rwa [← split]
  exact (congrArg strip whole).trans
    (strip_of_run (Text.tight_trim _) (getLast?_trim_body t) left hg hr k)

/-- At most one run of semicolons ends a text exactly when none is left in what is read of it. -/
theorem terminated_iff {t : Text} : Terminated t ↔ (strip t).getLast? ≠ some ';' := by
  constructor
  · intro h
    rw [strip_of_terminated h]
    exact getLast?_trim_body t
  · intro last
    obtain ⟨left, gap, k, right, hl, hg, hr, eq⟩ := exists_run t
    have tail : t = left ++ strip t ++ (gap ++ List.replicate k ';' ++ right) := by
      simpa only [List.append_assoc] using eq
    have same : body t = body (left ++ strip t) :=
      (congrArg body tail).trans (body_append (isTerminal_of_run hg hr k) _)
    cases read : strip t with
    | nil =>
      -- nothing is read, so the blanks before it belong to the gap
      rw [read, List.append_nil] at same eq
      have none : body left = [] := body_append (t := []) (isTerminal_of_allBlank hl)
      refine ⟨left ++ gap, k, right, Text.allBlank_append hl hg, hr, ?_⟩
      rw [same, none]
      exact eq
    | cons c rest =>
      rw [read] at same eq last
      have kept : body (left ++ c :: rest) = left ++ c :: rest := by
        refine body_eq_self fun d mem => ?_
        rw [List.getLast?_append_of_ne_nil _ (List.cons_ne_nil c rest)] at mem
        have notBlank := (read ▸ tight_strip t).2 d mem
        have ne : d ≠ ';' := by
          rintro rfl
          exact last mem
        exact Bool.or_eq_false_iff.2 ⟨notBlank, beq_eq_false_iff_ne.2 ne⟩
      refine ⟨gap, k, right, hg, hr, ?_⟩
      rw [same, kept]
      exact eq

/-- What comes before the end of one run with blanks around it is again such a run. -/
lemma exists_run_of_prefix {tail z gap right : Text} {k : Nat} (hg : gap.allBlank)
    (hr : right.allBlank) (eq : tail ++ z = gap ++ List.replicate k ';' ++ right) :
    ∃ gap' k' right', allBlank gap' ∧ allBlank right' ∧
      tail = gap' ++ List.replicate k' ';' ++ right' := by
  have blank_left : ∀ {a b : Text}, (a ++ b).allBlank → a.allBlank := fun h =>
    Text.allBlank_iff.2 fun c mem => Text.allBlank_iff.1 h c (List.mem_append_left _ mem)
  obtain ⟨rest, start, -⟩ | ⟨before, rfl, stop⟩ := List.append_eq_append_iff.1 eq
  · obtain ⟨rest', rfl, -⟩ | ⟨run, rfl, stop⟩ := List.append_eq_append_iff.1 start.symm
    · exact ⟨tail, 0, [], blank_left hg, rfl, by simp⟩
    · have same : ∀ c ∈ run, c = ';' := fun c mem =>
        List.eq_of_mem_replicate (stop ▸ List.mem_append_left rest mem)
      refine ⟨gap, run.length, [], hg, rfl, ?_⟩
      rw [List.append_nil, ← List.eq_replicate_of_mem same]
  · exact ⟨gap, k, before, hg, blank_left (stop ▸ hr), rfl⟩

/-- A text that at most one run ends had at most one before blanks and semicolons were added. -/
lemma terminated_of_append {s z : Text} (terminal : ∀ c ∈ z, isTerminal c)
    (h : Terminated (s ++ z)) : Terminated s := by
  obtain ⟨gap, k, right, hg, hr, eq⟩ := h
  rw [body_append terminal] at eq
  have split : body s ++ s.rtakeWhile isTerminal = s := List.rdropWhile_append_rtakeWhile
  have tails : s.rtakeWhile isTerminal ++ z = gap ++ List.replicate k ';' ++ right := by
    refine (List.append_right_inj (body s)).1 ?_
    rw [← List.append_assoc, split, eq]
    simp only [List.append_assoc]
  obtain ⟨gap', k', right', hg', hr', eq'⟩ := exists_run_of_prefix hg hr tails
  refine ⟨gap', k', right', hg', hr', ?_⟩
  rw [eq'] at split
  simpa only [List.append_assoc] using split.symm

/-- Blanks and semicolons after a text make no difference to what is read of it exactly when they add
to one run of semicolons. -/
theorem strip_append_iff {s z : Text} (terminal : ∀ c ∈ z, isTerminal c) (single : Terminated s) :
    strip (s ++ z) = strip s ↔ Terminated (s ++ z) := by
  constructor
  · intro eq
    rw [terminated_iff, eq]
    exact terminated_iff.1 single
  · intro h
    rw [strip_of_terminated h, strip_of_terminated single, body_append terminal]

/-- Blanks and semicolons that add to one run after a text are ignored: what is read of the text, and
what its execution does, stay the same. -/
theorem execute_append_terminal {s z : Text} (terminal : ∀ c ∈ z, isTerminal c)
    (single : Terminated (s ++ z)) :
    (∀ settings, read settings (s ++ z) = read settings s) ∧
      ∀ db : Database, db.execute (s ++ z) = db.execute s := by
  have same : strip (s ++ z) = strip s :=
    (strip_append_iff terminal (terminated_of_append terminal single)).2 single
  have reads : ∀ settings, read settings (s ++ z) = read settings s := by
    intro settings
    rw [read, read, same]
  refine ⟨reads, fun db => ?_⟩
  rw [Database.execute, Database.execute, reads]

/-- Semicolons in one run with blanks around it are ignored. -/
theorem execute_append_terminal_sample :
    (∀ c ∈ " ;; ".toList, isTerminal c) ∧
      Terminated ("drop table t".toList ++ " ;; ".toList) ∧
      read {} ("drop table t".toList ++ " ;; ".toList) = .ok (.dropTable "t".toList) := by
  have terminal : ∀ c ∈ " ;; ".toList, isTerminal c := List.all_eq_true.1 rfl
  have single : Terminated ("drop table t".toList ++ " ;; ".toList) :=
    terminated_iff.2 (by decide +kernel)
  refine ⟨terminal, single, ?_⟩
  rw [(execute_append_terminal terminal single).1]
  decide +kernel

/-- Where a blank stands between two semicolons, the first one is read as part of the statement: of a
removal it makes an error, and of the literal of a query another value. -/
theorem read_append_terminal_differs :
    (∀ c ∈ "; ;".toList, isTerminal c) ∧
      read {} "drop table t".toList = .ok (.dropTable "t".toList) ∧
      read {} ("drop table t".toList ++ "; ;".toList) =
        .error (.malformed .dropTable .textAfterName) ∧
      read {} "select * from t where a = 1".toList = .ok (.select
        { selection := .all
          table := "t".toList
          clause := some ⟨"a = 1".toList, some ⟨"a".toList, .eq, .int 1⟩⟩ }) ∧
      read {} ("select * from t where a = 1".toList ++ "; ;".toList) = .ok (.select
        { selection := .all
          table := "t".toList
          clause := some ⟨"a = 1;".toList, some ⟨"a".toList, .eq, .text "1;".toList⟩⟩ }) := by
  refine ⟨List.all_eq_true.1 rfl, ?_⟩
  decide +kernel

end Tabular.Statement
