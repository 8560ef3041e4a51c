import Tabular.Proofs.Scan.Tokens
import Tabular.Proofs.Statement.Reader

/-!
# Reading an insertion

`Statement.insertion` is the plain text of an insertion. What is read from it is what is read from the
list of tuples at its end (`Statement.read_insertion`): rows of quoted texts, or one row of tokens.
-/

namespace Tabular.Statement

/-- The text that inserts a list of tuples under a name. -/
def insertion (name list : Text) : Text :=
  "INSERT INTO ".toList ++ name ++ " VALUES ".toList ++ list

/-- What stands behind a list stands behind the insertion. -/
lemma insertion_append (name list rest : Text) :
    insertion name (list ++ rest) = insertion name list ++ rest :=
  (List.append_assoc _ _ _).symm

/-- The text of an insertion is its keywords, the name and the list. -/
lemma insertion_eq (name list : Text) :
    insertion name list = "INSERT INTO ".toList ++ (name ++ (" VALUES ".toList ++ list)) :=
  (List.append_assoc _ _ _).trans (List.append_assoc _ _ _)

/-- The keywords of an insertion lead it. -/
lemma leading?_insertInto (rest : Text) :
    StatementKind.leading? ("INSERT INTO ".toList ++ rest) = some (.insertInto, ' ' :: rest) := rfl

/-- The keyword in front of a list is read. -/
lemma keyword?_values (rest : Text) :
    Cursor.keyword? "values".toList (" VALUES ".toList ++ rest) = some (' ' :: rest) := rfl

/-- Reading an insertion is reading its list. -/
lemma read_insertion (settings : Settings) {name : Text} (named : name.IsName) {list : Text}
    (closed : list.getLast? = some ')') {blanks : Text} (blank : blanks.allBlank) :
    read settings (insertion name (list ++ blanks)) =
      match Tuples.rows (' ' :: list) with
      | .ok rows => .ok (.insertInto name rows)
      | .error fault => .error (.malformed .insertInto (.tuples fault)) := by
  have first : (insertion name list).head? = some 'I' := rfl
  have last : (insertion name list).getLast? = some ')' :=
    List.mem_getLast?_append_of_mem_getLast? closed
  have tight : Text.Tight (insertion name list) := by
    constructor
    · rw [first]
      rintro c ⟨⟩
      decide
    · rw [last]
      rintro c ⟨⟩
      decide
  have stripped : strip (insertion name (list ++ blanks)) = insertion name list := by
    refine strip_of_padded tight ?_ ⟨[], blanks, rfl, blank, insertion_append name list blanks⟩
    rw [last]
    decide
  have lead : StatementKind.leading? (insertion name list) =
      some (.insertInto, ' ' :: (name ++ (" VALUES ".toList ++ list))) := by
    rw [insertion_eq, leading?_insertInto]
  have read_name : Cursor.name? (' ' :: (name ++ (" VALUES ".toList ++ list))) =
      some (name, " VALUES ".toList ++ list) := by
    have space : Text.allBlank [' '] := rfl
    exact Cursor.name?_gap space ⟨named, rfl⟩
  have paren : ')' ∈ ' ' :: list := List.mem_cons_of_mem _ (List.mem_of_getLast? closed)
  have notBlank : ¬ Text.allBlank (' ' :: list) := Text.not_allBlank_of_mem paren rfl
  have keyword := keyword?_values list
  simp only [read, stripped, lead, readInsertInto, read_name, keyword, inserted, if_neg notBlank]
  cases Tuples.rows (' ' :: list) with
  | ok rows => rfl
  | error fault => rfl

/-- A text that inserts a list of tuples is read as the insertion of their rows. -/
lemma read_insertion_of_split (settings : Settings) {name : Text} (named : name.IsName)
    {inners : List Text} {list : Text} (split : Tuples.split list = .ok inners)
    (notBlank : list.allBlank = false) :
    read settings (insertion name list) = .ok (.insertInto name (inners.map Tuples.row)) := by
  obtain ⟨closed, listed⟩ := Tuples.split_eq_ok_iff.1 split
  -- the blanks at the end of the list are at the end of the text, where reading trims them away
  obtain ⟨before, t, blanks, mem, blank, rfl, core⟩ := listed.exists_end (listed.ne_nil notBlank)
  obtain ⟨inner, -, rfl⟩ := List.mem_map.1 mem
  have last : (before ++ Tuples.enclose inner).getLast? = some ')' := by
    rw [List.getLast?_append, Tuples.enclose, List.getLast?_append]
    rfl
  have again : Tuples.split (' ' :: (before ++ Tuples.enclose inner)) = .ok inners :=
    Tuples.split_eq_ok closed (core.append_left [' '] rfl)
  rw [read_insertion settings named last blank, Tuples.rows, again]
  rfl

/-- A text that inserts rows of quoted texts is read as their insertion. -/
lemma read_insertion_of_spells (settings : Settings) {name : Text} (named : name.IsName)
    {rows : List (List Text)} (ne : rows ≠ []) {list : Text} (spelled : Tuples.Spells rows list)
    (last : ∀ row ∈ rows, ∀ t ∈ row, t.getLast? ≠ some '\\') :
    read settings (insertion name list) =
      .ok (.insertInto name (rows.map (List.map Value.ofScalar))) := by
  obtain ⟨inners, split, values⟩ := Tuples.split_of_spells spelled last
  have notBlank : list.allBlank = false := by
    refine Bool.eq_false_iff.2 fun blank => ne ?_
    have none : Tuples.split list = .ok [] := if_pos blank
    cases none.symm.trans split
    exact List.map_eq_nil_iff.1 values.symm
  rw [read_insertion_of_split settings named split notBlank, values]

/-- A text that inserts a tuple of tokens is read as the insertion of one row. -/
lemma read_insertion_of_tokens (settings : Settings) {name : Text} (named : name.IsName)
    {tokens : List Text} (raw : ∀ t ∈ tokens, Tuples.Token t) :
    read settings (insertion name (Tuples.tupleOf tokens)) =
      .ok (.insertInto name [tokens.map Value.ofLiteral]) := by
  have closed : (Tuples.tupleOf tokens).getLast? = some ')' := by
    rw [Tuples.tupleOf, Tuples.enclose, List.getLast?_append]
    rfl
  have blank : Text.allBlank [] := rfl
  have main := read_insertion settings named closed blank
  rwa [List.append_nil, Tuples.rows_of_tokens raw (.space_cons _)] at main

end Tabular.Statement
