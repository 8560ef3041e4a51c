import Tabular.Proofs.Query.Condition
import Tabular.Proofs.Statement.Query

/-!
# Reading a comparison

`Statement.comparing` is the plain text of a query for the rows that compare with a literal in one column.
The operator is the written one even where another operator starts with it, because a space follows it;
the literal is all the text behind that. So what is read is the comparison with it
(`Statement.read_comparing`). A lookup asks for all columns of the rows that equal the literal
(`Statement.read_lookup`).
-/

namespace Tabular

namespace Comparison

/-- A written operator in front of a space is read. -/
lemma leading?_append {token : Text} {op : Comparison} (mem : (token, op) ∈ tokens) (rest : Text) :
    leading? (token ++ ' ' :: rest) = some (op, ' ' :: rest) := by
  have all : ∀ p ∈ tokens, leading? (p.1 ++ ' ' :: rest) = some (p.2, ' ' :: rest) := by
    simp only [tokens, List.forall_mem_cons]
    exact ⟨rfl, rfl, rfl, rfl, rfl, rfl, rfl, nofun⟩
  exact all _ mem

end Comparison

namespace Statement
open Text (Tight IsName)

/-- A literal of a condition as it can be written at the end of a statement. A semicolon at its end
would end the statement. -/
structure IsLiteral (t : Text) : Prop where
  tight : t.Tight
  ne_nil : t ≠ []
  last : t.getLast? ≠ some ';'

/-- The condition that compares a column with a literal, with blanks before the operator. -/
def condition (column gap token literal : Text) : Text :=
  column ++ (gap ++ (token ++ ' ' :: literal))

/-- The text that asks for the rows of a table where a column compares with a literal. -/
def comparing (columns : ColumnsText) (table column gap token literal : Text) : Text :=
  "SELECT ".toList ++ columns.text ++ " FROM ".toList ++ table ++ " WHERE ".toList ++
    condition column gap token literal

/-- The query that such a text is read as. -/
def comparingQuery (columns : ColumnsText) (table column gap token literal : Text) (op : Comparison) :
    Query where
  selection := columns.selection
  table
  clause := some
    { text := condition column gap token literal
      condition := some ⟨column, op, Value.ofLiteral literal⟩ }

variable {column gap token literal : Text} {op : Comparison}

/-- A condition is not empty. -/
lemma condition_ne_nil (named : column.IsName) : condition column gap token literal ≠ [] :=
  List.append_ne_nil_of_left_ne_nil named.1 _

/-- A text that ends in a condition ends as its literal does. -/
lemma getLast?_append_condition (h : IsLiteral literal) (t : Text) :
    (t ++ condition column gap token literal).getLast? = literal.getLast? := by
  have assoc : t ++ condition column gap token literal =
      t ++ column ++ gap ++ token ++ [' '] ++ literal := by
    simp [condition]
  rw [assoc, List.getLast?_append_of_ne_nil _ h.ne_nil]

/-- A condition has no blanks at its ends. -/
lemma tight_condition (named : column.IsName) (h : IsLiteral literal) :
    Tight (condition column gap token literal) :=
  ⟨named.head_append _, getLast?_append_condition h [] ▸ h.tight.2⟩

/-- Blanks around a condition make no difference to how it is read. -/
lemma ofText?_padded {t u : Text} (h : Text.Padded t u) :
    Condition.ofText? u = Condition.ofText? t := by
  rw [Condition.ofText?, Condition.ofText?, h.trim_eq]

/-- A condition is read as the comparison that it spells. -/
lemma ofText?_condition (named : column.IsName) (blank : gap.allBlank)
    (mem : (token, op) ∈ Comparison.tokens) (h : IsLiteral literal) :
    Condition.ofText? (condition column gap token literal) =
      some ⟨column, op, Value.ofLiteral literal⟩ := by
  have found := Comparison.leading?_append mem literal
  obtain ⟨token', before, same⟩ := Comparison.leading?_eq_some_iff.1 found
  obtain rfl := List.append_cancel_right same
  have notBlank : Text.allBlank (' ' :: literal) = false := by
    refine Bool.eq_false_iff.2 fun blank => h.ne_nil ?_
    rw [← h.tight.trim_space_cons]
    exact Text.trim_eq_nil_iff.2 blank
  apply Condition.ofText?_eq_some_iff.2
  refine ⟨⟨column, gap, token', op, ' ' :: literal⟩, ⟨named, blank, before, notBlank⟩, ?_, ?_⟩
  · exact (tight_condition named h).trim_eq_self.symm
  · rw [ConditionText.condition, h.tight.trim_space_cons]

/-- Reading a comparison. -/
lemma read_comparing (settings : Settings) {columns : ColumnsText} (formed : columns.WellFormed)
    {table : Text} (named : table.IsName) (named' : column.IsName) (blank : gap.allBlank)
    (mem : (token, op) ∈ Comparison.tokens) (h : IsLiteral literal) :
    read settings (comparing columns table column gap token literal) =
      .ok (.select (comparingQuery columns table column gap token literal op)) := by
  have tight : Tight (condition column gap token literal) := tight_condition named' h
  have stripped : strip (comparing columns table column gap token literal) =
      comparing columns table column gap token literal := by
    have same : (comparing columns table column gap token literal).getLast? = literal.getLast? :=
      getLast?_append_condition h _
    refine strip_eq_self (by rintro c ⟨⟩; rfl) fun c last => ?_
    rw [same] at last
    refine Bool.or_eq_false_iff.2 ⟨h.tight.2 c last, beq_eq_false_iff_ne.2 ?_⟩
    rintro rfl
    exact h.last last
  have notBlank : ∀ t ∈ some (condition column gap token literal), t.allBlank = false := by
    rintro t ⟨⟩
    refine Bool.eq_false_iff.2 fun blank => condition_ne_nil named' (tight.trim_eq_self.symm.trans ?_)
    exact Text.trim_eq_nil_iff.2 blank
  have clause : Clause.ofText (' ' :: condition column gap token literal) =
      ⟨condition column gap token literal, some ⟨column, op, Value.ofLiteral literal⟩⟩ := by
    rw [Clause.ofText, tight.trim_space_cons, ofText?_padded (.space_cons _),
      ofText?_condition named' blank mem h]
  refine read_eq_select_iff.2 ⟨_, QueryText.wellFormed_plain formed named notBlank, ?_, ?_⟩
  · rw [stripped]
    exact QueryText.text_plain_some _ _ _
  · exact congrArg (fun clause => Query.mk columns.selection table (some clause)) clause

/-- The text that asks for the rows of a table that equal a literal in a column. -/
def lookup (table column literal : Text) : Text :=
  "SELECT * FROM ".toList ++ table ++ " WHERE ".toList ++ column ++ " = ".toList ++ literal

/-- The query that a lookup is read as. -/
def lookupQuery (table column literal : Text) : Query where
  selection := .all
  table
  clause := some
    { text := column ++ (" = ".toList ++ literal)
      condition := some ⟨column, .eq, Value.ofLiteral literal⟩ }

/-- A lookup is a comparison. -/
lemma lookup_eq (table column literal : Text) :
    lookup table column literal = comparing .all table column [' '] ['='] literal := by
  have assoc : ∀ a b c d e f : Text,
      a ++ b ++ c ++ d ++ e ++ f = a ++ (b ++ (c ++ (d ++ (e ++ f)))) := by
    intro a b c d e f
    simp only [List.append_assoc]
  exact (assoc _ _ _ _ _ _).trans (assoc "SELECT ".toList ['*'] " FROM ".toList _ _ _).symm

/-- Reading a lookup. -/
lemma read_lookup (settings : Settings) {table column literal : Text} (named : table.IsName)
    (named' : column.IsName) (h : IsLiteral literal) :
    read settings (lookup table column literal) = .ok (.select (lookupQuery table column literal)) := by
  have equals : (['='], Comparison.eq) ∈ Comparison.tokens := by decide
  have columns : ColumnsText.WellFormed .all := trivial
  rw [lookup_eq]
  exact read_comparing settings columns named named' rfl equals h

end Statement

end Tabular
