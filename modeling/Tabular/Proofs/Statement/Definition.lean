import Tabular.Proofs.Scan.Tokens
import Tabular.Proofs.Statement.Leading
import Tabular.Proofs.Statement.Reader
import Tabular.Proofs.Store.Column

/-!
# Reading a table definition

`DefinitionText` has the parts of a table definition as it is written. A text with parts that spell a
name and well-formed columns is read as the definition of this table (`Statement.read_of_spells`); the
last parenthesis of the text closes the column list, so the words of a type may hold parentheses of their
own. No other tables are ever read (`Statement.wellFormed_of_read`), so the plain text of a table that
was read (`Statement.definition`) is read as the same table again.
-/

namespace Tabular
open Text (KeywordBefore Leads NameBefore Padded)

/-- The parts of the text that defines a table, in order. -/
structure DefinitionText where
  createWord : Text
  beforeTable : Text
  tableWord : Text
  beforeName : Text
  name : Text
  beforeColumns : Text
  declarations : List Text

namespace DefinitionText

/-- What stands between the parentheses. -/
def columnList (p : DefinitionText) : Text := [','].intercalate p.declarations

/-- What follows the name. -/
def afterName (p : DefinitionText) : Text := p.beforeColumns ++ '(' :: (p.columnList ++ [')'])

/-- What follows the second keyword. -/
def afterTable (p : DefinitionText) : Text := p.beforeName ++ (p.name ++ p.afterName)

/-- What follows the first keyword. -/
def afterCreate (p : DefinitionText) : Text := p.beforeTable ++ (p.tableWord ++ p.afterTable)

/-- The whole text. -/
def text (p : DefinitionText) : Text := p.createWord ++ p.afterCreate

/-- The parts spell the definition of a table with the columns: keywords in any case, a name and a list
of declarations in parentheses, with any blanks between them. -/
structure Spells (p : DefinitionText) (columns : List Column) : Prop where
  createWord : p.createWord.lowerAscii = "create".toList
  beforeTable : p.beforeTable.allBlank ∧ p.beforeTable ≠ []
  tableWord : p.tableWord.lowerAscii = "table".toList
  beforeName : p.beforeName.allBlank ∧ p.beforeName ≠ []
  name : p.name.IsName
  beforeColumns : p.beforeColumns.allBlank
  ne_nil : columns ≠ []
  declarations : List.Forall₂ Column.Declared columns p.declarations

/-- A definition ends in the parenthesis that closes its column list. -/
lemma getLast?_text (p : DefinitionText) : p.text.getLast? = some ')' := by
  have closing : (p.columnList ++ [')']).getLast? = some ')' := List.getLast?_concat ..
  have behind : ∀ {t u : Text}, u.getLast? = some ')' → (t ++ u).getLast? = some ')' :=
    List.mem_getLast?_append_of_mem_getLast?
  have listed : p.afterName.getLast? = some ')' := by
    apply behind
    rw [List.getLast?_cons, closing]
    rfl
  exact behind (behind (behind (behind (behind listed))))

namespace Spells

variable {p : DefinitionText} {columns : List Column} (h : p.Spells columns)
include h

/-- The text starts with the keywords of a definition. -/
lemma leads : Leads StatementKind.createTable.keywords p.text p.afterTable := by
  have none : Text.allBlank [] := rfl
  apply Leads.cons none
  · exact ⟨h.createWord, Text.startsWord_append_gap h.beforeTable.1 h.beforeTable.2 _⟩
  · apply Leads.cons h.beforeTable.1
    · exact ⟨h.tableWord, Text.startsWord_append_gap h.beforeName.1 h.beforeName.2 _⟩
    · exact .nil

/-- What is read of a padded definition is the definition. -/
lemma strip_eq {sql : Text} (padded : Padded p.text sql) : Statement.strip sql = p.text := by
  have keyword : Text.IsKeyword "create".toList := by decide
  have last := p.getLast?_text
  refine Statement.strip_of_padded ⟨(keyword.isName h.createWord).head_append _, ?_⟩ ?_ padded
  · rw [last]
    rintro c ⟨⟩
    rfl
  · rw [last]
    exact fun eq => nomatch eq

/-- The column list declares the table. -/
lemma declared_eq : Statement.declared p.name (p.columnList ++ [')']) =
    .ok (.createTable p.name columns) := by
  -- nothing stands behind the last parenthesis, so it is the one that closes the list
  have closing : (p.columnList ++ [')']).cutLast? ')' = some (p.columnList, []) :=
    Text.cutLast?_append_cons List.not_mem_nil
  have columns : (Column.declarations p.columnList).mapM Column.ofText? = some columns :=
    Column.read_intercalate h.declarations h.ne_nil
  simp only [Statement.declared, closing, columns, if_neg (Column.not_allBlank_of_read columns)]
  rfl

/-- What follows the keywords is read as the definition. -/
lemma readCreateTable_eq :
    Statement.readCreateTable p.afterTable = .ok (.createTable p.name columns) := by
  have stop : p.afterName.startsWord = false := Text.startsWord_gap h.beforeColumns rfl
  have name : Cursor.name? p.afterTable = some (p.name, p.afterName) :=
    Cursor.name?_gap h.beforeName.1 ⟨h.name, stop⟩
  have opening : Cursor.symbol? '(' p.afterName = some (p.columnList ++ [')']) :=
    Cursor.symbol?_gap rfl h.beforeColumns
  simp only [Statement.readCreateTable, name, opening, h.declared_eq]

end Spells

/-- A definition as it is usually written, with single spaces between its parts. -/
def plain (name : Text) (columns : List Column) : DefinitionText where
  createWord := "CREATE".toList
  beforeTable := [' ']
  tableWord := "TABLE".toList
  beforeName := [' ']
  name
  beforeColumns := [' ']
  declarations :=
    match columns with
    | [] => []
    | c :: cs => c.declaration :: cs.map fun c => ' ' :: c.declaration

/-- The plain parts spell the definition. -/
lemma spells_plain {name : Text} (named : name.IsName) {columns : List Column} (ne : columns ≠ [])
    (formed : ∀ c ∈ columns, c.WellFormed) : (plain name columns).Spells columns where
  createWord := rfl
  beforeTable := ⟨rfl, List.cons_ne_nil _ _⟩
  tableWord := rfl
  beforeName := ⟨rfl, List.cons_ne_nil _ _⟩
  name := named
  beforeColumns := rfl
  ne_nil := ne
  declarations := by
    have none : Text.allBlank [] := rfl
    have space : Text.allBlank [' '] := rfl
    cases columns with
    | nil => exact absurd rfl ne
    | cons c cs =>
      obtain ⟨first, others⟩ := List.forall_mem_cons.1 formed
      apply List.Forall₂.cons (first.declared none)
      rw [List.forall₂_map_right_iff, List.forall₂_same]
      exact fun c mem => (others c mem).declared space

end DefinitionText

namespace Statement

/-- The plain text of a table definition. -/
def definition (name : Text) (columns : List Column) : Text :=
  "CREATE TABLE ".toList ++ name ++ " (".toList ++
    ", ".toList.intercalate (columns.map Column.declaration) ++ [')']

/-- The plain parts make the plain text. -/
lemma text_plain (name : Text) (columns : List Column) :
    (DefinitionText.plain name columns).text = definition name columns := by
  have listed : (DefinitionText.plain name columns).columnList =
      ", ".toList.intercalate (columns.map Column.declaration) := by
    cases columns with
    | nil => rfl
    | cons c cs =>
      rw [List.map_cons, Tuples.intercalate_comma_space, List.map_map]
      rfl
  calc
    _ = "CREATE TABLE ".toList ++ (name ++ (" (".toList ++
          ((DefinitionText.plain name columns).columnList ++ [')']))) := rfl
    _ = "CREATE TABLE ".toList ++ name ++ " (".toList ++
          ", ".toList.intercalate (columns.map Column.declaration) ++ [')'] := by
      rw [listed]
      simp only [List.append_assoc]
    _ = definition name columns := rfl

/-- A text that spells a definition is read as it, with any blanks around it. -/
lemma read_of_spells (settings : Settings) {p : DefinitionText} {columns : List Column}
    (h : p.Spells columns) {sql : Text} (padded : Padded p.text sql) :
    read settings sql = .ok (.createTable p.name columns) := by
  have lead := StatementKind.leading?_eq_some_iff.2 h.leads
  simp only [read, h.strip_eq padded, lead, h.readCreateTable_eq]
  rfl

/-- Only tables with a name and with well-formed columns are read. -/
lemma wellFormed_of_read {settings : Settings} {sql name : Text} {columns : List Column}
    (h : read settings sql = .ok (.createTable name columns)) :
    name.IsName ∧ columns ≠ [] ∧ ∀ c ∈ columns, c.WellFormed := by
  refine ⟨isName_of_read h, columns_ne_nil_of_read h, ?_⟩
  cases read_eq_ok h with
  | createTable _ _ declared => exact Column.wellFormed_of_read declared

/-- The plain text of a table with a name and well-formed columns is read as this table. -/
lemma read_definition (settings : Settings) {name : Text} (named : name.IsName)
    {columns : List Column} (ne : columns ≠ []) (formed : ∀ c ∈ columns, c.WellFormed) :
    read settings (definition name columns) = .ok (.createTable name columns) := by
  have spells := DefinitionText.spells_plain named ne formed
  rw [← text_plain]
  exact read_of_spells settings spells (.refl _)

/-- Every text that spells a name and well-formed columns is read as the definition of this table. The
tables that are read from any texts are exactly those with a name and one or more well-formed columns,
and the plain text of such a table is read as the same table again. -/
theorem definition_round_trip (settings : Settings) :
    (∀ (p : DefinitionText) columns sql, p.Spells columns → Padded p.text sql →
      read settings sql = .ok (.createTable p.name columns)) ∧
    (∀ name columns, (∃ sql, read settings sql = .ok (.createTable name columns)) ↔
      name.IsName ∧ columns ≠ [] ∧ ∀ c ∈ columns, c.WellFormed) ∧
    ∀ sql name columns, read settings sql = .ok (.createTable name columns) →
      read settings (definition name columns) = .ok (.createTable name columns) := by
  have printed : ∀ {name columns},
      (name.IsName ∧ columns ≠ [] ∧ ∀ c ∈ columns, Column.WellFormed c) →
        read settings (definition name columns) = .ok (.createTable name columns) :=
    fun ⟨named, ne, formed⟩ => read_definition settings named ne formed
  refine ⟨fun p columns sql h padded => read_of_spells settings h padded, ?tables, ?again⟩
  case tables =>
    intro name columns
    constructor
    · exact fun ⟨sql, read⟩ => wellFormed_of_read read
    · exact fun formed => ⟨_, printed formed⟩
  case again =>
    intro sql name columns read
    exact printed (wellFormed_of_read read)

/-- A definition with keywords in two cases, a column name and a type in parentheses, quotes and a
semicolon, and blanks of several kinds. -/
def sampleDefinition : DefinitionText where
  createWord := "Create".toList
  beforeTable := "\t".toList
  tableWord := "TABLE".toList
  beforeName := "  ".toList
  name := "T_1".toList
  beforeColumns := []
  declarations := ["(a  INT".toList, "\n b DEC(3)  ';' ".toList]

/-- The columns of the sample. -/
def sampleColumns : List Column :=
  [⟨"(a".toList, "INT".toList⟩, ⟨"b".toList, "DEC(3) ';'".toList⟩]

lemma spells_sampleDefinition : sampleDefinition.Spells sampleColumns := by
  have first : Text.Spaced ["(a".toList, "INT".toList] ([] ++ ("(a".toList ++ ("  ".toList ++
      ([] ++ ("INT".toList ++ []))))) :=
    .cons rfl rfl (by decide) (.last rfl rfl)
  have second : Text.Spaced ["b".toList, "DEC(3)".toList, "';'".toList] ("\n ".toList ++
      ("b".toList ++ (" ".toList ++ ([] ++ ("DEC(3)".toList ++ (" ".toList ++ (" ".toList ++
        ("';'".toList ++ " ".toList)))))))) :=
    .cons rfl rfl (by decide) (.cons rfl rfl (by decide) (.last rfl rfl))
  refine ⟨rfl, ⟨rfl, by decide⟩, rfl, ⟨rfl, by decide⟩, by decide, rfl, by decide, ?_⟩
  exact .cons ⟨by decide, _, ⟨by decide, by decide, rfl⟩, first⟩
    (.cons ⟨by decide, _, ⟨by decide, by decide, rfl⟩, second⟩ .nil)

/-- The sample is read as its table, and so is the plain text of this table. -/
theorem definition_round_trip_sample :
    sampleDefinition.Spells sampleColumns ∧
      sampleDefinition.text = "Create\tTABLE  T_1((a  INT,\n b DEC(3)  ';' )".toList ∧
      read {} sampleDefinition.text = .ok (.createTable "T_1".toList sampleColumns) ∧
      definition "T_1".toList sampleColumns = "CREATE TABLE T_1 ((a INT, b DEC(3) ';')".toList ∧
      read {} (definition "T_1".toList sampleColumns) =
        .ok (.createTable "T_1".toList sampleColumns) := by
  obtain ⟨spelled, -, again⟩ := definition_round_trip {}
  have read := spelled sampleDefinition sampleColumns _ spells_sampleDefinition (.refl _)
  exact ⟨spells_sampleDefinition, rfl, read, by decide, again _ _ _ read⟩

end Statement

end Tabular
