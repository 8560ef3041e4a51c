import Tabular.Proofs.Statement.Leading
import Tabular.Proofs.Statement.Terminator

/-!
# The texts of queries

`QueryText` has the parts of a query as it is written, blanks included, and `QueryText.WellFormed` says
which parts make a query. A text is read as a query exactly when it has such parts
(`Statement.read_eq_select_iff`), it has them in only one way (`QueryText.eq_of_text_eq`), and any other
text that starts with the keyword is not supported (`Statement.read_of_not_query`).
-/

namespace Tabular
open Text (NameBefore KeywordBefore NamesText)

namespace Text

lemma isKeyword_select : IsKeyword "select".toList := by decide

lemma isKeyword_from : IsKeyword "from".toList := by decide

lemma isKeyword_where : IsKeyword "where".toList := by decide

end Text

open Text (isKeyword_select isKeyword_from isKeyword_where)

/-- The columns of a query as they are written. -/
inductive ColumnsText where
  | all
  | named (names : NamesText)

namespace ColumnsText

/-- How the columns are written. -/
def text : ColumnsText → Text
  | all => ['*']
  | named names => names.text

/-- The columns that are asked for. -/
def selection : ColumnsText → Selection
  | all => .all
  | named names => .named names.names

/-- The names that are asked for are names. -/
def WellFormed : ColumnsText → Prop
  | all => True
  | named names => names.WellFormed

/-- The columns stand in front of a rest that does not run on with a word character. An asterisk may
stand in front of any rest. -/
structure Before (columns : ColumnsText) (rest : Text) : Prop where
  wellFormed : columns.WellFormed
  stop : columns = all ∨ rest.startsWord = false

/-- A text can be divided in one way into columns and what follows them, if that is no comma. -/
lemma Before.inj {columns columns' : ColumnsText} {rest rest' : Text} (h : columns.Before rest)
    (h' : columns'.Before rest') (last : Cursor.symbol? ',' rest = none)
    (last' : Cursor.symbol? ',' rest' = none)
    (eq : columns.text ++ rest = columns'.text ++ rest') : columns = columns' ∧ rest = rest' := by
  -- no name starts with an asterisk
  have star : ∀ {names : NamesText} {t u : Text}, names.WellFormed →
      names.text ++ t ≠ '*' :: u := by
    intro names t u formed eq
    obtain ⟨name, v, named, same⟩ := formed.exists_name t
    exact named.append_ne_cons rfl v u (same.symm.trans eq)
  cases columns with
  | all =>
    cases columns' with
    | all => exact ⟨rfl, (List.cons.inj eq).2⟩
    | named names' => exact absurd eq.symm (star h'.wellFormed)
  | named names =>
    cases columns' with
    | all => exact absurd eq (star h.wellFormed)
    | named names' =>
      obtain ⟨rfl, same⟩ := NamesText.inj h.wellFormed h'.wellFormed (h.stop.resolve_left nofun)
        (h'.stop.resolve_left nofun) last last' eq
      exact ⟨rfl, same⟩

/-- A text with columns in front starts with no blank. -/
lemma Before.head_append {columns : ColumnsText} {rest : Text} (h : columns.Before rest) :
    ∀ c ∈ (columns.text ++ rest).head?, Text.isBlank c = false := by
  cases columns with
  | all =>
    rintro c ⟨⟩
    decide
  | named names => exact NamesText.WellFormed.head_append h.wellFormed rest

end ColumnsText

/-- The clause of a query as it is written, or no clause. -/
inductive ClauseText where
  | absent
  | present (word condition : Text)

namespace ClauseText

/-- How the clause is written. -/
def text : ClauseText → Text
  | absent => []
  | present word condition => word ++ condition

/-- The clause that the text makes. -/
def clause : ClauseText → Option Clause
  | absent => none
  | present _ condition => some (.ofText condition)

/-- A clause is a keyword and a condition that is not blank. -/
def WellFormed : ClauseText → Prop
  | absent => True
  | present word condition =>
    KeywordBefore "where".toList word condition ∧ condition.allBlank = false

/-- A clause starts with no blank. -/
lemma WellFormed.head_text {p : ClauseText} (h : p.WellFormed) :
    ∀ c ∈ p.text.head?, Text.isBlank c = false := by
  cases p with
  | absent => exact nofun
  | present word condition =>
    exact (isKeyword_where.isName h.1.spells).head_append condition

/-- A text has the parts of a clause in at most one way. -/
lemma WellFormed.inj {p p' : ClauseText} (h : p.WellFormed) (h' : p'.WellFormed)
    (eq : p.text = p'.text) : p = p' := by
  have ne : ∀ {word condition : Text}, KeywordBefore "where".toList word condition →
      word ++ condition ≠ [] :=
    fun before => List.append_ne_nil_of_left_ne_nil (isKeyword_where.isName before.spells).1 _
  cases p with
  | absent =>
    cases p' with
    | absent => rfl
    | present word' condition' => exact absurd eq.symm (ne h'.1)
  | present word condition =>
    cases p' with
    | absent => exact absurd eq (ne h.1)
    | present word' condition' =>
      obtain ⟨rfl, rfl⟩ :=
        (h.1.nameBefore isKeyword_where).inj (h'.1.nameBefore isKeyword_where) eq
      rfl

end ClauseText

/-- The parts of the text of a query, in order. -/
@[ext]
structure QueryText where
  selectWord : Text
  beforeColumns : Text
  columns : ColumnsText
  beforeFrom : Text
  fromWord : Text
  beforeTable : Text
  table : Text
  beforeClause : Text
  clause : ClauseText

namespace QueryText

/-- What follows the table. -/
def afterTable (p : QueryText) : Text := p.beforeClause ++ p.clause.text

/-- What follows the keyword before the table. -/
def afterFrom (p : QueryText) : Text := p.beforeTable ++ (p.table ++ p.afterTable)

/-- What follows the columns. -/
def afterColumns (p : QueryText) : Text := p.beforeFrom ++ (p.fromWord ++ p.afterFrom)

/-- What follows the keyword before the columns. -/
def afterSelect (p : QueryText) : Text := p.beforeColumns ++ (p.columns.text ++ p.afterColumns)

/-- The whole text. -/
def text (p : QueryText) : Text := p.selectWord ++ p.afterSelect

/-- The query that the text spells. -/
def query (p : QueryText) : Query where
  selection := p.columns.selection
  table := p.table
  clause := p.clause.clause

/-- The parts make the text of a query: keywords in any case, columns, a name and an optional clause,
with any blanks between them. -/
structure WellFormed (p : QueryText) : Prop where
  selectWord : KeywordBefore "select".toList p.selectWord p.afterSelect
  beforeColumns : p.beforeColumns.allBlank
  columns : p.columns.Before p.afterColumns
  beforeFrom : p.beforeFrom.allBlank
  fromWord : KeywordBefore "from".toList p.fromWord p.afterFrom
  beforeTable : p.beforeTable.allBlank
  table : NameBefore p.table p.afterTable
  beforeClause : p.beforeClause.allBlank
  clause : p.clause.WellFormed

/-- The keyword in front of the table is read behind the columns. -/
lemma WellFormed.keyword?_afterColumns {p : QueryText} (h : p.WellFormed) :
    Cursor.keyword? "from".toList p.afterColumns = some p.afterFrom :=
  Cursor.keyword?_gap isKeyword_from h.beforeFrom h.fromWord

/-- The columns of a well-formed text are not followed by a comma. -/
lemma WellFormed.symbol?_afterColumns {p : QueryText} (h : p.WellFormed) :
    Cursor.symbol? ',' p.afterColumns = none := by
  obtain ⟨_, _, read⟩ := (Cursor.keyword?_eq_some_iff isKeyword_from).1 h.keyword?_afterColumns
  exact Cursor.symbol?_eq_none_of_name? rfl read

/-- The grammar of queries is unambiguous: a text has the parts of a query in at most one way. -/
theorem eq_of_text_eq {p p' : QueryText} (h : p.WellFormed) (h' : p'.WellFormed)
    (eq : p.text = p'.text) : p = p' := by
  obtain ⟨selectWord, afterSelect⟩ :=
    (h.selectWord.nameBefore isKeyword_select).inj (h'.selectWord.nameBefore isKeyword_select) eq
  obtain ⟨beforeColumns, columnsOn⟩ := Text.append_inj_of_blank h.beforeColumns h'.beforeColumns
    h.columns.head_append h'.columns.head_append afterSelect
  obtain ⟨columns, afterColumns⟩ := h.columns.inj h'.columns h.symbol?_afterColumns
    h'.symbol?_afterColumns columnsOn
  have fromWord := h.fromWord.nameBefore isKeyword_from
  have fromWord' := h'.fromWord.nameBefore isKeyword_from
  obtain ⟨beforeFrom, fromOn⟩ := Text.append_inj_of_blank h.beforeFrom h'.beforeFrom
    (fromWord.isName.head_append _) (fromWord'.isName.head_append _) afterColumns
  obtain ⟨fromWord, afterFrom⟩ := fromWord.inj fromWord' fromOn
  obtain ⟨beforeTable, tableOn⟩ := Text.append_inj_of_blank h.beforeTable h'.beforeTable
    (h.table.isName.head_append _) (h'.table.isName.head_append _) afterFrom
  obtain ⟨table, afterTable⟩ := h.table.inj h'.table tableOn
  obtain ⟨beforeClause, clauseOn⟩ := Text.append_inj_of_blank h.beforeClause h'.beforeClause
    h.clause.head_text h'.clause.head_text afterTable
  exact QueryText.ext selectWord beforeColumns columns beforeFrom fromWord beforeTable table
    beforeClause (h.clause.inj h'.clause clauseOn)

/-- A query as it is usually written, with single spaces between its parts. -/
def plain (columns : ColumnsText) (table : Text) (condition : Option Text) : QueryText where
  selectWord := "SELECT".toList
  beforeColumns := [' ']
  columns
  beforeFrom := [' ']
  fromWord := "FROM".toList
  beforeTable := [' ']
  table
  beforeClause := condition.elim [] fun _ => [' ']
  clause := condition.elim .absent fun condition => .present "WHERE".toList (' ' :: condition)

/-- A query that is written with single spaces is well formed. -/
lemma wellFormed_plain {columns : ColumnsText} (formed : columns.WellFormed) {table : Text}
    (named : table.IsName) {condition : Option Text} (notBlank : ∀ t ∈ condition, t.allBlank = false) :
    (plain columns table condition).WellFormed where
  selectWord := ⟨rfl, rfl⟩
  beforeColumns := rfl
  columns := ⟨formed, .inr rfl⟩
  beforeFrom := rfl
  fromWord := ⟨rfl, rfl⟩
  beforeTable := rfl
  table := by
    cases condition with
    | none => exact ⟨named, rfl⟩
    | some t => exact ⟨named, rfl⟩
  beforeClause := by
    cases condition with
    | none => rfl
    | some t => rfl
  clause := by
    cases condition with
    | none => exact trivial
    | some t => exact ⟨⟨rfl, rfl⟩, notBlank t rfl⟩

lemma text_plain_none (columns : ColumnsText) (table : Text) :
    (plain columns table none).text =
      "SELECT ".toList ++ columns.text ++ " FROM ".toList ++ table :=
  calc
    _ = "SELECT ".toList ++ (columns.text ++ (" FROM ".toList ++ (table ++ ([] ++ [])))) := rfl
    _ = _ := by simp only [List.append_assoc, List.append_nil]

lemma text_plain_some (columns : ColumnsText) (table condition : Text) :
    (plain columns table (some condition)).text =
      "SELECT ".toList ++ columns.text ++ " FROM ".toList ++ table ++ " WHERE ".toList ++
        condition :=
  calc
    _ = "SELECT ".toList ++
          (columns.text ++ (" FROM ".toList ++ (table ++ (" WHERE ".toList ++ condition)))) := rfl
    _ = _ := by simp only [List.append_assoc]

end QueryText

namespace Statement

/-- Columns are read in front of a rest where no further comma follows. -/
lemma readSelection?_append {gap rest : Text} (blank : gap.allBlank) {columns : ColumnsText}
    (h : columns.Before rest) (last : Cursor.symbol? ',' rest = none) :
    readSelection? (gap ++ (columns.text ++ rest)) = some (columns.selection, rest) := by
  cases columns with
  | all =>
    have star : Cursor.symbol? '*' (gap ++ '*' :: rest) = some rest := Cursor.symbol?_gap rfl blank
    rw [readSelection?, ColumnsText.text, List.singleton_append, star]
    rfl
  | named names =>
    have read := Cursor.names?_append h.wellFormed (h.stop.resolve_left nofun) last blank
    have noStar : Cursor.symbol? '*' (gap ++ (names.text ++ rest)) = none := by
      obtain ⟨name, t, first⟩ := Cursor.exists_name?_of_names? read
      exact Cursor.symbol?_eq_none_of_name? rfl first
    rw [readSelection?, ColumnsText.text, noStar, read]
    rfl

/-- What is read as columns is how they are written, behind blanks. -/
lemma exists_of_readSelection? {t rest : Text} {selection : Selection}
    (h : readSelection? t = some (selection, rest)) :
    ∃ gap columns, gap.allBlank ∧ ColumnsText.Before columns rest ∧
      columns.selection = selection ∧ t = gap ++ (columns.text ++ rest) := by
  unfold readSelection? at h
  split at h
  · next star =>
    cases h
    obtain ⟨_, gap, blank, split⟩ := Text.trimStart_eq_iff.1 (Cursor.symbol?_eq_some_iff.1 star)
    exact ⟨gap, .all, blank, ⟨trivial, .inl rfl⟩, rfl, split⟩
  · obtain ⟨⟨names, rest'⟩, read, eq⟩ := Option.map_eq_some_iff.1 h
    cases eq
    obtain ⟨stop, _, gap, p, blank, formed, rfl, split⟩ := Cursor.exists_of_names? read
    exact ⟨gap, .named p, blank, ⟨formed, .inr stop⟩, rfl, split⟩

/-- A clause is read behind blanks. -/
lemma readClause?_append {gap : Text} (blank : gap.allBlank) {clause : ClauseText}
    (h : clause.WellFormed) : readClause? (gap ++ clause.text) = some clause.clause := by
  cases clause with
  | absent =>
    rw [readClause?, ClauseText.text, List.append_nil, if_pos blank]
    rfl
  | present word condition =>
    obtain ⟨before, notBlank⟩ := h
    have some : ¬ Text.allBlank (gap ++ (word ++ condition)) := by
      refine fun all => Bool.eq_false_iff.1 notBlank (Text.allBlank_iff.2 fun c mem => ?_)
      exact Text.allBlank_iff.1 all c (List.mem_append_right _ (List.mem_append_right _ mem))
    rw [readClause?, ClauseText.text, if_neg some, Cursor.keyword?_gap isKeyword_where blank before]
    exact if_neg (Bool.eq_false_iff.1 notBlank)

/-- A clause is read only where one is written behind blanks. -/
lemma exists_of_readClause? {t : Text} {clause : Option Clause} (h : readClause? t = some clause) :
    ∃ gap p, gap.allBlank ∧ ClauseText.WellFormed p ∧ p.clause = clause ∧ t = gap ++ p.text := by
  unfold readClause? at h
  split at h
  · next blank =>
    cases h
    exact ⟨t, .absent, blank, trivial, rfl, (List.append_nil t).symm⟩
  split at h
  · next condition read =>
    split at h
    · cases h
    · next notBlank =>
      cases h
      obtain ⟨gap, word, blank, before, split⟩ := Cursor.exists_of_keyword? isKeyword_where read
      exact ⟨gap, .present word condition, blank, ⟨before, Bool.eq_false_iff.2 notBlank⟩, rfl, split⟩
  · cases h

/-- What follows the first keyword of a well-formed text is read as its query. -/
lemma readQuery?_afterSelect {p : QueryText} (h : p.WellFormed) :
    readQuery? p.afterSelect = some p.query := by
  have columns : readSelection? p.afterSelect = some (p.columns.selection, p.afterColumns) :=
    readSelection?_append h.beforeColumns h.columns h.symbol?_afterColumns
  have table : Cursor.name? p.afterFrom = some (p.table, p.afterTable) :=
    Cursor.name?_gap h.beforeTable h.table
  have clause : readClause? p.afterTable = some p.clause.clause :=
    readClause?_append h.beforeClause h.clause
  simp only [readQuery?, columns, h.keyword?_afterColumns, table, clause, Option.bind_eq_bind,
    Option.bind_some]
  rfl

/-- What is read as a query behind the first keyword makes a well-formed text with it. -/
lemma exists_of_readQuery? {word t : Text} (before : KeywordBefore "select".toList word t) {q : Query}
    (h : readQuery? t = some q) : ∃ p : QueryText, p.WellFormed ∧ p.text = word ++ t ∧ p.query = q := by
  obtain ⟨⟨selection, afterColumns⟩, columnsRead, h⟩ := Option.bind_eq_some_iff.1 h
  obtain ⟨afterFrom, fromRead, h⟩ := Option.bind_eq_some_iff.1 h
  obtain ⟨⟨table, afterTable⟩, tableRead, h⟩ := Option.bind_eq_some_iff.1 h
  obtain ⟨clause, clauseRead, h⟩ := Option.bind_eq_some_iff.1 h
  cases h
  obtain ⟨beforeColumns, columns, hc, columnsBefore, rfl, rfl⟩ := exists_of_readSelection? columnsRead
  obtain ⟨beforeFrom, fromWord, hf, fromBefore, rfl⟩ :=
    Cursor.exists_of_keyword? isKeyword_from fromRead
  obtain ⟨named, eq⟩ := Cursor.name?_eq_some_iff.1 tableRead
  obtain ⟨_, beforeTable, ht, rfl⟩ := Text.trimStart_eq_iff.1 eq
  obtain ⟨beforeClause, clauseText, hw, formed, rfl, rfl⟩ := exists_of_readClause? clauseRead
  exact ⟨⟨word, beforeColumns, columns, beforeFrom, fromWord, beforeTable, table, beforeClause,
    clauseText⟩, ⟨before, hc, columnsBefore, hf, fromBefore, ht, named, hw, formed⟩, rfl, rfl⟩

/-- A tight text that starts with the keyword of a query has no blanks before it. -/
lemma leads_select_iff {t rest : Text} (tight : t.Tight) :
    Text.Leads StatementKind.select.keywords t rest ↔
      ∃ word, KeywordBefore "select".toList word rest ∧ t = word ++ rest := by
  constructor
  · intro h
    cases h with
    | @cons _ gap word _ _ _ blank before leads =>
      cases leads
      cases gap with
      | nil => exact ⟨word, before, rfl⟩
      | cons c gap =>
        have notBlank := tight.1 c rfl
        rw [Text.allBlank_iff.1 blank c List.mem_cons_self] at notBlank
        cases notBlank
  · rintro ⟨word, before, rfl⟩
    have none : Text.allBlank [] := rfl
    exact .cons none before .nil

/-- Behind its keyword a query is read, or found to be of another shape. -/
lemma read_of_leads_select (settings : Settings) {sql rest : Text}
    (h : Text.Leads StatementKind.select.keywords (strip sql) rest) :
    read settings sql =
      (readQuery? rest).elim (.error (.unsupported .wideSelect settings.guidance))
        fun query => .ok (.select query) := by
  simp only [read, StatementKind.leading?_eq_some_iff.2 h]
  cases readQuery? rest with
  | none => rfl
  | some q => rfl

/-- A text is read as a query exactly when it has the parts of one. -/
lemma read_eq_select_iff {settings : Settings} {sql : Text} {q : Query} :
    read settings sql = .ok (.select q) ↔
      ∃ p : QueryText, p.WellFormed ∧ p.text = strip sql ∧ p.query = q := by
  constructor
  · intro h
    cases read_eq_ok h with
    | select lead read =>
      obtain ⟨word, before, split⟩ := (leads_select_iff (tight_strip sql)).1
        (StatementKind.leading?_eq_some_iff.1 lead)
      rw [split]
      exact exists_of_readQuery? before read
  · rintro ⟨p, formed, text, rfl⟩
    have lead := (leads_select_iff (tight_strip sql)).2 ⟨p.selectWord, formed.selectWord, text.symm⟩
    rw [read_of_leads_select settings lead, readQuery?_afterSelect formed]
    rfl

/-- A text that starts with the keyword of a query and does not have the parts of one is not
supported. -/
lemma read_of_not_query (settings : Settings) {sql rest : Text}
    (h : Text.Leads StatementKind.select.keywords (strip sql) rest)
    (other : ∀ p : QueryText, p.WellFormed → p.text ≠ strip sql) :
    read settings sql = .error (.unsupported .wideSelect settings.guidance) := by
  rw [read_of_leads_select settings h]
  obtain ⟨word, before, split⟩ := (leads_select_iff (tight_strip sql)).1 h
  cases read : readQuery? rest with
  | none => rfl
  | some q =>
    obtain ⟨p, formed, text, -⟩ := exists_of_readQuery? before read
    exact absurd (text.trans split.symm) (other p formed)

/-- A text is read as a query exactly when it is a keyword, columns, a keyword, a name and an optional
clause behind a keyword, and it is that in one way only. Any other text that starts with the first of
these keywords is not supported. The keywords are names like any other: they can be asked for, and a
table can be named by them. -/
theorem select_grammar (settings : Settings) :
    (∀ sql q, read settings sql = .ok (.select q) ↔
      ∃ p : QueryText, p.WellFormed ∧ p.text = strip sql ∧ p.query = q) ∧
    (∀ p p' : QueryText, p.WellFormed → p'.WellFormed → p.text = p'.text → p = p') ∧
    (∀ sql word rest, KeywordBefore "select".toList word rest → strip sql = word ++ rest →
      (∀ p : QueryText, p.WellFormed → p.text ≠ strip sql) →
        read settings sql = .error (.unsupported .wideSelect settings.guidance)) ∧
    (∀ word : Text, word.lowerAscii ∈ ["select".toList, "from".toList, "where".toList] →
      word.IsName) ∧
    ∀ (names : NamesText) (table : Text), names.WellFormed → table.IsName →
      read settings ("SELECT ".toList ++ names.text ++ " FROM ".toList ++ table) =
        .ok (.select ⟨.named names.names, table, none⟩) := by
  refine ⟨fun sql q => read_eq_select_iff, fun p p' h h' eq => QueryText.eq_of_text_eq h h' eq,
    ?unsupported, ?keywords, ?named⟩
  case unsupported =>
    intro sql word rest before split other
    exact read_of_not_query settings ((leads_select_iff (tight_strip sql)).2 ⟨word, before, split⟩) other
  case keywords =>
    intro word mem
    have keywords : ∀ w ∈ ["select".toList, "from".toList, "where".toList], Text.IsKeyword w := by
      decide
    exact (keywords _ mem).isName rfl
  case named =>
    intro names table formed named
    have columns : ColumnsText.WellFormed (.named names) := formed
    have plain : (QueryText.plain (.named names) table none).WellFormed :=
      QueryText.wellFormed_plain columns named nofun
    have text := QueryText.text_plain_none (.named names) table
    have stripped : strip ("SELECT ".toList ++ names.text ++ " FROM ".toList ++ table) = _ :=
      strip_eq_self (by rintro c ⟨⟩; rfl) (isTerminal_getLast?_append named _)
    exact read_eq_select_iff.2 ⟨_, plain, text.trans stripped.symm, rfl⟩

/-- Blanks may be missing around an asterisk, a limit is not supported, and every name may be one of the
keywords. -/
theorem select_grammar_sample :
    read {} "Select*from t WHERE a = 1;".toList =
        .ok (.select ⟨.all, "t".toList, some (.ofText " a = 1".toList)⟩) ∧
      read {} "SELECT a FROM t LIMIT 1".toList =
        .error (.unsupported .wideSelect (Settings.guidance {})) ∧
      read {} ("SELECT ".toList ++ "FROM , where".toList ++ " FROM ".toList ++ "select".toList) =
        .ok (.select ⟨.named ["FROM".toList, "where".toList], "select".toList, none⟩) := by
  obtain ⟨grammar, -, unsupported, keywords, named⟩ := select_grammar {}
  refine ⟨?all, ?limit, ?keywords⟩
  case all =>
    refine (grammar _ _).2 ⟨⟨"Select".toList, [], .all, [], "from".toList, [' '], "t".toList, [' '],
      .present "WHERE".toList " a = 1".toList⟩, ?_, by decide +kernel, rfl⟩
    exact ⟨⟨rfl, rfl⟩, rfl, ⟨trivial, .inl rfl⟩, rfl, ⟨rfl, rfl⟩, rfl, ⟨by decide, rfl⟩, rfl,
      ⟨rfl, rfl⟩, rfl⟩
  case limit =>
    have split : strip "SELECT a FROM t LIMIT 1".toList =
        "SELECT".toList ++ " a FROM t LIMIT 1".toList := by
      decide +kernel
    refine unsupported _ "SELECT".toList _ ⟨rfl, rfl⟩ split fun p formed text => ?_
    have read := (grammar _ _).2 ⟨p, formed, text, rfl⟩
    have leads := (leads_select_iff (tight_strip _)).2 ⟨_, ⟨rfl, rfl⟩, split⟩
    have none : readQuery? " a FROM t LIMIT 1".toList = none := by decide +kernel
    rw [read_of_leads_select {} leads, none] at read
    cases read
  case keywords =>
    have from' : Text.IsName "FROM".toList := keywords _ (by decide)
    have where' : Text.IsName "where".toList := keywords _ (by decide)
    have select' : Text.IsName "select".toList := keywords _ (by decide)
    exact named (.cons "FROM".toList [' '] [' '] (.last "where".toList)) _
      ⟨from', rfl, rfl, where'⟩ select'

end Statement

end Tabular
