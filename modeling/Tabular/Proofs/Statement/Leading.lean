import Tabular.Proofs.Statement.Cursor
import Tabular.Statement.Reader

/-!
# Leading keywords

`Text.Leads` says that a text starts with keywords in a row. No text starts with the keywords of two
kinds of statement, because the first keyword already tells the kinds apart. So the order in which the
kinds are tried makes no difference (`StatementKind.leading?_eq_some_iff`).
-/

namespace Tabular

namespace Text

/-- The text starts with the keywords in a row, in any case and with any blanks before each of them; the
rest comes behind the last one. -/
inductive Leads : List Text → Text → Text → Prop where
  | nil {rest} :
    Leads [] rest rest
  | cons {word gap spelled t rest : Text} {words} :
    gap.allBlank →
    KeywordBefore word spelled t →
    Leads words t rest →
    Leads (word :: words) (gap ++ (spelled ++ t)) rest

end Text

namespace Cursor
open Text (Leads)

/-- Keywords are read one behind the other. -/
lemma keywords?_cons_eq_some_iff {word t rest : Text} {words : List Text} :
    keywords? (word :: words) t = some rest ↔
      ∃ u, keyword? word t = some u ∧ keywords? words u = some rest := by
  rw [keywords?]
  cases keyword? word t with
  | none => simp
  | some u => simp

/-- Keywords in a row are read from the texts that start with them. -/
theorem keywords?_eq_some_iff {words : List Text} (keyword : ∀ word ∈ words, word.IsKeyword)
    {t rest : Text} : keywords? words t = some rest ↔ Leads words t rest := by
  induction words generalizing t with
  | nil =>
    constructor
    · intro h
      cases h
      exact .nil
    · intro h
      cases h
      rfl
  | cons word words ih =>
    obtain ⟨first, others⟩ := List.forall_mem_cons.1 keyword
    rw [keywords?_cons_eq_some_iff]
    constructor
    · rintro ⟨u, read, reads⟩
      obtain ⟨gap, spelled, blank, before, rfl⟩ := exists_of_keyword? first read
      exact .cons blank before ((ih others).1 reads)
    · intro h
      cases h with
      | cons blank before leads =>
        exact ⟨_, keyword?_gap first blank before, (ih others).2 leads⟩

end Cursor

namespace StatementKind
open Text (Leads)

lemma mem_all (kind : StatementKind) : kind ∈ all := by
  cases kind with
  | createTable => decide
  | insertInto => decide
  | select => decide
  | dropTable => decide

/-- The keywords of every kind are words of small letters. -/
lemma isKeyword (kind : StatementKind) : ∀ word ∈ kind.keywords, word.IsKeyword := by
  cases kind with
  | createTable => decide
  | insertInto => decide
  | select => decide
  | dropTable => decide

/-- The keywords of a kind are read where they lead the text. -/
lemma keywords?_eq_some_iff {kind : StatementKind} {t rest : Text} :
    Cursor.keywords? kind.keywords t = some rest ↔ Leads kind.keywords t rest :=
  Cursor.keywords?_eq_some_iff kind.isKeyword

/-- The first keyword tells the kinds apart. -/
lemma eq_of_head_keywords {kind kind' : StatementKind} {word : Text}
    (h : word ∈ kind.keywords.head?) (h' : word ∈ kind'.keywords.head?) : kind = kind' := by
  have same : kind.keywords.head? = kind'.keywords.head? := h.trans h'.symm
  revert same
  cases kind <;> cases kind' <;> decide

/-- What is read behind the keywords of a kind is read behind its first one. -/
lemma exists_of_keywords? {kind : StatementKind} {t rest : Text}
    (h : Cursor.keywords? kind.keywords t = some rest) :
    ∃ word ∈ kind.keywords.head?, ∃ u, Cursor.keyword? word t = some u := by
  cases words : kind.keywords with
  | nil => cases kind <;> cases words
  | cons word words' =>
    rw [words] at h
    obtain ⟨u, read, _⟩ := Cursor.keywords?_cons_eq_some_iff.1 h
    exact ⟨word, rfl, u, read⟩

/-- A text starts with the keywords of at most one kind, and ends with one rest behind them. -/
lemma leads_unique {kind kind' : StatementKind} {t rest rest' : Text}
    (h : Leads kind.keywords t rest) (h' : Leads kind'.keywords t rest') :
    kind = kind' ∧ rest = rest' := by
  have reads := keywords?_eq_some_iff.2 h
  have reads' := keywords?_eq_some_iff.2 h'
  obtain ⟨word, mem, u, read⟩ := exists_of_keywords? reads
  obtain ⟨word', mem', u', read'⟩ := exists_of_keywords? reads'
  have same : word = word' :=
    Cursor.keyword_unique (kind.isKeyword _ (List.mem_of_mem_head? mem))
      (kind'.isKeyword _ (List.mem_of_mem_head? mem')) read read'
  subst same
  obtain rfl := eq_of_head_keywords mem mem'
  cases reads.symm.trans reads'
  exact ⟨rfl, rfl⟩

/-- The kind of a text is the one whose keywords the text starts with. -/
theorem leading?_eq_some_iff {t rest : Text} {kind : StatementKind} :
    leading? t = some (kind, rest) ↔ Leads kind.keywords t rest := by
  have sound : ∀ {kind rest}, leading? t = some (kind, rest) → Leads kind.keywords t rest := by
    intro kind rest h
    obtain ⟨kind', _, found⟩ := List.exists_of_findSome?_eq_some h
    obtain ⟨rest', reads, eq⟩ := Option.map_eq_some_iff.1 found
    cases eq
    exact keywords?_eq_some_iff.1 reads
  refine ⟨sound, fun h => ?_⟩
  cases found : leading? t with
  | none =>
    have none := List.findSome?_eq_none_iff.1 found kind kind.mem_all
    rw [keywords?_eq_some_iff.2 h] at none
    cases none
  | some p =>
    obtain ⟨kind', rest'⟩ := p
    obtain ⟨rfl, rfl⟩ := leads_unique (sound found) h
    rfl

/-- A text has no kind when it starts with the keywords of none. -/
theorem leading?_eq_none_iff {t : Text} :
    leading? t = none ↔ ∀ (kind : StatementKind) rest, ¬ Leads kind.keywords t rest := by
  rw [Option.eq_none_iff_forall_ne_some, Prod.forall]
  exact forall₂_congr fun kind rest => not_congr leading?_eq_some_iff

end StatementKind

end Tabular
