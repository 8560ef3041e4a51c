import Tabular.Proofs.Statement.Cursor
import Tabular.Query

/-!
# The texts of conditions

A condition is written as a name, an operator and a literal that is not blank, with any blanks around the
operator. `ConditionText` has these parts and `ConditionText.WellFormed` says which of them make a
condition. Where one operator starts with another, the longer one is meant: the table of operators has it
first, so that the first operator found is the longest (`Comparison.leading?_eq_some_iff`). A text is read
as a condition exactly when it has such parts (`Condition.ofText?_eq_some_iff`), and it has them in only
one way (`ConditionText.eq_of_text_eq`).
-/

namespace Tabular
open Text (IsName NameBefore)

namespace Text

variable {α : Type}

/-- The text is the token with its meaning in front of the rest, and starts with none of the tokens that is
longer. -/
structure LongestToken (tokens : List (Text × α)) (t token : Text) (a : α) (rest : Text) : Prop where
  mem : (token, a) ∈ tokens
  eq : t = token ++ rest
  longest : ∀ p ∈ tokens, p.1 <+: t → p.1.length ≤ token.length

variable {tokens : List (Text × α)} {p : Text × α} {t token rest rest' : Text} {a : α}

/-- A token that the text does not start with is not in the way of another one. -/
lemma longestToken_cons_of_absent (absent : ¬ p.1 <+: t) :
    LongestToken (p :: tokens) t token a rest ↔ LongestToken tokens t token a rest := by
  constructor
  · rintro ⟨mem, eq, longest⟩
    refine ⟨?_, eq, (List.forall_mem_cons.1 longest).2⟩
    rcases List.mem_cons.1 mem with rfl | mem
    · exact absurd ⟨rest, eq.symm⟩ absent
    · exact mem
  · rintro ⟨mem, eq, longest⟩
    refine ⟨List.mem_cons_of_mem p mem, eq, ?_⟩
    exact List.forall_mem_cons.2 ⟨fun lead => absurd lead absent, longest⟩

/-- A token that no later one starts with is the longest one wherever the text starts with it. -/
lemma longestToken_cons_of_lead (first : ∀ q ∈ tokens, ¬ p.1 <+: q.1) :
    LongestToken (p :: tokens) (p.1 ++ rest') token a rest ↔ (token, a) = p ∧ rest = rest' := by
  have lead : p.1 <+: p.1 ++ rest' := List.prefix_append p.1 rest'
  constructor
  · rintro ⟨mem, eq, longest⟩
    rcases List.mem_cons.1 mem with rfl | mem
    · exact ⟨rfl, (List.append_cancel_left eq).symm⟩
    · -- the first token would be no longer than a later one, which would then start with it
      have le := longest p List.mem_cons_self lead
      have lead' : token <+: p.1 ++ rest' := ⟨rest, eq.symm⟩
      exact absurd (List.prefix_of_prefix_length_le lead lead' le) (first _ mem)
  · rintro ⟨rfl, rfl⟩
    refine ⟨List.mem_cons_self, rfl, List.forall_mem_cons.2 ⟨fun _ => Nat.le_refl _, ?_⟩⟩
    intro q mem lead'
    rcases List.prefix_or_prefix_of_prefix lead lead' with longer | shorter
    · exact absurd longer (first q mem)
    · exact shorter.length_le

/-- The first of several tokens that a text starts with is its longest one, when no token starts with an
earlier one. -/
lemma findSome?_after?_eq_some_iff (ordered : tokens.Pairwise fun p q => ¬ p.1 <+: q.1) :
    (tokens.findSome? fun p => (after? p.1 t).map (p.2, ·)) = some (a, rest) ↔
      ∃ token, LongestToken tokens t token a rest := by
  induction tokens with
  | nil =>
    constructor
    · intro found
      cases found
    · rintro ⟨_, longest⟩
      cases longest.mem
  | cons p tokens ih =>
    obtain ⟨first, ordered⟩ := List.pairwise_cons.1 ordered
    rw [List.findSome?_cons]
    cases found : after? p.1 t with
    | none =>
      have absent : ¬ p.1 <+: t := by
        rintro ⟨rest', rfl⟩
        cases found.symm.trans (after?_eq_some_iff.2 rfl)
      apply (ih ordered).trans
      exact exists_congr fun token => (longestToken_cons_of_absent absent).symm
    | some rest' =>
      obtain rfl := after?_eq_some_iff.1 found
      show some (p.2, rest') = some (a, rest) ↔ _
      constructor
      · intro same
        cases same
        exact ⟨p.1, (longestToken_cons_of_lead first).2 ⟨rfl, rfl⟩⟩
      · rintro ⟨token, longest⟩
        obtain ⟨rfl, rfl⟩ := (longestToken_cons_of_lead first).1 longest
        rfl

end Text

namespace Comparison

/-- The operator is written by the token in front of the rest, and with the rest there is no longer token
of an operator. -/
structure TokenBefore (op : Comparison) (token rest : Text) : Prop where
  mem : (token, op) ∈ tokens
  longest : ∀ p ∈ tokens, p.1 <+: token ++ rest → p.1.length ≤ token.length

/-- No operator starts with one that is tried before it. -/
lemma pairwise_tokens : tokens.Pairwise fun p q => ¬ p.1 <+: q.1 := by decide

/-- The operator that is found is the longest that the text starts with. -/
lemma leading?_eq_some_iff {t rest : Text} {op : Comparison} :
    leading? t = some (op, rest) ↔ ∃ token, op.TokenBefore token rest ∧ token ++ rest = t := by
  apply (Text.findSome?_after?_eq_some_iff pairwise_tokens).trans
  constructor
  · rintro ⟨token, mem, rfl, longest⟩
    exact ⟨token, ⟨mem, longest⟩, rfl⟩
  · rintro ⟨token, ⟨mem, longest⟩, rfl⟩
    exact ⟨token, ⟨mem, rfl, longest⟩⟩

/-- No operator is found where the text starts with none. -/
lemma leading?_eq_none_iff {t : Text} : leading? t = none ↔ ∀ p ∈ tokens, ¬ p.1 <+: t := by
  apply List.findSome?_eq_none_iff.trans
  refine forall₂_congr fun p _ => ?_
  rw [Option.map_eq_none_iff, Option.eq_none_iff_forall_ne_some]
  constructor
  · rintro none ⟨rest, eq⟩
    exact none rest (Text.after?_eq_some_iff.2 eq.symm)
  · intro absent rest found
    exact absent ⟨rest, (Text.after?_eq_some_iff.1 found).symm⟩

/-- A text starts with at most one operator. -/
lemma TokenBefore.inj {op op' : Comparison} {token token' rest rest' : Text}
    (h : op.TokenBefore token rest) (h' : op'.TokenBefore token' rest')
    (eq : token ++ rest = token' ++ rest') : op = op' ∧ token = token' ∧ rest = rest' := by
  have found := leading?_eq_some_iff.2 ⟨token, h, eq⟩
  cases found.symm.trans (leading?_eq_some_iff.2 ⟨token', h', rfl⟩)
  exact ⟨rfl, List.append_cancel_right eq, rfl⟩

/-- A written operator starts with no blank and with no word character. -/
lemma head_token {token : Text} {op : Comparison} (mem : (token, op) ∈ tokens) (rest : Text) :
    (∀ c ∈ (token ++ rest).head?, Text.isBlank c = false) ∧ Text.startsWord (token ++ rest) = false := by
  have each : ∀ p ∈ tokens,
      p.1 ≠ [] ∧ p.1.head?.any Text.isBlank = false ∧ Text.startsWord p.1 = false := by
    decide
  obtain ⟨ne, notBlank, stop⟩ := each _ mem
  cases token with
  | nil => exact absurd rfl ne
  | cons c token =>
    refine ⟨?_, stop⟩
    rintro _ ⟨⟩
    exact notBlank

end Comparison

/-- The parts of the text of a condition, in order, and the operator that the token stands for. -/
structure ConditionText where
  column : Text
  beforeToken : Text
  token : Text
  operator : Comparison
  literal : Text

namespace ConditionText

/-- What follows the column. -/
def afterColumn (p : ConditionText) : Text := p.beforeToken ++ (p.token ++ p.literal)

/-- The whole text. -/
def text (p : ConditionText) : Text := p.column ++ p.afterColumn

/-- The condition that the text spells. -/
def condition (p : ConditionText) : Condition where
  column := p.column
  comparison := p.operator
  value := Value.ofLiteral p.literal.trim

/-- The parts make the text of a condition: a name, blanks, the token of the operator and a literal that is
not blank. -/
structure WellFormed (p : ConditionText) : Prop where
  column : p.column.IsName
  beforeToken : p.beforeToken.allBlank
  token : p.operator.TokenBefore p.token p.literal
  literal : p.literal.allBlank = false

namespace WellFormed

variable {p p' : ConditionText} (h : p.WellFormed)
include h

/-- The column ends where the blanks or the operator begin. -/
lemma nameBefore : NameBefore p.column p.afterColumn :=
  ⟨h.column, Text.startsWord_gap h.beforeToken (Comparison.head_token h.token.mem p.literal).2⟩

/-- Behind the blanks that follow the column stands the operator. -/
lemma trimStart_afterColumn : p.afterColumn.trimStart = p.token ++ p.literal := by
  apply Text.trimStart_eq_iff.2
  exact ⟨(Comparison.head_token h.token.mem p.literal).1, p.beforeToken, h.beforeToken, rfl⟩

/-- The grammar of conditions is unambiguous: a text has the parts of a condition in at most one way. -/
theorem eq_of_text_eq (h' : p'.WellFormed) (eq : p.text = p'.text) : p = p' := by
  obtain ⟨column, afterColumn⟩ := h.nameBefore.inj h'.nameBefore eq
  obtain ⟨beforeToken, behind⟩ := Text.append_inj_of_blank h.beforeToken h'.beforeToken
    (Comparison.head_token h.token.mem p.literal).1 (Comparison.head_token h'.token.mem p'.literal).1
    afterColumn
  obtain ⟨operator, token, literal⟩ := h.token.inj h'.token behind
  cases p
  cases p'
  cases column
  cases beforeToken
  cases operator
  cases token
  cases literal
  rfl

end WellFormed

end ConditionText

namespace Condition

/-- A text is read as a condition exactly when it has the parts of one, with any blanks around it. -/
lemma ofText?_eq_some_iff {text : Text} {c : Condition} :
    ofText? text = some c ↔ ∃ p : ConditionText, p.WellFormed ∧ p.text = text.trim ∧ p.condition = c := by
  constructor
  · intro h
    unfold ofText? at h
    simp only at h
    split at h
    · cases h
    next ne =>
    split at h
    · cases h
    next operator literal found =>
    split at h
    · cases h
    next notBlank =>
    cases h
    obtain ⟨token, before, behind⟩ := Comparison.leading?_eq_some_iff.1 found
    obtain ⟨_, gap, blank, afterColumn⟩ := Text.trimStart_eq_iff.1 behind.symm
    refine ⟨⟨text.trim.takeWhile Text.isWordChar, gap, token, operator, literal⟩,
      ⟨⟨?_, fun c mem => List.mem_takeWhile_imp mem⟩, blank, before, ?_⟩, ?_, rfl⟩
    · rwa [List.isEmpty_iff] at ne
    · rw [List.isEmpty_iff, Text.trim_eq_nil_iff] at notBlank
      exact Bool.eq_false_iff.2 notBlank
    · show text.trim.takeWhile Text.isWordChar ++ (gap ++ (token ++ literal)) = text.trim
      rw [← afterColumn]
      exact List.takeWhile_append_dropWhile
  · rintro ⟨p, h, eq, rfl⟩
    obtain ⟨taken, left⟩ := Cursor.word_append h.column.2 h.nameBefore.stop
    have found : Comparison.leading? (p.token ++ p.literal) = some (p.operator, p.literal) :=
      Comparison.leading?_eq_some_iff.2 ⟨p.token, h.token, rfl⟩
    have named : ¬ p.column.isEmpty := mt List.isEmpty_iff.1 h.column.1
    have notBlank : ¬ p.literal.trim.isEmpty := by
      rw [List.isEmpty_iff, Text.trim_eq_nil_iff, h.literal]
      exact Bool.false_ne_true
    simp only [ofText?, ← eq, ConditionText.text, taken, left, h.trimStart_afterColumn, found,
      if_neg named, if_neg notBlank]
    rfl

/-- A text is read as a condition exactly when it is a name, an operator and a literal that is not blank,
with any blanks between them and around them, where the operator is the longest that stands there; it is
that in one way only, and every other text is read as none. The search through the operators finds the
longest one that a text starts with, and finds one in every text that starts with any. -/
theorem condition_grammar :
    (∀ text c, ofText? text = some c ↔
      ∃ p : ConditionText, p.WellFormed ∧ p.text = text.trim ∧ p.condition = c) ∧
    (∀ p p' : ConditionText, p.WellFormed → p'.WellFormed → p.text = p'.text → p = p') ∧
    (∀ text, ofText? text = none ↔ ∀ p : ConditionText, p.WellFormed → p.text ≠ text.trim) ∧
    (∀ t op rest, Comparison.leading? t = some (op, rest) ↔
      ∃ token, Comparison.TokenBefore op token rest ∧ token ++ rest = t) ∧
    ∀ t, Comparison.leading? t = none ↔ ∀ p ∈ Comparison.tokens, ¬ p.1 <+: t := by
  refine ⟨fun _ _ => ofText?_eq_some_iff, fun _ _ h h' eq => h.eq_of_text_eq h' eq, ?other,
    fun _ _ _ => Comparison.leading?_eq_some_iff, fun _ => Comparison.leading?_eq_none_iff⟩
  case other =>
    intro text
    rw [Option.eq_none_iff_forall_ne_some]
    constructor
    · intro none p h eq
      exact none p.condition (ofText?_eq_some_iff.2 ⟨p, h, eq, rfl⟩)
    · intro other c read
      obtain ⟨p, h, eq, -⟩ := ofText?_eq_some_iff.1 read
      exact other p h eq

/-- Of two operators that start alike the longer one is read, and a blank keeps them apart. What is left
of a longer operator is no literal of a shorter one. -/
theorem condition_grammar_sample :
    ofText? " a1>='x = y' ".toList = some ⟨"a1".toList, .ge, .text "x = y".toList⟩ ∧
      ofText? "a\t< >2".toList = some ⟨"a".toList, .lt, .text ">2".toList⟩ ∧
      ∀ p : ConditionText, p.WellFormed → p.text ≠ Text.trim "a >=".toList := by
  obtain ⟨grammar, -, other, -, -⟩ := condition_grammar
  refine ⟨?longer, ?shorter, ?neither⟩
  case longer =>
    apply (grammar _ _).2
    refine ⟨⟨"a1".toList, [], ">=".toList, .ge, "'x = y'".toList⟩, ?_, by decide, by decide +kernel⟩
    exact ⟨by decide, rfl, ⟨by decide, by decide⟩, rfl⟩
  case shorter =>
    apply (grammar _ _).2
    refine ⟨⟨"a".toList, ['\t'], "<".toList, .lt, " >2".toList⟩, ?_, by decide, by decide +kernel⟩
    exact ⟨by decide, rfl, ⟨by decide, by decide⟩, rfl⟩
  case neither =>
    exact (other _).1 (by decide)

end Condition

end Tabular
