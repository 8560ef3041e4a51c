import Tabular.Proofs.Statement.Leading
import Tabular.Statement.Walk

/-!
# Walks stay inside the text

What is left of the text at the position of a walk (`Walk.At`) is what the reading steps take apart. Each
step of a walk gives what the reading step gives, and moves to where its rest is left: a loop passes over
a run (`Walk.passWhile_eq`), a keyword is passed over or leaves the walk where it is
(`Walk.keyword_of_some`, `Walk.keyword_of_none`), and the loop over names takes a round for each comma
(`Walk.moreNames_eq`). So the walk over a statement gives what reading the statement gives
(`Walk.read_eq`), and never comes to grief. At every position of a text the steps are guarded against
leaving it (`Walk.Guarded`), and go on or stay (`Walk.Progresses`).
-/

namespace Tabular

namespace Walk

/-- The text is what is left of the input at the position. -/
structure At (input : Text) (p : Nat) (t : Text) : Prop where
  le : p ≤ input.length
  drop : input.drop p = t

variable {α β : Type} {input t rest : Text} {p : Nat}

/-- The position and what is left add to the input. -/
lemma At.add_length (h : At input p t) : p + t.length = input.length := by
  rw [← h.drop, List.length_drop]
  exact Nat.add_sub_cancel' h.le

/-- Behind its first character the rest is left. -/
lemma At.next {c : Char} (h : At input p (c :: t)) : At input (p + 1) t := by
  have size := h.add_length
  rw [List.length_cons] at size
  refine ⟨by omega, ?_⟩
  rw [List.drop_add_one_eq_tail_drop, h.drop, List.tail_cons]

/-- The character at the position is the first that is left. -/
lemma At.getElem?_eq (h : At input p t) : input[p]? = t.head? := by
  rw [← h.drop, List.head?_drop]

@[simp] lemma pure_apply (a : α) : (pure a : Walk α) input p = .ok (a, p) := rfl

/-- A walk goes on where the one before it ended, unless that came to grief. -/
@[simp] lemma bind_apply (w : Walk α) (f : α → Walk β) :
    (w >>= f) input p =
      match w input p with
      | .ok (a, q) => f a input q
      | .error fault => .error fault :=
  rfl

/-- Advancing over a character succeeds. -/
lemma advance_eq {c : Char} (h : At input p (c :: t)) : advance input p = .ok ((), p + 1) :=
  if_pos h.next.le

/-- What is left of the text is what the walk finds to be left. -/
lemma remaining_eq (h : At input p t) : remaining input p = .ok (t, p) := by
  rw [remaining, if_pos h.le, h.drop]

/-- Going to a position inside the text succeeds. -/
lemma moveTo_eq (h : At input p t) (q : Nat) : moveTo p input q = .ok ((), p) := if_pos h.le

/-- Reading a character where one is left succeeds. -/
lemma current_eq {c : Char} (h : At input p (c :: t)) : current input p = .ok (c, p) := by
  rw [current, h.getElem?_eq]
  rfl

/-- A walk is at the end when nothing is left. -/
lemma atEnd_eq (h : At input p t) : atEnd input p = .ok (t.isEmpty, p) := by
  have size := h.add_length
  have same : decide (input.length ≤ p) = t.isEmpty := by
    rw [Bool.eq_iff_iff, decide_eq_true_iff, List.isEmpty_iff, ← List.length_eq_zero_iff]
    omega
  rw [atEnd, same]

/-- A test is made on the first character that is left, and fails at the end. -/
lemma meets_eq (h : At input p t) (test : Char → Bool) :
    meets test input p = .ok (t.head?.any test, p) := by
  cases t with
  | nil => simp [meets, atEnd_eq h]
  | cons c t => simp [meets, atEnd_eq h, current_eq h]

/-- A loop whose test fails at once passes over nothing. -/
lemma passWhile_of_not_meets {test : Char → Bool} (h : meets test input p = .ok (false, p))
    (rounds : Nat) : passWhile test rounds input p = .ok ([], p) := by
  cases rounds with
  | zero => simp [passWhile, h]
  | succ rounds => simp [passWhile, h]

/-- A loop passes over the longest run that its test allows, in one round for each character of it. -/
lemma passWhile_eq (test : Char → Bool) (rounds : Nat) (h : At input p t)
    (le : (t.takeWhile test).length ≤ rounds) :
    ∃ q, At input q (t.dropWhile test) ∧
      passWhile test rounds input p = .ok (t.takeWhile test, q) := by
  have stands := meets_eq h test
  induction t generalizing p rounds with
  | nil => exact ⟨p, h, passWhile_of_not_meets stands rounds⟩
  | cons c t ih =>
    cases holds : test c with
    | false =>
      rw [List.dropWhile_cons_of_neg (by simp [holds]), List.takeWhile_cons_of_neg (by simp [holds])]
      rw [List.head?_cons, Option.any_some, holds] at stands
      exact ⟨p, h, passWhile_of_not_meets stands rounds⟩
    | true =>
      rw [List.takeWhile_cons_of_pos holds] at le ⊢
      rw [List.dropWhile_cons_of_pos holds]
      cases rounds with
      | zero => cases le
      | succ rounds =>
        obtain ⟨q, there, passed⟩ := ih rounds h.next (Nat.le_of_succ_le_succ le) (meets_eq h.next test)
        exact ⟨q, there, by simp [passWhile, stands, holds, current_eq h, advance_eq h, passed]⟩

/-- A run is passed over in no more rounds than the text has characters. -/
lemma run_eq (test : Char → Bool) (h : At input p t) :
    ∃ q, At input q (t.dropWhile test) ∧ run test input p = .ok (t.takeWhile test, q) := by
  have size := h.add_length
  have le := (List.takeWhile_sublist test (l := t)).length_le
  obtain ⟨q, there, passed⟩ := passWhile_eq test input.length h (by omega)
  exact ⟨q, there, by simp [run, whole, passed]⟩

/-- Passing over blanks leaves the text without leading blanks. -/
lemma skipBlanks_eq (h : At input p t) :
    ∃ q, At input q t.trimStart ∧ skipBlanks input p = .ok ((), q) := by
  obtain ⟨q, there, passed⟩ := run_eq Text.isBlank h
  exact ⟨q, there, by simp [skipBlanks, passed]⟩

/-- A name is found where one is read, and the walk passes over blanks and word characters in any case. -/
lemma name?_eq (h : At input p t) :
    ∃ q, At input q (t.trimStart.dropWhile Text.isWordChar) ∧
      name? input p = .ok ((Cursor.name? t).map Prod.fst, q) := by
  obtain ⟨b, start, skipped⟩ := skipBlanks_eq h
  obtain ⟨q, there, passed⟩ := run_eq Text.isWordChar start
  refine ⟨q, there, ?_⟩
  simp only [name?, bind_apply, skipped, passed, Cursor.name?]
  split
  · rfl
  · rfl

/-- A name is passed over where one is read. -/
lemma name?_of_some (h : At input p t) {name : Text} (read : Cursor.name? t = some (name, rest)) :
    ∃ q, At input q rest ∧ name? input p = .ok (some name, q) := by
  obtain ⟨q, there, found⟩ := name?_eq h
  obtain ⟨before, eq⟩ := Cursor.name?_eq_some_iff.1 read
  rw [eq, (Cursor.word_append before.isName.2 before.stop).2] at there
  rw [read] at found
  exact ⟨q, there, found⟩

/-- Where no name is read, none is found. -/
lemma name?_of_none (h : At input p t) (read : Cursor.name? t = none) :
    ∃ q, q ≤ input.length ∧ name? input p = .ok (none, q) := by
  obtain ⟨q, there, found⟩ := name?_eq h
  rw [read] at found
  exact ⟨q, there.le, found⟩

/-- A character that is there is passed over. -/
lemma symbol_of_cons {d : Char} (h : At input p (d :: t)) : symbol d input p = .ok (true, p + 1) := by
  simp [symbol, meets_eq h, advance_eq h]

/-- A character that is not there leaves the walk where it is. -/
lemma symbol_of_head?_ne {d : Char} (h : At input p t) (ne : t.head? ≠ some d) :
    symbol d input p = .ok (false, p) := by
  have fails : t.head?.any (· == d) = false := by
    rw [Option.any_eq_false]
    exact fun c mem => beq_eq_false_iff_ne.2 fun same => ne (same ▸ mem)
  simp [symbol, meets_eq h, fails]

/-- A character is passed over where one is read behind blanks. -/
lemma symbol_of_some (h : At input p t) {d : Char} (read : Cursor.symbol? d t = some rest) :
    ∃ b q, At input q rest ∧ skipBlanks input p = .ok ((), b) ∧ symbol d input b = .ok (true, q) := by
  obtain ⟨b, start, skipped⟩ := skipBlanks_eq h
  rw [Cursor.symbol?_eq_some_iff.1 read] at start
  exact ⟨b, b + 1, start.next, skipped, symbol_of_cons start⟩

/-- Where a character is not read, only the blanks in front of it are passed over. -/
lemma symbol_of_none (h : At input p t) {d : Char} (read : Cursor.symbol? d t = none) :
    ∃ b, At input b t.trimStart ∧ skipBlanks input p = .ok ((), b) ∧
      symbol d input b = .ok (false, b) := by
  obtain ⟨b, start, skipped⟩ := skipBlanks_eq h
  refine ⟨b, start, skipped, symbol_of_head?_ne start fun head => ?_⟩
  obtain ⟨rest, eq⟩ := List.head?_eq_some_iff.1 head
  cases read.symm.trans (Cursor.symbol?_eq_some_iff.2 eq)

/-- The letters of a word are passed over where the word is read. -/
lemma letters_of_some {word : Text} (h : At input p t)
    (read : Cursor.wordEnd? word.lowerAscii t = some rest) :
    ∃ q, At input q rest ∧ letters word input p = .ok (true, q) := by
  induction word generalizing p t with
  | nil =>
    cases read
    exact ⟨p, h, rfl⟩
  | cons w word ih =>
    cases t with
    | nil => cases read
    | cons c t =>
      rw [Text.lowerAscii, List.map_cons, Cursor.wordEnd?] at read
      split at read
      · next same =>
        obtain ⟨q, there, passed⟩ := ih h.next read
        exact ⟨q, there, by simp [letters, meets_eq h, same, advance_eq h, passed]⟩
      · cases read

/-- Where a word is not read, its letters are not all found. -/
lemma letters_of_none {word : Text} (h : At input p t)
    (read : Cursor.wordEnd? word.lowerAscii t = none) :
    ∃ q, letters word input p = .ok (false, q) := by
  induction word generalizing p t with
  | nil => cases read
  | cons w word ih =>
    cases t with
    | nil => exact ⟨p, by simp [letters, meets_eq h]⟩
    | cons c t =>
      rw [Text.lowerAscii, List.map_cons, Cursor.wordEnd?] at read
      split at read
      · next same =>
        obtain ⟨q, passed⟩ := ih h.next read
        exact ⟨q, by simp [letters, meets_eq h, same, advance_eq h, passed]⟩
      · next differs => exact ⟨p, by simp [letters, meets_eq h, differs]⟩

/-- A keyword is passed over where it is read. -/
lemma keyword_of_some (word : Text) (h : At input p t)
    (read : Cursor.keyword? word.lowerAscii t = some rest) :
    ∃ q, At input q rest ∧ keyword word input p = .ok (true, q) := by
  obtain ⟨b, start, skipped⟩ := skipBlanks_eq h
  unfold Cursor.keyword? at read
  split at read
  · next found =>
    obtain ⟨q, there, passed⟩ := letters_of_some start found
    split at read
    · cases read
    · next stop =>
      cases read
      have stop : rest.head?.any Text.isWordChar = false := Bool.eq_false_iff.2 stop
      exact ⟨q, there, by simp [keyword, position, skipped, passed, meets_eq there, stop]⟩
  · cases read

/-- Where a keyword is not read, the walk is back where it was. -/
lemma keyword_of_none (word : Text) (h : At input p t)
    (read : Cursor.keyword? word.lowerAscii t = none) : keyword word input p = .ok (false, p) := by
  obtain ⟨b, start, skipped⟩ := skipBlanks_eq h
  unfold Cursor.keyword? at read
  split at read
  · next rest found =>
    obtain ⟨q, there, passed⟩ := letters_of_some start found
    split at read
    · next runsOn =>
      have runsOn : rest.head?.any Text.isWordChar = true := runsOn
      simp [keyword, position, skipped, passed, meets_eq there, runsOn, moveTo_eq h]
    · cases read
  · next differs =>
    obtain ⟨q, passed⟩ := letters_of_none start differs
    simp [keyword, position, skipped, passed, moveTo_eq h]

/-- Keywords in a row are found where they are read. -/
lemma keywords_eq (words : List Text) (h : At input p t) :
    ∃ q, keywords words input p =
        .ok ((Cursor.keywords? (words.map Text.lowerAscii) t).isSome, q) := by
  induction words generalizing p t with
  | nil => exact ⟨p, rfl⟩
  | cons word words ih =>
    rw [List.map_cons, Cursor.keywords?]
    cases read : Cursor.keyword? word.lowerAscii t with
    | none => exact ⟨p, by simp [keywords, keyword_of_none word h read]⟩
    | some rest =>
      obtain ⟨b, start, first⟩ := keyword_of_some word h read
      obtain ⟨q, others⟩ := ih start
      exact ⟨q, by simp [keywords, first, others]⟩

/-- Looking for keywords leaves the walk where it is. -/
lemma peek_eq (words : List Text) (h : At input p t) :
    peek words input p = .ok ((Cursor.keywords? (words.map Text.lowerAscii) t).isSome, p) := by
  obtain ⟨q, looked⟩ := keywords_eq words h
  simp [peek, position, looked, moveTo_eq h]

/-- Keywords that are known to be there are passed over. -/
lemma pass_of_some {words : List Text} (h : At input p t)
    (read : Cursor.keywords? (words.map Text.lowerAscii) t = some rest) :
    ∃ q, At input q rest ∧ pass words input p = .ok ((), q) := by
  induction words generalizing p t with
  | nil =>
    cases read
    exact ⟨p, h, rfl⟩
  | cons word words ih =>
    obtain ⟨u, first, others⟩ := Cursor.keywords?_cons_eq_some_iff.1 read
    obtain ⟨b, start, passed⟩ := keyword_of_some word h first
    obtain ⟨q, there, rest⟩ := ih start others
    exact ⟨q, there, by simp [pass, passed, rest]⟩

/-- The keywords of all kinds are small already. -/
lemma map_keywords (kind : StatementKind) : kind.keywords.map Text.lowerAscii = kind.keywords := by
  cases kind with
  | createTable => decide
  | insertInto => decide
  | select => decide
  | dropTable => decide

/-- The kind is the first one whose keywords are read, and looking for it leaves the walk where it is. -/
lemma route?_eq (kinds : List StatementKind) (h : At input p t) :
    route? kinds input p =
      .ok (kinds.find? fun kind => (Cursor.keywords? kind.keywords t).isSome, p) := by
  induction kinds with
  | nil => rfl
  | cons kind kinds ih =>
    have looked := peek_eq kind.keywords h
    rw [map_keywords] at looked
    rw [List.find?_cons]
    cases found : (Cursor.keywords? kind.keywords t).isSome with
    | true => simp [route?, looked, found]
    | false => simp [route?, looked, found, ih]

/-- The loop over names ended where the names behind a first one end that are read from the text, and
added these names. -/
def AddsNames (input t : Text) (names : List Text)
    (ended : Except Fault (Option (List Text) × Nat)) : Prop :=
  match Cursor.others? t with
  | some (more, rest) => ∃ q, At input q rest.trimStart ∧ ended = .ok (some (names ++ more), q)
  | none => ∃ q, q ≤ input.length ∧ ended = .ok (none, q)

/-- The loop over names ends where no comma is read. -/
lemma moreNames_of_none (names : List Text) (rounds : Nat) (h : At input p t)
    (last : Cursor.symbol? ',' t = none) : AddsNames input t names (moreNames names rounds input p) := by
  obtain ⟨b, start, skipped, absent⟩ := symbol_of_none h last
  rw [AddsNames, Cursor.others?, last]
  refine ⟨b, start, ?_⟩
  rw [List.append_nil]
  cases rounds with
  | zero => simp [moreNames, skipped, absent]
  | succ rounds => simp [moreNames, skipped, absent]

/-- The loop over names takes one round for each comma, so it ends before the characters do. -/
lemma moreNames_eq (names : List Text) (rounds : Nat) (h : At input p t) (le : t.length ≤ rounds) :
    AddsNames input t names (moreNames names rounds input p) := by
  induction rounds generalizing names p t with
  | zero =>
    obtain rfl := List.length_eq_zero_iff.1 (Nat.le_zero.1 le)
    exact moreNames_of_none names 0 h rfl
  | succ rounds ih =>
    cases comma : Cursor.symbol? ',' t with
    | none => exact moreNames_of_none names (rounds + 1) h comma
    | some u =>
      obtain ⟨b, c, start, skipped, passed⟩ := symbol_of_some h comma
      have shorter := Cursor.length_of_symbol? comma
      rw [AddsNames, Cursor.others?, comma]
      simp only [Cursor.names?_eq u]
      cases first : Cursor.name? u with
      | none =>
        obtain ⟨q, le, missing⟩ := name?_of_none start first
        exact ⟨q, le, by simp [moreNames, skipped, passed, missing]⟩
      | some pair =>
        obtain ⟨name, v⟩ := pair
        obtain ⟨d, behind, found⟩ := name?_of_some start first
        have shorter' := Cursor.length_of_name? first
        have others := ih (names ++ [name]) behind (by omega)
        have round : moreNames names (rounds + 1) input p =
            moreNames (names ++ [name]) rounds input d := by
          simp [moreNames, skipped, passed, found]
        rw [round]
        unfold AddsNames at others
        cases read : Cursor.others? v with
        | none =>
          rw [read] at others
          simpa [read] using others
        | some pair =>
          rw [read] at others
          simpa [read] using others

/-- The columns that are read are passed over, and some of the blanks behind them may be. -/
lemma selection?_of_some (h : At input p t) {selection : Selection}
    (read : Statement.readSelection? t = some (selection, rest)) :
    ∃ q u, At input q u ∧ u.trimStart = rest.trimStart ∧
      selection? input p = .ok (some selection, q) := by
  unfold Statement.readSelection? at read
  split at read
  · next star =>
    cases read
    obtain ⟨b, q, there, skipped, passed⟩ := symbol_of_some h star
    exact ⟨q, rest, there, rfl, by simp [selection?, skipped, passed]⟩
  · next noStar =>
    obtain ⟨b, start, skipped, absent⟩ := symbol_of_none h noStar
    obtain ⟨⟨names, rest⟩, all, ⟨⟩⟩ := Option.map_eq_some_iff.1 read
    rw [Cursor.names?_eq] at all
    obtain ⟨⟨name, v⟩, first, others⟩ := Option.bind_eq_some_iff.1 all
    obtain ⟨⟨more, rest⟩, behindFirst, ⟨⟩⟩ := Option.map_eq_some_iff.1 others
    rw [← Cursor.name?_congr (Text.trimStart_trimStart t)] at first
    obtain ⟨c, behind, found⟩ := name?_of_some start first
    have size := behind.add_length
    have added := moreNames_eq [name] input.length behind (by omega)
    rw [AddsNames, behindFirst] at added
    obtain ⟨q, there, loop⟩ := added
    refine ⟨q, rest.trimStart, there, Text.trimStart_trimStart rest, ?_⟩
    simp [selection?, skipped, absent, found, whole, loop]

/-- Where no columns are read, none are found. -/
lemma selection?_of_none (h : At input p t) (read : Statement.readSelection? t = none) :
    ∃ q, q ≤ input.length ∧ selection? input p = .ok (none, q) := by
  unfold Statement.readSelection? at read
  split at read
  · cases read
  · next noStar =>
    obtain ⟨b, start, skipped, absent⟩ := symbol_of_none h noStar
    have read := Option.map_eq_none_iff.1 read
    rw [Cursor.names?_eq, ← Cursor.name?_congr (Text.trimStart_trimStart t)] at read
    cases first : Cursor.name? t.trimStart with
    | none =>
      obtain ⟨q, le, missing⟩ := name?_of_none start first
      exact ⟨q, le, by simp [selection?, skipped, absent, missing]⟩
    | some pair =>
      obtain ⟨name, v⟩ := pair
      rw [first, Option.bind_some, Option.map_eq_none_iff] at read
      obtain ⟨c, behind, found⟩ := name?_of_some start first
      have size := behind.add_length
      have added := moreNames_eq [name] input.length behind (by omega)
      rw [AddsNames, read] at added
      obtain ⟨q, le, loop⟩ := added
      exact ⟨q, le, by simp [selection?, skipped, absent, found, whole, loop]⟩

/-- The walk over a clause gives what reading the clause gives. -/
lemma clause?_eq (h : At input p t) :
    ∃ q, q ≤ input.length ∧ clause? input p = .ok (Statement.readClause? t, q) := by
  obtain ⟨b, start, skipped⟩ := skipBlanks_eq h
  have ended := atEnd_eq start
  rw [Statement.readClause?, Text.allBlank_eq_isEmpty, ← Cursor.keyword?_congr (Text.trimStart_trimStart t)]
  cases none : t.trimStart.isEmpty with
  | true =>
    refine ⟨b, start.le, ?_⟩
    simp only [clause?, bind_apply, pure_apply, skipped, ended, none, if_true]
  | false =>
    cases read : Cursor.keyword? "where".toList t.trimStart with
    | none =>
      have missing := keyword_of_none "where".toList start read
      refine ⟨b, start.le, ?_⟩
      simp only [clause?, bind_apply, pure_apply, skipped, ended, none, missing, Bool.false_eq_true,
        if_false]
    | some rest =>
      obtain ⟨q, there, passed⟩ := keyword_of_some "where".toList start read
      refine ⟨q, there.le, ?_⟩
      simp only [clause?, bind_apply, pure_apply, skipped, ended, none, passed, remaining_eq there,
        Bool.false_eq_true, if_false, if_true]

/-- The walk over a query gives what reading the query gives. -/
lemma query?_eq (h : At input p t) :
    ∃ q, q ≤ input.length ∧ query? input p = .ok (Statement.readQuery? t, q) := by
  unfold Statement.readQuery?
  cases columns : Statement.readSelection? t with
  | none =>
    obtain ⟨q, le, missing⟩ := selection?_of_none h columns
    exact ⟨q, le, by simp [query?, missing]⟩
  | some pair =>
    obtain ⟨selection, afterColumns⟩ := pair
    obtain ⟨b, u, atColumns, same, selected⟩ := selection?_of_some h columns
    simp only [Option.bind_eq_bind, Option.bind_some, ← Cursor.keyword?_congr same]
    cases word : Cursor.keyword? "from".toList u with
    | none =>
      have missing := keyword_of_none "from".toList atColumns word
      refine ⟨b, atColumns.le, ?_⟩
      simp only [query?, bind_apply, pure_apply, selected, missing, Bool.false_eq_true, if_false]
      rfl
    | some afterFrom =>
      obtain ⟨c, atFrom, passed⟩ := keyword_of_some "from".toList atColumns word
      cases named : Cursor.name? afterFrom with
      | none =>
        obtain ⟨q, le, missing⟩ := name?_of_none atFrom named
        refine ⟨q, le, ?_⟩
        simp only [query?, bind_apply, pure_apply, selected, passed, named, missing, Option.bind_some,
          Option.bind_none, if_true]
      | some pair =>
        obtain ⟨table, afterTable⟩ := pair
        obtain ⟨d, atTable, found⟩ := name?_of_some atFrom named
        obtain ⟨q, le, clause⟩ := clause?_eq atTable
        refine ⟨q, le, ?_⟩
        simp only [query?, bind_apply, pure_apply, selected, passed, named, found, clause,
          Option.bind_some, if_true, Option.map_eq_bind]
        rfl

/-- The walk over a definition gives what reading the definition gives. -/
lemma createTable_eq (h : At input p t) :
    ∃ q, q ≤ input.length ∧ createTable input p = .ok (Statement.readCreateTable t, q) := by
  rw [Statement.readCreateTable]
  cases named : Cursor.name? t with
  | none =>
    obtain ⟨q, le, missing⟩ := name?_of_none h named
    exact ⟨q, le, by simp [createTable, missing]⟩
  | some pair =>
    obtain ⟨name, rest⟩ := pair
    obtain ⟨b, atName, found⟩ := name?_of_some h named
    cases opening : Cursor.symbol? '(' rest with
    | none =>
      obtain ⟨q, there, skipped, absent⟩ := symbol_of_none atName opening
      exact ⟨q, there.le, by simp [createTable, found, skipped, absent, opening]⟩
    | some rest =>
      obtain ⟨c, q, there, skipped, passed⟩ := symbol_of_some atName opening
      refine ⟨q, there.le, ?_⟩
      simp only [createTable, bind_apply, pure_apply, found, skipped, passed, remaining_eq there, opening,
        if_true]

/-- The walk over an insertion gives what reading the insertion gives. -/
lemma insertInto_eq (h : At input p t) :
    ∃ q, q ≤ input.length ∧ insertInto input p = .ok (Statement.readInsertInto t, q) := by
  rw [Statement.readInsertInto]
  cases named : Cursor.name? t with
  | none =>
    obtain ⟨q, le, missing⟩ := name?_of_none h named
    exact ⟨q, le, by simp [insertInto, missing]⟩
  | some pair =>
    obtain ⟨name, rest⟩ := pair
    obtain ⟨b, atName, found⟩ := name?_of_some h named
    cases word : Cursor.keyword? "values".toList rest with
    | none =>
      have missing := keyword_of_none "values".toList atName word
      refine ⟨b, atName.le, ?_⟩
      simp only [insertInto, bind_apply, pure_apply, found, missing, Bool.false_eq_true, if_false, word]
    | some list =>
      obtain ⟨q, there, passed⟩ := keyword_of_some "values".toList atName word
      refine ⟨q, there.le, ?_⟩
      simp only [insertInto, bind_apply, pure_apply, found, passed, remaining_eq there, if_true, word]

/-- The walk over a removal gives what reading the removal gives. -/
lemma dropTable_eq (h : At input p t) :
    ∃ q, q ≤ input.length ∧ dropTable input p = .ok (Statement.readDropTable t, q) := by
  rw [Statement.readDropTable]
  cases named : Cursor.name? t with
  | none =>
    obtain ⟨q, le, missing⟩ := name?_of_none h named
    exact ⟨q, le, by simp [dropTable, missing]⟩
  | some pair =>
    obtain ⟨name, rest⟩ := pair
    obtain ⟨b, atName, found⟩ := name?_of_some h named
    obtain ⟨q, there, skipped⟩ := skipBlanks_eq atName
    refine ⟨q, there.le, ?_⟩
    simp only [dropTable, bind_apply, pure_apply, found, skipped, atEnd_eq there, Text.allBlank_eq_isEmpty]

/-- The statement of a kind is read as it is behind the keywords of the kind. -/
lemma ofKind_eq (settings : Settings) {kind : StatementKind} (h : At input p t)
    (read : Cursor.keywords? kind.keywords t = some rest) :
    ∃ q, q ≤ input.length ∧ ofKind settings kind input p =
      .ok (match kind with
        | .createTable => (Statement.readCreateTable rest).mapError (.malformed .createTable)
        | .insertInto => (Statement.readInsertInto rest).mapError (.malformed .insertInto)
        | .dropTable => (Statement.readDropTable rest).mapError (.malformed .dropTable)
        | .select =>
          match Statement.readQuery? rest with
          | some query => .ok (.select query)
          | none => .error (.unsupported .wideSelect settings.guidance), q) := by
  rw [← map_keywords] at read
  obtain ⟨b, start, passed⟩ := pass_of_some h read
  cases kind with
  | createTable =>
    obtain ⟨q, le, shape⟩ := createTable_eq start
    exact ⟨q, le, by simp only [ofKind, bind_apply, pure_apply, passed, shape]⟩
  | insertInto =>
    obtain ⟨q, le, shape⟩ := insertInto_eq start
    exact ⟨q, le, by simp only [ofKind, bind_apply, pure_apply, passed, shape]⟩
  | select =>
    obtain ⟨q, le, shape⟩ := query?_eq start
    refine ⟨q, le, ?_⟩
    simp only [ofKind, bind_apply, passed, shape]
    cases Statement.readQuery? rest with
    | none => rfl
    | some query => rfl
  | dropTable =>
    obtain ⟨q, le, shape⟩ := dropTable_eq start
    exact ⟨q, le, by simp only [ofKind, bind_apply, pure_apply, passed, shape]⟩

/-- The first kind whose keywords are read is the one that leads the text. -/
lemma find?_leading (t : Text) (kinds : List StatementKind) :
    (kinds.find? fun kind => (Cursor.keywords? kind.keywords t).isSome) =
      (kinds.findSome? fun kind => (Cursor.keywords? kind.keywords t).map (kind, ·)).map Prod.fst := by
  induction kinds with
  | nil => rfl
  | cons kind kinds ih =>
    rw [List.find?_cons, List.findSome?_cons, ih]
    cases Cursor.keywords? kind.keywords t with
    | none => rfl
    | some rest => rfl

/-- The walk over a statement gives what reading the statement gives. -/
lemma read_eq (settings : Settings) (sql : Text) :
    ∃ q, q ≤ (Statement.strip sql).length ∧
      read settings (Statement.strip sql) 0 = .ok (Statement.read settings sql, q) := by
  have start : At (Statement.strip sql) 0 (Statement.strip sql) := ⟨Nat.zero_le _, rfl⟩
  have routed := route?_eq StatementKind.all start
  rw [find?_leading] at routed
  rw [Statement.read]
  cases lead : StatementKind.leading? (Statement.strip sql) with
  | none =>
    have none : route? StatementKind.all (Statement.strip sql) 0 = .ok (none, 0) := by
      rw [routed, ← StatementKind.leading?, lead]
      rfl
    refine ⟨0, Nat.zero_le _, ?_⟩
    simp only [read, bind_apply, pure_apply, none, whole]
  | some pair =>
    obtain ⟨kind, rest⟩ := pair
    have found : route? StatementKind.all (Statement.strip sql) 0 = .ok (some kind, 0) := by
      rw [routed, ← StatementKind.leading?, lead]
      rfl
    have words : Cursor.keywords? kind.keywords (Statement.strip sql) = some rest :=
      StatementKind.keywords?_eq_some_iff.2 (StatementKind.leading?_eq_some_iff.1 lead)
    obtain ⟨q, le, shape⟩ := ofKind_eq settings start words
    refine ⟨q, le, ?_⟩
    simp only [read, bind_apply, found, shape]
    cases kind with
    | createTable => rfl
    | insertInto => rfl
    | select => rfl
    | dropTable => rfl

/-- A character is read inside the text only. -/
lemma current_ok {r : Char × Nat} (h : current input p = .ok r) : p < input.length := by
  unfold current at h
  split at h
  · next found => exact (List.getElem?_eq_some_iff.1 found).1
  · cases h

/-- The rest is taken from a position in the text or at its end only. -/
lemma remaining_ok {r : Text × Nat} (h : remaining input p = .ok r) : p ≤ input.length := by
  unfold remaining at h
  split at h
  · next le => exact le
  · cases h

/-- The walk goes to a position in the text or to its end only. -/
lemma moveTo_ok {target : Nat} {r : Unit × Nat} (h : moveTo target input p = .ok r) :
    target ≤ input.length := by
  unfold moveTo at h
  split at h
  · next le => exact le
  · cases h

/-- Where less is left the position is larger. -/
lemma At.lt {q : Nat} {u : Text} (h : At input p t) (h' : At input q u) (shorter : u.length < t.length) :
    p < q := by
  have size := h.add_length
  have size' := h'.add_length
  omega

/-- A keyword moves the walk on, or leaves it where it is. -/
lemma keyword_cases {word : Text} (ne : word ≠ []) (h : At input p t) :
    keyword word input p = .ok (false, p) ∨
      ∃ q, p < q ∧ q ≤ input.length ∧ keyword word input p = .ok (true, q) := by
  cases read : Cursor.keyword? word.lowerAscii t with
  | none => exact .inl (keyword_of_none word h read)
  | some rest =>
    obtain ⟨q, there, passed⟩ := keyword_of_some word h read
    have letters : word.lowerAscii ≠ [] := fun none => ne (List.map_eq_nil_iff.1 none)
    exact .inr ⟨q, h.lt there (Cursor.length_of_keyword? letters read), there.le, passed⟩

/-- A character moves the walk on by one, or leaves it where it is. -/
lemma symbol_cases (d : Char) (h : At input p t) :
    symbol d input p = .ok (false, p) ∨
      p + 1 ≤ input.length ∧ symbol d input p = .ok (true, p + 1) := by
  by_cases head : t.head? = some d
  · obtain ⟨rest, rfl⟩ := List.head?_eq_some_iff.1 head
    exact .inr ⟨h.next.le, symbol_of_cons h⟩
  · exact .inl (symbol_of_head?_ne h head)

/-- A name moves the walk on, and looking for one ends inside the text. -/
lemma name?_cases (h : At input p t) :
    (∃ q, q ≤ input.length ∧ name? input p = .ok (none, q)) ∨
      ∃ name q, p < q ∧ q ≤ input.length ∧ name? input p = .ok (some name, q) := by
  cases read : Cursor.name? t with
  | none => exact .inl (name?_of_none h read)
  | some pair =>
    obtain ⟨name, rest⟩ := pair
    obtain ⟨q, there, found⟩ := name?_of_some h read
    exact .inr ⟨name, q, h.lt there (Cursor.length_of_name? read), there.le, found⟩

/-- A loop with as many rounds as characters are left ends. -/
lemma passWhile_ends (test : Char → Bool) {rounds : Nat} (h : At input p t)
    (le : input.length ≤ p + rounds) :
    ∃ passed q, q ≤ input.length ∧ passWhile test rounds input p = .ok (passed, q) := by
  have size := h.add_length
  have sub := (List.takeWhile_sublist test (l := t)).length_le
  obtain ⟨q, there, passed⟩ := passWhile_eq test rounds h (by omega)
  exact ⟨_, q, there.le, passed⟩

/-- The loop over names ends with as many rounds as characters are left. -/
lemma moreNames_ends (names : List Text) {rounds : Nat} (h : At input p t)
    (le : input.length ≤ p + rounds) :
    ∃ found q, q ≤ input.length ∧ moreNames names rounds input p = .ok (found, q) := by
  have size := h.add_length
  have added := moreNames_eq names rounds h (by omega)
  unfold AddsNames at added
  split at added
  · obtain ⟨q, there, loop⟩ := added
    exact ⟨_, q, there.le, loop⟩
  · exact ⟨_, added⟩

/-- The steps that look at the text or set the position succeed inside the text only. -/
structure Guarded (input : Text) (p : Nat) : Prop where
  /-- A character is read in front of the end only. -/
  lt_of_current : ∀ r, current input p = .ok r → p < input.length
  /-- The rest is taken at most from the end on. -/
  le_of_remaining : ∀ r, remaining input p = .ok r → p ≤ input.length
  /-- The position is set at most to the end. -/
  le_of_moveTo : ∀ target r, moveTo target input p = .ok r → target ≤ input.length

/-- Every step that looks at the text or sets the position is guarded. -/
lemma guarded (input : Text) (p : Nat) : Guarded input p where
  lt_of_current _ := current_ok
  le_of_remaining _ := remaining_ok
  le_of_moveTo _ _ := moveTo_ok

/-- The steps succeed and end inside the text. What is passed over moves the walk on, and so the loops end
within as many rounds as characters are left. -/
structure Progresses (input : Text) (p : Nat) : Prop where
  /-- A keyword moves the walk on, or leaves it where it is. -/
  keyword_moves : ∀ word, word ≠ [] → keyword word input p = .ok (false, p) ∨
    ∃ q, p < q ∧ q ≤ input.length ∧ keyword word input p = .ok (true, q)
  /-- Looking ahead leaves the walk where it is. -/
  peek_stays : ∀ words, ∃ found, peek words input p = .ok (found, p)
  /-- A character moves the walk on by one, or leaves it where it is. -/
  symbol_moves : ∀ d, symbol d input p = .ok (false, p) ∨
    p + 1 ≤ input.length ∧ symbol d input p = .ok (true, p + 1)
  /-- A name moves the walk on. -/
  name_moves : (∃ q, q ≤ input.length ∧ name? input p = .ok (none, q)) ∨
    ∃ name q, p < q ∧ q ≤ input.length ∧ name? input p = .ok (some name, q)
  /-- A loop over characters ends. -/
  passWhile_ends : ∀ test rounds, input.length ≤ p + rounds →
    ∃ passed q, q ≤ input.length ∧ passWhile test rounds input p = .ok (passed, q)
  /-- The loop over names ends. -/
  moreNames_ends : ∀ names rounds, input.length ≤ p + rounds →
    ∃ found q, q ≤ input.length ∧ moreNames names rounds input p = .ok (found, q)

/-- At every position in a text the steps of a walk go on or stay. -/
lemma At.progresses (h : At input p t) : Progresses input p where
  keyword_moves _ ne := keyword_cases ne h
  peek_stays words := ⟨_, peek_eq words h⟩
  symbol_moves d := symbol_cases d h
  name_moves := name?_cases h
  passWhile_ends test _ enough := Walk.passWhile_ends test h enough
  moreNames_ends names _ enough := Walk.moreNames_ends names h enough

/-- A walk that succeeds has read characters inside the text only and has never been behind its end, and
the walk over every statement succeeds, with what reading the statement gives. Wherever it is in a text,
its steps go on or stay, and its loops end. -/
theorem stays_inside (settings : Settings) :
    (∀ input p, Guarded input p) ∧
    (∀ sql, ∃ q, q ≤ (Statement.strip sql).length ∧
      read settings (Statement.strip sql) 0 = .ok (Statement.read settings sql, q)) ∧
    ∀ input p, p ≤ input.length → Progresses input p := by
  refine ⟨guarded, read_eq settings, fun input p le => ?_⟩
  have here : At input p (input.drop p) := ⟨le, rfl⟩
  exact here.progresses

/-- The text ends behind a comma, in the middle of a keyword, and with a name. -/
theorem stays_inside_sample :
    (∃ q, q ≤ 9 ∧ read {} "SELECT a,".toList 0 =
      .ok (.error (.unsupported .wideSelect (Settings.guidance {})), q)) ∧
    6 ≤ "insert in".toList.length ∧ "into".toList ≠ [] ∧
    keyword "into".toList "insert in".toList 6 = .ok (false, 6) ∧
    "users".toList.length ≤ 0 + 5 ∧
    ∃ q, q ≤ 5 ∧ passWhile Text.isWordChar 5 "users".toList 0 = .ok ("users".toList, q) := by
  obtain ⟨-, whole, steps⟩ := stays_inside {}
  refine ⟨?whole, by decide, by decide, ?keyword, by decide, ?loop⟩
  case whole =>
    have text : Statement.strip " SELECT a, ;".toList = "SELECT a,".toList := by decide
    have read : Statement.read {} " SELECT a, ;".toList =
        .error (.unsupported .wideSelect (Settings.guidance {})) := by
      decide +kernel
    have walk := whole " SELECT a, ;".toList
    rw [text, read] at walk
    exact walk
  case keyword =>
    have here := steps "insert in".toList 6 (by decide)
    obtain stays | ⟨q, lt, le, passed⟩ := here.keyword_moves "into".toList (by decide)
    · exact stays
    · cases passed
  case loop =>
    have here := steps "users".toList 0 (by decide)
    obtain ⟨passed, q, le, run⟩ := here.passWhile_ends Text.isWordChar 5 (by decide)
    obtain ⟨⟩ : passed = "users".toList := by cases run; rfl
    exact ⟨q, le, run⟩

end Walk

end Tabular
