import Mathlib.Data.List.Basic
import Tabular.ResultSet

/-!
# Reading comma-separated text

`Csv.decode` reads records: each ends with a newline, commas separate its fields, and a field that starts
with a quote runs to the next quote that is not doubled. What is written as comma-separated text is read
back as the same records (`Csv.decode_flatMap_record`), whatever the fields hold, because a field is
quoted whenever it holds a character that would end it.
-/

namespace Tabular

namespace Csv

/-- Where a reader stands. -/
inductive Place where
  | recordStart
  | fieldStart
  | plain
  | quoted
  /-- Behind a quote that closed the field, or behind the first of two quotes in it. -/
  | closed
deriving DecidableEq

/-- The records with more characters in front of their first field. -/
def prepend (t : Text) (records : List (List Text)) : List (List Text) :=
  records.modifyHead fun fields => fields.modifyHead (t ++ ·)

/-- The records with an empty field in front of the first one. -/
def addField (records : List (List Text)) : List (List Text) := records.modifyHead ([] :: ·)

/-- What is left of the record and of the field in which the reader stands, and the records after it.
Each record has to end with a newline, and only a comma or a newline may follow a quoted field. -/
def readFrom : Place → Text → Option (List (List Text))
  | place, [] => if place = .recordStart then some [] else none
  | place, c :: t =>
    if place = .quoted then
      if c = '"' then readFrom .closed t else (readFrom .quoted t).map (prepend [c])
    else if c = ',' then (readFrom .fieldStart t).map addField
    else if c = '\n' then (readFrom .recordStart t).map ([[]] :: ·)
    else if place = .closed then
      if c = '"' then (readFrom .quoted t).map (prepend [c]) else none
    else if place ≠ .plain ∧ c = '"' then readFrom .quoted t
    else (readFrom .plain t).map (prepend [c])

/-- The records of a text. An empty record has one empty field. -/
def decode (t : Text) : Option (List (List Text)) := readFrom .recordStart t

/-- A field ends in front of the text. -/
def Ends (rest : Text) : Prop := rest.head? = some ',' ∨ rest.head? = some '\n'

lemma prepend_nil (records : List (List Text)) : prepend [] records = records := by
  cases records with
  | nil => rfl
  | cons fields records =>
    cases fields with
    | nil => rfl
    | cons field fields => rfl

/-- Characters are put in front of a field one text after the other. -/
lemma prepend_append (t u : Text) (records : List (List Text)) :
    prepend (t ++ u) records = prepend t (prepend u records) := by
  cases records with
  | nil => rfl
  | cons fields records =>
    cases fields with
    | nil => rfl
    | cons field fields =>
      show ((t ++ u ++ field) :: fields) :: records = ((t ++ (u ++ field)) :: fields) :: records
      rw [List.append_assoc]

lemma map_prepend_nil (records : Option (List (List Text))) :
    records.map (prepend []) = records := by
  cases records with
  | none => rfl
  | some records => exact congrArg some (prepend_nil records)

/-- What is read in front of a field is put together character by character. -/
lemma map_prepend_cons (c : Char) (t : Text) (records : Option (List (List Text))) :
    (records.map (prepend t)).map (prepend [c]) = records.map (prepend (c :: t)) := by
  rw [Option.map_map]
  congr 1
  funext records
  exact (prepend_append [c] t records).symm

/-- Outside quotes a comma starts the next field. -/
lemma readFrom_comma {place : Place} (ne : place ≠ .quoted) (t : Text) :
    readFrom place (',' :: t) = (readFrom .fieldStart t).map addField := by
  rw [readFrom, if_neg ne, if_pos rfl]

/-- Outside quotes a newline starts the next record. -/
lemma readFrom_newline {place : Place} (ne : place ≠ .quoted) (t : Text) :
    readFrom place ('\n' :: t) = (readFrom .recordStart t).map ([[]] :: ·) := by
  rw [readFrom, if_neg ne, if_neg (by decide), if_pos rfl]

/-- Where a field ends, it makes no difference what was read of it. -/
lemma Ends.readFrom_eq {rest : Text} (h : Ends rest) {place place' : Place} (ne : place ≠ .quoted)
    (ne' : place' ≠ .quoted) : readFrom place rest = readFrom place' rest := by
  cases rest with
  | nil =>
    rcases h with h | h
    · cases h
    · cases h
  | cons c t =>
    rcases h with h | h
    · cases h
      rw [readFrom_comma ne, readFrom_comma ne']
    · cases h
      rw [readFrom_newline ne, readFrom_newline ne']

/-- A record starts with its first field. -/
lemma readFrom_recordStart {t : Text} (ne : t ≠ []) :
    readFrom .recordStart t = readFrom .fieldStart t := by
  cases t with
  | nil => exact absurd rfl ne
  | cons c t => simp [readFrom]

/-- What is not special separates and quotes nothing. -/
lemma not_special {c : Char} (h : isSpecial c = false) : c ≠ ',' ∧ c ≠ '"' ∧ c ≠ '\n' := by
  simp only [isSpecial, Bool.or_eq_false_iff, beq_eq_false_iff_ne] at h
  exact ⟨h.1.1.1, h.1.1.2, h.1.2⟩

/-- An unquoted field goes on with every character that separates and quotes nothing. -/
lemma readFrom_cons_plain {place : Place} (h : place = .plain ∨ place = .fieldStart) {c : Char}
    (comma : c ≠ ',') (newline : c ≠ '\n') (quote : c ≠ '"') (t : Text) :
    readFrom place (c :: t) = (readFrom .plain t).map (prepend [c]) := by
  have notQuoted : place ≠ .quoted := by
    rcases h with rfl | rfl
    · decide
    · decide
  have notClosed : place ≠ .closed := by
    rcases h with rfl | rfl
    · decide
    · decide
  rw [readFrom, if_neg notQuoted, if_neg comma, if_neg newline, if_neg notClosed,
    if_neg fun both => quote both.2]

/-- A quote at the start of a field opens it. -/
lemma readFrom_opening (t : Text) : readFrom .fieldStart ('"' :: t) = readFrom .quoted t := rfl

/-- A quote inside quotes closes the field or is the first of two. -/
lemma readFrom_closing (t : Text) : readFrom .quoted ('"' :: t) = readFrom .closed t := rfl

/-- The second of two quotes stands for a quote. -/
lemma readFrom_doubled (t : Text) :
    readFrom .closed ('"' :: t) = (readFrom .quoted t).map (prepend ['"']) := rfl

/-- Inside quotes every other character stands for itself. -/
lemma readFrom_quoted_cons {c : Char} (quote : c ≠ '"') (t : Text) :
    readFrom .quoted (c :: t) = (readFrom .quoted t).map (prepend [c]) := by
  rw [readFrom, if_pos rfl, if_neg quote]

/-- Characters without a meaning of their own are read as they are. -/
lemma readFrom_plain {t : Text} (h : ∀ c ∈ t, isSpecial c = false) (rest : Text) :
    readFrom .plain (t ++ rest) = (readFrom .plain rest).map (prepend t) := by
  induction t with
  | nil => exact (map_prepend_nil _).symm
  | cons c t ih =>
    obtain ⟨first, others⟩ := List.forall_mem_cons.1 h
    obtain ⟨comma, quote, newline⟩ := not_special first
    rw [List.cons_append, readFrom_cons_plain (.inl rfl) comma newline quote, ih others,
      map_prepend_cons]

lemma doubleQuotes_cons_quote (t : Text) :
    doubleQuotes ('"' :: t) = '"' :: '"' :: doubleQuotes t := rfl

lemma doubleQuotes_cons {c : Char} (h : c ≠ '"') (t : Text) :
    doubleQuotes (c :: t) = c :: doubleQuotes t := by
  simp [doubleQuotes, h]

/-- Doubled quotes are read as one, and the quote behind them ends the field. -/
lemma readFrom_quoted (t rest : Text) :
    readFrom .quoted (doubleQuotes t ++ '"' :: rest) = (readFrom .closed rest).map (prepend t) := by
  induction t with
  | nil => exact (map_prepend_nil _).symm
  | cons c t ih =>
    by_cases quote : c = '"'
    · subst quote
      rw [doubleQuotes_cons_quote, List.cons_append, List.cons_append, readFrom_closing,
        readFrom_doubled, ih, map_prepend_cons]
    · rw [doubleQuotes_cons quote, List.cons_append, readFrom_quoted_cons quote, ih,
        map_prepend_cons]

/-- A field is read back where a comma or a newline follows it. -/
lemma readFrom_field (t : Text) {rest : Text} (ends : Ends rest) :
    readFrom .fieldStart (field t ++ rest) = (readFrom .fieldStart rest).map (prepend t) := by
  have closed : readFrom .closed rest = readFrom .fieldStart rest :=
    ends.readFrom_eq (by decide) (by decide)
  have plain : readFrom .plain rest = readFrom .fieldStart rest :=
    ends.readFrom_eq (by decide) (by decide)
  cases special : t.any isSpecial with
  | true =>
    have written : field t ++ rest = '"' :: (doubleQuotes t ++ '"' :: rest) := by
      rw [field, if_pos special, List.append_assoc]
      rfl
    rw [written, readFrom_opening, readFrom_quoted, closed]
  | false =>
    rw [field, if_neg (Bool.eq_false_iff.1 special)]
    cases t with
    | nil => exact (map_prepend_nil _).symm
    | cons c t =>
      have none : ∀ d ∈ c :: t, isSpecial d = false :=
        fun d mem => Bool.eq_false_iff.2 (List.any_eq_false.1 special d mem)
      obtain ⟨first, others⟩ := List.forall_mem_cons.1 none
      obtain ⟨comma, quote, newline⟩ := not_special first
      rw [List.cons_append, readFrom_cons_plain (.inr rfl) comma newline quote,
        readFrom_plain others, map_prepend_cons, plain]

/-- A comma stands between two fields of a record. -/
lemma record_cons_cons (t t' : Text) (fields : List Text) :
    record (t :: t' :: fields) = field t ++ ',' :: record (t' :: fields) := by
  have joined : [','].intercalate ((t :: t' :: fields).map field) =
      field t ++ [','] ++ [','].intercalate ((t' :: fields).map field) :=
    List.intercalate_cons_of_ne_nil (List.cons_ne_nil _ _)
  rw [record, joined, List.append_assoc, List.append_assoc]
  rfl

/-- A record with a field is read back in front of any other records. -/
lemma readFrom_record {fields : List Text} (ne : fields ≠ []) (rest : Text) :
    readFrom .fieldStart (record fields ++ rest) =
      (readFrom .recordStart rest).map (fields :: ·) := by
  induction fields with
  | nil => exact absurd rfl ne
  | cons t fields ih =>
    cases fields with
    | nil =>
      have written : record [t] ++ rest = field t ++ '\n' :: rest := by
        rw [record, List.map_singleton, List.intercalate_singleton, List.append_assoc]
        rfl
      rw [written, readFrom_field t (.inr rfl), readFrom_newline (by decide), Option.map_map]
      congr 1
      funext records
      show ((t ++ []) :: []) :: records = [t] :: records
      rw [List.append_nil]
    | cons t' fields =>
      rw [record_cons_cons, List.append_assoc, List.cons_append, readFrom_field t (.inl rfl),
        readFrom_comma (by decide), ih (List.cons_ne_nil _ _), Option.map_map, Option.map_map]
      congr 1
      funext records
      show ((t ++ []) :: t' :: fields) :: records = (t :: t' :: fields) :: records
      rw [List.append_nil]

/-- A record has at least its newline. -/
lemma record_ne_nil (fields : List Text) : record fields ≠ [] :=
  List.append_ne_nil_of_right_ne_nil _ (List.cons_ne_nil _ _)

/-- Records that have fields are read back. -/
lemma decode_flatMap_record {records : List (List Text)} (ne : ∀ fields ∈ records, fields ≠ []) :
    decode (records.flatMap record) = some records := by
  induction records with
  | nil => rfl
  | cons fields records ih =>
    obtain ⟨first, others⟩ := List.forall_mem_cons.1 ne
    have start := List.append_ne_nil_of_left_ne_nil (record_ne_nil fields) (records.flatMap record)
    have ih := ih others
    rw [decode] at ih
    rw [decode, List.flatMap_cons, readFrom_recordStart start, readFrom_record first, ih]
    rfl

end Csv

/-- The records of a result set are the header and its rows. -/
lemma ResultSet.toCsv_eq (r : ResultSet) :
    r.toCsv = (r.columns :: r.rows.map (·.map Csv.ofValue)).flatMap Csv.record := by
  rw [toCsv, List.flatMap_cons, List.flatMap_map]

/-- A missing value is an empty field, and every other value is its text. -/
lemma Csv.ofValue_eq (v : Value) : ofValue v = if v = .null then [] else v.toText := by
  cases v with
  | null => rfl
  | bool b => rfl
  | int i => rfl
  | float f => rfl
  | text t => rfl

/-- The comma-separated text of a result set with columns and without empty rows is read back as its
column names and then, row by row, the texts of its values, where a missing value is the empty text. -/
theorem ResultSet.decode_toCsv {r : ResultSet} (columns : r.columns ≠ [])
    (rows : ∀ row ∈ r.rows, row ≠ []) :
    Csv.decode r.toCsv = some
      (r.columns :: r.rows.map fun row => row.map fun v => if v = .null then [] else v.toText) := by
  have ne : ∀ fields ∈ r.columns :: r.rows.map (·.map Csv.ofValue), fields ≠ [] := by
    refine List.forall_mem_cons.2 ⟨columns, ?_⟩
    intro fields mem
    obtain ⟨row, mem', rfl⟩ := List.mem_map.1 mem
    exact mt List.map_eq_nil_iff.1 (rows row mem')
  have values : Csv.ofValue = fun v => if v = .null then [] else v.toText := funext Csv.ofValue_eq
  rw [r.toCsv_eq, Csv.decode_flatMap_record ne, values]

/-- Names and texts with every character that is quoted, and empty fields at the ends of the records. -/
def sampleResult : ResultSet where
  columns := ["a,\"b\"".toList, []]
  rows := [[.text "x\ny".toList, .null], [.text "\"".toList, .text "\r".toList], [.int (-7), .text []]]

/-- The sample is written with quotes where they are needed, and is read back. -/
theorem ResultSet.decode_toCsv_sample :
    (∀ row ∈ sampleResult.rows, row ≠ []) ∧
      sampleResult.toCsv =
        "\"a,\"\"b\"\"\",\n\"x\ny\",\n\"\"\"\",\"\r\"\n-7,\n".toList ∧
      Csv.decode sampleResult.toCsv = some
        [["a,\"b\"".toList, []], ["x\ny".toList, []], ["\"".toList, "\r".toList],
          ["-7".toList, []]] := by
  have rows : ∀ row ∈ sampleResult.rows, row ≠ [] := by decide
  refine ⟨rows, by decide +kernel, ?_⟩
  rw [ResultSet.decode_toCsv (List.cons_ne_nil _ _) rows]
  decide +kernel

end Tabular
