import Tabular.Proofs.Database.Atomicity
import Tabular.Proofs.Statement.Insertion
import Tabular.Proofs.Value.Canonical

/-!
# Inserting quoted texts

Any texts can be stored by writing them as quoted literals. A list of tuples that spells rows of texts
is read as these rows, each text read as a scalar, and inserting it into a table of that width appends
exactly these rows (`Database.execute_insertion_of_spells`).
-/

namespace Tabular

/-- A blank at the end of a scalar makes no difference. -/
lemma Value.ofScalar_append_blank (t : Text) : ofScalar (t ++ [' ']) = ofScalar t :=
  ofScalar_of_padded ((Text.Padded.refl t).append_right rfl)

namespace Database

/-- A list that spells rows of texts, none of which ends in a backslash, is read as these rows; a text
that does end in one is read alike with a blank behind it. In a reachable database, inserting the list
into a table succeeds when all rows are as wide as the table, and appends exactly these rows. -/
theorem execute_insertion_of_spells {rows : List (List Text)} {list : Text}
    (spelled : Tuples.Spells rows list) (last : ∀ row ∈ rows, ∀ s ∈ row, s.getLast? ≠ some '\\') :
    Tuples.rows list = .ok (rows.map (List.map Value.ofScalar)) ∧
    (∀ s : Text, (s ++ [' ']).getLast? ≠ some '\\' ∧
      Value.ofScalar (s ++ [' ']) = Value.ofScalar s) ∧
    ∀ db : Database, db.Reachable → ∀ t ∈ db.tables, ∀ name,
      name = t.name ∨ (name.IsName ∧ Name.key name = Name.key t.name) →
      rows ≠ [] → (∀ row ∈ rows, row.length = t.columns.length) →
        (db.execute (Statement.insertion name list)).1 = .ok .empty ∧
          db.Extended t (rows.map (List.map Value.ofScalar))
            (db.execute (Statement.insertion name list)).2 := by
  refine ⟨Tuples.rows_of_spells spelled last, fun s => ⟨?_, Value.ofScalar_append_blank s⟩, ?_⟩
  · rw [List.getLast?_concat]
    decide
  · intro db h t mem name names ne fit
    have wf := h.wellFormed
    have ⟨named, key⟩ : name.IsName ∧ Name.key name = Name.key t.name := by
      obtain rfl | both := names
      · exact ⟨h.isName mem, rfl⟩
      · exact both
    have found : db.table? name = some t := (table?_eq_some_iff wf).2 ⟨mem, key.symm⟩
    have out := execute_outcome wf (Statement.insertion name list)
    rw [Statement.read_insertion_of_spells db.settings named ne spelled last] at out
    obtain ⟨ok, -, eq⟩ | ⟨-, row, misfit, wrong⟩ := out.of_insertInto found
    · rw [ok, eq]
      exact ⟨rfl, extended_append wf _ found⟩
    · obtain ⟨texts, mem', rfl⟩ := List.mem_map.1 misfit
      rw [List.length_map] at wrong
      exact absurd (fit texts mem') wrong

/-- Two rows of texts that hold apostrophes, a backslash, commas and parentheses. -/
def sampleTexts : List (List Text) :=
  [["it's".toList, "a;(b),c".toList], ["\\'x ".toList, []]]

/-- The sample texts as a list of tuples. -/
def sampleList : Text := "( 'it\\'s' ,'a;(b),c') , ('\\\\'x ','')\n".toList

lemma spells_sample : Tuples.Spells sampleTexts sampleList := by
  refine ⟨[" 'it\\'s' ,'a;(b),c'".toList, "'\\\\'x ',''".toList], .cons ?_ (.cons ?_ .nil), ?_⟩
  · exact .cons (u := " 'it\\'s' ".toList) ⟨[' '], [' '], rfl, rfl, by decide⟩ (by simp)
      (.last ⟨[], [], rfl, rfl, by decide⟩)
  · exact .cons (u := "'\\\\'x '".toList) ⟨[], [], rfl, rfl, by decide⟩ (by simp)
      (.last ⟨[], [], rfl, rfl, by decide⟩)
  · exact .cons (u := "( 'it\\'s' ,'a;(b),c') ".toList) ⟨[], [' '], rfl, rfl, by decide⟩ (by simp)
      (.last ⟨[' '], ['\n'], rfl, rfl, by decide⟩)

/-- The sample texts are stored as they are, but for the blank at the end of the third one. -/
theorem execute_insertion_sample :
    sample.Reachable ∧ Tuples.Spells sampleTexts sampleList ∧
      ∃ t ∈ sample.tables, t.columns.length = 2 ∧
        (sample.execute (Statement.insertion "t".toList sampleList)).1 = .ok .empty ∧
        sample.Extended t
          [[.text "it's".toList, .text "a;(b),c".toList], [.text "\\'x".toList, .text []]]
          (sample.execute (Statement.insertion "t".toList sampleList)).2 := by
  have values : sampleTexts.map (List.map Value.ofScalar) =
      [[.text "it's".toList, .text "a;(b),c".toList], [.text "\\'x".toList, .text []]] := by
    decide +kernel
  have stored : (⟨"T".toList, [⟨"a".toList, "INT".toList⟩, ⟨"b".toList, "TEXT".toList⟩],
      [[.int 1, .text "x".toList], [.int 2, .text "y".toList]]⟩ : Table) ∈ sample.tables := by
    decide +kernel
  have main := (execute_insertion_of_spells spells_sample (by decide)).2.2 sample sample_reachable
    _ stored "t".toList (.inr ⟨by decide, by decide +kernel⟩) (by decide) (by decide)
  rw [values] at main
  exact ⟨sample_reachable, spells_sample, _, stored, rfl, main⟩

end Database

end Tabular
