import Tabular.Proofs.Database.Select
import Tabular.Proofs.Scan.Tuples
import Tabular.Proofs.Value.Canonical

/-!
# Stored values

Every value that a reachable database stores was read from a scalar, and such a value is canonical
(`Value.canonical_ofScalar`). What a database stores is therefore never a double that is not a number,
and it prints to texts that are read back as the same values, doubles excepted
(`Database.stored_canonical`).
-/

namespace Tabular

/-- Every value of the table is canonical. -/
def Table.Canonical (t : Table) : Prop := ∀ row ∈ t.rows, ∀ v ∈ row, v.Canonical

/-- Appending canonical values leaves a table canonical. -/
lemma Table.Canonical.append {t : Table} (h : t.Canonical) {rows : List Row}
    (new : ∀ row ∈ rows, ∀ v ∈ row, v.Canonical) : (t.append rows).Canonical := by
  intro row mem
  rcases List.mem_append.1 mem with mem | mem
  · exact h row mem
  · exact new row mem

/-- The values that a text inserts are canonical. -/
lemma Statement.canonical_of_read {settings : Settings} {sql name : Text} {rows : List Row}
    (h : Statement.read settings sql = .ok (.insertInto name rows)) :
    ∀ row ∈ rows, ∀ v ∈ row, v.Canonical := by
  intro row mem v mem'
  obtain ⟨list, read⟩ := Statement.rows_of_read h
  obtain ⟨token, rfl⟩ := Tuples.exists_literal_of_rows read row mem v mem'
  exact Value.canonical_ofScalar (Value.unquote token)

namespace Database

/-- In a reachable database every table holds canonical values only. -/
lemma Reachable.canonical {db : Database} (h : db.Reachable) {t : Table} (mem : t ∈ db.tables) :
    t.Canonical := by
  obtain ⟨e, stored, rfl⟩ := List.mem_map.1 mem
  apply h.forall_entries (P := Table.Canonical) ?creates ?inserts e stored
  case creates => exact fun _ => nofun
  case inserts =>
    intro settings sql name rows t k read canonical
    exact canonical.append fun row mem => Statement.canonical_of_read read row (List.mem_of_mem_take mem)

/-- The value of every scalar is canonical: it is no double that is not a number, and its text has this
value again, doubles excepted. In particular a scalar that is read as a text is that text without the
blanks around it, which is read as a text again, and every 64-bit integer is read from its decimal text.
All values that a reachable database stores are canonical. -/
theorem stored_canonical :
    (∀ token, (Value.ofScalar token).Canonical) ∧
    (∀ token t, Value.ofScalar token = .text t →
      t = token.trim ∧ t.Tight ∧ Value.ofScalar t = .text t) ∧
    (∀ i : Int64, Value.ofScalar (Value.int i).toText = .int i) ∧
    ∀ db : Database, db.Reachable → ∀ t ∈ db.tables, ∀ row ∈ t.rows, ∀ v ∈ row, v.Canonical := by
  refine ⟨Value.canonical_ofScalar, ?texts, Value.ofScalar_toText_int, ?stored⟩
  case texts =>
    intro token t read
    obtain rfl := (Value.ofScalar_eq_iff.1 read).eq_of_text
    exact ⟨rfl, Text.tight_trim token, (Value.ofScalar_trim token).trans read⟩
  case stored => exact fun db reachable t mem => reachable.canonical mem

/-- A text with blanks around it, the smallest integer, and what the sample stores. -/
theorem stored_canonical_sample :
    Value.ofScalar "nullable".toList = .text "nullable".toList ∧
      Value.ofScalar (Value.int Int64.minValue).toText = .int Int64.minValue ∧
      sample.Reachable ∧
      sample.tables.map Table.rows = [[[.int 1, .text "x".toList], [.int 2, .text "y".toList]]] ∧
      ∀ t ∈ sample.tables, ∀ row ∈ t.rows, ∀ v ∈ row, v.Canonical := by
  obtain ⟨-, texts, integers, stored⟩ := stored_canonical
  have read : Value.ofScalar "\tnullable ".toList = .text "nullable".toList := by decide +kernel
  obtain ⟨-, -, again⟩ := texts _ _ read
  have rows : sample.tables.map Table.rows =
      [[[.int 1, .text "x".toList], [.int 2, .text "y".toList]]] := by
    decide +kernel
  exact ⟨again, integers Int64.minValue, sample_reachable, rows, stored sample sample_reachable⟩

end Database

end Tabular
