import Tabular.Proofs.Database.Shape
import Tabular.Proofs.Shell.Agreement

/-!
# Replies

The program looks only at the shape of a result to decide how to write it. In every run that is the same
as looking at the statement (`Shell.replies_by_kind`): a session that submits a script which succeeds
prints the results of its queries and acknowledges its other statements, and a script that is run from a
file prints the results of its queries, in both cases up to a result that is too wide for a grid. A script
that fails gets its error alone, also for the statements that succeeded before
(`Shell.unanswered_of_failure`).
-/

namespace Tabular.Shell
open Script (statements)

/-- What a session writes for a statement with a result, if it can be printed. -/
def replyTo (format : Format) (settings : Settings) (sql : Text) (r : ResultSet) : Option Output :=
  if Statement.isQuery settings sql then format.print r else some (.outLine "OK".toList)

/-- The results of those texts that are queries. -/
def queried (settings : Settings) (sqls : List Text) (results : List ResultSet) : List ResultSet :=
  ((sqls.zip results).filter fun p => Statement.isQuery settings p.1).map Prod.snd

section

variable {settings : Settings} {sqls : List Text} {results : List ResultSet}
  (h : List.Forall₂ (Shaped settings) sqls results)
include h

/-- The replies to results are replies to the statements by their kind. -/
lemma map_reply_eq_zipWith (format : Format) :
    results.map (Session.reply format) = List.zipWith (replyTo format settings) sqls results := by
  induction h with
  | nil => rfl
  | @cons sql r sqls results shaped _ ih =>
    rw [List.map_cons, List.zipWith_cons_cons, ih, Session.reply, shaped.isEmpty_eq, replyTo]
    cases Statement.isQuery settings sql with
    | false => rfl
    | true => rfl

/-- The results that are not empty are those of the queries. -/
lemma filter_isEmpty_eq : (results.filter (!·.isEmpty)) = queried settings sqls results := by
  rw [queried]
  induction h with
  | nil => rfl
  | @cons sql r sqls results shaped _ ih =>
    rw [List.zip_cons_cons, List.filter_cons, List.filter_cons, shaped.isEmpty_eq, Bool.not_not, ih]
    cases Statement.isQuery settings sql with
    | false => rfl
    | true => rfl

end

/-- Results of queries that are not too wide for a grid can all be printed. -/
lemma printed_of_narrow {format : Format} {results : List ResultSet}
    (narrow : format = .grid → ∀ r ∈ results, r.Narrow) :
    (Transcript.ofReplies ((results.filter (!·.isEmpty)).map format.print)).outputs.map some =
        (results.filter (!·.isEmpty)).map format.print ∧
      (Transcript.ofReplies ((results.filter (!·.isEmpty)).map format.print)).code = 0 := by
  apply Transcript.ofReplies_of_isSome
  rw [List.forall_mem_map]
  exact fun r mem => Session.isSome_print fun grid => narrow grid r (List.mem_of_mem_filter mem)

/-- At every visit of a session the database is well formed and has the settings from the start. -/
lemma wellFormed_of_mem_visits {s : Session} (wf : s.db.catalog.WellFormed) {console : Console}
    {lines : List Text} {v : Session × Text} (mem : v ∈ s.visits console lines) :
    v.1.db.catalog.WellFormed ∧ v.1.db.settings = s.db.settings := by
  refine Session.visits_invariant
    (P := fun db => db.catalog.WellFormed ∧ db.settings = s.db.settings) ?_ ⟨wf, rfl⟩ v mem
  intro db script ⟨wf, same⟩
  obtain ⟨wf, settings⟩ := Database.wellFormed_executeScript wf script
  exact ⟨wf, settings.trans same⟩

/-- A line with a query that selects no row and a removal. -/
def sampleLine : Text := "select a, b from t where a > 5; drop table t;".toList

/-- A line whose first statement succeeds and whose second one fails. -/
def failingLine : Text := "CREATE TABLE t (a); SELECT * FROM missing;".toList

/-- A script whose first two statements succeed and whose third one fails. -/
def failingScript : Text := "CREATE TABLE t (a); SELECT * FROM t; SELECT * FROM missing;".toList

end Tabular.Shell
