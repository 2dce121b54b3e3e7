import SqlForge.Proofs.Builder.Reachable
import SqlForge.Proofs.Placeholder.Call

/-!
Values and placeholders of a SELECT correspond one to one, however its builder was put together.
-/

namespace SqlForge

open Text

/-- The statement is `sql`, and its values are those that the question marks were written for. -/
structure Statement.Aligned (s : Statement) (sql : Sql) : Prop where
  text : s.sql = sql.text
  count : s.sql.toList.count '?' = s.bindings.length
  marks : sql.marks = s.bindings.map some

theorem Statement.aligned_of_emits {sql : Sql} {values : List Value} (h : sql.Emits values)
    : Aligned ⟨sql.text, values⟩ sql where
  text := rfl
  count := h.count_eq
  marks := h

namespace Builder

variable {g : Grammar} {b : Builder}

theorem Reachable.complete (hg : g.Unmarked) (hb : Reachable Call.Fits g b) : b.Complete := by
  apply hb.invariant
  . exact complete_new hg
  . intro t ht
    rw [Call.Fits] at ht
    exact complete_ofTable hg ht.1
  . intro b call hb hcall hok
    exact hb.keep (call.keeps_run hb.toSound hcall hok)

theorem Reachable.runAll {calls : List Call} (hb : Reachable Call.Fits g b)
    (hcalls : Call.AllFit calls b) (hok : (Call.runAll calls b).failure = none)
    : Reachable Call.Fits g (Call.runAll calls b).builder := by
  induction calls generalizing b with
  | nil =>
    rw [Call.runAll]
    exact hb
  | cons call calls ih =>
    rw [Call.AllFit] at hcalls
    rw [Call.runAll] at hok ⊢
    split at hok
    . next hcall => exact ih (hb.run call hcalls.1 hcall) hcalls.2 hok
    . next e hcall =>
      rw [hcall] at hok
      contradiction

theorem emits_existsStatement {sql : Sql} (h : b.Complete)
    (hsql : b.query.renderExists b.grammar = .ok sql) : sql.Emits b.values := by
  rw [values_eq_slots h]
  exact Select.emits_renderExists h.grammar (Select.filled_iff.mpr h.query.toFilledParts) hsql

/--
The question marks of a SELECT, and of the statement that asks whether it has any row, are the
placeholders of the values of the builder, one by one and in their order.
-/
theorem statement_aligned (hg : g.Unmarked) (hb : Reachable Call.Fits g b)
    : (∀ s, b.statement = .ok s →
        s.bindings = b.values ∧ ∃ sql, b.sql = .ok sql ∧ s.Aligned sql) ∧
      (∀ s, b.existsStatement = .ok s →
        s.bindings = b.values ∧
          ∃ sql, b.query.renderExists b.grammar = .ok sql ∧ s.Aligned sql) := by
  have hcomplete := hb.complete hg
  constructor
  . intro s hs
    obtain ⟨sql, hsql, hs⟩ := bind_eq_ok.mp hs
    rw [← pure_eq_ok.mp hs]
    exact ⟨rfl, sql, hsql, Statement.aligned_of_emits (emits_sql hcomplete hsql)⟩
  . intro s hs
    obtain ⟨sql, hsql, hs⟩ := bind_eq_ok.mp hs
    rw [← pure_eq_ok.mp hs]
    exact ⟨rfl, sql, hsql, Statement.aligned_of_emits (emits_existsStatement hcomplete hsql)⟩

/-! ### A builder with values everywhere -/

/-- Calls for every clause that takes values, in no order of the clauses. -/
def mixedCalls : List Call := [
  .orderByRaw "f(?)" [.int 7],
  .having .and (.name "n") ">" (.value (.int 6)),
  .filterGroup .or [
    .filterAmong .and (.raw "a") [.value (.int 3), .value (.int 4)] false,
    .filterNull .or (.name "d") true],
  .table (.name "t"),
  .joinWith .left (.name "u") [.filterEqual .and (.name "u.k") (.value (.int 2))],
  .filterExists .and ⟨none, [.sourceRaw "g(?)" [.int 5]]⟩ false,
  .selectRaw "?" [.int 1],
  .union true ⟨none, [.table (.name "v"), .filterRaw .and "x = ?" [.int 8]]⟩,
  .orderByRaw "h(?)" [.int 9]]

def mixed (d : Dialect) : Builder :=
  (Call.runAll mixedCalls (new ⟨d, "p_"⟩)).builder

theorem reachable_mixed (d : Dialect) : Reachable Call.Fits ⟨d, "p_"⟩ (mixed d) := by
  apply Reachable.runAll .new
  . simp only [mixedCalls, Call.AllFit, Call.Fits, Draft.Fits, Column.Unmarked, Table.Unmarked,
      Operand.Unmarked, Sql.Fits]
    cases d <;> simp <;> decide
  . cases d <;> rfl

theorem mixed_statement_aligned
    : Grammar.Unmarked ⟨.mysql, "p_"⟩ ∧ Reachable Call.Fits ⟨.mysql, "p_"⟩ (mixed .mysql) ∧
      ∃ s sql, (mixed .mysql).statement = .ok s ∧ s.Aligned sql ∧
        s.bindings = [.int 1, .int 2, .int 3, .int 4, .int 5, .int 6, .int 7, .int 8, .int 9] := by
  have hg : Grammar.Unmarked ⟨.mysql, "p_"⟩ := by decide
  have hb := reachable_mixed .mysql
  obtain ⟨s, hs⟩ : ∃ s, (mixed .mysql).statement = .ok s := ⟨_, rfl⟩
  obtain ⟨hvalues, sql, _, haligned⟩ := (statement_aligned hg hb).1 s hs
  refine ⟨hg, hb, s, sql, hs, haligned, ?_⟩
  rw [hvalues]
  rfl

end Builder

end SqlForge
