import SqlForge.Builder.Filter
import SqlForge.Proofs.Except

/-!
What a condition is that has been checked, and what the check has found.
-/

namespace SqlForge

variable {g : Grammar} {operator : String}

theorem Grammar.checkOperator_eq_ok : g.checkOperator operator = .ok () ↔ g.accepts operator := by
  unfold checkOperator
  split <;> simp [*]

/-- What follows the check of an operator. -/
theorem Grammar.checkOperator_bind_eq_ok {α : Type} {x : Except Failure α} {a : α}
    : (g.checkOperator operator >>= fun _ => x) = .ok a ↔ g.accepts operator ∧ x = .ok a := by
  rw [bind_eq_ok, ← checkOperator_eq_ok]
  constructor
  . rintro ⟨_, hoperator, hx⟩
    exact ⟨hoperator, hx⟩
  . rintro ⟨hoperator, hx⟩
    exact ⟨(), hoperator, hx⟩

namespace Bound

variable {bound : Bound} {column : Column} {operand : Operand}

/-- A comparison with NULL is a test for NULL, or refused. -/
theorem compare_cases (h : compare g column operator operand = .ok bound)
    : g.accepts operator ∧
        ((operand.isNull ∧ ∃ negated, bound = { condition := .isNull column negated }) ∨
          (¬operand.isNull ∧ bound = ⟨.compare column operator operand, boundValues [operand]⟩)) := by
  obtain ⟨hoperator, h⟩ := Grammar.checkOperator_bind_eq_ok.mp h
  refine ⟨hoperator, ?_⟩
  split at h
  . next hnull =>
    dsimp only at h
    split at h
    . exact .inl ⟨hnull, false, (pure_eq_ok.mp h).symm⟩
    . split at h
      . exact .inl ⟨hnull, true, (pure_eq_ok.mp h).symm⟩
      . cases h
  . next hnull => exact .inr ⟨hnull, (pure_eq_ok.mp h).symm⟩

theorem compareDate_eq_ok {part : DatePart}
    : compareDate g part column operator operand = .ok bound ↔
      g.accepts operator ∧ ¬operand.isNull ∧
        ⟨.compareDate part column operator operand, boundValues [operand]⟩ = bound := by
  apply Grammar.checkOperator_bind_eq_ok.trans
  cases operand.isNull with
  | false => simp [pure_eq_ok]
  | true =>
    simp only [not_true, false_and, and_false, iff_false]
    rintro ⟨_, h⟩
    cases h

theorem compareRow_eq_ok {columns : List Column} {operands : List Operand}
    : compareRow g columns operator operands = .ok bound ↔
      columns.length = operands.length ∧ g.accepts operator ∧
        ⟨.compareRow columns operator operands, boundValues operands⟩ = bound := by
  unfold compareRow
  split
  . next hlength => exact iff_of_false nofun fun h => hlength h.1
  . next hlength =>
    rw [and_iff_right (Decidable.not_not.mp hlength)]
    apply Grammar.checkOperator_bind_eq_ok.trans
    rw [pure_eq_ok]

theorem compareColumns_eq_ok {first second : Column}
    : compareColumns g first operator second = .ok bound ↔
      g.accepts operator ∧ ({ condition := .compareColumns first operator second } : Bound) = bound := by
  apply Grammar.checkOperator_bind_eq_ok.trans
  rw [pure_eq_ok]

theorem compareQuery_eq_ok {query : Builder}
    : compareQuery g column operator query = .ok bound ↔
      g.accepts operator ∧ ⟨.compareQuery column operator query.query, query.values⟩ = bound := by
  apply Grammar.checkOperator_bind_eq_ok.trans
  rw [pure_eq_ok]

end Bound

end SqlForge
