import SqlForge.Builder.Call
import SqlForge.Proofs.Except

/-!
What calls come to one after the other. A failure ends a sequence.
-/

namespace SqlForge

namespace Outcome

theorem toExcept_eq_ok {o : Outcome} {b : Builder}
    : o.toExcept = .ok b ↔ o.failure = none ∧ o.builder = b := by
  unfold toExcept
  cases o.failure <;> simp

theorem failure_attempt_eq_none {b : Builder} {x : Except Failure Builder}
    : (attempt b x).failure = none ↔ x = .ok (attempt b x).builder := by
  cases x <;> simp [attempt]

theorem toExcept_attempt (b : Builder) (x : Except Failure Builder)
    : (attempt b x).toExcept = x := by
  cases x with
  | error e => rfl
  | ok b' => rfl

section
variable {α : Type} {P : Builder → Prop} {b : Builder} {x : Except Failure α}

-- A step that fails leaves the builder, so only what a step that succeeds makes of it counts.
theorem builder_attempt_bind {k : α → Except Failure Builder} (hb : P b)
    (h : ∀ a, x = .ok a → P (attempt b (k a)).builder) : P (attempt b (x >>= k)).builder := by
  cases x with
  | error e => exact hb
  | ok a => exact h a rfl

theorem builder_attempt_map {step : α → Builder} (hb : P b) (h : ∀ a, x = .ok a → P (step a))
    : P (attempt b (step <$> x)).builder := by
  cases x with
  | error e => exact hb
  | ok a => exact h a rfl

end

end Outcome

namespace Call

-- A call has many equations. Made here, they are not made again by every module that rewrites
-- with them.
attribute [local simp] run runAll

variable {call : Call} {calls calls' : List Call} {b : Builder} {e : Failure}

theorem runAll_cons_of_ok (h : (call.run b).failure = none)
    : runAll (call :: calls) b = runAll calls (call.run b).builder := by
  rw [runAll]
  simp only [h]

theorem runAll_cons_of_failure (h : (call.run b).failure = some e)
    : runAll (call :: calls) b = call.run b := by
  rw [runAll]
  simp only [h]

theorem failure_runAll_cons_eq_none
    : (runAll (call :: calls) b).failure = none
      ↔ (call.run b).failure = none ∧ (runAll calls (call.run b).builder).failure = none := by
  cases hcall : (call.run b).failure with
  | none => rw [runAll_cons_of_ok hcall, eq_self, true_and]
  | some e =>
    rw [runAll_cons_of_failure hcall, hcall]
    simp

theorem toExcept_runAll_cons (call : Call) (calls : List Call) (b : Builder)
    : (runAll (call :: calls) b).toExcept
        = (call.run b).toExcept >>= fun b => (runAll calls b).toExcept := by
  cases hcall : (call.run b).failure with
  | none =>
    rw [runAll_cons_of_ok hcall, Outcome.toExcept_eq_ok.mpr ⟨hcall, rfl⟩, ok_bind]
  | some e =>
    rw [runAll_cons_of_failure hcall]
    unfold Outcome.toExcept
    rw [hcall, error_bind]

theorem runAll_singleton (call : Call) (b : Builder) : runAll [call] b = call.run b := by
  cases hcall : (call.run b).failure with
  | none =>
    rw [runAll_cons_of_ok hcall, runAll, ← hcall]
  | some e => rw [runAll_cons_of_failure hcall]

theorem runAll_append_of_ok (h : (runAll calls b).failure = none)
    : runAll (calls ++ calls') b = runAll calls' (runAll calls b).builder := by
  induction calls generalizing b with
  | nil => rw [runAll, List.nil_append]
  | cons call calls ih =>
    obtain ⟨hcall, hcalls⟩ := failure_runAll_cons_eq_none.mp h
    rw [List.cons_append, runAll_cons_of_ok hcall, runAll_cons_of_ok hcall]
    exact ih hcalls

theorem runAll_append_of_failure (h : (runAll calls b).failure = some e)
    : runAll (calls ++ calls') b = runAll calls b := by
  induction calls generalizing b with
  | nil =>
    rw [runAll] at h
    contradiction
  | cons call calls ih =>
    rw [List.cons_append]
    cases hcall : (call.run b).failure with
    | none =>
      rw [runAll_cons_of_ok hcall] at h ⊢
      rw [runAll_cons_of_ok hcall]
      exact ih h
    | some e => rw [runAll_cons_of_failure hcall, runAll_cons_of_failure hcall]

end Call

namespace Subquery

variable {g : Grammar} {found : Sql × List Value}

/-- A text that says something stands for itself and comes with no values. -/
theorem build_text_eq_ok {sql : String}
    : (text sql).build g = .ok found ↔ ¬(Text.trimmed sql).isEmpty ∧ ((sql : Sql), []) = found := by
  rw [build]
  split
  . next hempty => simp [hempty]
  . next hempty => rw [Except.ok.injEq, and_iff_right hempty]

theorem build_draft_eq_ok {query : Draft}
    : (draft query).build g = .ok found ↔
      ∃ b sql, query.build g = .ok b ∧ b.sql = .ok sql ∧ (sql, b.values) = found := by
  rw [build, bind_eq_ok]
  simp only [bind_eq_ok, pure_eq_ok, exists_and_left]

end Subquery

end SqlForge
