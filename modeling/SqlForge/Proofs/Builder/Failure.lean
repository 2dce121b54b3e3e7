import SqlForge.Proofs.Builder.Reachable
import SqlForge.Proofs.Placeholder.Builder

/-!
What calls that fail leave behind. Of the calls that are no sequence of others, one kind records
values before it can still fail: the join of a subquery.
-/

namespace SqlForge

theorem Outcome.builder_attempt_of_failure {b : Builder} {x : Except Failure Builder} {e : Failure}
    (h : (attempt b x).failure = some e) : (attempt b x).builder = b := by
  cases x with
  | error e => rfl
  | ok b' => cases h

theorem Builder.bind_eq_self_iff {b : Builder} {k : Bucket} {values : List Value}
    : b.bind k values = b ↔ values = [] := by
  constructor
  . intro h
    have hget : (b.bind k values).bindings.get k = b.bindings.get k := by rw [h]
    have hbound : (b.bind k values).bindings.get k = b.bindings.get k ++ values :=
      Bindings.get_set_self b.bindings k (b.bindings.get k ++ values)
    rw [hbound] at hget
    exact List.append_right_eq_self.mp hget
  . intro h
    rw [h]
    exact bind_nil b k

theorem Builder.values_bind_eq_iff {b : Builder} {k : Bucket} {values : List Value}
    : (b.bind k values).values = b.values ↔ values = [] := by
  constructor
  . intro h
    have hlength := congrArg List.length h
    cases k <;>
      simpa [Builder.values, bind, Bindings.flatten, Bindings.flattenWhere, Bucket.all,
        Bindings.extend, Bindings.set, Bindings.get] using hlength
  . intro h
    rw [h, bind_nil]

namespace Call

/-- The values that the call records before it can still fail. -/
def recordedEarly : Call → Builder → List Value
  | .joinQuery _ query .., b =>
    match query.build b.grammar with
    | .ok (_, values) => values
    | .error _ => []
  | _, _ => []

theorem builder_run_of_failure {call : Call} {b : Builder} {e : Failure}
    (hcall : ∀ condition calls, call ≠ .when condition calls)
    (h : (call.run b).failure = some e)
    : (call.run b).builder = b.bind .join (call.recordedEarly b) := by
  cases call with
  | joinQuery kind query label first operator second =>
    rw [run] at h ⊢
    rw [recordedEarly]
    cases hquery : query.build b.grammar with
    | error e => exact (Builder.bind_nil b .join).symm
    | ok found =>
      rw [hquery] at h
      exact Outcome.builder_attempt_of_failure h
  | when condition calls => exact absurd rfl (hcall condition calls)
  | _ =>
    change _ = b.bind .join []
    rw [Builder.bind_nil]
    rw [run] at h ⊢
    -- Every other call is a single step, or cannot fail.
    first
    | exact Outcome.builder_attempt_of_failure h
    | cases h

/--
A call that fails, and is no sequence of others, leaves the builder as it is if and only if it has
not recorded the values of a joined subquery before it failed. The clauses never change.
-/
theorem failed_run_unchanged_iff {call : Call} {b : Builder} {e : Failure}
    (hcall : ∀ condition calls, call ≠ .when condition calls)
    (h : (call.run b).failure = some e)
    : (call.run b).builder.query = b.query ∧ (call.run b).builder.sql = b.sql ∧
        ((call.run b).builder = b ↔ call.recordedEarly b = []) ∧
        ((call.run b).builder.values = b.values ↔ call.recordedEarly b = []) := by
  rw [builder_run_of_failure hcall h]
  exact ⟨rfl, rfl, Builder.bind_eq_self_iff, Builder.values_bind_eq_iff⟩

/-- A builder with a value, and a union whose member fails after it has a value. -/
theorem failed_union_unchanged
    : ∃ (call : Call) (b : Builder) (e : Failure),
        (∀ condition calls, call ≠ .when condition calls) ∧ (call.run b).failure = some e ∧
          b.values = [.int 1] ∧ (call.run b).builder = b := by
  have hcall : ∀ condition calls,
      Call.union false ⟨none, [.havingRaw .and "x = ?" [.int 2], .orderByText (.name "a") "up"]⟩
        ≠ .when condition calls := by
    intro _ _ heq
    cases heq
  refine ⟨_, (run (.orderByRaw "f(?)" [.int 1]) (.new ⟨.mysql, ""⟩)).builder,
    .invalidDirection "up", hcall, rfl, rfl, ?_⟩
  exact (failed_run_unchanged_iff hcall rfl).2.2.1.mpr rfl

/-- The join is refused for its operator, and the value of its subquery stays. -/
theorem failed_joinQuery_changed
    : ∃ (call : Call) (b : Builder) (e : Failure),
        Builder.Reachable (fun _ _ => True) ⟨.mysql, ""⟩ b ∧
          (∀ condition calls, call ≠ .when condition calls) ∧ (call.run b).failure = some e ∧
          b.values = [] ∧ (call.run b).builder.values = [.int 1] := by
  refine ⟨.joinQuery .inner
      (.draft ⟨none, [.table (.name "posts"), .filterEqual .and (.name "a") (.value (.int 1))]⟩)
      "p" (.name "p.id") "===" (.name "users.id"),
    .ofTable ⟨.mysql, ""⟩ (.name "users"), .invalidOperator "===",
    .ofTable (.name "users") trivial, ?_, rfl, rfl, rfl⟩
  intro _ _ heq
  cases heq

end Call

end SqlForge
