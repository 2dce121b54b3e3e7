import SqlForge.Proofs.Builder.Outcome

/-!
The builders that calls make, whether or not the calls succeed.
-/

namespace SqlForge

namespace Builder

/--
What calls lead to from an empty builder, from a table or from the builder of a group. A builder
that a call failed on is used further as the call left it.
-/
inductive Made : Builder → Prop where
  | new (g : Grammar) : Made (new g)
  | ofTable (g : Grammar) (t : Table) : Made (ofTable g t)
  | nested {b : Builder} : Made b → Made b.nested
  | run {b : Builder} (call : Call) : Made b → Made (call.run b).builder

theorem Made.runAll {b : Builder} (hb : b.Made) (calls : List Call)
    : (Call.runAll calls b).builder.Made := by
  induction calls generalizing b with
  | nil =>
    rw [Call.runAll]
    exact hb
  | cons call calls ih =>
    cases hcall : (call.run b).failure with
    | none =>
      rw [Call.runAll_cons_of_ok hcall]
      exact ih (hb.run call)
    | some e =>
      rw [Call.runAll_cons_of_failure hcall]
      exact hb.run call

theorem Made.filterPairs {b : Builder} (hb : b.Made) (pairs : List (Column × Operand))
    : (pairs.foldl (fun inner (column, operand) => inner.filter .and (.equal column operand))
        b).Made := by
  induction pairs generalizing b with
  | nil => exact hb
  | cons pair pairs ih =>
    have hfirst := hb.run (.filterEqual .and pair.1 pair.2)
    rw [Call.run] at hfirst
    exact ih hfirst

theorem made_of_toExcept {calls : List Call} {b b' : Builder} (hb : b.Made)
    (h : (Call.runAll calls b).toExcept = .ok b') : b'.Made := by
  obtain ⟨_, hb'⟩ := Outcome.toExcept_eq_ok.mp h
  rw [← hb']
  exact hb.runAll calls

end Builder

theorem Draft.made_of_build {draft : Draft} {g : Grammar} {b : Builder} (h : draft.build g = .ok b)
    : b.Made := by
  obtain ⟨grammar, calls⟩ := draft
  rw [Draft.build] at h
  exact Builder.made_of_toExcept (.new _) h

end SqlForge
