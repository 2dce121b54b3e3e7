import SqlForge.Builder.Call

/-!
The builders that calls lead to, from a builder that asks for nothing or from a table.
-/

namespace SqlForge

namespace Builder

/-- What calls lead to that succeed, as long as each is `allowed` for the builder it is made on. -/
inductive Reachable (allowed : Call → Builder → Prop) (g : Grammar) : Builder → Prop where
  | new : Reachable allowed g (new g)
  | ofTable (t : Table) : allowed (.table t) (new g) → Reachable allowed g (ofTable g t)
  | run {b : Builder} (call : Call) : Reachable allowed g b → allowed call b →
      (call.run b).failure = none → Reachable allowed g (call.run b).builder

/-- What the two starts have and a call keeps, all builders have. -/
theorem Reachable.invariant {allowed : Call → Builder → Prop} {g : Grammar} {P : Builder → Prop}
    (hnew : P (Builder.new g))
    (htable : ∀ t, allowed (.table t) (Builder.new g) → P (Builder.ofTable g t))
    (hrun : ∀ b (call : Call), P b → allowed call b → (call.run b).failure = none →
      P (call.run b).builder) {b : Builder} (hb : Reachable allowed g b) : P b := by
  induction hb with
  | new => exact hnew
  | ofTable t ht => exact htable t ht
  | run call _ hcall hok ih => exact hrun _ call ih hcall hok

end Builder

end SqlForge
