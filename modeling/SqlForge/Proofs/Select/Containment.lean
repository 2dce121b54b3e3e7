import SqlForge.Proofs.Select.Parts
import SqlForge.Select.Render

/-!
When a SELECT cannot be written. One dialect has no test for JSON documents; nothing else can go
wrong, and the test does no harm unless it stands where it would be written.
-/

namespace SqlForge

def Condition.isContainment : Condition → Bool
  | .jsonContains .. => true
  | _ => false

/-- A test of documents stands in some clause of the statement or of a statement inside it. -/
def Select.HasContainment (q : Select) : Prop :=
  ∃ part, q.Part part ∧ ∃ condition ∈ part.conditions, condition.isContainment

/-- The condition is a test of documents, or compares with a statement that has one. -/
def Condition.HasContainment (condition : Condition) : Prop :=
  condition.isContainment ∨ ∃ query, condition.query? = some query ∧ query.HasContainment

/-- One of the conditions has a test of documents, to any depth of groups. -/
def HaveContainment (conditions : List Condition) : Prop :=
  ∃ condition ∈ conditions, condition.HasContainment

variable {conditions more : List Condition}

@[simp]
theorem haveContainment_nil : HaveContainment [] ↔ False := by
  simp [HaveContainment]

@[simp]
theorem haveContainment_append
    : HaveContainment (conditions ++ more) ↔ HaveContainment conditions ∨ HaveContainment more := by
  simp [HaveContainment, or_and_right, exists_or]

theorem haveContainment_conditions (condition : Condition)
    : HaveContainment condition.conditions ↔
      match condition with
      | .group clauses => HaveContainment (clauseConditions clauses)
      | .amongRows _ query _ | .exists query _ | .compareQuery _ _ query => query.HasContainment
      | .jsonContains .. => True
      | _ => False := by
  cases condition <;>
    simp [Condition.conditions, HaveContainment, Condition.HasContainment,
      Condition.isContainment, Condition.query?]

namespace Select

theorem Part.trans {q inner part : Select} (h : q.Part inner) (hpart : inner.Part part)
    : q.Part part := by
  induction hpart with
  | self => exact h
  | subquery _ hmem ih => exact ih.subquery hmem

theorem part_iff {q part : Select}
    : q.Part part ↔ part = q ∨ ∃ inner ∈ q.subqueries, inner.Part part := by
  constructor
  . intro h
    induction h with
    | self => exact .inl rfl
    | subquery _ hmem ih =>
      rcases ih with rfl | ⟨inner, hinner, hpart⟩
      . exact .inr ⟨_, hmem, .self⟩
      . exact .inr ⟨inner, hinner, hpart.subquery hmem⟩
  . rintro (rfl | ⟨inner, hinner, hpart⟩)
    . exact .self
    . exact (Part.self.subquery hinner).trans hpart

/-- A test of documents is among the conditions, or in a statement that stands in the statement. -/
theorem hasContainment_iff {q : Select}
    : q.HasContainment ↔
      HaveContainment q.conditions ∨ ∃ member ∈ q.unions, member.query.HasContainment := by
  unfold HasContainment HaveContainment Condition.HasContainment
  simp only [part_iff (q := q), subqueries, List.mem_append, List.mem_filterMap, List.mem_map]
  constructor
  . rintro ⟨part, rfl | ⟨inner, ⟨outer, houter, hquery⟩ | ⟨member, hmember, rfl⟩, hpart⟩,
      condition, hmem, hcondition⟩
    . exact .inl ⟨condition, hmem, .inl hcondition⟩
    . exact .inl ⟨outer, houter, .inr ⟨inner, hquery, part, hpart, condition, hmem, hcondition⟩⟩
    . exact .inr ⟨member, hmember, part, hpart, condition, hmem, hcondition⟩
  . rintro (⟨condition, hmem, hcondition | ⟨inner, hquery, part, hpart, hfound⟩⟩ |
      ⟨member, hmember, part, hpart, hfound⟩)
    . exact ⟨q, .inl rfl, condition, hmem, hcondition⟩
    . exact ⟨part, .inr ⟨inner, .inl ⟨condition, hmem, hquery⟩, hpart⟩, hfound⟩
    . exact ⟨part, .inr ⟨_, .inr ⟨member, hmember, rfl⟩, hpart⟩, hfound⟩

end Select

/-! ### Failing for one reason -/

variable {α β : Type} {g : Grammar} {P Q : Prop} {x : Except Failure α}

/-- `x` fails just when the dialect has no test of documents and `P`, and for that reason. -/
def FailsFor (g : Grammar) (P : Prop) (x : Except Failure α) : Prop :=
  ∀ e, x = .error e ↔ (g.dialect = .sqlite ∧ P) ∧ e = .unsupported .sqlite .jsonContainment

namespace FailsFor

theorem congr (h : FailsFor g P x) (heq : P ↔ Q) : FailsFor g Q x := by
  intro e
  rw [h e, heq]

theorem ok (a : α) : FailsFor g False (.ok a : Except Failure α) := by
  intro e
  simp

theorem bind {f : α → Except Failure β} (h : FailsFor g P x) (hf : ∀ a, FailsFor g Q (f a))
    : FailsFor g (P ∨ Q) (x >>= f) := by
  intro e
  cases x with
  | error found =>
    obtain ⟨⟨hdialect, hP⟩, rfl⟩ := (h found).mp rfl
    simp [Bind.bind, Except.bind, hdialect, hP, eq_comm]
  | ok a =>
    have hP : ¬(g.dialect = .sqlite ∧ P) := fun hP => nomatch (h _).mpr ⟨hP, rfl⟩
    change f a = .error e ↔ _
    rw [hf a e]
    grind

theorem map (f : α → β) (h : FailsFor g P x) : FailsFor g P (x >>= fun a => pure (f a)) :=
  (h.bind fun a => ok (f a)).congr (or_iff_left id)

theorem exists_ok (h : FailsFor g P x) (hdialect : g.dialect ≠ .sqlite) : ∃ a, x = .ok a := by
  cases x with
  | error e => exact absurd ((h e).mp rfl).1.1 hdialect
  | ok a => exact ⟨a, rfl⟩

end FailsFor

/-! ### Rendering -/

theorem failsFor_renderJsonContains (g : Grammar) (column : Column) (operand : Operand)
    (negated : Bool) : FailsFor g True (renderJsonContains g column operand negated) := by
  intro e
  unfold renderJsonContains
  cases hdialect : g.dialect <;> simp [eq_comm]

mutual
theorem Condition.failsFor_render (g : Grammar) (condition : Condition)
    : FailsFor g (HaveContainment condition.conditions) (condition.render g) := by
  have htests := (haveContainment_conditions condition).symm
  cases condition with
  | group clauses =>
    have hclauses := failsFor_renderClauses g clauses
    rw [Condition.render]
    exact (hclauses.map _).congr htests
  | amongRows column query negated =>
    have hquery := query.failsFor_render g
    rw [Condition.render]
    exact (hquery.map _).congr htests
  | «exists» query negated =>
    have hquery := query.failsFor_render g
    rw [Condition.render]
    exact (hquery.map _).congr htests
  | compareQuery column operator query =>
    have hquery := query.failsFor_render g
    rw [Condition.render]
    exact (hquery.map _).congr htests
  | jsonContains column operand negated =>
    rw [Condition.render]
    exact (failsFor_renderJsonContains g column operand negated).congr htests
  | among column operands negated =>
    cases operands with
    | nil =>
      rw [Condition.render]
      exact (FailsFor.ok _).congr htests
    | cons operand operands =>
      rw [Condition.render]
      . exact (FailsFor.ok _).congr htests
      . nofun
  | _ =>
    rw [Condition.render]
    exact (FailsFor.ok _).congr htests

theorem failsFor_renderClauses (g : Grammar) (clauses : List Clause)
    : FailsFor g (HaveContainment (clauseConditions clauses)) (renderClauses g clauses) := by
  cases clauses with
  | nil =>
    rw [renderClauses, clauseConditions]
    exact (FailsFor.ok _).congr haveContainment_nil.symm
  | cons clause clauses =>
    obtain ⟨connective, condition⟩ := clause
    have hfirst := condition.failsFor_render g
    have hrest := failsFor_renderFurther g clauses
    rw [renderClauses, clauseConditions_cons]
    exact (hfirst.bind fun _ => hrest.map _).congr haveContainment_append.symm

theorem failsFor_renderFurther (g : Grammar) (clauses : List Clause)
    : FailsFor g (HaveContainment (clauseConditions clauses)) (renderFurther g clauses) := by
  cases clauses with
  | nil =>
    rw [renderFurther, clauseConditions]
    exact (FailsFor.ok _).congr haveContainment_nil.symm
  | cons clause clauses =>
    obtain ⟨connective, condition⟩ := clause
    have hfirst := condition.failsFor_render g
    have hrest := failsFor_renderFurther g clauses
    rw [renderFurther, clauseConditions_cons]
    exact (hfirst.bind fun _ => hrest.map _).congr haveContainment_append.symm

theorem Join.failsFor_render (g : Grammar) (join : Join)
    : FailsFor g (HaveContainment (join.joins.flatMap fun j => clauseConditions j.conditions))
        (join.render g) := by
  obtain ⟨kind, source, inner, conditions⟩ := join
  have hinner := failsFor_renderJoins g inner
  have hon := failsFor_renderClauses g conditions
  rw [Join.render, Join.joins, List.flatMap_cons]
  exact (hinner.bind fun _ => hon.map _).congr (or_comm.trans haveContainment_append.symm)

theorem failsFor_renderJoins (g : Grammar) (joins : List Join)
    : FailsFor g (HaveContainment ((nestedJoins joins).flatMap fun j => clauseConditions j.conditions))
        (renderJoins g joins) := by
  cases joins with
  | nil =>
    rw [renderJoins, nestedJoins]
    exact (FailsFor.ok _).congr haveContainment_nil.symm
  | cons join joins =>
    have hfirst := join.failsFor_render g
    have hrest := failsFor_renderJoins g joins
    rw [nestedJoins, List.flatMap_append]
    cases joins with
    | nil =>
      rw [renderJoins, nestedJoins]
      exact hfirst.congr (by simp)
    | cons next joins =>
      rw [renderJoins]
      . exact (hfirst.bind fun _ => hrest.map _).congr haveContainment_append.symm
      . simp

theorem failsFor_renderMembers (g : Grammar) (members : List UnionMember)
    : FailsFor g (∃ member ∈ members, member.query.HasContainment) (renderMembers g members) := by
  cases members with
  | nil =>
    rw [renderMembers]
    exact (FailsFor.ok _).congr (by simp)
  | cons member members =>
    obtain ⟨all, query⟩ := member
    have hfirst := query.failsFor_render g
    have hrest := failsFor_renderMembers g members
    rw [renderMembers]
    exact (hfirst.bind fun _ => hrest.map _).congr (by simp)

theorem Select.failsFor_render (g : Grammar) (q : Select)
    : FailsFor g q.HasContainment (q.render g) := by
  cases q with
  | mk distinct selections source joins wheres groups havings orders limit offset unions
      unionOrders unionLimit unionOffset aggregate lock =>
    have hjoins := failsFor_renderJoins g joins
    have hwheres := failsFor_renderClauses g wheres
    have hhavings := failsFor_renderClauses g havings
    have hmembers := failsFor_renderMembers g unions
    rw [Select.render]
    apply (hjoins.bind fun _ => hwheres.bind fun _ => hhavings.bind fun _ =>
      hmembers.map _).congr
    rw [Select.hasContainment_iff, Select.conditions, haveContainment_append,
      haveContainment_append]
    dsimp only
    grind
end

end SqlForge
