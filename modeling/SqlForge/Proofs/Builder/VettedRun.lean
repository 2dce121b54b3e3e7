import SqlForge.Proofs.Builder.Vetted

/-!
Every call, whether it succeeds or fails, leaves a statement whose conditions have been looked at.
-/

namespace SqlForge

open Builder Outcome

variable {f : Family} {b : Builder}

namespace Builder

theorem VettedIn.attempt_bind {α : Type} {x : Except Failure α} {k : α → Except Failure Builder}
    (h : b.VettedIn f) (hx : ∀ a, x = .ok a → (attempt b (k a)).builder.VettedIn f)
    : (attempt b (x >>= k)).builder.VettedIn f :=
  builder_attempt_bind h hx

theorem VettedIn.attempt_map {α : Type} {x : Except Failure α} {step : α → Builder}
    (h : b.VettedIn f) (hx : ∀ a, x = .ok a → (step a).VettedIn f)
    : (attempt b (step <$> x)).builder.VettedIn f :=
  builder_attempt_map h hx

theorem VettedIn.attempt_joinOn {x : Except Failure Bound} (kind : JoinKind) (source : Source)
    (h : b.VettedIn .joins)
    (hx : ∀ bound, x = .ok bound →
      bound.Vetted b.grammar ∧ ((new b.grammar).filter .and bound).Made)
    : (attempt b (b.joinOn kind source x)).builder.VettedIn .joins := by
  have hnew := vetted_iff.mp (vetted_new b.grammar)
  apply h.attempt_bind
  intro bound hbound
  obtain ⟨hvetted, hmade⟩ := hx bound hbound
  exact h.addJoin kind source hmade ((hnew .wheres).filter .and hvetted) (hnew .joins) rfl

/-- The condition of a join can be had from a call as well. -/
theorem made_filter {g : Grammar} {x : Except Failure Bound} {bound : Bound} (call : Call)
    (hcall : call.run (new g) = attempt (new g) ((new g).filter .and <$> x)) (h : x = .ok bound)
    : ((new g).filter .and bound).Made := by
  have hmade := (Made.new g).run call
  rw [hcall, h] at hmade
  exact hmade

end Builder

namespace Call

variable {call : Call}

theorem vettedIn_filter (hf : call.family? = some .wheres) (hb : b.Made) (h : b.VettedIn .wheres)
    (hgroup : ∀ c calls, call = .filterGroup c calls →
      (runAll calls b.nested).builder.VettedIn .wheres)
    : (call.run b).builder.VettedIn .wheres := by
  cases call with
  | filter c column operator operand =>
    rw [run]
    exact h.attempt_map fun _ hbound => h.filter c (Bound.vetted_compare hbound)
  | filterEqual c column operand =>
    rw [run]
    exact h.filter c (Bound.vetted_equal column operand)
  | filterPairs pairs =>
    have hnested := vetted_iff.mp (vetted_of_source b.grammar b.query.source)
    rw [run]
    exact h.filterGroup .and (hb.nested.filterPairs pairs) ((hnested .wheres).equalities pairs)
      (grammar_filterPairs b.nested pairs)
  | filterRaw c template values =>
    rw [run]
    exact h.filter c (Bound.vetted_of_leaf trivial nofun)
  | filterColumns c first operator second =>
    rw [run]
    exact h.attempt_map fun _ hbound => h.filter c (Bound.vetted_compareColumns hbound)
  | filterAmong c column operands negated =>
    rw [run]
    exact h.filter c (Bound.vetted_of_leaf trivial nofun)
  | filterAmongRows c column query negated =>
    rw [run]
    apply h.attempt_bind
    intro rows hrows
    exact h.filter c (Bound.vetted_of_leaf ⟨rows, Draft.made_of_build hrows, rfl⟩ nofun)
  | filterNull c column negated =>
    rw [run]
    exact h.filter c (Bound.vetted_of_leaf trivial nofun)
  | filterBetween c column low high negated =>
    rw [run]
    exact h.filter c (Bound.vetted_of_leaf trivial nofun)
  | filterGroup c calls =>
    rw [run]
    apply h.attempt_bind
    intro inner hinner
    obtain ⟨_, rfl⟩ := toExcept_eq_ok.mp hinner
    exact h.filterGroup c (hb.nested.runAll calls) (hgroup c calls rfl)
      ((local_runAll calls).grammar b.nested)
  | filterExists c query negated =>
    rw [run]
    apply h.attempt_bind
    intro rows hrows
    exact h.filter c (Bound.vetted_of_leaf ⟨rows, Draft.made_of_build hrows, rfl⟩ nofun)
  | filterQuery c column operator query =>
    rw [run]
    apply h.attempt_bind
    intro rows hrows
    apply h.attempt_bind
    intro bound hbound
    exact h.filter c (Bound.vetted_compareQuery (Draft.made_of_build hrows) hbound)
  | filterQueryWith c column operator calls =>
    rw [run]
    apply h.attempt_bind
    intro _ _
    apply h.attempt_bind
    intro rows hrows
    apply h.attempt_bind
    intro bound hbound
    exact h.filter c (Bound.vetted_compareQuery (made_of_toExcept (.new _) hrows) hbound)
  | filterDate c part column operator operand =>
    rw [run]
    exact h.attempt_map fun _ hbound => h.filter c (Bound.vetted_compareDate hbound)
  | filterRow c columns operator operands =>
    rw [run]
    exact h.attempt_map fun _ hbound => h.filter c (Bound.vetted_compareRow hbound)
  | filterJson c column document negated =>
    rw [run]
    exact h.filter c (Bound.vetted_of_leaf trivial nofun)
  | _ => cases hf

theorem vettedIn_having (hf : call.family? = some .havings) (h : b.VettedIn .havings)
    : (call.run b).builder.VettedIn .havings := by
  cases call with
  | having c column operator operand =>
    rw [run]
    exact h.attempt_map fun _ hbound => h.having c (Bound.vetted_compare hbound)
  | havingRaw c template values =>
    rw [run]
    exact h.having c (Bound.vetted_of_leaf trivial nofun)
  | havingBetween column low high =>
    rw [run]
    exact h.having .and (Bound.vetted_of_leaf trivial nofun)
  | _ => cases hf

theorem vettedIn_join (hf : call.family? = some .joins) (h : b.VettedIn .joins)
    (hinner : ∀ kind table calls, call = .joinWith kind table calls →
      (runAll calls (.new b.grammar)).builder.Vetted)
    : (call.run b).builder.VettedIn .joins := by
  cases call with
  | join kind table first operator second =>
    rw [run]
    apply h.attempt_joinOn kind
    intro bound hbound
    refine ⟨Bound.vetted_compareColumns hbound,
      made_filter (.filterColumns .and first operator second) ?_ hbound⟩
    rw [run]
    rfl
  | joinWhere kind table column operator operand =>
    rw [run]
    apply h.attempt_joinOn kind
    intro bound hbound
    refine ⟨Bound.vetted_compare hbound,
      made_filter (.filter .and column operator operand) ?_ hbound⟩
    rw [run]
    rfl
  | joinWith kind table calls =>
    have hvetted := vetted_iff.mp (hinner kind table calls rfl)
    rw [run]
    apply h.attempt_bind
    intro inner hrun
    obtain ⟨_, rfl⟩ := toExcept_eq_ok.mp hrun
    exact h.addJoin kind (.table table) ((Made.new b.grammar).runAll calls) (hvetted .wheres)
      (hvetted .joins) ((local_runAll calls).grammar _)
  | crossJoin table =>
    rw [run]
    exact h.crossJoin (.table table)
  | joinQuery kind query label first operator second =>
    rw [run]
    cases query.build b.grammar with
    | error e => exact h
    | ok found =>
      -- Values make no difference to the statement, so neither do those of a join that fails.
      have hbind : (b.bind .join found.2).VettedIn .joins := h
      apply hbind.attempt_joinOn kind
      intro bound hbound
      refine ⟨Bound.vetted_compareColumns hbound,
        made_filter (.filterColumns .and first operator second) ?_ hbound⟩
      rw [run]
      rfl
  | crossJoinQuery query label =>
    rw [run]
    apply h.attempt_bind
    intro found _
    have hbind : (b.bind .join found.2).VettedIn .joins := h
    exact hbind.crossJoin _
  | _ => cases hf

theorem vettedIn_order (hf : call.family? = some .orders) (h : b.VettedIn .orders)
    : (call.run b).builder.VettedIn .orders := by
  cases call with
  | orderBy column direction =>
    rw [run]
    exact h.addOrdering fun _ => rfl
  | orderByText column direction =>
    rw [run]
    exact h.attempt_map fun _ _ => h.addOrdering fun _ => rfl
  | orderByRaw template values =>
    rw [run]
    exact h.orderByRaw template values
  | inRandomOrder seed =>
    rw [run]
    exact h.orderByRaw _ []
  | reorder =>
    rw [run]
    exact h.reorder
  | limit n =>
    rw [run]
    exact h.limit n
  | offset n =>
    rw [run]
    exact h.offset n
  | forPage page perPage =>
    rw [run]
    exact (h.offset _).limit _
  | union all member =>
    rw [run]
    apply h.attempt_bind
    intro rows hrows
    exact h.addUnion all (Draft.made_of_build hrows)
  | _ => cases hf

theorem vetted_of_family (hf : call.family? = some f) (hb : b.Made) (h : b.Vetted)
    (hgroup : ∀ c calls, call = .filterGroup c calls → (runAll calls b.nested).builder.Vetted)
    (hinner : ∀ kind table calls, call = .joinWith kind table calls →
      (runAll calls (.new b.grammar)).builder.Vetted)
    : (call.run b).builder.Vetted := by
  have hparts := vetted_iff.mp h
  rw [vetted_iff]
  intro l
  by_cases hl : f = l
  . subst hl
    cases f with
    | wheres =>
      exact vettedIn_filter hf hb (hparts .wheres) fun c calls heq =>
        vetted_iff.mp (hgroup c calls heq) .wheres
    | havings => exact vettedIn_having hf (hparts .havings)
    | joins => exact vettedIn_join hf (hparts .joins) hinner
    | orders => exact vettedIn_order hf (hparts .orders)
    | _ => exact trivial
  . exact (hparts l).of_only ((owned_run hf).others b hl)

mutual
theorem vetted_run {b : Builder} (call : Call) (hb : b.Made) (h : b.Vetted)
    : (call.run b).builder.Vetted := by
  cases call with
  | filterGroup c calls =>
    have hgroup := vetted_runAll calls hb.nested (vetted_of_source b.grammar b.query.source)
    refine vetted_of_family rfl hb h ?_ nofun
    intro _ _ heq
    cases heq
    exact hgroup
  | joinWith kind table calls =>
    have hinner := vetted_runAll calls (.new b.grammar) (vetted_new b.grammar)
    refine vetted_of_family rfl hb h nofun ?_
    intro _ _ _ heq
    cases heq
    exact hinner
  | when condition calls =>
    rw [run]
    split
    . exact vetted_runAll calls hb h
    . exact h
  | addBindings bucket values =>
    rw [run]
    exact h
  | setBindings bucket values =>
    rw [run]
    exact h
  | mergeBindings other =>
    rw [run]
    cases other.build b.grammar <;> exact h
  | _ => exact vetted_of_family rfl hb h nofun nofun

theorem vetted_runAll {b : Builder} (calls : List Call) (hb : b.Made) (h : b.Vetted)
    : (runAll calls b).builder.Vetted := by
  cases calls with
  | nil =>
    rw [runAll]
    exact h
  | cons call calls =>
    cases hcall : (call.run b).failure with
    | none =>
      rw [runAll_cons_of_ok hcall]
      exact vetted_runAll calls (hb.run call) (vetted_run call hb h)
    | some e =>
      rw [runAll_cons_of_failure hcall]
      exact vetted_run call hb h
end

end Call

namespace Builder

theorem Made.vetted (hb : b.Made) : b.Vetted := by
  induction hb with
  | new g => exact vetted_new g
  | ofTable g t => exact vetted_of_source g (some (.table t))
  | nested _ _ => exact vetted_of_source _ _
  | run call hb ih => exact call.vetted_run hb ih

theorem Made.recorded_of_part {q : Select} (hb : b.Made) (hq : b.query.Part q) : q.Recorded := by
  induction hq with
  | self => exact ⟨b, hb, rfl⟩
  | subquery _ hinner ih =>
    obtain ⟨maker, hmaker, heq⟩ := ih
    rw [← heq] at hinner
    exact hmaker.vetted.recorded_of_mem hinner

end Builder

/-- Vetted, together with what is not written of the builders that made the groups and joins. -/
structure Select.FullyVetted (g : Grammar) (q : Select) : Prop where
  statement : q.Vetted g
  groups : ∀ clauses, .group clauses ∈ q.conditions → ∃ maker : Builder,
    maker.Made ∧ maker.grammar = g ∧ maker.query.wheres = clauses ∧ maker.query.Vetted g
  joins : ∀ join ∈ nestedJoins q.joins, ∃ maker : Builder,
    maker.Made ∧ maker.grammar = g ∧ maker.query.joins = join.inner ∧
      maker.query.wheres = join.conditions ∧ maker.query.Vetted g

namespace Builder

theorem Made.fullyVetted (hb : b.Made) : b.query.FullyVetted b.grammar where
  statement := hb.vetted
  groups clauses hmem := by
    obtain ⟨_, maker, hmaker, hgrammar, hwheres⟩ := hb.vetted.conditions _ hmem
    exact ⟨maker, hmaker, hgrammar, hwheres, hgrammar ▸ hmaker.vetted⟩
  joins join hmem := by
    obtain ⟨maker, hmaker, hgrammar, hjoins, hwheres⟩ := hb.vetted.joins join hmem
    exact ⟨maker, hmaker, hgrammar, hjoins, hwheres, hgrammar ▸ hmaker.vetted⟩

/--
The statement of a builder is vetted in the grammar of the builder, whatever calls were made and
failed; and so is every statement in it, to any depth, in the grammar of the builder that made it.
-/
theorem parts_vetted (hb : b.Made)
    : b.query.FullyVetted b.grammar ∧
        ∀ q, b.query.Part q → ∃ maker : Builder, maker.Made ∧ maker.query = q ∧
          q.FullyVetted maker.grammar := by
  refine ⟨hb.fullyVetted, ?_⟩
  intro q hq
  obtain ⟨maker, hmaker, heq⟩ := hb.recorded_of_part hq
  exact ⟨maker, hmaker, heq, heq ▸ hmaker.fullyVetted⟩

/-- A union that succeeds, whose member holds a subquery in a dialect of its own. -/
def arrays : Call :=
  .union true ⟨none, [.table (.name "old"), .filterAmongRows .and (.name "id")
    ⟨some ⟨.postgres, ""⟩, [.filter .and (.name "tags") "@>" (.value (.text "[1]"))]⟩ false]⟩

/-- A group that fails after its first condition. -/
def refused : Call :=
  .filterGroup .or [.filterNull .and (.name "a") false,
    .filter .and (.name "tags") "@>" (.value (.text "[1]"))]

def afterRefused : Builder :=
  (Call.runAll [
      .filterGroup .or [.filter .and (.name "a") "<>" (.value .null)],
      .orderByRaw "f(?)" [.int 2],
      .joinWith .left (.name "tags") [.filter .and (.name "kind") "sounds like" (.value (.int 1))]]
    (refused.run (arrays.run (ofTable ⟨.mysql, ""⟩ (.name "users"))).builder).builder).builder

theorem afterRefused_parts_vetted
    : (refused.run (arrays.run (ofTable ⟨.mysql, ""⟩ (.name "users"))).builder).failure
          = some (.invalidOperator "@>") ∧
        afterRefused.Made ∧ afterRefused.query.FullyVetted ⟨.mysql, ""⟩ ∧
        ∃ q, afterRefused.query.Part q ∧ ¬q.Vetted ⟨.mysql, ""⟩ ∧
          ∃ maker : Builder, maker.Made ∧ maker.query = q ∧ q.FullyVetted maker.grammar := by
  have hmade : afterRefused.Made :=
    (((Made.ofTable ⟨.mysql, ""⟩ (.name "users")).run arrays).run refused).runAll _
  obtain ⟨hvetted, hparts⟩ := parts_vetted hmade
  have hpart : afterRefused.query.Part { Select.empty with
      wheres := [⟨.and, .compare (.name "tags") "@>" (.value (.text "[1]"))⟩] } := by
    have hmember : afterRefused.query.Part _ :=
      .subquery .self (List.mem_append_right _ (List.mem_singleton.mpr rfl))
    exact .subquery hmember (List.mem_append_left _ (List.mem_singleton.mpr rfl))
  refine ⟨rfl, hmade, hvetted, _, hpart, ?_, hparts _ hpart⟩
  intro h
  have haccepts := (h.conditions _ List.mem_cons_self).1
  have hrefused : (⟨.mysql, ""⟩ : Grammar).accepts "@>" = false := by decide +kernel
  rw [hrefused] at haccepts
  contradiction

end Builder

end SqlForge
