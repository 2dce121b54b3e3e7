import SqlForge.Proofs.Builder.Family
import SqlForge.Proofs.Builder.Outcome

/-!
Every call keeps to the part of its family. The calls of a group run on a builder that knows the
source, so it takes an induction over calls to see that the group does not depend on it.
-/

namespace SqlForge

open Builder Family Outcome

namespace Call

/--
Each part of the outcome depends on the same part before, and on the grammar. Whether there is a
failure depends on the grammar alone.
-/
structure Local (run : Builder → Outcome) : Prop where
  grammar : ∀ b, (run b).builder.grammar = b.grammar
  only : ∀ f b, (run b).builder.only f = (run (b.only f)).builder.only f
  failure : ∀ {b b' : Builder}, b.grammar = b'.grammar → (run b).failure = (run b').failure

variable {f : Family} {call : Call} {calls : List Call}

theorem Owned.shell_run (h : call.Owned f) (b : Builder)
    : (call.run b).builder.shell = b.shell := by
  obtain ⟨l, hl⟩ : ∃ l, f ≠ l := by
    cases f with
    | lock => exact ⟨.distinct, by decide⟩
    | _ => exact ⟨.lock, by decide⟩
  rw [← shell_only l, h.others b hl, shell_only]

theorem Owned.grammar_run (h : call.Owned f) (b : Builder)
    : (call.run b).builder.grammar = b.grammar :=
  (shell_eq_iff.mp (h.shell_run b)).1

theorem Owned.local_run (h : call.Owned f) : Local call.run where
  grammar := h.grammar_run
  only l b := by
    by_cases hl : f = l
    . subst hl
      exact h.own b
    . rw [h.others b hl, h.others (b.only l) hl, only_only]
  failure := h.failure

theorem Local.only_congr {run : Builder → Outcome} (h : Local run) {b b' : Builder}
    (hb : b.only f = b'.only f) : (run b).builder.only f = (run b').builder.only f := by
  rw [h.only, hb, ← h.only]

theorem owned_of_filter (c : Connective) (x : Grammar → Except Failure Bound)
    (hrun : ∀ b, call.run b = attempt b (b.filter c <$> x b.grammar)) : call.Owned .wheres :=
  owned_of_attempt x (fun bound b => b.filter c bound) hrun (owns_filter c)

theorem owned_of_having (c : Connective) (x : Grammar → Except Failure Bound)
    (hrun : ∀ b, call.run b = attempt b (b.having c <$> x b.grammar)) : call.Owned .havings :=
  owned_of_attempt x (fun bound b => b.having c bound) hrun (owns_having c)

theorem joinOn_eq (b : Builder) (kind : JoinKind) (source : Source) (bound : Except Failure Bound)
    : b.joinOn kind source bound =
      (fun bound => b.addJoin kind source ((Builder.new b.grammar).filter .and bound)) <$> bound :=
  bind_pure_comp _ _

theorem owned_filterGroup (c : Connective) (h : Local (runAll calls))
    : (filterGroup c calls).Owned .wheres := by
  -- The group is put together from the conditions of its builder, and these are the same without
  -- the source.
  apply owned_of_attempt (fun g => (·.only .wheres) <$> (runAll calls (.new g)).toExcept)
    (fun inner b => b.filterGroup c inner) _ (owns_filterGroup c)
  intro b
  have hfailure : (runAll calls b.nested).failure = (runAll calls (.new b.grammar)).failure :=
    h.failure rfl
  have honly := h.only_congr (only_nested b)
  rw [run, bind_pure_comp]
  unfold toExcept
  rw [hfailure]
  cases (runAll calls (.new b.grammar)).failure with
  | some e => rfl
  | none =>
    change ({ builder := b.filterGroup c (runAll calls b.nested).builder } : Outcome)
      = { builder := b.filterGroup c ((runAll calls (.new b.grammar)).builder.only .wheres) }
    rw [← honly, filterGroup_only]

theorem grammar_bind (b : Builder) (k : Bucket) (values : List Value)
    : (b.bind k values).grammar = b.grammar := rfl

/-- The values of the subquery are recorded first, so a failure after that leaves a trace. -/
theorem owned_joinQuery (kind : JoinKind) (query : Subquery) (label : String) (first : Column)
    (operator : String) (second : Column)
    : (joinQuery kind query label first operator second).Owned .joins where
  others {l} b hne := by
    rw [run]
    cases query.build b.grammar with
    | error e => rfl
    | ok found =>
      have hbind := (owns_bindJoin found.2).others b hne
      dsimp only
      rw [joinOn_eq, grammar_bind]
      cases Bound.compareColumns b.grammar first operator second with
      | error e => exact hbind
      | ok bound => exact ((owns_joinOn kind _ bound).others _ hne).trans hbind
  own b := by
    rw [run, run, grammar_only]
    cases query.build b.grammar with
    | error e => exact (only_only .joins b).symm
    | ok found =>
      have hbind := (owns_bindJoin found.2).own b
      dsimp only at hbind ⊢
      rw [joinOn_eq, joinOn_eq, ← hbind, aliasTable_only, grammar_only, grammar_bind]
      cases Bound.compareColumns b.grammar first operator second with
      | error e => exact (only_only .joins _).symm
      | ok bound =>
        apply (only_only .joins _).symm.trans
        exact congrArg (Builder.only .joins) ((owns_joinOn kind _ bound).own (b.bind .join found.2))
  failure {b b'} hg := by
    rw [run, run, hg]
    cases query.build b'.grammar with
    | error e => rfl
    | ok found =>
      dsimp only
      rw [joinOn_eq, joinOn_eq, grammar_bind, grammar_bind, hg]
      cases Bound.compareColumns b'.grammar first operator second <;> rfl

theorem owned_of_family (hf : call.family? = some f)
    (hgroup : ∀ c calls, call = .filterGroup c calls → Local (runAll calls)) : call.Owned f := by
  cases call with
  | filter c column operator operand =>
    cases hf
    exact owned_of_filter c (fun g => Bound.compare g column operator operand)
      fun b => by rw [run]
  | filterEqual c column operand =>
    cases hf
    exact owned_of_step _ (fun b => by rw [run]) (owns_filter c (.equal column operand))
  | filterPairs pairs =>
    cases hf
    exact owned_of_step _ (fun b => by rw [run]) (owns_filterPairs pairs)
  | filterRaw c template values =>
    cases hf
    exact owned_of_step _ (fun b => by rw [run]) (owns_filter c (.raw template values))
  | filterColumns c first operator second =>
    cases hf
    exact owned_of_filter c (fun g => Bound.compareColumns g first operator second)
      fun b => by rw [run]
  | filterAmong c column operands negated =>
    cases hf
    exact owned_of_step _ (fun b => by rw [run]) (owns_filter c (.among column operands negated))
  | filterAmongRows c column query negated =>
    cases hf
    exact owned_of_attempt query.build (fun rows b => b.filter c (.amongRows column rows negated))
      (fun b => by rw [run, bind_pure_comp]) fun rows => owns_filter c _
  | filterNull c column negated =>
    cases hf
    exact owned_of_step _ (fun b => by rw [run])
      (owns_filter c { condition := .isNull column negated })
  | filterBetween c column low high negated =>
    cases hf
    exact owned_of_step _ (fun b => by rw [run]) (owns_filter c (.between column low high negated))
  | filterGroup c calls =>
    cases hf
    exact owned_filterGroup c (hgroup c calls rfl)
  | filterExists c query negated =>
    cases hf
    exact owned_of_attempt query.build (fun rows b => b.filter c (.rowsExist rows negated))
      (fun b => by rw [run, bind_pure_comp]) fun rows => owns_filter c _
  | filterQuery c column operator query =>
    cases hf
    exact owned_of_filter c (fun g => query.build g >>= Bound.compareQuery g column operator)
      fun b => by
        rw [run]
        simp only [map_bind, bind_pure_comp]
  | filterQueryWith c column operator calls =>
    cases hf
    exact owned_of_filter c (fun g => do
        g.checkOperator operator
        let rows ← (runAll calls (.new g)).toExcept
        Bound.compareQuery g column operator rows)
      fun b => by
        rw [run]
        simp only [map_bind, bind_pure_comp]
  | filterDate c part column operator operand =>
    cases hf
    exact owned_of_filter c (fun g => Bound.compareDate g part column operator operand)
      fun b => by rw [run]
  | filterRow c columns operator operands =>
    cases hf
    exact owned_of_filter c (fun g => Bound.compareRow g columns operator operands)
      fun b => by rw [run]
  | filterJson c column document negated =>
    cases hf
    exact owned_of_step _ (fun b => by rw [run])
      (owns_filter c (.jsonContains column document negated))
  | having c column operator operand =>
    cases hf
    exact owned_of_having c (fun g => Bound.compare g column operator operand)
      fun b => by rw [run]
  | havingRaw c template values =>
    cases hf
    exact owned_of_step _ (fun b => by rw [run]) (owns_having c (.raw template values))
  | havingBetween column low high =>
    cases hf
    exact owned_of_step _ (fun b => by rw [run]) (owns_having .and (.between column low high false))
  | join kind t first operator second =>
    cases hf
    exact owned_of_attempt (fun g => Bound.compareColumns g first operator second) _
      (fun b => by rw [run, joinOn_eq]) (owns_joinOn kind (.table t))
  | joinWhere kind t column operator operand =>
    cases hf
    exact owned_of_attempt (fun g => Bound.compare g column operator operand) _
      (fun b => by rw [run, joinOn_eq]) (owns_joinOn kind (.table t))
  | joinWith kind t calls =>
    cases hf
    exact owned_of_attempt (fun g => (runAll calls (.new g)).toExcept)
      (fun inner b => b.addJoin kind (.table t) inner)
      (fun b => by rw [run, bind_pure_comp]) (owns_addJoin kind (.table t))
  | crossJoin t =>
    cases hf
    exact owned_of_step _ (fun b => by rw [run]) (owns_crossJoin (.table t))
  | joinQuery kind query label first operator second =>
    cases hf
    exact owned_joinQuery kind query label first operator second
  | crossJoinQuery query label =>
    cases hf
    exact owned_of_attempt query.build
      (fun found b => (b.bind .join found.2).crossJoin (.fragment (b.aliasTable found.1 label)))
      (fun b => by rw [run, bind_pure_comp])
      fun found => owns_crossJoinQuery found.1 found.2 label
  | select columns =>
    cases hf
    exact owned_of_step _ (fun b => by rw [run]) (owns_select columns)
  | addSelect columns =>
    cases hf
    exact owned_of_step _ (fun b => by rw [run]; rfl) (owns_addSelections (columns.map .column) [])
  | selectRaw template values =>
    cases hf
    exact owned_of_step _ (fun b => by rw [run]; rfl)
      (owns_addSelections [.fragment (Sql.ofTemplate template values)] values)
  | selectQuery query label =>
    cases hf
    exact owned_of_attempt query.build (fun found b => b.selectQuery found.1 found.2 label)
      (fun b => by rw [run, bind_pure_comp]) fun found => owns_selectQuery found.1 found.2 label
  | distinct =>
    cases hf
    exact owned_of_step _ (fun b => by rw [run]) owns_distinct
  | table t =>
    cases hf
    exact owned_of_step _ (fun b => by rw [run]; rfl) (owns_setSource (.table t) [])
  | sourceRaw template values =>
    cases hf
    exact owned_of_step _ (fun b => by rw [run]; rfl)
      (owns_setSource (.fragment (Sql.ofTemplate template values)) values)
  | sourceQuery query label =>
    cases hf
    exact owned_of_attempt query.build (fun found b => b.sourceQuery found.1 found.2 label)
      (fun b => by rw [run, bind_pure_comp]) fun found => owns_sourceQuery found.1 found.2 label
  | groupBy columns =>
    cases hf
    exact owned_of_step _ (fun b => by rw [run]) (owns_groupBy columns)
  | orderBy column direction =>
    cases hf
    exact owned_of_step _ (fun b => by rw [run]) (owns_orderBy column direction)
  | orderByText column direction =>
    cases hf
    exact owned_of_attempt (fun _ => Direction.read direction)
      (fun direction b => b.orderBy column direction) (fun b => by rw [run]) (owns_orderBy column)
  | orderByRaw template values =>
    cases hf
    exact owned_of_step _ (fun b => by rw [run]) (owns_orderByRaw template values)
  | inRandomOrder seed =>
    cases hf
    refine owned_of_attempt (fun g => .ok (g.randomOrder seed))
      (fun template b => b.orderByRaw template []) (fun b => by rw [run]; rfl)
      fun template => owns_orderByRaw template []
  | reorder =>
    cases hf
    exact owned_of_step _ (fun b => by rw [run]) owns_reorder
  | limit n =>
    cases hf
    exact owned_of_step _ (fun b => by rw [run]) (owns_limit n)
  | offset n =>
    cases hf
    exact owned_of_step _ (fun b => by rw [run]) (owns_offset n)
  | forPage page perPage =>
    cases hf
    exact owned_of_step _ (fun b => by rw [run]; rfl) ((owns_offset _).comp (owns_limit _))
  | union all member =>
    cases hf
    exact owned_of_attempt member.build (fun rows b => b.addUnion all rows)
      (fun b => by rw [run, bind_pure_comp]) (owns_addUnion all)
  | lock l =>
    cases hf
    exact owned_of_step _ (fun b => by rw [run]) (owns_lock l)
  | when condition calls => cases hf
  | addBindings bucket values => cases hf
  | setBindings bucket values => cases hf
  | mergeBindings other => cases hf

/-! ### Values by hand -/

theorem local_addBindings (k : Bucket) (values : List Value)
    : Local (addBindings k values).run where
  grammar b := by
    rw [run]
    rfl
  only f b := by
    rw [run, run]
    cases f <;> cases k <;> rfl
  failure _ := by
    rw [run, run]

theorem local_setBindings (k : Bucket) (values : List Value)
    : Local (setBindings k values).run where
  grammar b := by
    rw [run]
  only f b := by
    rw [run, run]
    cases f <;> cases k <;> rfl
  failure _ := by
    rw [run, run]

theorem local_mergeBindings (other : Draft) : Local (mergeBindings other).run where
  grammar b := by
    rw [run]
    cases other.build b.grammar <;> rfl
  only f b := by
    rw [run, run, grammar_only]
    cases other.build b.grammar with
    | error e => exact (only_only f b).symm
    | ok rows => cases f <;> rfl
  failure {b b'} hg := by
    rw [run, run, hg]
    cases other.build b'.grammar <;> rfl

/-! ### Sequences -/

theorem Local.cons (h : Local call.run) (hcalls : Local (runAll calls))
    : Local (runAll (call :: calls)) where
  grammar b := by
    cases hrun : (call.run b).failure with
    | none => rw [runAll_cons_of_ok hrun, hcalls.grammar, h.grammar]
    | some e => rw [runAll_cons_of_failure hrun, h.grammar]
  only f b := by
    have hfailure : (call.run b).failure = (call.run (b.only f)).failure :=
      h.failure (grammar_only f b).symm
    cases hrun : (call.run b).failure with
    | none =>
      rw [runAll_cons_of_ok hrun, runAll_cons_of_ok (hfailure ▸ hrun)]
      exact hcalls.only_congr (h.only f b)
    | some e =>
      rw [runAll_cons_of_failure hrun, runAll_cons_of_failure (hfailure ▸ hrun)]
      exact h.only f b
  failure {b b'} hg := by
    have hfailure := h.failure hg
    cases hrun : (call.run b).failure with
    | none =>
      rw [runAll_cons_of_ok hrun, runAll_cons_of_ok (hfailure ▸ hrun)]
      apply hcalls.failure
      rw [h.grammar, h.grammar, hg]
    | some e =>
      rw [runAll_cons_of_failure hrun, runAll_cons_of_failure (hfailure ▸ hrun)]
      exact hfailure

theorem local_done : Local fun b => { builder := b } where
  grammar _ := rfl
  only f b := (only_only f b).symm
  failure _ := rfl

mutual
theorem local_run (call : Call) : Local call.run := by
  cases call with
  | filterGroup c calls => exact (owned_filterGroup c (local_runAll calls)).local_run
  | when condition calls =>
    have hcalls := local_runAll calls
    have hrun : run (.when condition calls)
        = fun b => if condition then runAll calls b else { builder := b } := by
      funext b
      rw [run]
    rw [hrun]
    cases condition with
    | true => exact hcalls
    | false => exact local_done
  | addBindings k values => exact local_addBindings k values
  | setBindings k values => exact local_setBindings k values
  | mergeBindings other => exact local_mergeBindings other
  | _ =>
    apply (owned_of_family rfl _).local_run
    intro _ _ h
    cases h

theorem local_runAll (calls : List Call) : Local (runAll calls) := by
  cases calls with
  | nil =>
    have hrun : runAll [] = fun b => { builder := b } := by
      funext b
      rw [runAll]
    rw [hrun]
    exact local_done
  | cons call calls => exact (local_run call).cons (local_runAll calls)
end

theorem owned_run (hf : call.family? = some f) : call.Owned f :=
  owned_of_family hf fun _ calls _ => local_runAll calls

/-! ### Aggregates -/

theorem aggregate_of_family (hf : call.family? = some f) (b : Builder)
    : (call.run b).builder.query.aggregate = b.query.aggregate :=
  (shell_eq_iff.mp ((owned_run hf).shell_run b)).2

mutual
/-- No call asks for an aggregate. -/
theorem aggregate_run (call : Call) (b : Builder)
    : (call.run b).builder.query.aggregate = b.query.aggregate := by
  cases call with
  | when condition calls =>
    rw [run]
    split
    . exact aggregate_runAll calls b
    . rfl
  | addBindings bucket values => rw [run, Builder.bind]
  | setBindings bucket values => rw [run]
  | mergeBindings other =>
    rw [run]
    cases other.build b.grammar <;> rfl
  | _ => exact aggregate_of_family rfl b

theorem aggregate_runAll (calls : List Call) (b : Builder)
    : (runAll calls b).builder.query.aggregate = b.query.aggregate := by
  cases calls with
  | nil => rw [runAll]
  | cons call calls =>
    cases hcall : (call.run b).failure with
    | none => rw [runAll_cons_of_ok hcall, aggregate_runAll calls, aggregate_run call]
    | some e => rw [runAll_cons_of_failure hcall, aggregate_run call]
end

end Call

end SqlForge
