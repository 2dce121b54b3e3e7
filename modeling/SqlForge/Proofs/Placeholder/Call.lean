import SqlForge.Proofs.Builder.Outcome
import SqlForge.Proofs.Placeholder.Step

/-!
Calls whose templates have a question mark for each of their values, and whose names have none, keep
the builder in line with its placeholders. So do the builders that they make on the way.
-/

namespace SqlForge

open Text

mutual
/--
The templates of the call fit their values, names and SQL without values have no question mark, no
source is replaced that came with values, and no values are recorded by hand. The same goes for the
calls that make conditions, subqueries and members.
-/
def Call.Fits : Call → Builder → Prop
  | .filter _ column _ operand, _ => column.Unmarked ∧ operand.Unmarked
  | .filterEqual _ column operand, _ => column.Unmarked ∧ operand.Unmarked
  | .filterPairs pairs, _ => ∀ pair ∈ pairs, pair.1.Unmarked ∧ pair.2.Unmarked
  | .filterRaw _ template values, _ => Sql.Fits template values
  | .filterColumns _ first _ second, _ => first.Unmarked ∧ second.Unmarked
  | .filterAmong _ column operands _, _ =>
    column.Unmarked ∧ ∀ operand ∈ operands, operand.Unmarked
  | .filterAmongRows _ column query _, b => column.Unmarked ∧ query.Fits b.grammar
  | .filterNull _ column _, _ => column.Unmarked
  | .filterBetween _ column low high _, _ => column.Unmarked ∧ low.Unmarked ∧ high.Unmarked
  | .filterGroup _ calls, b => Call.AllFit calls b.nested
  | .filterExists _ query _, b => query.Fits b.grammar
  | .filterQuery _ column _ query, b => column.Unmarked ∧ query.Fits b.grammar
  | .filterQueryWith _ column _ calls, b =>
    column.Unmarked ∧ Call.AllFit calls (.new b.grammar)
  | .filterDate _ _ column _ operand, _ => column.Unmarked ∧ operand.Unmarked
  | .filterRow _ columns _ operands, _ =>
    (∀ column ∈ columns, column.Unmarked) ∧ ∀ operand ∈ operands, operand.Unmarked
  | .filterJson _ column _ _, _ => column.Unmarked
  | .having _ column _ operand, _ => column.Unmarked ∧ operand.Unmarked
  | .havingRaw _ template values, _ => Sql.Fits template values
  | .havingBetween column low high, _ => column.Unmarked ∧ low.Unmarked ∧ high.Unmarked
  | .join _ table first _ second, _ => table.Unmarked ∧ first.Unmarked ∧ second.Unmarked
  | .joinWhere _ table column _ operand, _ =>
    table.Unmarked ∧ column.Unmarked ∧ operand.Unmarked
  | .joinWith _ table calls, b => table.Unmarked ∧ Call.AllFit calls (.new b.grammar)
  | .crossJoin table, _ => table.Unmarked
  | .joinQuery _ query label first _ second, b =>
    query.Fits b.grammar ∧ Unmarked label ∧ first.Unmarked ∧ second.Unmarked
  | .crossJoinQuery query label, b => query.Fits b.grammar ∧ Unmarked label
  | .select columns, _ => ∀ column ∈ columns, column.Unmarked
  | .addSelect columns, _ => ∀ column ∈ columns, column.Unmarked
  | .selectRaw template values, _ => Sql.Fits template values
  | .selectQuery query label, b => query.Fits b.grammar ∧ Unmarked label
  | .distinct, _ => True
  | .table t, b => t.Unmarked ∧ b.query.sourceSlots = []
  | .sourceRaw template values, b => Sql.Fits template values ∧ b.query.sourceSlots = []
  | .sourceQuery query label, b =>
    query.Fits b.grammar ∧ Unmarked label ∧ b.query.sourceSlots = []
  | .groupBy columns, _ => ∀ column ∈ columns, column.Unmarked
  | .orderBy column _, _ => column.Unmarked
  | .orderByText column _, _ => column.Unmarked
  | .orderByRaw template values, _ => Sql.Fits template values
  | .inRandomOrder _, _ => True
  | .reorder, _ => True
  | .limit _, _ => True
  | .offset _, _ => True
  | .forPage _ _, _ => True
  | .union _ member, b => member.Fits b.grammar
  | .lock l, _ => l.Unmarked
  | .when condition calls, b => condition = true → Call.AllFit calls b
  | .addBindings _ _, _ => False
  | .setBindings _ _, _ => False
  | .mergeBindings _, _ => False

/-- Each call fits the builder that the calls before it leave. -/
def Call.AllFit : List Call → Builder → Prop
  | [], _ => True
  | call :: calls, b => call.Fits b ∧ Call.AllFit calls (call.run b).builder

def Draft.Fits : Draft → Grammar → Prop
  | { grammar, calls }, g =>
    (grammar.getD g).Unmarked ∧ Call.AllFit calls (.new (grammar.getD g))

def Subquery.Fits : Subquery → Grammar → Prop
  | .text sql, _ => Unmarked sql
  | .draft query, g => query.Fits g
end

namespace Outcome

theorem keeps_attempt {b : Builder} {x : Except Failure Builder}
    (h : ∀ b', x = .ok b' → Builder.Keeps b b') : Builder.Keeps b (attempt b x).builder := by
  cases x with
  -- A step that fails changes nothing.
  | error e => exact Builder.Keeps.refl b
  | ok b' => exact h b' rfl

end Outcome

open Builder Outcome

section
variable {b : Builder}

theorem keeps_attempt_filter (c : Connective) {x : Except Failure Bound}
    (h : ∀ bound, x = .ok bound → bound.Filled)
    : Keeps b (attempt b (b.filter c <$> x)).builder := by
  apply keeps_attempt
  intro b' hb'
  obtain ⟨bound, hbound, hb'⟩ := map_eq_ok.mp hb'
  rw [← hb']
  exact keeps_filter c (h bound hbound)

theorem keeps_attempt_having (c : Connective) {x : Except Failure Bound}
    (h : ∀ bound, x = .ok bound → bound.Filled)
    : Keeps b (attempt b (b.having c <$> x)).builder := by
  apply keeps_attempt
  intro b' hb'
  obtain ⟨bound, hbound, hb'⟩ := map_eq_ok.mp hb'
  rw [← hb']
  exact keeps_having c (h bound hbound)

theorem keeps_attempt_joinOn (kind : JoinKind) {t : Table} {x : Except Failure Bound} (hb : b.Sound)
    (ht : t.Unmarked) (h : ∀ bound, x = .ok bound → bound.Filled)
    : Keeps b (attempt b (b.joinOn kind (.table t) x)).builder := by
  have hfilled : (Source.table t).Filled := ht
  have hslots : (Source.table t).slots = [] := rfl
  apply keeps_attempt
  intro b' hb'
  rw [← bind_nil b .join] at hb'
  exact keeps_joinOn kind hb hfilled hslots h hb'

end

mutual

/-- A call that fits and succeeds keeps every bucket in line with its clause. -/
theorem Call.keeps_run (call : Call) {b : Builder} (hb : b.Sound) (h : call.Fits b)
    (hok : (call.run b).failure = none) : Keeps b (call.run b).builder := by
  cases call with
  | filter c column operator operand =>
    rw [Call.Fits] at h
    rw [Call.run]
    apply keeps_attempt_filter
    intro bound hbound
    exact Bound.filled_compare h.1 h.2 hbound
  | filterEqual c column operand =>
    rw [Call.Fits] at h
    rw [Call.run]
    exact keeps_filter c (Bound.filled_equal h.1 h.2)
  | filterPairs pairs =>
    rw [Call.Fits] at h
    rw [Call.run]
    exact keeps_filterPairs hb h
  | filterRaw c template values =>
    rw [Call.Fits] at h
    rw [Call.run]
    exact keeps_filter c (Bound.filled_raw h)
  | filterColumns c first operator second =>
    rw [Call.Fits] at h
    rw [Call.run]
    apply keeps_attempt_filter
    intro bound hbound
    exact Bound.filled_compareColumns h.1 h.2 hbound
  | filterAmong c column operands negated =>
    rw [Call.Fits] at h
    rw [Call.run]
    exact keeps_filter c (Bound.filled_among negated h.1 h.2)
  | filterAmongRows c column query negated =>
    rw [Call.Fits] at h
    rw [Call.run]
    apply keeps_attempt
    intro b' hb'
    obtain ⟨rows, hrows, hb'⟩ := bind_eq_ok.mp hb'
    have hrows' := Draft.complete_build query h.2 hrows
    rw [← pure_eq_ok.mp hb']
    exact keeps_filter c (Bound.filled_amongRows hrows' negated h.1)
  | filterNull c column negated =>
    rw [Call.Fits] at h
    rw [Call.run]
    exact keeps_filter c (Bound.filled_isNull negated h)
  | filterBetween c column low high negated =>
    rw [Call.Fits] at h
    rw [Call.run]
    exact keeps_filter c (Bound.filled_between negated h.1 h.2.1 h.2.2)
  | filterGroup c calls =>
    rw [Call.Fits] at h
    rw [Call.run]
    apply keeps_attempt
    intro b' hb'
    obtain ⟨inner, hinner, hb'⟩ := bind_eq_ok.mp hb'
    obtain ⟨hnone, hinner⟩ := toExcept_eq_ok.mp hinner
    rw [← pure_eq_ok.mp hb', ← hinner]
    -- The builder of the group lacks the values of the source, but only its conditions are used.
    exact keeps_filterGroup_nested c hb (Call.keeps_runAll calls (sound_nested hb) h hnone)
  | filterExists c query negated =>
    rw [Call.Fits] at h
    rw [Call.run]
    apply keeps_attempt
    intro b' hb'
    obtain ⟨rows, hrows, hb'⟩ := bind_eq_ok.mp hb'
    have hrows' := Draft.complete_build query h hrows
    rw [← pure_eq_ok.mp hb']
    exact keeps_filter c (Bound.filled_rowsExist hrows' negated)
  | filterQuery c column operator query =>
    rw [Call.Fits] at h
    rw [Call.run]
    apply keeps_attempt
    intro b' hb'
    obtain ⟨rows, hrows, hb'⟩ := bind_eq_ok.mp hb'
    obtain ⟨bound, hbound, hb'⟩ := bind_eq_ok.mp hb'
    have hrows' := Draft.complete_build query h.2 hrows
    rw [← pure_eq_ok.mp hb']
    exact keeps_filter c (Bound.filled_compareQuery hrows' h.1 hbound)
  | filterQueryWith c column operator calls =>
    rw [Call.Fits] at h
    rw [Call.run]
    apply keeps_attempt
    intro b' hb'
    obtain ⟨_, _, hb'⟩ := bind_eq_ok.mp hb'
    obtain ⟨rows, hrows, hb'⟩ := bind_eq_ok.mp hb'
    obtain ⟨bound, hbound, hb'⟩ := bind_eq_ok.mp hb'
    obtain ⟨hnone, hrows⟩ := toExcept_eq_ok.mp hrows
    have hrows' := (complete_new hb.grammar).keep
      (Call.keeps_runAll calls (sound_new hb.grammar) h.2 hnone)
    rw [hrows] at hrows'
    rw [← pure_eq_ok.mp hb']
    exact keeps_filter c (Bound.filled_compareQuery hrows' h.1 hbound)
  | filterDate c part column operator operand =>
    rw [Call.Fits] at h
    rw [Call.run]
    apply keeps_attempt_filter
    intro bound hbound
    exact Bound.filled_compareDate h.1 h.2 hbound
  | filterRow c columns operator operands =>
    rw [Call.Fits] at h
    rw [Call.run]
    apply keeps_attempt_filter
    intro bound hbound
    exact Bound.filled_compareRow h.1 h.2 hbound
  | filterJson c column document negated =>
    rw [Call.Fits] at h
    rw [Call.run]
    exact keeps_filter c (Bound.filled_jsonContains document negated h)
  | having c column operator operand =>
    rw [Call.Fits] at h
    rw [Call.run]
    apply keeps_attempt_having
    intro bound hbound
    exact Bound.filled_compare h.1 h.2 hbound
  | havingRaw c template values =>
    rw [Call.Fits] at h
    rw [Call.run]
    exact keeps_having c (Bound.filled_raw h)
  | havingBetween column low high =>
    rw [Call.Fits] at h
    rw [Call.run]
    exact keeps_having .and (Bound.filled_between false h.1 h.2.1 h.2.2)
  | join kind t first operator second =>
    rw [Call.Fits] at h
    rw [Call.run]
    apply keeps_attempt_joinOn kind hb h.1
    intro bound hbound
    exact Bound.filled_compareColumns h.2.1 h.2.2 hbound
  | joinWhere kind t column operator operand =>
    rw [Call.Fits] at h
    rw [Call.run]
    apply keeps_attempt_joinOn kind hb h.1
    intro bound hbound
    exact Bound.filled_compare h.2.1 h.2.2 hbound
  | joinWith kind t calls =>
    rw [Call.Fits] at h
    rw [Call.run]
    apply keeps_attempt
    intro b' hb'
    obtain ⟨inner, hinner, hb'⟩ := bind_eq_ok.mp hb'
    obtain ⟨hnone, hinner⟩ := toExcept_eq_ok.mp hinner
    have hkeeps := Call.keeps_runAll calls (sound_new hb.grammar) h.2 hnone
    rw [← pure_eq_ok.mp hb', ← hinner]
    exact keeps_addJoin_table kind h.1 ((complete_new hb.grammar).keep hkeeps)
  | crossJoin t =>
    rw [Call.Fits] at h
    rw [Call.run]
    exact keeps_addJoin_table .cross h (complete_new hb.grammar)
  | joinQuery kind query label first operator second =>
    rw [Call.Fits] at h
    rw [Call.run] at hok ⊢
    split at hok
    . cases hok
    . next sql values hquery =>
      -- The values are recorded before the operator is looked at, so this is no single step.
      have hsql := emits_aliasTable hb (Subquery.emits_build query h.1 hquery) h.2.1
      have hfilled : (Source.fragment (b.aliasTable sql label)).Filled := hsql.filled
      apply keeps_joinOn kind hb hfilled hsql.values_eq _ (failure_attempt_eq_none.mp hok)
      intro bound hbound
      exact Bound.filled_compareColumns h.2.2.1 h.2.2.2 hbound
  | crossJoinQuery query label =>
    rw [Call.Fits] at h
    rw [Call.run]
    apply keeps_attempt
    intro b' hb'
    obtain ⟨⟨sql, values⟩, hquery, hb'⟩ := bind_eq_ok.mp hb'
    have hsql := emits_aliasTable hb (Subquery.emits_build query h.1 hquery) h.2
    have hfilled : (Source.fragment (b.aliasTable sql label)).Filled := hsql.filled
    rw [← pure_eq_ok.mp hb']
    exact keeps_crossJoin hb hfilled hsql.values_eq
  | select columns =>
    rw [Call.Fits] at h
    rw [Call.run]
    exact keeps_select h
  | addSelect columns =>
    rw [Call.Fits] at h
    rw [Call.run]
    exact keeps_addSelect h
  | selectRaw template values =>
    rw [Call.Fits] at h
    rw [Call.run]
    exact keeps_addFragment (Sql.emits_ofTemplate h)
  | selectQuery query label =>
    rw [Call.Fits] at h
    rw [Call.run]
    apply keeps_attempt
    intro b' hb'
    obtain ⟨⟨sql, values⟩, hquery, hb'⟩ := bind_eq_ok.mp hb'
    rw [← pure_eq_ok.mp hb']
    exact keeps_addFragment (emits_aliasColumn hb (Subquery.emits_build query h.1 hquery) h.2)
  | distinct =>
    rw [Call.run]
    exact keeps_distinct
  | table t =>
    rw [Call.Fits] at h
    rw [Call.run]
    have hfilled : (Source.table t).Filled := h.1
    exact keeps_setSource hfilled rfl h.2
  | sourceRaw template values =>
    rw [Call.Fits] at h
    rw [Call.run]
    exact keeps_fragmentSource (Sql.emits_ofTemplate h.1) h.2
  | sourceQuery query label =>
    rw [Call.Fits] at h
    rw [Call.run]
    apply keeps_attempt
    intro b' hb'
    obtain ⟨⟨sql, values⟩, hquery, hb'⟩ := bind_eq_ok.mp hb'
    have hsql := emits_aliasTable hb (Subquery.emits_build query h.1 hquery) h.2.1
    rw [← pure_eq_ok.mp hb']
    exact keeps_fragmentSource hsql h.2.2
  | groupBy columns =>
    rw [Call.Fits] at h
    rw [Call.run]
    exact keeps_groupBy h
  | orderBy column direction =>
    rw [Call.Fits] at h
    rw [Call.run]
    exact keeps_orderBy direction h
  | orderByText column direction =>
    rw [Call.Fits] at h
    rw [Call.run]
    apply keeps_attempt
    intro b' hb'
    obtain ⟨direction, _, hb'⟩ := map_eq_ok.mp hb'
    rw [← hb']
    exact keeps_orderBy direction h
  | orderByRaw template values =>
    rw [Call.Fits] at h
    rw [Call.run]
    exact keeps_orderByRaw h
  | inRandomOrder seed =>
    rw [Call.run]
    exact keeps_inRandomOrder seed
  | reorder =>
    rw [Call.run]
    exact keeps_reorder
  | limit n =>
    rw [Call.run]
    exact keeps_limit n
  | offset n =>
    rw [Call.run]
    exact keeps_offset n
  | forPage page perPage =>
    rw [Call.run]
    exact keeps_forPage page perPage
  | union all member =>
    rw [Call.Fits] at h
    rw [Call.run]
    apply keeps_attempt
    intro b' hb'
    obtain ⟨rows, hrows, hb'⟩ := bind_eq_ok.mp hb'
    have hrows' := Draft.complete_build member h hrows
    rw [← pure_eq_ok.mp hb']
    exact keeps_addUnion all hrows'
  | lock l =>
    rw [Call.Fits] at h
    rw [Call.run]
    exact keeps_lock h
  | when condition calls =>
    rw [Call.Fits] at h
    rw [Call.run] at hok ⊢
    split
    . next hcondition =>
      rw [if_pos hcondition] at hok
      exact Call.keeps_runAll calls hb (h hcondition) hok
    . exact Keeps.refl b
  | addBindings bucket values =>
    rw [Call.Fits] at h
    contradiction
  | setBindings bucket values =>
    rw [Call.Fits] at h
    contradiction
  | mergeBindings other =>
    rw [Call.Fits] at h
    contradiction

theorem Call.keeps_runAll (calls : List Call) {b : Builder} (hb : b.Sound) (h : Call.AllFit calls b)
    (hok : (Call.runAll calls b).failure = none) : Keeps b (Call.runAll calls b).builder := by
  cases calls with
  | nil =>
    rw [Call.runAll]
    exact Keeps.refl b
  | cons call calls =>
    rw [Call.AllFit] at h
    rw [Call.runAll] at hok ⊢
    split at hok
    . next hcall =>
      have hfirst := Call.keeps_run call hb h.1 hcall
      exact hfirst.trans (Call.keeps_runAll calls (hfirst.sound hb) h.2 hok)
    . next e hcall =>
      rw [hcall] at hok
      contradiction

theorem Draft.complete_build (draft : Draft) {g : Grammar} {b : Builder} (h : draft.Fits g)
    (hok : draft.build g = .ok b) : b.Complete := by
  cases draft with
  | mk grammar calls =>
    rw [Draft.Fits] at h
    rw [Draft.build] at hok
    obtain ⟨hnone, hb⟩ := toExcept_eq_ok.mp hok
    rw [← hb]
    exact (complete_new h.1).keep (Call.keeps_runAll calls (sound_new h.1) h.2 hnone)

theorem Subquery.emits_build (query : Subquery) {g : Grammar} {sql : Sql} {values : List Value}
    (h : query.Fits g) (hok : query.build g = .ok (sql, values)) : sql.Emits values := by
  cases query with
  | text text =>
    rw [Subquery.Fits] at h
    obtain ⟨-, hfound⟩ := Subquery.build_text_eq_ok.mp hok
    cases hfound
    exact Sql.emits_text h
  | draft query =>
    rw [Subquery.Fits] at h
    obtain ⟨b, sql', hb, hsql, hfound⟩ := Subquery.build_draft_eq_ok.mp hok
    have hemits := emits_sql (Draft.complete_build query h hb) hsql
    cases hfound
    exact hemits

end

end SqlForge
