import SqlForge.Proofs.Builder.Bound
import SqlForge.Proofs.Fragment.Step

/-!
The raw SQL that calls come with stands in the statement of the builder that they are made on.
-/

namespace SqlForge

/-- The fragments of the statement that the draft makes, if it makes one. -/
def Draft.fragments (query : Draft) (g : Grammar) : List Fragment :=
  match query.build g with
  | .ok b => b.query.fragments
  | .error _ => []

/-- A subquery that is spliced in is written at once, in the dialect of its own grammar. -/
def Subquery.fragments (g : Grammar) : Subquery → List Fragment
  | .text sql => [.plain sql]
  | .draft query =>
    match query.build g with
    | .ok b => b.query.fragments.map fun f => .plain (f.written b.grammar.dialect)
    | .error _ => []

/--
The fragments that come with a call. Of a builder that the call makes, they are those of the clauses
that are taken over. A sequence of calls has none of its own.
-/
def Call.fragments : Call → Builder → List Fragment
  | .filter _ column _ operand, _ => column.fragments ++ operand.fragments
  | .filterEqual _ column operand, _ => column.fragments ++ operand.fragments
  | .filterPairs pairs, _ => pairs.flatMap fun pair => pair.1.fragments ++ pair.2.fragments
  | .filterRaw _ template _, _ => [.plain template]
  | .filterColumns _ first _ second, _ => first.fragments ++ second.fragments
  | .filterAmong _ _ [] _, _ => []
  | .filterAmong _ column operands _, _ =>
    column.fragments ++ operands.flatMap Operand.fragments
  | .filterAmongRows _ column query _, b => column.fragments ++ query.fragments b.grammar
  | .filterNull _ column _, _ => column.fragments
  | .filterBetween _ column low high _, _ => column.fragments ++ low.fragments ++ high.fragments
  | .filterGroup _ calls, b => (Call.runAll calls b.nested).builder.query.fragmentsOf .wheres
  | .filterExists _ query _, b => query.fragments b.grammar
  | .filterQuery _ column _ query, b => column.fragments ++ query.fragments b.grammar
  | .filterQueryWith _ column _ calls, b =>
    column.fragments ++ (Call.runAll calls (.new b.grammar)).builder.query.fragments
  | .filterDate _ _ column _ operand, _ => column.fragments ++ operand.fragments
  | .filterRow _ columns _ operands, _ =>
    columns.flatMap Column.fragments ++ operands.flatMap Operand.fragments
  | .filterJson _ column _ _, _ => column.containedFragments
  | .having _ column _ operand, _ => column.fragments ++ operand.fragments
  | .havingRaw _ template _, _ => [.plain template]
  | .havingBetween column low high, _ => column.fragments ++ low.fragments ++ high.fragments
  | .join _ t first _ second, _ => t.fragments ++ first.fragments ++ second.fragments
  | .joinWhere _ t column _ operand, _ => t.fragments ++ column.fragments ++ operand.fragments
  | .joinWith _ t calls, b =>
    let inner := (Call.runAll calls (.new b.grammar)).builder.query
    t.fragments ++ inner.fragmentsOf .joins ++ inner.fragmentsOf .wheres
  | .crossJoin t, _ => t.fragments
  | .joinQuery _ query _ first _ second, b =>
    query.fragments b.grammar ++ first.fragments ++ second.fragments
  | .crossJoinQuery query _, b => query.fragments b.grammar
  | .select columns, _ => columns.flatMap Column.fragments
  | .addSelect columns, _ => columns.flatMap Column.fragments
  | .selectRaw template _, _ => [.plain template]
  | .selectQuery query _, b => query.fragments b.grammar
  | .table t, _ => t.fragments
  | .sourceRaw template _, _ => [.plain template]
  | .sourceQuery query _, b => query.fragments b.grammar
  | .groupBy columns, _ => columns.flatMap Column.fragments
  | .orderBy column _, _ => column.fragments
  | .orderByText column _, _ => column.fragments
  | .orderByRaw template _, _ => [.plain template]
  | .union _ member, b => member.fragments b.grammar
  | .distinct, _ | .inRandomOrder _, _ | .reorder, _ | .limit _, _ | .offset _, _ | .forPage _ _, _
  | .lock _, _ | .when _ _, _ | .addBindings _ _, _ | .setBindings _ _, _ | .mergeBindings _, _ =>
    []

/-! ### Conditions -/

theorem Operand.fragments_of_isNull {operand : Operand} (h : operand.isNull)
    : operand.fragments = [] := by
  cases operand with
  | value v => rfl
  | raw sql => cases h

namespace Bound

variable {g : Grammar} {bound : Bound} {column : Column} {operand : Operand} {operator : String}

theorem fragments_equal (column : Column) (operand : Operand)
    : (equal column operand).condition.fragments = column.fragments ++ operand.fragments := by
  unfold equal
  split
  . next hnull => rw [Condition.fragments, Operand.fragments_of_isNull hnull, List.append_nil]
  . rw [Condition.fragments]

theorem fragments_compare (h : compare g column operator operand = .ok bound)
    : bound.condition.fragments = column.fragments ++ operand.fragments := by
  obtain ⟨_, ⟨hnull, negated, rfl⟩ | ⟨_, rfl⟩⟩ := compare_cases h
  . rw [Operand.fragments_of_isNull hnull, List.append_nil, Condition.fragments]
  . rw [Condition.fragments]

theorem fragments_compareDate {part : DatePart}
    (h : compareDate g part column operator operand = .ok bound)
    : bound.condition.fragments = column.fragments ++ operand.fragments := by
  obtain ⟨_, _, rfl⟩ := compareDate_eq_ok.mp h
  rw [Condition.fragments]

theorem fragments_compareRow {columns : List Column} {operands : List Operand}
    (h : compareRow g columns operator operands = .ok bound)
    : bound.condition.fragments
        = columns.flatMap Column.fragments ++ operands.flatMap Operand.fragments := by
  obtain ⟨_, _, rfl⟩ := compareRow_eq_ok.mp h
  rw [Condition.fragments]

theorem fragments_compareColumns {first second : Column}
    (h : compareColumns g first operator second = .ok bound)
    : bound.condition.fragments = first.fragments ++ second.fragments := by
  obtain ⟨_, rfl⟩ := compareColumns_eq_ok.mp h
  rw [Condition.fragments]

theorem fragments_compareQuery {query : Builder}
    (h : compareQuery g column operator query = .ok bound)
    : bound.condition.fragments = column.fragments ++ query.query.fragments := by
  obtain ⟨_, rfl⟩ := compareQuery_eq_ok.mp h
  rw [Condition.fragments]

theorem fragments_raw (template : String) (values : List Value)
    : (raw template values).condition.fragments = [.plain template] := by
  rw [raw, Condition.fragments, Sql.text_ofTemplate]

end Bound

/-! ### What a builder holds -/

/-- Each fragment stands in one of the clauses of the family, in whatever dialect they are written. -/
def Builder.Holds (b : Builder) (f : Family) (fragments : List Fragment) : Prop :=
  ∀ fragment ∈ fragments, ∀ d, ∃ held ∈ b.query.fragmentsOf f,
    Occurs (fragment.written d) (held.written d)

/-- Unless it has failed. -/
def Outcome.Holds (o : Outcome) (f : Family) (fragments : List Fragment) : Prop :=
  o.failure = none → o.builder.Holds f fragments

namespace Builder

variable {b : Builder} {f : Family} {fragments more : List Fragment}

theorem holds_of_subset (h : fragments ⊆ b.query.fragmentsOf f) : b.Holds f fragments := by
  intro fragment hmem d
  exact ⟨fragment, h hmem, Occurs.refl _⟩

theorem holds_nil (b : Builder) (f : Family) : b.Holds f [] :=
  holds_of_subset (List.nil_subset _)

theorem Holds.append (h : b.Holds f fragments) (h' : b.Holds f more)
    : b.Holds f (fragments ++ more) :=
  List.forall_mem_append.mpr ⟨h, h'⟩

end Builder

/-! ### Subqueries that are spliced in -/

theorem occurs_alias (s rest : String) : Occurs s ("(" ++ s ++ ") AS " ++ rest) := by
  refine ⟨"(", ") AS " ++ rest, ?_, by decide, closes_append_of_ne (by decide) (by decide) rest⟩
  rw [String.append_assoc]

theorem Subquery.occurs_of_build {query : Subquery} {g : Grammar} {found : Sql × List Value}
    (h : query.build g = .ok found) {f : Fragment} (hf : f ∈ query.fragments g) (d : Dialect)
    : Occurs (f.written d) found.1.text := by
  cases query with
  | text sql =>
    obtain ⟨-, rfl⟩ := Subquery.build_text_eq_ok.mp h
    cases List.mem_singleton.mp hf
    rw [Sql.text_coe]
    exact Occurs.refl sql
  | draft query =>
    obtain ⟨b, sql, hb, hsql, rfl⟩ := Subquery.build_draft_eq_ok.mp h
    rw [Subquery.fragments, hb] at hf
    obtain ⟨inner, hinner, rfl⟩ := List.mem_map.mp hf
    exact (Select.weaves_render b.query hsql).occurs (List.mem_map_of_mem hinner)

theorem Builder.holds_alias {b : Builder} {query : Subquery} {g : Grammar}
    {found : Sql × List Value} (h : query.build g = .ok found) {label : String}
    {f : Family}
    (hmem : .plain ("(" ++ found.1 ++ ") AS " ++ label : Sql).text ∈ b.query.fragmentsOf f)
    : b.Holds f (query.fragments g) := by
  intro fragment hfragment d
  refine ⟨_, hmem, ?_⟩
  simp only [Fragment.written, Sql.text_append, Sql.text_coe]
  exact (Subquery.occurs_of_build h hfragment d).trans (occurs_alias _ label)

/-! ### Calls -/

namespace Outcome

variable {b : Builder} {f : Family} {fragments more : List Fragment} {α : Type}
  {x : Except Failure α}

theorem holds_attempt_bind {k : α → Except Failure Builder}
    (h : ∀ a, x = .ok a → (attempt b (k a)).Holds f fragments)
    : (attempt b (x >>= k)).Holds f fragments := by
  cases x with
  | error e =>
    intro hok
    cases hok
  | ok a => exact h a rfl

theorem holds_attempt_map {step : α → Builder} (h : ∀ a, x = .ok a → (step a).Holds f fragments)
    : (attempt b (step <$> x)).Holds f fragments := by
  cases x with
  | error e =>
    intro hok
    cases hok
  | ok a => exact fun _ => h a rfl

theorem holds_attempt_joinOn {x : Except Failure Bound} {source : Source} (kind : JoinKind)
    (hsource : ∀ b' : Builder, source.fragments ⊆ b'.query.fragmentsOf .joins →
      b'.Holds .joins fragments)
    (hx : ∀ bound, x = .ok bound → bound.condition.fragments = more)
    : (attempt b (b.joinOn kind source x)).Holds .joins (fragments ++ more) := by
  apply holds_attempt_bind
  intro bound hbound _
  have hinner := Builder.subset_filter (.new b.grammar) .and bound
  have hsubset := Builder.subset_addJoin b kind source ((Builder.new b.grammar).filter .and bound)
  rw [hx bound hbound] at hinner
  apply Builder.Holds.append
  . apply hsource
    exact fun f hf => hsubset (List.mem_append_left _ (List.mem_append_left _ hf))
  . apply Builder.holds_of_subset
    exact fun f hf => hsubset (List.mem_append_right _ (hinner hf))

end Outcome

namespace Call

open Builder Outcome

-- The equations of the fragments, like those of the calls, are made once.
attribute [local simp] fragments

variable {b : Builder} {call : Call} {f : Family}

theorem fragmentsOf_equalities (pairs : List (Column × Operand)) (b : Builder)
    : (pairs.foldl (fun inner (column, operand) => inner.filter .and (.equal column operand))
          b).query.fragmentsOf .wheres
        = b.query.fragmentsOf .wheres ++
          pairs.flatMap fun pair => pair.1.fragments ++ pair.2.fragments := by
  induction pairs generalizing b with
  | nil => simp
  | cons pair pairs ih =>
    rw [List.foldl_cons, ih, List.flatMap_cons]
    simp [Builder.filter, Select.fragmentsOf, clauseFragments_append, clauseFragments,
      Bound.fragments_equal]

theorem holds_filterGroup (b : Builder) (c : Connective) (inner : Builder)
    : (b.filterGroup c inner).Holds .wheres (inner.query.fragmentsOf .wheres) := by
  unfold Builder.filterGroup
  split
  . next hempty =>
    rw [Select.fragmentsOf, List.isEmpty_iff.mp hempty, clauseFragments]
    exact holds_nil b .wheres
  . have hsubset := subset_filter b c
      { condition := .group inner.query.wheres, values := inner.bindings.filter }
    rw [Condition.fragments] at hsubset
    exact holds_of_subset hsubset

theorem holds_filter (c : Connective) {bound : Bound} {fragments : List Fragment}
    (h : bound.condition.fragments = fragments)
    : (b.filter c bound).Holds .wheres fragments := by
  rw [← h]
  exact holds_of_subset (subset_filter _ c bound)

theorem holds_having (c : Connective) {bound : Bound} {fragments : List Fragment}
    (h : bound.condition.fragments = fragments)
    : (b.having c bound).Holds .havings fragments := by
  rw [← h]
  exact holds_of_subset (subset_having _ c bound)

theorem holds_run_filter (hf : call.family? = some .wheres)
    : (call.run b).Holds .wheres (call.fragments b) := by
  cases call with
  | filter c column operator operand =>
    rw [run]
    exact holds_attempt_map fun _ hbound => holds_filter c (Bound.fragments_compare hbound)
  | filterEqual c column operand =>
    rw [run]
    exact fun _ => holds_filter c (Bound.fragments_equal column operand)
  | filterPairs pairs =>
    -- The builder of the group has no condition before the first pair.
    rw [run, fragments]
    have hgroup := holds_filterGroup b .and (pairs.foldl (fun inner (column, operand) =>
      inner.filter .and (.equal column operand)) b.nested)
    rw [fragmentsOf_equalities] at hgroup
    exact fun _ => hgroup
  | filterRaw c template values =>
    rw [run]
    exact fun _ => holds_filter c (Bound.fragments_raw template values)
  | filterColumns c first operator second =>
    rw [run]
    exact holds_attempt_map fun _ hbound =>
      holds_filter c (Bound.fragments_compareColumns hbound)
  | filterAmong c column operands negated =>
    rw [run]
    cases operands with
    | nil => exact fun _ => holds_nil _ _
    | cons operand operands =>
      refine fun _ => holds_filter c ?_
      rw [Bound.among, Condition.fragments, fragments]
      . simp
      . simp
  | filterAmongRows c column query negated =>
    rw [run, fragments]
    apply holds_attempt_bind
    intro rows hrows _
    rw [Draft.fragments, hrows]
    exact holds_filter c (by rw [Bound.amongRows, Condition.fragments])
  | filterNull c column negated =>
    rw [run]
    exact fun _ => holds_filter c (by rw [Condition.fragments, fragments])
  | filterBetween c column low high negated =>
    rw [run]
    exact fun _ => holds_filter c (by rw [Bound.between, Condition.fragments, fragments])
  | filterGroup c calls =>
    rw [run, fragments]
    apply holds_attempt_bind
    intro inner hinner _
    obtain ⟨_, rfl⟩ := toExcept_eq_ok.mp hinner
    exact holds_filterGroup b c _
  | filterExists c query negated =>
    rw [run, fragments]
    apply holds_attempt_bind
    intro rows hrows _
    rw [Draft.fragments, hrows]
    exact holds_filter c (by rw [Bound.rowsExist, Condition.fragments])
  | filterQuery c column operator query =>
    rw [run, fragments]
    apply holds_attempt_bind
    intro rows hrows
    apply holds_attempt_bind
    intro bound hbound _
    rw [Draft.fragments, hrows]
    exact holds_filter c (Bound.fragments_compareQuery hbound)
  | filterQueryWith c column operator calls =>
    rw [run, fragments]
    apply holds_attempt_bind
    intro _ _
    apply holds_attempt_bind
    intro rows hrows
    apply holds_attempt_bind
    intro bound hbound _
    obtain ⟨_, rfl⟩ := toExcept_eq_ok.mp hrows
    exact holds_filter c (Bound.fragments_compareQuery hbound)
  | filterDate c part column operator operand =>
    rw [run]
    exact holds_attempt_map fun _ hbound =>
      holds_filter c (Bound.fragments_compareDate hbound)
  | filterRow c columns operator operands =>
    rw [run]
    exact holds_attempt_map fun _ hbound =>
      holds_filter c (Bound.fragments_compareRow hbound)
  | filterJson c column document negated =>
    rw [run]
    refine fun _ => holds_filter c ?_
    rw [Bound.jsonContains, Condition.fragments, fragments]
    exact List.append_nil _
  | _ => cases hf

theorem holds_run_having (hf : call.family? = some .havings)
    : (call.run b).Holds .havings (call.fragments b) := by
  cases call with
  | having c column operator operand =>
    rw [run]
    exact holds_attempt_map fun _ hbound => holds_having c (Bound.fragments_compare hbound)
  | havingRaw c template values =>
    rw [run]
    exact fun _ => holds_having c (Bound.fragments_raw template values)
  | havingBetween column low high =>
    rw [run]
    refine fun _ => holds_having .and ?_
    rw [Bound.between, Condition.fragments, fragments]
  | _ => cases hf

theorem holds_run_join (hf : call.family? = some .joins)
    : (call.run b).Holds .joins (call.fragments b) := by
  cases call with
  | join kind t first operator second =>
    rw [run, fragments, List.append_assoc]
    apply holds_attempt_joinOn kind fun _ => holds_of_subset
    exact fun _ hbound => Bound.fragments_compareColumns hbound
  | joinWhere kind t column operator operand =>
    rw [run, fragments, List.append_assoc]
    apply holds_attempt_joinOn kind fun _ => holds_of_subset
    exact fun _ hbound => Bound.fragments_compare hbound
  | joinWith kind t calls =>
    rw [run, fragments]
    apply holds_attempt_bind
    intro inner hinner _
    obtain ⟨_, rfl⟩ := toExcept_eq_ok.mp hinner
    exact holds_of_subset (subset_addJoin _ kind (.table t) _)
  | crossJoin t =>
    rw [run]
    exact fun _ => holds_of_subset (subset_crossJoin _ (.table t))
  | joinQuery kind query label first operator second =>
    rw [run, fragments, List.append_assoc]
    cases hquery : query.build b.grammar with
    | error e =>
      intro hok
      cases hok
    | ok found =>
      apply holds_attempt_joinOn kind
      . intro b' hsubset
        exact holds_alias hquery (hsubset (List.mem_singleton.mpr rfl))
      . exact fun _ hbound => Bound.fragments_compareColumns hbound
  | crossJoinQuery query label =>
    rw [run, fragments]
    apply holds_attempt_bind
    intro found hfound _
    exact holds_alias hfound (subset_crossJoin _ _ (List.mem_singleton.mpr rfl))
  | _ => cases hf

theorem holds_run_columns (hf : call.family? = some .columns)
    : (call.run b).Holds .columns (call.fragments b) := by
  cases call with
  | select columns =>
    rw [run]
    exact fun _ => holds_of_subset (subset_select _ columns)
  | addSelect columns =>
    have hsubset := subset_addSelections b (columns.map .column) []
    rw [List.flatMap_map] at hsubset
    rw [run]
    exact fun _ => holds_of_subset hsubset
  | selectRaw template values =>
    have hsubset := subset_addSelections b [.fragment (Sql.ofTemplate template values)] values
    rw [List.flatMap_singleton, Selection.fragments, Sql.text_ofTemplate] at hsubset
    rw [run]
    exact fun _ => holds_of_subset hsubset
  | selectQuery query label =>
    rw [run, fragments]
    apply holds_attempt_bind
    intro found hfound _
    exact holds_alias hfound (subset_addSelections _ _ _ (List.mem_singleton.mpr rfl))
  | _ => cases hf

theorem holds_run_source (hf : call.family? = some .source)
    : (call.run b).Holds .source (call.fragments b) := by
  cases call with
  | table t =>
    rw [run]
    exact fun _ => holds_of_subset (subset_setSource _ (.table t) [])
  | sourceRaw template values =>
    have hsubset := subset_setSource b (.fragment (Sql.ofTemplate template values)) values
    rw [Source.fragments, Sql.text_ofTemplate] at hsubset
    rw [run]
    exact fun _ => holds_of_subset hsubset
  | sourceQuery query label =>
    rw [run, fragments]
    apply holds_attempt_bind
    intro found hfound _
    exact holds_alias hfound (subset_setSource _ _ _ (List.mem_singleton.mpr rfl))
  | _ => cases hf

theorem holds_run_orders (hf : call.family? = some .orders)
    : (call.run b).Holds .orders (call.fragments b) := by
  cases call with
  | orderBy column direction =>
    rw [run]
    exact fun _ => holds_of_subset (subset_addOrdering _ (.column column direction))
  | orderByText column direction =>
    rw [run]
    exact holds_attempt_map fun direction _ =>
      holds_of_subset (subset_addOrdering _ (.column column direction))
  | orderByRaw template values =>
    have hsubset (carried : List Value) :=
      subset_addOrdering b (.raw (Sql.ofTemplate template values) carried)
    simp only [Ordering.fragments, Sql.text_ofTemplate] at hsubset
    rw [run, Builder.orderByRaw]
    split
    . exact fun _ => holds_of_subset (hsubset values)
    . exact fun _ => holds_of_subset (hsubset [])
  | union all member =>
    rw [run, fragments]
    apply holds_attempt_bind
    intro rows hrows _
    rw [Draft.fragments, hrows]
    exact holds_of_subset (subset_addUnion _ all rows)
  | _ =>
    first
    | exact fun _ => holds_nil _ _
    | cases hf

/-- What comes with a call stands in the clauses of its family after it, unless the call fails. -/
theorem holds_run (hf : call.family? = some f) : (call.run b).Holds f (call.fragments b) := by
  cases f with
  | wheres => exact holds_run_filter hf
  | havings => exact holds_run_having hf
  | joins => exact holds_run_join hf
  | columns => exact holds_run_columns hf
  | source => exact holds_run_source hf
  | orders => exact holds_run_orders hf
  | groups =>
    cases call with
    | groupBy columns =>
      rw [run]
      exact fun _ => holds_of_subset (subset_groupBy _ columns)
    | _ => cases hf
  | distinct =>
    cases call with
    | distinct => exact fun _ => holds_nil _ _
    | _ => cases hf
  | lock =>
    cases call with
    | lock l => exact fun _ => holds_nil _ _
    | _ => cases hf

end Call

end SqlForge
