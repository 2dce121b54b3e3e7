import Mathlib.Data.List.Perm.Subperm
import Mathlib.Data.List.Flatten
import SqlForge.Proofs.Builder.Bound
import SqlForge.Proofs.Builder.Outcome

/-!
Where the values of a builder come from: there is none in it that no call was passed, and none more
often than it was passed.
-/

namespace SqlForge

mutual
/-- The values that are passed to a call or to the calls that it comes with. -/
def Call.passed : Call → List Value
  | .filter _ _ _ operand => boundValues [operand]
  | .filterEqual _ _ operand => boundValues [operand]
  | .filterPairs pairs => boundValues (pairs.map Prod.snd)
  | .filterRaw _ _ values => values
  | .filterAmong _ _ operands _ => boundValues operands
  | .filterAmongRows _ _ query _ => query.passed
  | .filterBetween _ _ low high _ => boundValues [low, high]
  | .filterGroup _ calls => Call.allPassed calls
  | .filterExists _ query _ => query.passed
  | .filterQuery _ _ _ query => query.passed
  | .filterQueryWith _ _ _ calls => Call.allPassed calls
  | .filterDate _ _ _ _ operand => boundValues [operand]
  | .filterRow _ _ _ operands => boundValues operands
  | .filterJson _ _ document _ => [.text document.compact]
  | .having _ _ _ operand => boundValues [operand]
  | .havingRaw _ _ values => values
  | .havingBetween _ low high => boundValues [low, high]
  | .joinWhere _ _ _ _ operand => boundValues [operand]
  | .joinWith _ _ calls => Call.allPassed calls
  | .joinQuery _ query .. => query.passed
  | .crossJoinQuery query _ => query.passed
  | .selectRaw _ values => values
  | .selectQuery query _ => query.passed
  | .sourceRaw _ values => values
  | .sourceQuery query _ => query.passed
  | .orderByRaw _ values => values
  | .union _ member => member.passed
  | .when condition calls => if condition then Call.allPassed calls else []
  | .addBindings _ values => values
  | .setBindings _ values => values
  | .mergeBindings other => other.passed
  | .filterColumns .. | .filterNull .. | .join .. | .crossJoin .. | .select .. | .addSelect ..
  | .distinct | .table .. | .groupBy .. | .orderBy .. | .orderByText .. | .inRandomOrder ..
  | .reorder | .limit .. | .offset .. | .forPage .. | .lock .. => []

def Call.allPassed : List Call → List Value
  | [] => []
  | call :: calls => call.passed ++ Call.allPassed calls

def Draft.passed : Draft → List Value
  | { calls, .. } => Call.allPassed calls

def Subquery.passed : Subquery → List Value
  | .text _ => []
  | .draft query => query.passed
end

namespace Bindings

theorem flatten_extend_perm (b : Bindings) (k : Bucket) (values : List Value)
    : (b.extend k values).flatten.Perm (b.flatten ++ values) := by
  classical
  rw [List.perm_iff_count]
  intro v
  cases k <;> simp [flatten, flattenWhere, Bucket.all, extend, set, get] <;> omega

theorem flatten_set_subperm (b : Bindings) (k : Bucket) (values : List Value)
    : (b.set k values).flatten.Subperm (b.flatten ++ values) := by
  classical
  rw [List.subperm_ext_iff]
  intro v _
  cases k <;> simp [flatten, flattenWhere, Bucket.all, set, get] <;> omega

theorem flatten_merge_perm (b other : Bindings)
    : (b.merge other).flatten.Perm (b.flatten ++ other.flatten) := by
  classical
  rw [List.perm_iff_count]
  intro v
  simp [flatten, flattenWhere, Bucket.all, merge, extend, set, get]
  omega

theorem flattenWhere_sublist (b : Bindings) (keep : Bucket → Bool)
    : (b.flattenWhere keep).Sublist b.flatten := by
  have hkeep : (Bucket.all.filter keep).Sublist (Bucket.all.filter fun _ => true) := by
    rw [List.filter_true]
    exact List.filter_sublist
  exact hkeep.flatMap b.get

theorem filter_sublist_flatten (b : Bindings) : b.filter.Sublist b.flatten := by
  have hfilter : b.flattenWhere (· = .filter) = b.filter := by
    simp [flattenWhere, Bucket.all, get]
  rw [← hfilter]
  exact b.flattenWhere_sublist _

end Bindings

namespace Bound

variable {g : Grammar} {bound : Bound} {column : Column} {operand : Operand} {operator : String}

theorem values_equal (column : Column) (operand : Operand)
    : (equal column operand).values.Sublist (boundValues [operand]) := by
  unfold equal
  split
  . exact List.nil_sublist _
  . exact List.Sublist.refl _

theorem values_compare (h : compare g column operator operand = .ok bound)
    : bound.values.Sublist (boundValues [operand]) := by
  obtain ⟨_, ⟨_, negated, rfl⟩ | ⟨_, rfl⟩⟩ := compare_cases h
  . exact List.nil_sublist _
  . exact List.Sublist.refl _

theorem values_compareDate {part : DatePart}
    (h : compareDate g part column operator operand = .ok bound)
    : bound.values = boundValues [operand] := by
  obtain ⟨_, _, rfl⟩ := compareDate_eq_ok.mp h
  rfl

theorem values_compareRow {columns : List Column} {operands : List Operand}
    (h : compareRow g columns operator operands = .ok bound)
    : bound.values = boundValues operands := by
  obtain ⟨_, _, rfl⟩ := compareRow_eq_ok.mp h
  rfl

theorem values_compareColumns {first second : Column}
    (h : compareColumns g first operator second = .ok bound) : bound.values = [] := by
  obtain ⟨_, rfl⟩ := compareColumns_eq_ok.mp h
  rfl

theorem values_compareQuery {query : Builder}
    (h : compareQuery g column operator query = .ok bound) : bound.values = query.values := by
  obtain ⟨_, rfl⟩ := compareQuery_eq_ok.mp h
  rfl

end Bound

namespace Builder

/-- `b'` has no values but those of `b` and the ones given, and none more often. -/
def Takes (b b' : Builder) (values : List Value) : Prop :=
  b'.values.Subperm (b.values ++ values)

variable {b b' b'' : Builder} {values more : List Value}

theorem takes_of_values_eq (h : b'.values = b.values) : Takes b b' values := by
  unfold Takes
  rw [h]
  exact (List.sublist_append_left _ _).subperm

theorem Takes.mono (h : Takes b b' values) (hvalues : values.Subperm more) : Takes b b' more :=
  h.trans (List.Subperm.append (List.Subperm.refl _) hvalues)

theorem Takes.trans (h : Takes b b' values) (h' : Takes b' b'' more)
    : Takes b b'' (values ++ more) := by
  have := List.Subperm.trans h' (List.Subperm.append h (List.Subperm.refl more))
  rwa [List.append_assoc] at this

theorem Takes.trans_nil (h : Takes b b' values) (h' : Takes b' b'' []) : Takes b b'' values := by
  have := h.trans h'
  rwa [List.append_nil] at this

theorem takes_of_bindings {q : Select} {bindings : Bindings}
    (hcarried : q.carriedValues.Sublist b.query.carriedValues)
    (h : bindings.flatten.Subperm (b.bindings.flatten ++ values))
    : Takes b { b with query := q, bindings := bindings } values := by
  have hperm : (b.bindings.flatten ++ values ++ b.query.carriedValues).Perm
      (b.bindings.flatten ++ b.query.carriedValues ++ values) := by
    rw [List.append_assoc, List.append_assoc]
    exact List.perm_append_comm.append_left _
  exact (List.Subperm.append h hcarried.subperm).trans hperm.subperm

theorem takes_extend {q : Select} (hcarried : q.carriedValues = b.query.carriedValues) (k : Bucket)
    (values : List Value)
    : Takes b { b with query := q, bindings := b.bindings.extend k values } values :=
  takes_of_bindings (hcarried ▸ List.Sublist.refl _)
    (b.bindings.flatten_extend_perm k values).subperm

theorem takes_clear {q : Select} (hcarried : q.carriedValues.Sublist b.query.carriedValues)
    (k : Bucket) : Takes b { b with query := q, bindings := b.bindings.clear k } values :=
  (takes_of_bindings hcarried (b.bindings.flatten_set_subperm k [])).mono List.nil_subperm

theorem sublist_values {inner : Builder} (h : values.Sublist inner.bindings.flatten)
    : values.Sublist inner.values :=
  h.trans (List.sublist_append_left _ _)

/-! ### Steps -/

theorem takes_filter (c : Connective) {bound : Bound} (h : bound.values.Subperm values)
    : Takes b (b.filter c bound) values :=
  (takes_extend (k := .filter) rfl bound.values).mono h

theorem takes_having (c : Connective) {bound : Bound} (h : bound.values.Subperm values)
    : Takes b (b.having c bound) values :=
  (takes_extend (k := .having) rfl bound.values).mono h

theorem takes_filterGroup (c : Connective) {inner : Builder} (h : inner.values.Subperm values)
    : Takes b (b.filterGroup c inner) values := by
  unfold filterGroup
  split
  . exact takes_of_values_eq rfl
  . apply takes_filter
    exact (sublist_values inner.bindings.filter_sublist_flatten).subperm.trans h

theorem values_filterPairs (pairs : List (Column × Operand)) (b : Builder)
    : Takes b (pairs.foldl (fun inner (column, operand) => inner.filter .and (.equal column operand))
        b) (boundValues (pairs.map Prod.snd)) := by
  induction pairs generalizing b with
  | nil => exact takes_of_values_eq rfl
  | cons pair pairs ih =>
    have hfirst : Takes b (b.filter .and (.equal pair.1 pair.2)) (boundValues [pair.2]) :=
      takes_filter .and (Bound.values_equal pair.1 pair.2).subperm
    have hvalues : boundValues (List.map Prod.snd (pair :: pairs))
        = boundValues [pair.2] ++ boundValues (pairs.map Prod.snd) := by
      rw [boundValues, boundValues, boundValues, ← List.filterMap_append]
      rfl
    rw [hvalues]
    exact hfirst.trans (ih _)

theorem takes_addJoin (kind : JoinKind) (source : Source) {inner : Builder}
    (h : inner.values.Subperm values) : Takes b (b.addJoin kind source inner) values :=
  (takes_extend (k := .join) rfl _).mono
    ((sublist_values (inner.bindings.flattenWhere_sublist _)).subperm.trans h)

theorem takes_crossJoin (source : Source) : Takes b (b.crossJoin source) values :=
  takes_addJoin .cross source List.nil_subperm

theorem takes_addSelections (selections : List Selection) (values : List Value)
    : Takes b (b.addSelections selections values) values :=
  takes_extend (k := .select) rfl values

theorem takes_setSource (source : Source) (values : List Value)
    : Takes b (b.setSource source values) values :=
  takes_extend (k := .source) rfl values

theorem takes_addOrdering (o : Ordering) : Takes b (b.addOrdering o) o.carried := by
  unfold addOrdering
  split
  . apply List.Perm.subperm
    simp [Builder.values, Select.carriedValues, List.append_assoc]
  . exact takes_of_values_eq rfl

theorem takes_bind (k : Bucket) (values : List Value) : Takes b (b.bind k values) values :=
  takes_extend rfl k values

theorem takes_orderByRaw (template : String) (values : List Value)
    : Takes b (b.orderByRaw template values) values := by
  unfold orderByRaw
  dsimp only
  split
  . exact takes_addOrdering _
  . exact (takes_addOrdering _).trans (takes_bind .order values)

theorem takes_limit (n : Int) : Takes b (b.limit n) values := by
  unfold limit
  split
  . exact takes_of_values_eq rfl
  . split
    . exact takes_of_values_eq rfl
    . exact takes_of_values_eq rfl

theorem takes_offset (n : Int) : Takes b (b.offset n) values := by
  unfold offset
  split
  . exact takes_of_values_eq rfl
  . exact takes_of_values_eq rfl

theorem takes_addUnion (all : Bool) {member : Builder} (h : member.values.Subperm values)
    : Takes b (b.addUnion all member) values :=
  (takes_extend (k := .union) rfl _).mono h

theorem takes_mergeBindings {other : Builder} (h : other.values.Subperm values)
    : Takes b (b.mergeBindings other) values := by
  have hmerge : Takes b (b.mergeBindings other) other.bindings.flatten :=
    takes_of_bindings (List.Sublist.refl _) (b.bindings.flatten_merge_perm other.bindings).subperm
  exact hmerge.mono ((sublist_values (List.Sublist.refl _)).subperm.trans h)

/-! ### Steps that may fail -/

open Outcome

variable {α : Type} {x : Except Failure α}

theorem takes_attempt_bind {k : α → Except Failure Builder}
    (h : ∀ a, x = .ok a → Takes b (attempt b (k a)).builder values)
    : Takes b (attempt b (x >>= k)).builder values :=
  builder_attempt_bind (P := fun b' => Takes b b' values) (takes_of_values_eq rfl) h

theorem takes_attempt_map {step : α → Builder} (h : ∀ a, x = .ok a → Takes b (step a) values)
    : Takes b (attempt b (step <$> x)).builder values :=
  builder_attempt_map (P := fun b' => Takes b b' values) (takes_of_values_eq rfl) h

theorem takes_attempt_joinOn {x : Except Failure Bound} (kind : JoinKind) (source : Source)
    (h : ∀ bound, x = .ok bound → bound.values.Subperm values)
    : Takes b (attempt b (b.joinOn kind source x)).builder values := by
  apply takes_attempt_bind
  intro bound hbound
  apply takes_addJoin kind source
  exact takes_filter .and (h bound hbound)

theorem takes_joinColumns (kind : JoinKind) (source : Source) (first : Column) (operator : String)
    (second : Column)
    : Takes b (attempt b (b.joinOn kind source
        (Bound.compareColumns b.grammar first operator second))).builder [] := by
  apply takes_attempt_joinOn kind source
  intro bound hbound
  rw [Bound.values_compareColumns hbound]

end Builder

open Builder Outcome

mutual
/-- Whether or not the call succeeds. -/
theorem Call.takes_run (call : Call) (b : Builder)
    : Takes b (call.run b).builder call.passed := by
  cases call with
  | filter c column operator operand =>
    rw [Call.run, Call.passed]
    exact takes_attempt_map fun _ hbound => takes_filter c (Bound.values_compare hbound).subperm
  | filterEqual c column operand =>
    rw [Call.run, Call.passed]
    exact takes_filter c (Bound.values_equal column operand).subperm
  | filterPairs pairs =>
    rw [Call.run, Call.passed]
    exact takes_filterGroup .and (values_filterPairs pairs b.nested)
  | filterRaw c template values =>
    rw [Call.run, Call.passed]
    exact takes_filter c (List.Subperm.refl _)
  | filterColumns c first operator second =>
    rw [Call.run, Call.passed]
    exact takes_attempt_map fun _ hbound =>
      takes_filter c (Bound.values_compareColumns hbound ▸ List.Subperm.refl _)
  | filterAmong c column operands negated =>
    rw [Call.run, Call.passed]
    exact takes_filter c (List.Subperm.refl _)
  | filterAmongRows c column query negated =>
    rw [Call.run, Call.passed]
    exact takes_attempt_bind fun _ hrows => takes_filter c (query.subperm_of_build hrows)
  | filterNull c column negated =>
    rw [Call.run, Call.passed]
    exact takes_filter c (List.Subperm.refl _)
  | filterBetween c column low high negated =>
    rw [Call.run, Call.passed]
    exact takes_filter c (List.Subperm.refl _)
  | filterGroup c calls =>
    rw [Call.run, Call.passed]
    apply takes_attempt_bind
    intro inner hinner
    obtain ⟨_, rfl⟩ := toExcept_eq_ok.mp hinner
    exact takes_filterGroup c (Call.takes_runAll calls b.nested)
  | filterExists c query negated =>
    rw [Call.run, Call.passed]
    exact takes_attempt_bind fun _ hrows => takes_filter c (query.subperm_of_build hrows)
  | filterQuery c column operator query =>
    rw [Call.run, Call.passed]
    apply takes_attempt_bind
    intro rows hrows
    apply takes_attempt_bind
    intro bound hbound
    apply takes_filter c
    rw [Bound.values_compareQuery hbound]
    exact query.subperm_of_build hrows
  | filterQueryWith c column operator calls =>
    rw [Call.run, Call.passed]
    apply takes_attempt_bind
    intro _ _
    apply takes_attempt_bind
    intro rows hrows
    apply takes_attempt_bind
    intro bound hbound
    obtain ⟨_, rfl⟩ := toExcept_eq_ok.mp hrows
    apply takes_filter c
    rw [Bound.values_compareQuery hbound]
    exact Call.takes_runAll calls (.new b.grammar)
  | filterDate c part column operator operand =>
    rw [Call.run, Call.passed]
    exact takes_attempt_map fun _ hbound =>
      takes_filter c (Bound.values_compareDate hbound ▸ List.Subperm.refl _)
  | filterRow c columns operator operands =>
    rw [Call.run, Call.passed]
    exact takes_attempt_map fun _ hbound =>
      takes_filter c (Bound.values_compareRow hbound ▸ List.Subperm.refl _)
  | filterJson c column document negated =>
    rw [Call.run, Call.passed]
    exact takes_filter c (List.Subperm.refl _)
  | having c column operator operand =>
    rw [Call.run, Call.passed]
    exact takes_attempt_map fun _ hbound => takes_having c (Bound.values_compare hbound).subperm
  | havingRaw c template values =>
    rw [Call.run, Call.passed]
    exact takes_having c (List.Subperm.refl _)
  | havingBetween column low high =>
    rw [Call.run, Call.passed]
    exact takes_having .and (List.Subperm.refl _)
  | join kind t first operator second =>
    rw [Call.run, Call.passed]
    exact takes_joinColumns kind (.table t) first operator second
  | joinWhere kind t column operator operand =>
    rw [Call.run, Call.passed]
    exact takes_attempt_joinOn kind (.table t) fun _ hbound =>
      (Bound.values_compare hbound).subperm
  | joinWith kind t calls =>
    rw [Call.run, Call.passed]
    apply takes_attempt_bind
    intro inner hinner
    obtain ⟨_, rfl⟩ := toExcept_eq_ok.mp hinner
    exact takes_addJoin kind (.table t) (Call.takes_runAll calls (.new b.grammar))
  | crossJoin t =>
    rw [Call.run, Call.passed]
    exact takes_crossJoin (.table t)
  | joinQuery kind query label first operator second =>
    rw [Call.run, Call.passed]
    cases hquery : query.build b.grammar with
    | error e => exact takes_of_values_eq rfl
    | ok found =>
      have hbind := (takes_bind (b := b) .join found.2).mono (query.subperm_of_build hquery)
      apply hbind.trans_nil
      exact takes_joinColumns kind _ first operator second
  | crossJoinQuery query label =>
    rw [Call.run, Call.passed]
    apply takes_attempt_bind
    intro found hfound
    have hbind := (takes_bind (b := b) .join found.2).mono (query.subperm_of_build hfound)
    apply hbind.trans_nil
    exact takes_crossJoin _
  | select columns =>
    rw [Call.run, Call.passed]
    exact takes_clear (List.Sublist.refl _) .select
  | addSelect columns =>
    rw [Call.run, Call.passed]
    exact takes_addSelections (columns.map .column) []
  | selectRaw template values =>
    rw [Call.run, Call.passed]
    exact takes_addSelections _ values
  | selectQuery query label =>
    rw [Call.run, Call.passed]
    exact takes_attempt_bind fun _ hfound =>
      (takes_addSelections _ _).mono (query.subperm_of_build hfound)
  | table t =>
    rw [Call.run, Call.passed]
    exact takes_setSource (.table t) []
  | sourceRaw template values =>
    rw [Call.run, Call.passed]
    exact takes_setSource _ values
  | sourceQuery query label =>
    rw [Call.run, Call.passed]
    exact takes_attempt_bind fun _ hfound =>
      (takes_setSource _ _).mono (query.subperm_of_build hfound)
  | orderBy column direction =>
    rw [Call.run, Call.passed]
    exact takes_addOrdering (.column column direction)
  | orderByText column direction =>
    rw [Call.run, Call.passed]
    exact takes_attempt_map fun direction _ => takes_addOrdering (.column column direction)
  | orderByRaw template values =>
    rw [Call.run, Call.passed]
    exact takes_orderByRaw template values
  | inRandomOrder seed =>
    rw [Call.run, Call.passed]
    exact takes_orderByRaw _ []
  | reorder =>
    rw [Call.run, Call.passed]
    apply takes_clear
    exact List.nil_sublist _
  | limit n =>
    rw [Call.run, Call.passed]
    exact takes_limit n
  | offset n =>
    rw [Call.run, Call.passed]
    exact takes_offset n
  | forPage page perPage =>
    rw [Call.run, Call.passed]
    exact (takes_offset _).trans_nil (takes_limit _)
  | union all member =>
    rw [Call.run, Call.passed]
    exact takes_attempt_bind fun _ hrows => takes_addUnion all (member.subperm_of_build hrows)
  | when condition calls =>
    rw [Call.run, Call.passed]
    split
    . exact Call.takes_runAll calls b
    . exact takes_of_values_eq rfl
  | addBindings bucket values =>
    rw [Call.run, Call.passed]
    exact takes_bind bucket values
  | setBindings bucket values =>
    rw [Call.run, Call.passed]
    exact takes_of_bindings (List.Sublist.refl _) (b.bindings.flatten_set_subperm bucket values)
  | mergeBindings other =>
    rw [Call.run, Call.passed]
    exact takes_attempt_bind fun _ hother => takes_mergeBindings (other.subperm_of_build hother)
  | distinct | groupBy columns | lock l =>
    rw [Call.run, Call.passed]
    exact takes_of_values_eq rfl

theorem Call.takes_runAll (calls : List Call) (b : Builder)
    : Takes b (Call.runAll calls b).builder (Call.allPassed calls) := by
  cases calls with
  | nil =>
    rw [Call.runAll, Call.allPassed]
    exact takes_of_values_eq rfl
  | cons call calls =>
    have hfirst := Call.takes_run call b
    rw [Call.allPassed]
    cases hcall : (call.run b).failure with
    | none =>
      rw [Call.runAll_cons_of_ok hcall]
      exact hfirst.trans (Call.takes_runAll calls _)
    | some e =>
      rw [Call.runAll_cons_of_failure hcall]
      exact hfirst.mono (List.sublist_append_left _ _).subperm

theorem Draft.subperm_of_build (query : Draft) {g : Grammar} {b : Builder}
    (h : query.build g = .ok b) : b.values.Subperm query.passed := by
  cases query with
  | mk grammar calls =>
    rw [Draft.build] at h
    obtain ⟨_, rfl⟩ := toExcept_eq_ok.mp h
    rw [Draft.passed]
    exact Call.takes_runAll calls _

theorem Subquery.subperm_of_build (query : Subquery) {g : Grammar} {found : Sql × List Value}
    (h : query.build g = .ok found) : found.2.Subperm query.passed := by
  cases query with
  | text sql =>
    obtain ⟨-, rfl⟩ := Subquery.build_text_eq_ok.mp h
    exact List.nil_subperm
  | draft query =>
    obtain ⟨b, sql, hb, -, rfl⟩ := Subquery.build_draft_eq_ok.mp h
    rw [Subquery.passed]
    exact query.subperm_of_build hb
end

end SqlForge
