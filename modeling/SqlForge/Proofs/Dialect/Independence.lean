import SqlForge.Proofs.Builder.Outcome
import SqlForge.Proofs.Dialect.Step
import SqlForge.Proofs.Placeholder.Call

/-!
The same calls in two grammars. They lead to the same values in the same buckets, and, if their
templates fit their values, to statements with the same number of question marks.
-/

namespace SqlForge

open Text Builder Outcome

/-! ### Calls for any grammar -/

mutual
/-- Every builder that the call makes has the grammar of the builder it is made for. -/
def Call.Inherits : Call → Prop
  | .filterAmongRows _ _ query _ => query.Inherits
  | .filterGroup _ calls => Call.AllInherit calls
  | .filterExists _ query _ => query.Inherits
  | .filterQuery _ _ _ query => query.Inherits
  | .filterQueryWith _ _ _ calls => Call.AllInherit calls
  | .joinWith _ _ calls => Call.AllInherit calls
  | .joinQuery _ query _ _ _ _ => query.Inherits
  | .crossJoinQuery query _ => query.Inherits
  | .selectQuery query _ => query.Inherits
  | .sourceQuery query _ => query.Inherits
  | .union _ member => member.Inherits
  | .when condition calls => condition = true → Call.AllInherit calls
  | .mergeBindings other => other.Inherits
  | _ => True

def Call.AllInherit : List Call → Prop
  | [] => True
  | call :: calls => call.Inherits ∧ Call.AllInherit calls

def Draft.Inherits : Draft → Prop
  | { grammar, calls } => grammar = none ∧ Call.AllInherit calls

def Subquery.Inherits : Subquery → Prop
  | .text _ => True
  | .draft query => query.Inherits
end

mutual
/--
The templates of the call have a question mark for each of their values, and names, labels and SQL
without values have none. Sources may be replaced, and values recorded by hand, as neither makes a
difference to what is written.
-/
def Call.Worded : Call → Prop
  | .filterAmongRows _ column query _ => column.Unmarked ∧ query.Worded
  | .filterGroup _ calls => Call.AllWorded calls
  | .filterExists _ query _ => query.Worded
  | .filterQuery _ column _ query => column.Unmarked ∧ query.Worded
  | .filterQueryWith _ column _ calls => column.Unmarked ∧ Call.AllWorded calls
  | .joinWith _ table calls => table.Unmarked ∧ Call.AllWorded calls
  | .joinQuery _ query label first _ second =>
    query.Worded ∧ Unmarked label ∧ first.Unmarked ∧ second.Unmarked
  | .crossJoinQuery query label => query.Worded ∧ Unmarked label
  | .selectQuery query label => query.Worded ∧ Unmarked label
  | .table t => t.Unmarked
  | .sourceRaw template values => Sql.Fits template values
  | .sourceQuery query label => query.Worded ∧ Unmarked label
  | .union _ member => member.Worded
  | .when condition calls => condition = true → Call.AllWorded calls
  | .addBindings _ _ => True
  | .setBindings _ _ => True
  | .mergeBindings _ => True
  | call => ∀ b, call.Fits b

def Call.AllWorded : List Call → Prop
  | [] => True
  | call :: calls => call.Worded ∧ Call.AllWorded calls

def Draft.Worded : Draft → Prop
  | { calls, .. } => Call.AllWorded calls

def Subquery.Worded : Subquery → Prop
  | .text sql => Unmarked sql
  | .draft query => query.Worded
end

/-! ### The run -/

namespace Call

theorem toExcept_run_joinQuery (kind : JoinKind) (query : Subquery) (label : String)
    (first : Column) (operator : String) (second : Column) (b : Builder)
    : ((joinQuery kind query label first operator second).run b).toExcept
        = query.build b.grammar >>= fun (sql, values) =>
            (b.bind .join values).joinOn kind (.fragment (b.aliasTable sql label))
              (Bound.compareColumns b.grammar first operator second) := by
  rw [run]
  cases query.build b.grammar with
  | error e => rw [error_bind, toExcept]
  | ok found =>
    rw [ok_bind]
    dsimp only
    rw [toExcept_attempt]
    rfl

end Call

/-- A subquery as text, with its values. -/
structure Subquery.Alike (legible : Prop) (found found' : Sql × List Value) : Prop where
  values : found.2 = found'.2
  sql : legible → Matched Sql.Filled Sql.values found.1 found'.1

theorem matched_table {t : Table} (h : t.Unmarked)
    : Matched Source.Filled Source.slots (.table t) (.table t) :=
  .refl h

theorem Matched.fragment {sql sql' : Sql} (h : Matched Sql.Filled Sql.values sql sql')
    : Matched Source.Filled Source.slots (.fragment sql) (.fragment sql') :=
  ⟨h.left, h.right, h.slots⟩

theorem Sql.matched_ofTemplate {template : String} {values : List Value}
    (h : Sql.Fits template values)
    : Matched Sql.Filled Sql.values (Sql.ofTemplate template values)
        (Sql.ofTemplate template values) :=
  .refl (Sql.emits_ofTemplate h).filled

section
variable {legible : Prop} {b b' : Builder} {x x' : Except Failure Bound}

theorem agree_attempt {y y' : Except Failure Builder} (h : Agree (Alike legible) y y')
    : Agree (Alike legible) (attempt b y).toExcept (attempt b' y').toExcept := by
  rw [toExcept_attempt, toExcept_attempt]
  exact h

theorem agree_attempt_filter (h : Alike legible b b') (c : Connective)
    (hx : Agree (Bound.Alike legible) x x')
    : Agree (Alike legible) (attempt b (b.filter c <$> x)).toExcept
        (attempt b' (b'.filter c <$> x')).toExcept :=
  agree_attempt (hx.map fun _ _ hbound => h.filter c hbound)

theorem agree_attempt_joinOn (h : Alike legible b b') (kind : JoinKind) {t : Table}
    (ht : legible → t.Unmarked) (hx : Agree (Bound.Alike legible) x x')
    : Agree (Alike legible) (attempt b (b.joinOn kind (.table t) x)).toExcept
        (attempt b' (b'.joinOn kind (.table t) x')).toExcept := by
  apply agree_attempt
  rw [← bind_nil b .join, ← bind_nil b' .join]
  exact h.joinOn kind [] (fun hlegible => matched_table (ht hlegible)) hx

end

mutual

/-- A call that succeeds on builders that are alike leaves them alike. -/
theorem Call.agree_run (call : Call) {legible : Prop} {b b' : Builder} (hinherits : call.Inherits)
    (hworded : legible → call.Worded) (h : Alike legible b b')
    : Agree (Alike legible) (call.run b).toExcept (call.run b').toExcept := by
  cases call with
  | filter c column operator operand =>
    have hfits : legible → Call.Fits _ b := fun hlegible => hworded hlegible b
    rw [Call.Fits] at hfits
    rw [Call.run, Call.run]
    exact agree_attempt_filter h c (Bound.agree_compare hfits)
  | filterEqual c column operand =>
    have hfits : legible → Call.Fits _ b := fun hlegible => hworded hlegible b
    rw [Call.Fits] at hfits
    rw [Call.run, Call.run]
    apply agree_ok
    apply h.filter c
    apply Bound.alike_self
    exact fun hlegible => Bound.filled_equal (hfits hlegible).1 (hfits hlegible).2
  | filterPairs pairs =>
    have hfits : legible → Call.Fits _ b := fun hlegible => hworded hlegible b
    rw [Call.Fits] at hfits
    rw [Call.run, Call.run]
    exact agree_ok (h.filterPairs hfits)
  | filterRaw c template values =>
    have hfits : legible → Call.Fits _ b := fun hlegible => hworded hlegible b
    rw [Call.Fits] at hfits
    rw [Call.run, Call.run]
    apply agree_ok
    apply h.filter c
    apply Bound.alike_self
    exact fun hlegible => Bound.filled_raw (hfits hlegible)
  | filterColumns c first operator second =>
    have hfits : legible → Call.Fits _ b := fun hlegible => hworded hlegible b
    rw [Call.Fits] at hfits
    rw [Call.run, Call.run]
    exact agree_attempt_filter h c (Bound.agree_compareColumns hfits)
  | filterAmong c column operands negated =>
    have hfits : legible → Call.Fits _ b := fun hlegible => hworded hlegible b
    rw [Call.Fits] at hfits
    rw [Call.run, Call.run]
    apply agree_ok
    apply h.filter c
    apply Bound.alike_self
    exact fun hlegible => Bound.filled_among negated (hfits hlegible).1 (hfits hlegible).2
  | filterAmongRows c column query negated =>
    rw [Call.Inherits] at hinherits
    rw [Call.Worded] at hworded
    rw [Call.run, Call.run]
    have hquery := Draft.agree_build query hinherits (fun hlegible => (hworded hlegible).2)
      h.grammars
    refine agree_attempt (hquery.bind ?_)
    intro rows rows' hrows
    apply agree_ok
    exact h.filter c (Bound.alike_amongRows hrows negated fun hlegible => (hworded hlegible).1)
  | filterNull c column negated =>
    have hfits : legible → Call.Fits _ b := fun hlegible => hworded hlegible b
    rw [Call.Fits] at hfits
    rw [Call.run, Call.run]
    apply agree_ok
    apply h.filter c
    apply Bound.alike_self
    exact fun hlegible => Bound.filled_isNull negated (hfits hlegible)
  | filterBetween c column low high negated =>
    have hfits : legible → Call.Fits _ b := fun hlegible => hworded hlegible b
    rw [Call.Fits] at hfits
    rw [Call.run, Call.run]
    apply agree_ok
    apply h.filter c
    apply Bound.alike_self
    intro hlegible
    obtain ⟨hcolumn, hlow, hhigh⟩ := hfits hlegible
    exact Bound.filled_between negated hcolumn hlow hhigh
  | filterGroup c calls =>
    rw [Call.Inherits] at hinherits
    rw [Call.Worded] at hworded
    rw [Call.run, Call.run]
    refine agree_attempt ((Call.agree_runAll calls hinherits hworded h.nested).bind ?_)
    intro inner inner' hinner
    exact agree_ok (h.filterGroup c hinner)
  | filterExists c query negated =>
    rw [Call.Inherits] at hinherits
    rw [Call.Worded] at hworded
    rw [Call.run, Call.run]
    refine agree_attempt ((Draft.agree_build query hinherits hworded h.grammars).bind ?_)
    intro rows rows' hrows
    exact agree_ok (h.filter c (Bound.alike_rowsExist hrows negated))
  | filterQuery c column operator query =>
    rw [Call.Inherits] at hinherits
    rw [Call.Worded] at hworded
    rw [Call.run, Call.run]
    have hquery := Draft.agree_build query hinherits (fun hlegible => (hworded hlegible).2)
      h.grammars
    refine agree_attempt (hquery.bind ?_)
    intro rows rows' hrows
    refine (Bound.agree_compareQuery hrows fun hlegible => (hworded hlegible).1).bind ?_
    intro bound bound' hbound
    exact agree_ok (h.filter c hbound)
  | filterQueryWith c column operator calls =>
    rw [Call.Inherits] at hinherits
    rw [Call.Worded] at hworded
    rw [Call.run, Call.run]
    have hcalls := Call.agree_runAll calls hinherits (fun hlegible => (hworded hlegible).2)
      (alike_new h.grammars)
    apply agree_attempt
    refine agree_any.bind fun _ _ _ => hcalls.bind ?_
    intro rows rows' hrows
    refine (Bound.agree_compareQuery hrows fun hlegible => (hworded hlegible).1).bind ?_
    intro bound bound' hbound
    exact agree_ok (h.filter c hbound)
  | filterDate c part column operator operand =>
    have hfits : legible → Call.Fits _ b := fun hlegible => hworded hlegible b
    rw [Call.Fits] at hfits
    rw [Call.run, Call.run]
    exact agree_attempt_filter h c (Bound.agree_compareDate hfits)
  | filterRow c columns operator operands =>
    have hfits : legible → Call.Fits _ b := fun hlegible => hworded hlegible b
    rw [Call.Fits] at hfits
    rw [Call.run, Call.run]
    exact agree_attempt_filter h c (Bound.agree_compareRow hfits)
  | filterJson c column document negated =>
    have hfits : legible → Call.Fits _ b := fun hlegible => hworded hlegible b
    rw [Call.Fits] at hfits
    rw [Call.run, Call.run]
    apply agree_ok
    apply h.filter c
    apply Bound.alike_self
    exact fun hlegible => Bound.filled_jsonContains document negated (hfits hlegible)
  | having c column operator operand =>
    have hfits : legible → Call.Fits _ b := fun hlegible => hworded hlegible b
    rw [Call.Fits] at hfits
    rw [Call.run, Call.run]
    apply agree_attempt
    exact (Bound.agree_compare hfits).map fun _ _ hbound => h.having c hbound
  | havingRaw c template values =>
    have hfits : legible → Call.Fits _ b := fun hlegible => hworded hlegible b
    rw [Call.Fits] at hfits
    rw [Call.run, Call.run]
    apply agree_ok
    apply h.having c
    apply Bound.alike_self
    exact fun hlegible => Bound.filled_raw (hfits hlegible)
  | havingBetween column low high =>
    have hfits : legible → Call.Fits _ b := fun hlegible => hworded hlegible b
    rw [Call.Fits] at hfits
    rw [Call.run, Call.run]
    apply agree_ok
    apply h.having .and
    apply Bound.alike_self
    intro hlegible
    obtain ⟨hcolumn, hlow, hhigh⟩ := hfits hlegible
    exact Bound.filled_between false hcolumn hlow hhigh
  | join kind t first operator second =>
    have hfits : legible → Call.Fits _ b := fun hlegible => hworded hlegible b
    rw [Call.Fits] at hfits
    rw [Call.run, Call.run]
    apply agree_attempt_joinOn h kind fun hlegible => (hfits hlegible).1
    exact Bound.agree_compareColumns fun hlegible => (hfits hlegible).2
  | joinWhere kind t column operator operand =>
    have hfits : legible → Call.Fits _ b := fun hlegible => hworded hlegible b
    rw [Call.Fits] at hfits
    rw [Call.run, Call.run]
    apply agree_attempt_joinOn h kind fun hlegible => (hfits hlegible).1
    exact Bound.agree_compare fun hlegible => (hfits hlegible).2
  | joinWith kind t calls =>
    rw [Call.Inherits] at hinherits
    rw [Call.Worded] at hworded
    rw [Call.run, Call.run]
    have hcalls := Call.agree_runAll calls hinherits (fun hlegible => (hworded hlegible).2)
      (alike_new h.grammars)
    refine agree_attempt (hcalls.bind ?_)
    intro inner inner' hinner
    rw [← bind_nil b .join, ← bind_nil b' .join]
    exact agree_ok (h.addJoin kind [] (fun hlegible => matched_table (hworded hlegible).1) hinner)
  | crossJoin t =>
    have hfits : legible → Call.Fits _ b := fun hlegible => hworded hlegible b
    rw [Call.Fits] at hfits
    rw [Call.run, Call.run]
    rw [← bind_nil b .join, ← bind_nil b' .join]
    exact agree_ok (h.crossJoin [] fun hlegible => matched_table (hfits hlegible))
  | joinQuery kind query label first operator second =>
    rw [Call.Inherits] at hinherits
    rw [Call.Worded] at hworded
    rw [Call.toExcept_run_joinQuery, Call.toExcept_run_joinQuery]
    have hquery := Subquery.agree_build query hinherits (fun hlegible => (hworded hlegible).1)
      h.grammars
    refine hquery.bind ?_
    intro found found' hfound
    have halias := h.aliasTable hfound.sql fun hlegible => (hworded hlegible).2.1
    dsimp only
    rw [hfound.values]
    apply h.joinOn kind found'.2 (fun hlegible => (halias hlegible).fragment)
    exact Bound.agree_compareColumns fun hlegible => (hworded hlegible).2.2
  | crossJoinQuery query label =>
    rw [Call.Inherits] at hinherits
    rw [Call.Worded] at hworded
    rw [Call.run, Call.run]
    have hquery := Subquery.agree_build query hinherits (fun hlegible => (hworded hlegible).1)
      h.grammars
    refine agree_attempt (hquery.bind ?_)
    intro found found' hfound
    have halias := h.aliasTable hfound.sql fun hlegible => (hworded hlegible).2
    dsimp only
    rw [hfound.values]
    exact agree_ok (h.crossJoin found'.2 fun hlegible => (halias hlegible).fragment)
  | select columns =>
    have hfits : legible → Call.Fits _ b := fun hlegible => hworded hlegible b
    rw [Call.Fits] at hfits
    rw [Call.run, Call.run]
    exact agree_ok (h.select hfits)
  | addSelect columns =>
    have hfits : legible → Call.Fits _ b := fun hlegible => hworded hlegible b
    rw [Call.Fits] at hfits
    rw [Call.run, Call.run]
    exact agree_ok (h.addSelect hfits)
  | selectRaw template values =>
    have hfits : legible → Call.Fits _ b := fun hlegible => hworded hlegible b
    rw [Call.Fits] at hfits
    rw [Call.run, Call.run]
    exact agree_ok (h.addFragment values fun hlegible => Sql.matched_ofTemplate (hfits hlegible))
  | selectQuery query label =>
    rw [Call.Inherits] at hinherits
    rw [Call.Worded] at hworded
    rw [Call.run, Call.run]
    have hquery := Subquery.agree_build query hinherits (fun hlegible => (hworded hlegible).1)
      h.grammars
    refine agree_attempt (hquery.bind ?_)
    intro found found' hfound
    have halias := h.aliasColumn hfound.sql fun hlegible => (hworded hlegible).2
    dsimp only
    rw [hfound.values]
    exact agree_ok (h.addFragment found'.2 halias)
  | distinct =>
    rw [Call.run, Call.run]
    exact agree_ok (h.idle (idle_distinct b) (idle_distinct b'))
  | table t =>
    rw [Call.Worded] at hworded
    rw [Call.run, Call.run]
    exact agree_ok (h.setSource [] fun hlegible => matched_table (hworded hlegible))
  | sourceRaw template values =>
    rw [Call.Worded] at hworded
    rw [Call.run, Call.run]
    apply agree_ok
    exact h.setSource values fun hlegible => (Sql.matched_ofTemplate (hworded hlegible)).fragment
  | sourceQuery query label =>
    rw [Call.Inherits] at hinherits
    rw [Call.Worded] at hworded
    rw [Call.run, Call.run]
    have hquery := Subquery.agree_build query hinherits (fun hlegible => (hworded hlegible).1)
      h.grammars
    refine agree_attempt (hquery.bind ?_)
    intro found found' hfound
    have halias := h.aliasTable hfound.sql fun hlegible => (hworded hlegible).2
    dsimp only
    rw [hfound.values]
    exact agree_ok (h.setSource found'.2 fun hlegible => (halias hlegible).fragment)
  | groupBy columns =>
    have hfits : legible → Call.Fits _ b := fun hlegible => hworded hlegible b
    rw [Call.Fits] at hfits
    rw [Call.run, Call.run]
    exact agree_ok (h.idle (idle_groupBy b hfits) (idle_groupBy b' hfits))
  | orderBy column direction =>
    have hfits : legible → Call.Fits _ b := fun hlegible => hworded hlegible b
    rw [Call.Fits] at hfits
    rw [Call.run, Call.run]
    exact agree_ok (h.orderBy direction hfits)
  | orderByText column direction =>
    have hfits : legible → Call.Fits _ b := fun hlegible => hworded hlegible b
    rw [Call.Fits] at hfits
    rw [Call.run, Call.run]
    apply agree_attempt
    refine (agree_refl (R := Eq) fun _ _ => rfl).map ?_
    rintro direction _ rfl
    exact h.orderBy direction hfits
  | orderByRaw template values =>
    have hfits : legible → Call.Fits _ b := fun hlegible => hworded hlegible b
    rw [Call.Fits] at hfits
    rw [Call.run, Call.run]
    exact agree_ok (h.orderByRaw fun hlegible => ⟨hfits hlegible, hfits hlegible⟩)
  | inRandomOrder seed =>
    rw [Call.run, Call.run]
    exact agree_ok (h.inRandomOrder seed)
  | reorder =>
    rw [Call.run, Call.run]
    exact agree_ok h.reorder
  | limit n =>
    rw [Call.run, Call.run]
    exact agree_ok (h.idle (idle_limit b n) (idle_limit b' n))
  | offset n =>
    rw [Call.run, Call.run]
    exact agree_ok (h.idle (idle_offset b n) (idle_offset b' n))
  | forPage page perPage =>
    rw [Call.run, Call.run]
    exact agree_ok (h.idle (idle_forPage b page perPage) (idle_forPage b' page perPage))
  | union all member =>
    rw [Call.Inherits] at hinherits
    rw [Call.Worded] at hworded
    rw [Call.run, Call.run]
    refine agree_attempt ((Draft.agree_build member hinherits hworded h.grammars).bind ?_)
    intro rows rows' hrows
    exact agree_ok (h.addUnion all hrows)
  | lock l =>
    have hfits : legible → Call.Fits _ b := fun hlegible => hworded hlegible b
    rw [Call.Fits] at hfits
    rw [Call.run, Call.run]
    exact agree_ok (h.idle (idle_lock b hfits) (idle_lock b' hfits))
  | when condition calls =>
    rw [Call.Inherits] at hinherits
    rw [Call.Worded] at hworded
    rw [Call.run, Call.run]
    split
    . next hcondition =>
      exact Call.agree_runAll calls (hinherits hcondition)
        (fun hlegible => hworded hlegible hcondition) h
    . exact agree_ok h
  | addBindings bucket values =>
    rw [Call.run, Call.run]
    apply agree_ok
    unfold Builder.bind
    rw [h.bindings]
    exact h.withBindings _
  | setBindings bucket values =>
    rw [Call.run, Call.run]
    rw [h.bindings]
    exact agree_ok (h.withBindings _)
  | mergeBindings other =>
    rw [Call.Inherits] at hinherits
    rw [Call.run, Call.run]
    -- Nothing of the other builder is written, so its templates may be anything.
    have hother : Agree (Alike False) (other.build b.grammar) (other.build b'.grammar) :=
      Draft.agree_build other hinherits False.elim False.elim
    refine agree_attempt (hother.bind ?_)
    intro rows rows' hrows
    unfold Builder.mergeBindings
    rw [h.bindings, hrows.bindings]
    exact agree_ok (h.withBindings _)

theorem Call.agree_runAll (calls : List Call) {legible : Prop} {b b' : Builder}
    (hinherits : Call.AllInherit calls) (hworded : legible → Call.AllWorded calls)
    (h : Alike legible b b')
    : Agree (Alike legible) (Call.runAll calls b).toExcept (Call.runAll calls b').toExcept := by
  cases calls with
  | nil =>
    rw [Call.runAll, Call.runAll]
    exact agree_ok h
  | cons call calls =>
    rw [Call.AllInherit] at hinherits
    rw [Call.AllWorded] at hworded
    rw [Call.toExcept_runAll_cons, Call.toExcept_runAll_cons]
    have hfirst := Call.agree_run call hinherits.1 (fun hlegible => (hworded hlegible).1) h
    refine hfirst.bind ?_
    intro c c' hc
    exact Call.agree_runAll calls hinherits.2 (fun hlegible => (hworded hlegible).2) hc

theorem Draft.agree_build (draft : Draft) {legible : Prop} {g g' : Grammar}
    (hinherits : draft.Inherits) (hworded : legible → draft.Worded)
    (hg : legible → g.Unmarked ∧ g'.Unmarked)
    : Agree (Alike legible) (draft.build g) (draft.build g') := by
  cases draft with
  | mk grammar calls =>
    rw [Draft.Inherits] at hinherits
    rw [Draft.Worded] at hworded
    obtain ⟨rfl, hinherits⟩ := hinherits
    rw [Draft.build, Draft.build]
    exact Call.agree_runAll calls hinherits hworded (alike_new hg)

theorem Subquery.agree_build (query : Subquery) {legible : Prop} {g g' : Grammar}
    (hinherits : query.Inherits) (hworded : legible → query.Worded)
    (hg : legible → g.Unmarked ∧ g'.Unmarked)
    : Agree (Subquery.Alike legible) (query.build g) (query.build g') := by
  cases query with
  | text text =>
    rw [Subquery.Worded] at hworded
    rw [Subquery.build, Subquery.build]
    apply agree_refl
    intro found hfound
    split at hfound
    . cases hfound
    . cases hfound
      exact ⟨rfl, fun hlegible => .refl (Sql.emits_text (hworded hlegible)).filled⟩
  | draft query =>
    rw [Subquery.Inherits] at hinherits
    rw [Subquery.Worded] at hworded
    rw [Subquery.build, Subquery.build]
    refine (Draft.agree_build query hinherits hworded hg).bind ?_
    intro rows rows' hrows found found' hfound hfound'
    obtain ⟨sql, hsql, hfound⟩ := bind_eq_ok.mp hfound
    obtain ⟨sql', hsql', hfound'⟩ := bind_eq_ok.mp hfound'
    cases hfound
    cases hfound'
    exact ⟨hrows.values, hrows.matched_sql hsql hsql'⟩

end

/-! ### What the calls lead to -/

namespace Builder

variable {g g' : Grammar} {calls : List Call} {b b' : Builder}

/--
The buckets, the values that orderings of a whole carry and the values of the statement do not
depend on the grammar. If the templates fit their values, neither do the question marks: there are
as many of them, and each stands for the same value, whatever became of the values in the buckets.
-/
theorem bindings_independent_of_grammar (hinherits : Call.AllInherit calls)
    (hb : ofCalls g calls = .ok b) (hb' : ofCalls g' calls = .ok b')
    : (∀ k, b.bindings.get k = b'.bindings.get k) ∧
        b.query.carriedValues = b'.query.carriedValues ∧ b.values = b'.values ∧
        (g.Unmarked → g'.Unmarked → Call.AllWorded calls →
          ∀ sql sql', b.sql = .ok sql → b'.sql = .ok sql' →
            sql.marks = sql'.marks ∧
              sql.text.toList.count '?' = sql'.text.toList.count '?') := by
  have halike : ∀ legible : Prop, (legible → Call.AllWorded calls) →
      (legible → g.Unmarked ∧ g'.Unmarked) → Alike legible b b' := fun legible hworded hg =>
    Call.agree_runAll calls hinherits hworded (alike_new hg) b b' hb hb'
  have hvalues := halike False False.elim False.elim
  have hbuckets : ∀ k, b.bindings.get k = b'.bindings.get k := by
    rw [hvalues.bindings]
    exact fun _ => rfl
  refine ⟨hbuckets, hvalues.carried, hvalues.values, ?_⟩
  intro hg hg' hworded sql sql' hsql hsql'
  have halike := halike True (fun _ => hworded) fun _ => ⟨hg, hg'⟩
  have hmatched := halike.matched_sql hsql hsql' trivial
  have hmarks : sql.marks = sql'.marks :=
    calc sql.marks
      _ = sql.values.map some := hmatched.left
      _ = sql'.values.map some := by rw [hmatched.slots]
      _ = sql'.marks := Eq.symm hmatched.right
  refine ⟨hmarks, ?_⟩
  rw [← Sql.length_marks, ← Sql.length_marks, hmarks]

/-- Subqueries of both kinds, a source that gives way to another, and values by hand. -/
def portableCalls : List Call := [
  .sourceRaw "f(?)" [.int 2],
  .table (.name "t"),
  .selectQuery (.draft ⟨none, [.table (.name "u"), .filterNull .and (.name "k") false, .offset 3,
    .havingRaw .and "n > ?" [.int 1]]⟩) "first",
  .filterAmongRows .and (.name "id") ⟨none, [.table (.name "v"),
    .filterDate .or .year (.name "at") ">" (.value (.int 3))]⟩ true,
  .when true [.addBindings .join [.null]],
  .union true ⟨none, [.table (.name "w"), .lock .shared]⟩,
  .orderByRaw "g(?)" [.int 4]]

theorem portableCalls_independent_of_grammar
    : Call.AllInherit portableCalls ∧ Call.AllWorded portableCalls ∧
        ∃ b b' sql sql', ofCalls ⟨.mysql, ""⟩ portableCalls = .ok b ∧
          ofCalls ⟨.sqlite, "p_"⟩ portableCalls = .ok b' ∧ b.values = b'.values ∧
          b.values = [.int 1, .int 2, .null, .int 3, .int 4] ∧ b.sql = .ok sql ∧ b'.sql = .ok sql' ∧
          sql.text ≠ sql'.text ∧ sql.marks = sql'.marks ∧
          sql.text.toList.count '?' = sql'.text.toList.count '?' := by
  have hinherits : Call.AllInherit portableCalls := by
    simp [portableCalls, Call.AllInherit, Call.Inherits, Draft.Inherits, Subquery.Inherits]
  have : Nonempty Builder := ⟨new ⟨.mysql, ""⟩⟩
  have hworded : Call.AllWorded portableCalls := by
    simp only [portableCalls, Call.AllWorded, Call.Worded, Draft.Worded, Subquery.Worded, Call.Fits,
      Table.Unmarked, Column.Unmarked, Operand.Unmarked, Lock.Unmarked, Sql.Fits, forall_const]
    decide
  obtain ⟨b, hb⟩ : ∃ b, ofCalls ⟨.mysql, ""⟩ portableCalls = .ok b := ⟨_, rfl⟩
  obtain ⟨b', hb'⟩ : ∃ b', ofCalls ⟨.sqlite, "p_"⟩ portableCalls = .ok b' := ⟨_, rfl⟩
  obtain ⟨-, -, hvalues, hcount⟩ := bindings_independent_of_grammar hinherits hb hb'
  cases hb
  cases hb'
  have hmarks := hcount (by decide) (by decide) hworded _ _ rfl rfl
  refine ⟨hinherits, hworded, _, _, _, _, rfl, rfl, hvalues, rfl, rfl, rfl, ?_, hmarks⟩
  decide +kernel

end Builder

end SqlForge
