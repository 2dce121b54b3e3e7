import SqlForge.Proofs.Builder.Bound
import SqlForge.Proofs.Builder.Locality
import SqlForge.Proofs.Builder.Made
import SqlForge.Proofs.Select.Containment
import SqlForge.Write.Change

/-!
When a statement of a builder cannot be written. No call puts a test of documents among the
conditions on groups, so these never stand in the way; a changing statement looks at no more than
the clauses of the shape it takes.
-/

namespace SqlForge

def Select.TestsGroups (q : Select) : Prop :=
  HaveContainment (clauseConditions q.havings)

/--
A test of documents stands where the statement is written: in the conditions on rows, in those of
a join or of a join inside it, to any depth of groups and of the statements in these conditions, or
in a further member.
-/
def Select.WritesContainment (q : Select) : Prop :=
  HaveContainment (clauseConditions q.wheres) ∨
    HaveContainment ((nestedJoins q.joins).flatMap fun join => clauseConditions join.conditions) ∨
    ∃ member ∈ q.unions, member.query.HasContainment

theorem Select.hasContainment_iff_writesContainment {q : Select} (h : ¬q.TestsGroups)
    : q.HasContainment ↔ q.WritesContainment := by
  unfold TestsGroups at h
  rw [hasContainment_iff, conditions, haveContainment_append, haveContainment_append,
    or_iff_left h, or_assoc, WritesContainment]

/-! ### Conditions on groups -/

theorem Bound.not_haveContainment_compare {g : Grammar} {column : Column} {operator : String}
    {operand : Operand} {bound : Bound} (h : Bound.compare g column operator operand = .ok bound)
    : ¬HaveContainment bound.condition.conditions := by
  rw [haveContainment_conditions]
  obtain ⟨_, ⟨_, negated, rfl⟩ | ⟨_, rfl⟩⟩ := Bound.compare_cases h
  . exact id
  . exact id

namespace Builder

variable {b : Builder}

theorem not_testsGroups_having (c : Connective) {bound : Bound} (h : ¬b.query.TestsGroups)
    (hbound : ¬HaveContainment bound.condition.conditions)
    : ¬(b.having c bound).query.TestsGroups := by
  change ¬HaveContainment (clauseConditions (b.query.havings ++ [⟨c, bound.condition⟩]))
  rw [clauseConditions_append, haveContainment_append, clauseConditions_cons,
    haveContainment_append]
  rintro (hbefore | hadded | hnone)
  . exact h hbefore
  . exact hbound hadded
  . rw [clauseConditions] at hnone
    exact haveContainment_nil.mp hnone

end Builder

namespace Call

open Builder Outcome

variable {b : Builder}

theorem not_testsGroups_of_family {call : Call} {f : Family} (hf : call.family? = some f)
    (h : ¬b.query.TestsGroups) : ¬(call.run b).builder.query.TestsGroups := by
  by_cases hhavings : f = .havings
  . subst hhavings
    cases call with
    | having c column operator operand =>
      rw [run]
      cases hbound : Bound.compare b.grammar column operator operand with
      | error e => exact h
      | ok bound => exact not_testsGroups_having c h (Bound.not_haveContainment_compare hbound)
    | havingRaw c template values =>
      rw [run]
      exact not_testsGroups_having c h (haveContainment_conditions _).mp
    | havingBetween column low high =>
      rw [run]
      exact not_testsGroups_having .and h (haveContainment_conditions _).mp
    | _ => cases hf
  . have hpart := (owned_run hf).others b hhavings
    have hsame : (call.run b).builder.query.havings = b.query.havings :=
      congrArg (fun b => b.query.havings) hpart
    unfold Select.TestsGroups
    rw [hsame]
    exact h

mutual
theorem not_testsGroups_run {b : Builder} (call : Call) (h : ¬b.query.TestsGroups)
    : ¬(call.run b).builder.query.TestsGroups := by
  cases call with
  | when condition calls =>
    rw [run]
    split
    . exact not_testsGroups_runAll calls h
    . exact h
  | addBindings bucket values =>
    rw [run]
    exact h
  | setBindings bucket values =>
    rw [run]
    exact h
  | mergeBindings other =>
    rw [run]
    cases other.build b.grammar <;> exact h
  | _ => exact not_testsGroups_of_family rfl h

theorem not_testsGroups_runAll {b : Builder} (calls : List Call) (h : ¬b.query.TestsGroups)
    : ¬(runAll calls b).builder.query.TestsGroups := by
  cases calls with
  | nil =>
    rw [runAll]
    exact h
  | cons call calls =>
    have hfirst := not_testsGroups_run call h
    cases hcall : (call.run b).failure with
    | none =>
      rw [runAll_cons_of_ok hcall]
      exact not_testsGroups_runAll calls hfirst
    | some e =>
      rw [runAll_cons_of_failure hcall]
      exact hfirst
end

end Call

namespace Builder

/--
What calls lead to, whether or not they succeed, also from builders that lack some of their parts
or evaluate an aggregate.
-/
inductive Derived : Builder → Prop where
  | new (g : Grammar) : Derived (new g)
  | ofTable (g : Grammar) (t : Table) : Derived (ofTable g t)
  | nested {b : Builder} : Derived b → Derived b.nested
  | run {b : Builder} (call : Call) : Derived b → Derived (call.run b).builder
  | without {b : Builder} (components : List Component) : Derived b →
      Derived (b.without components)
  | withoutBindings {b : Builder} (buckets : List Bucket) : Derived b →
      Derived (b.withoutBindings buckets)
  | aggregate {b : Builder} (function : String) (columns : List Column) : Derived b →
      Derived (b.aggregate function columns)

theorem Made.derived {b : Builder} (hb : b.Made) : b.Derived := by
  induction hb with
  | new g => exact .new g
  | ofTable g t => exact .ofTable g t
  | nested _ ih => exact ih.nested
  | run call _ ih => exact ih.run call

theorem not_testsGroups_without {q : Select} (components : List Component) (h : ¬q.TestsGroups)
    : ¬(components.foldl Select.without q).TestsGroups := by
  induction components generalizing q with
  | nil => exact h
  | cons component components ih =>
    apply ih
    cases component with
    | havings =>
      change ¬HaveContainment (clauseConditions [])
      rw [clauseConditions, haveContainment_nil]
      exact id
    | _ => exact h

theorem Derived.not_testsGroups {b : Builder} (hb : b.Derived) : ¬b.query.TestsGroups := by
  have hempty : ¬HaveContainment (clauseConditions []) := by
    rw [clauseConditions, haveContainment_nil]
    exact id
  induction hb with
  | new g => exact hempty
  | ofTable g t => exact hempty
  | nested _ _ => exact hempty
  | run call _ ih => exact call.not_testsGroups_run ih
  | without components _ ih => exact not_testsGroups_without components ih
  | withoutBindings buckets _ ih => exact ih
  | aggregate function columns _ ih =>
    unfold Builder.aggregate
    dsimp only
    split
    . exact ih
    . exact not_testsGroups_without [.columns] ih

end Builder

/-! ### Statements -/

def Source.isRaw : Source → Bool
  | .table (.name _) => false
  | .table (.raw _) | .fragment _ => true

theorem Select.failsFor_renderWheres (g : Grammar) (q : Select)
    : FailsFor g (HaveContainment (clauseConditions q.wheres)) (q.renderWheres g) := by
  unfold renderWheres
  split
  . next hempty =>
    rw [List.isEmpty_iff.mp hempty, clauseConditions]
    exact (FailsFor.ok _).congr haveContainment_nil.symm
  . exact (failsFor_renderClauses g q.wheres).map _

namespace Builder

variable {b : Builder} {e : Failure} {source : Source}

/-- Why an UPDATE or a DELETE is not written. -/
inductive ChangeFails (b : Builder) (t : Target) : Failure → Prop where
  | noSource : b.query.source = none → ChangeFails b t (.missingTable t)
  /-- The rows would have to be named, and there is no name to do it by. -/
  | rawSource {source : Source} : b.query.source = some source → source.isRaw →
      b.grammar.dialect ≠ .mysql → ¬b.isPlain → ChangeFails b t (.missingTable .rowIds)
  | wheres {source : Source} : b.query.source = some source → b.grammar.dialect = .sqlite →
      b.isPlain → HaveContainment (clauseConditions b.query.wheres) →
      ChangeFails b t (.unsupported .sqlite .jsonContainment)
  | rows {source : Source} : b.query.source = some source → ¬source.isRaw →
      b.grammar.dialect = .sqlite → ¬b.isPlain → b.query.WritesContainment →
      ChangeFails b t (.unsupported .sqlite .jsonContainment)

theorem rowIdentities_of_raw (hsource : b.query.source = some source) (hraw : source.isRaw)
    : b.rowIdentities = .error (.missingTable .rowIds) := by
  unfold rowIdentities
  rw [hsource]
  split
  . next heq =>
    cases heq
    cases hraw
  . rfl

/-- Other columns and no aggregate: the conditions and the members are those of the builder. -/
theorem rowIdentities_of_named (hsource : b.query.source = some source) (hnamed : ¬source.isRaw)
    : ∃ rows, b.rowIdentities = .ok rows ∧ (rows.HasContainment ↔ b.query.HasContainment) := by
  unfold rowIdentities
  rw [hsource]
  split
  . exact ⟨_, rfl, Select.hasContainment_iff.trans (Select.hasContainment_iff (q := b.query)).symm⟩
  . next hother =>
    rcases source with (name | sql) | sql
    . exact absurd rfl (hother name)
    . exact absurd rfl hnamed
    . exact absurd rfl hnamed

theorem isRow_of_raw (hsource : b.query.source = some source) (hraw : source.isRaw)
    : b.isRow = .error (.missingTable .rowIds) := by
  unfold isRow
  rw [rowIdentities_of_raw hsource hraw, error_bind]

theorem failsFor_isRow (hgroups : ¬b.query.TestsGroups) (hsource : b.query.source = some source)
    (hnamed : ¬source.isRaw) : FailsFor b.grammar b.query.WritesContainment b.isRow := by
  obtain ⟨rows, hrows, hsame⟩ := rowIdentities_of_named hsource hnamed
  rw [Select.hasContainment_iff_writesContainment hgroups] at hsame
  unfold isRow
  rw [hrows, ok_bind]
  exact ((rows.failsFor_render b.grammar).map _).congr hsame

/-! ### The shapes of a changing statement -/

variable {t : Target}

theorem changeFails_of_none (hsource : b.query.source = none)
    : b.ChangeFails t e ↔ .missingTable t = e := by
  constructor
  . intro h
    cases h with
    | noSource => rfl
    | rawSource h => simp [hsource] at h
    | wheres h => simp [hsource] at h
    | rows h => simp [hsource] at h
  . rintro rfl
    exact .noSource hsource

theorem not_changeFails_of_mysql (hsource : b.query.source = some source)
    (hdialect : b.grammar.dialect = .mysql) : ¬b.ChangeFails t e := by
  intro h
  cases h with
  | noSource h => simp [hsource] at h
  | rawSource _ _ h => exact h hdialect
  | wheres _ h => simp [hdialect] at h
  | rows _ _ h => simp [hdialect] at h

theorem changeFails_of_isPlain (hsource : b.query.source = some source) (hplain : b.isPlain)
    : b.ChangeFails t e ↔
      (b.grammar.dialect = .sqlite ∧ HaveContainment (clauseConditions b.query.wheres)) ∧
        e = .unsupported .sqlite .jsonContainment := by
  constructor
  . intro h
    cases h with
    | noSource h => simp [hsource] at h
    | rawSource _ _ _ h => exact absurd hplain h
    | wheres _ hdialect _ hwheres => exact ⟨⟨hdialect, hwheres⟩, rfl⟩
    | rows _ _ _ h => exact absurd hplain h
  . rintro ⟨⟨hdialect, hwheres⟩, rfl⟩
    exact .wheres hsource hdialect hplain hwheres

theorem changeFails_of_not_isPlain (hgroups : ¬b.query.TestsGroups)
    (hsource : b.query.source = some source) (hdialect : b.grammar.dialect ≠ .mysql)
    (hplain : ¬b.isPlain)
    : b.ChangeFails t e ↔ b.isRow = .error e := by
  constructor
  . intro h
    cases h with
    | noSource h => simp [hsource] at h
    | rawSource hother hraw => exact isRow_of_raw hother hraw
    | wheres _ _ h => exact absurd h hplain
    | rows hother hnamed hsqlite _ hrows =>
      exact (failsFor_isRow hgroups hother hnamed _).mpr ⟨⟨hsqlite, hrows⟩, rfl⟩
  . intro h
    by_cases hraw : source.isRaw
    . rw [isRow_of_raw hsource hraw] at h
      cases h
      exact .rawSource hsource hraw hdialect hplain
    . obtain ⟨⟨hsqlite, hrows⟩, rfl⟩ := (failsFor_isRow hgroups hsource hraw e).mp h
      exact .rows hsource hraw hsqlite hplain hrows

/-- In one dialect every test can be written. -/
theorem exists_clauses_of_mysql (hdialect : b.grammar.dialect = .mysql)
    : ∃ joins wheres, renderJoins b.grammar b.query.joins = .ok joins ∧
        b.query.renderWheres b.grammar = .ok wheres := by
  have hne : b.grammar.dialect ≠ .sqlite := by simp [hdialect]
  obtain ⟨joins, hjoins⟩ := (failsFor_renderJoins b.grammar b.query.joins).exists_ok hne
  obtain ⟨wheres, hwheres⟩ := (b.query.failsFor_renderWheres b.grammar).exists_ok hne
  exact ⟨joins, wheres, hjoins, hwheres⟩

/-- In the others the rows are named by the conditions, or by their identities. -/
theorem rowsChanged_eq_error_iff (hgroups : ¬b.query.TestsGroups)
    (hsource : b.query.source = some source) (hdialect : b.grammar.dialect ≠ .mysql)
    (plain nested : Sql → Sql)
    : (if b.isPlain then do
        let wheres ← b.query.renderWheres b.grammar
        return plain wheres
      else do
        let isRow ← b.isRow
        return nested isRow) = .error e ↔ b.ChangeFails t e := by
  split
  . next hplain =>
    rw [changeFails_of_isPlain hsource hplain]
    exact ((b.query.failsFor_renderWheres b.grammar).map _) e
  . next hplain =>
    rw [changeFails_of_not_isPlain hgroups hsource hdialect hplain]
    exact bind_pure_eq_error

theorem updateSql_eq_error_iff (hgroups : ¬b.query.TestsGroups) {r : Record}
    : b.updateSql r = .error e ↔ b.ChangeFails .update e := by
  unfold updateSql target
  cases hsource : b.query.source with
  | none => rw [changeFails_of_none hsource, error_bind, Except.error.injEq]
  | some source =>
    rw [ok_bind]
    dsimp only
    split
    . next hdialect =>
      obtain ⟨joins, wheres, hjoins, hwheres⟩ := exists_clauses_of_mysql hdialect
      rw [hjoins, ok_bind, hwheres, ok_bind]
      exact iff_of_false nofun (not_changeFails_of_mysql hsource hdialect)
    all_goals
      next hdialect => exact rowsChanged_eq_error_iff hgroups hsource (by simp [hdialect]) _ _

theorem deleteSql_eq_error_iff (hgroups : ¬b.query.TestsGroups)
    : b.deleteSql = .error e ↔ b.ChangeFails .delete e := by
  unfold deleteSql target
  cases hsource : b.query.source with
  | none => rw [changeFails_of_none hsource, error_bind, Except.error.injEq]
  | some source =>
    rw [ok_bind]
    split
    . next hdialect =>
      obtain ⟨joins, wheres, hjoins, hwheres⟩ := exists_clauses_of_mysql hdialect
      rw [hjoins, ok_bind, hwheres, ok_bind]
      apply iff_of_false _ (not_changeFails_of_mysql hsource hdialect)
      split <;> nofun
    all_goals
      next hdialect => exact rowsChanged_eq_error_iff hgroups hsource (by simp [hdialect]) _ _

/-! ### Groups and joins -/

-- Of the builder of a group only the conditions on rows are kept.
theorem hasContainment_filterGroup (c : Connective) (inner : Builder)
    : (b.filterGroup c inner).query.HasContainment ↔
      b.query.HasContainment ∨ HaveContainment (clauseConditions inner.query.wheres) := by
  unfold filterGroup
  split
  . next hempty =>
    rw [List.isEmpty_iff.mp hempty, clauseConditions, haveContainment_nil, or_false]
  . have hgroup := haveContainment_conditions (.group inner.query.wheres)
    dsimp only at hgroup
    rw [Select.hasContainment_iff, Select.hasContainment_iff]
    simp only [filter, Select.conditions, clauseConditions_append, clauseConditions,
      List.append_nil, haveContainment_append, hgroup]
    grind

-- Of the builder of a join, its joins as well.
theorem hasContainment_addJoin (kind : JoinKind) (source : Source) (inner : Builder)
    : (b.addJoin kind source inner).query.HasContainment ↔
      b.query.HasContainment ∨ HaveContainment (clauseConditions inner.query.wheres) ∨
        HaveContainment
          ((nestedJoins inner.query.joins).flatMap fun join => clauseConditions join.conditions) := by
  rw [Select.hasContainment_iff, Select.hasContainment_iff]
  simp only [addJoin, Select.conditions, nestedJoins_append, nestedJoins, Join.joins,
    List.append_nil, List.flatMap_append, List.flatMap_cons, haveContainment_append]
  grind

/--
When the statements of a builder cannot be written, and why. What the builder of a group or a join
holds makes a difference only as far as it is written: the conditions, and the joins of a join.
-/
theorem statement_failures {b : Builder} (hb : b.Derived) (r : Record) (e : Failure)
    : (b.sql = .error e ↔
        (b.grammar.dialect = .sqlite ∧ b.query.WritesContainment) ∧
          e = .unsupported .sqlite .jsonContainment) ∧
      (b.update r = .error e ↔ b.ChangeFails .update e) ∧
      (b.delete = .error e ↔ b.ChangeFails .delete e) ∧
      (∀ c inner, (b.filterGroup c inner).sql = .error e ↔
        (b.grammar.dialect = .sqlite ∧
            (b.query.WritesContainment ∨ HaveContainment (clauseConditions inner.query.wheres))) ∧
          e = .unsupported .sqlite .jsonContainment) ∧
      ∀ kind source inner, (b.addJoin kind source inner).sql = .error e ↔
        (b.grammar.dialect = .sqlite ∧
            (b.query.WritesContainment ∨ HaveContainment (clauseConditions inner.query.wheres) ∨
              HaveContainment ((nestedJoins inner.query.joins).flatMap
                fun join => clauseConditions join.conditions))) ∧
          e = .unsupported .sqlite .jsonContainment := by
  have hgroups := hb.not_testsGroups
  have hwrites := Select.hasContainment_iff_writesContainment hgroups
  refine ⟨?_, ?_, ?_, ?_, ?_⟩
  . exact ((b.query.failsFor_render b.grammar).congr hwrites) e
  . exact bind_pure_eq_error.trans (updateSql_eq_error_iff hgroups)
  . exact bind_pure_eq_error.trans (deleteSql_eq_error_iff hgroups)
  . intro c inner
    have hgrammar : (b.filterGroup c inner).grammar = b.grammar := by
      unfold filterGroup
      split <;> rfl
    have hsql := (b.filterGroup c inner).query.failsFor_render (b.filterGroup c inner).grammar
    rw [hgrammar] at hsql
    rw [← hwrites, ← hasContainment_filterGroup, sql, hgrammar]
    exact hsql e
  . intro kind source inner
    rw [← hwrites, ← hasContainment_addJoin]
    exact (b.addJoin kind source inner).query.failsFor_render b.grammar e

def labelled : Draft :=
  ⟨none, [.table (.name "labels"), .filterJson .or (.name "doc") (.integer 1) true]⟩

/--
The test stands in a statement in a group of a join inside a join; and, where it does no harm, in a
member of a compound statement that the builder of a group makes.
-/
def deeplyTested : Builder :=
  (Call.runAll [
      .filterGroup .and [.union true labelled, .filterNull .and (.name "age") true],
      .joinWith .left (.name "posts") [
        .joinWith .inner (.name "tags") [
          .filterGroup .or [.filterNull .and (.name "a") false, .filterExists .and labelled true]]]]
    (ofTable ⟨.sqlite, ""⟩ (.name "users"))).builder

theorem deeplyTested_failures
    : deeplyTested.Derived ∧
        deeplyTested.sql = .error (.unsupported .sqlite .jsonContainment) ∧
        deeplyTested.update (.ofList [("age", .value (.int 1))])
          = .error (.unsupported .sqlite .jsonContainment) ∧
        deeplyTested.delete = .error (.unsupported .sqlite .jsonContainment) := by
  have hderived : deeplyTested.Derived := ((Made.ofTable _ _).runAll _).derived
  obtain ⟨hsql, hupdate, hdelete, -⟩ := statement_failures hderived
    (.ofList [("age", .value (.int 1))]) (.unsupported .sqlite .jsonContainment)
  have hwrites : deeplyTested.query.WritesContainment := by
    -- Behind the group and its first condition.
    refine .inr (.inl ⟨_, .tail _ (.tail _ (.head _)), .inr ⟨_, rfl, _, .self, _, .head _, rfl⟩⟩)
  refine ⟨hderived, hsql.mpr ⟨⟨rfl, hwrites⟩, rfl⟩, hupdate.mpr ?_, hdelete.mpr ?_⟩
  . exact .rows rfl nofun rfl nofun hwrites
  . exact .rows rfl nofun rfl nofun hwrites

end Builder

end SqlForge
