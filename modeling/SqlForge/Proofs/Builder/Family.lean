import SqlForge.Builder.Call
import SqlForge.Proofs.Except

/-!
Calls fall into families, each with a part of the builder. A call writes the part of its family and
leaves the others as they are; apart from the grammar it reads nothing but that part. The one call
that looks further is the group: its builder knows the source, and no condition is written with it.
-/

namespace SqlForge

inductive Family where
  | columns
  | distinct
  | source
  | joins
  | wheres
  | groups
  | havings
  /-- Orderings, paging and compound statements. -/
  | orders
  | lock
  deriving DecidableEq, Repr

/-- The family of a call. Sequences of calls and values by hand have none. -/
def Call.family? : Call → Option Family
  | .filter .. | .filterEqual .. | .filterPairs .. | .filterRaw .. | .filterColumns ..
  | .filterAmong .. | .filterAmongRows .. | .filterNull .. | .filterBetween .. | .filterGroup ..
  | .filterExists .. | .filterQuery .. | .filterQueryWith .. | .filterDate .. | .filterRow ..
  | .filterJson .. => some .wheres
  | .having .. | .havingRaw .. | .havingBetween .. => some .havings
  | .join .. | .joinWhere .. | .joinWith .. | .crossJoin .. | .joinQuery .. | .crossJoinQuery .. =>
    some .joins
  | .select .. | .addSelect .. | .selectRaw .. | .selectQuery .. => some .columns
  | .distinct => some .distinct
  | .table .. | .sourceRaw .. | .sourceQuery .. => some .source
  | .groupBy .. => some .groups
  | .orderBy .. | .orderByText .. | .orderByRaw .. | .inRandomOrder .. | .reorder | .limit ..
  | .offset .. | .forPage .. | .union .. => some .orders
  | .lock .. => some .lock
  | .when .. | .addBindings .. | .setBindings .. | .mergeBindings .. => none

namespace Builder

/-- What belongs to no family. -/
def shell (b : Builder) : Builder where
  grammar := b.grammar
  query := { Select.empty with aggregate := b.query.aggregate }

/-- The part of one family, with nothing in the others. -/
def only : Family → Builder → Builder
  | .columns, b =>
    { b.shell with
      query := { b.shell.query with selections := b.query.selections }
      bindings := { select := b.bindings.select } }
  | .distinct, b =>
    { b.shell with query := { b.shell.query with distinct := b.query.distinct } }
  | .source, b =>
    { b.shell with
      query := { b.shell.query with source := b.query.source }
      bindings := { source := b.bindings.source } }
  | .joins, b =>
    { b.shell with
      query := { b.shell.query with joins := b.query.joins }
      bindings := { join := b.bindings.join } }
  | .wheres, b =>
    { b.shell with
      query := { b.shell.query with wheres := b.query.wheres }
      bindings := { filter := b.bindings.filter } }
  | .groups, b =>
    { b.shell with query := { b.shell.query with groups := b.query.groups } }
  | .havings, b =>
    { b.shell with
      query := { b.shell.query with havings := b.query.havings }
      bindings := { having := b.bindings.having } }
  | .orders, b =>
    { b.shell with
      query := { b.shell.query with
        orders := b.query.orders
        limit := b.query.limit
        offset := b.query.offset
        unions := b.query.unions
        unionOrders := b.query.unionOrders
        unionLimit := b.query.unionLimit
        unionOffset := b.query.unionOffset }
      bindings := { order := b.bindings.order, union := b.bindings.union } }
  | .lock, b =>
    { b.shell with query := { b.shell.query with lock := b.query.lock } }

@[simp]
theorem grammar_only (f : Family) (b : Builder) : (b.only f).grammar = b.grammar := by
  cases f <;> rfl

@[simp]
theorem only_only (f : Family) (b : Builder) : (b.only f).only f = b.only f := by
  cases f <;> rfl

theorem shell_only (f : Family) (b : Builder) : (b.only f).shell = b.shell := by
  cases f <;> rfl

theorem shell_eq_iff {b b' : Builder}
    : b.shell = b'.shell ↔
      b.grammar = b'.grammar ∧ b.query.aggregate = b'.query.aggregate := by
  simp [shell]

theorem aliasColumn_only (f : Family) (b : Builder) (sql : Sql) (label : String)
    : (b.only f).aliasColumn sql label = b.aliasColumn sql label := by
  unfold aliasColumn
  rw [grammar_only]

theorem aliasTable_only (f : Family) (b : Builder) (sql : Sql) (label : String)
    : (b.only f).aliasTable sql label = b.aliasTable sql label := by
  unfold aliasTable
  rw [grammar_only]

theorem only_nested (b : Builder) : b.nested.only .wheres = (new b.grammar).only .wheres := rfl

theorem ext_only {b b' : Builder} (h : ∀ f, b.only f = b'.only f) : b = b' := by
  have hcolumns := h .columns
  have hdistinct := h .distinct
  have hsource := h .source
  have hjoins := h .joins
  have hwheres := h .wheres
  have hgroups := h .groups
  have hhavings := h .havings
  have horders := h .orders
  have hlock := h .lock
  obtain ⟨g, q, v⟩ := b
  obtain ⟨g', q', v'⟩ := b'
  cases q
  cases q'
  cases v
  cases v'
  simp_all [only, shell]

end Builder

/-- The step writes the part of the family, and reads nothing else. -/
structure Family.Owns (f : Family) (step : Builder → Builder) : Prop where
  others : ∀ {l : Family} (b : Builder), f ≠ l → (step b).only l = b.only l
  own : ∀ b : Builder, (step b).only f = step (b.only f)

namespace Family

open Builder

variable {f : Family}

theorem Owns.comp {step step' : Builder → Builder} (h : f.Owns step) (h' : f.Owns step')
    : f.Owns fun b => step' (step b) where
  others b hne := by rw [h'.others (step b) hne, h.others b hne]
  own b := by rw [h'.own, h.own]

theorem owns_filter (c : Connective) (bound : Bound) : Owns .wheres fun b => b.filter c bound where
  others {l} b hne := by cases l <;> first | rfl | contradiction
  own _ := rfl

theorem owns_filterGroup (c : Connective) (inner : Builder)
    : Owns .wheres fun b => b.filterGroup c inner where
  others {l} b hne := by
    unfold filterGroup
    split
    . rfl
    . exact (owns_filter c _).others b hne
  own b := by
    unfold filterGroup
    split
    . rfl
    . exact (owns_filter c _).own b

theorem Owns.foldl {α : Type} {step : α → Builder → Builder} (h : ∀ a, f.Owns (step a))
    (l : List α) : f.Owns fun b => l.foldl (fun b a => step a b) b := by
  induction l with
  | nil => exact ⟨fun _ _ => rfl, fun _ => rfl⟩
  | cons a l ih => exact (h a).comp ih

theorem filterGroup_only (b inner : Builder) (c : Connective)
    : b.filterGroup c (inner.only .wheres) = b.filterGroup c inner := rfl

theorem owns_filterPairs (pairs : List (Column × Operand))
    : Owns .wheres fun b => b.filterPairs pairs where
  others {l} b hne := (owns_filterGroup .and _).others b hne
  own b := by
    have hpairs : Owns .wheres fun b => pairs.foldl (fun b pair =>
        b.filter .and (.equal pair.1 pair.2)) b :=
      Owns.foldl (fun pair => owns_filter .and (.equal pair.1 pair.2)) pairs
    have hinner := (hpairs.own b.nested).trans (hpairs.own (b.only .wheres).nested).symm
    unfold filterPairs
    rw [(owns_filterGroup .and _).own, ← filterGroup_only, hinner, filterGroup_only]

theorem owns_having (c : Connective) (bound : Bound) : Owns .havings fun b => b.having c bound where
  others {l} b hne := by cases l <;> first | rfl | contradiction
  own _ := rfl

theorem owns_bindJoin (values : List Value) : Owns .joins fun b => b.bind .join values where
  others {l} b hne := by cases l <;> first | rfl | contradiction
  own _ := rfl

theorem owns_addJoin (kind : JoinKind) (source : Source) (inner : Builder)
    : Owns .joins fun b => b.addJoin kind source inner where
  others {l} b hne := by cases l <;> first | rfl | contradiction
  own _ := rfl

theorem owns_crossJoin (source : Source) : Owns .joins fun b => b.crossJoin source where
  others {l} b hne := by cases l <;> first | rfl | contradiction
  own _ := rfl

theorem owns_joinOn (kind : JoinKind) (source : Source) (bound : Bound) : Owns .joins fun b =>
    b.addJoin kind source ((Builder.new b.grammar).filter .and bound) where
  others {l} b hne := by cases l <;> first | rfl | contradiction
  own _ := rfl

theorem owns_crossJoinQuery (sql : Sql) (values : List Value) (label : String)
    : Owns .joins fun b =>
      (b.bind .join values).crossJoin (.fragment (b.aliasTable sql label)) where
  others b hne := ((owns_bindJoin values).comp (owns_crossJoin _)).others b hne
  own b := by
    rw [aliasTable_only]
    exact ((owns_bindJoin values).comp (owns_crossJoin _)).own b

theorem owns_select (columns : List Column) : Owns .columns fun b => b.select columns where
  others {l} b hne := by cases l <;> first | rfl | contradiction
  own _ := rfl

theorem owns_addSelections (selections : List Selection) (values : List Value)
    : Owns .columns fun b => b.addSelections selections values where
  others {l} b hne := by cases l <;> first | rfl | contradiction
  own _ := rfl

theorem owns_selectQuery (sql : Sql) (values : List Value) (label : String)
    : Owns .columns fun b => b.selectQuery sql values label where
  others b hne := (owns_addSelections _ values).others b hne
  own b := by
    unfold selectQuery
    rw [aliasColumn_only]
    exact (owns_addSelections _ values).own b

theorem owns_distinct : Owns .distinct fun b => b.distinct where
  others {l} b hne := by cases l <;> first | rfl | contradiction
  own _ := rfl

theorem owns_setSource (source : Source) (values : List Value)
    : Owns .source fun b => b.setSource source values where
  others {l} b hne := by cases l <;> first | rfl | contradiction
  own _ := rfl

theorem owns_sourceQuery (sql : Sql) (values : List Value) (label : String)
    : Owns .source fun b => b.sourceQuery sql values label where
  others b hne := (owns_setSource _ values).others b hne
  own b := by
    unfold sourceQuery
    rw [aliasTable_only]
    exact (owns_setSource _ values).own b

theorem owns_groupBy (columns : List Column) : Owns .groups fun b => b.groupBy columns where
  others {l} b hne := by cases l <;> first | rfl | contradiction
  own _ := rfl

theorem owns_lock (l : Lock) : Owns .lock fun b => b.lock l where
  others {k} b hne := by cases k <;> first | rfl | contradiction
  own _ := rfl

theorem owns_orderBy (column : Column) (direction : Direction)
    : Owns .orders fun b => b.orderBy column direction where
  others {l} b hne := by
    unfold orderBy addOrdering
    split <;> cases l <;> first | rfl | contradiction
  own b := by
    have hcompound : (b.only .orders).isCompound = b.isCompound := rfl
    unfold orderBy addOrdering
    rw [hcompound]
    split <;> rfl

theorem owns_orderByRaw (template : String) (values : List Value)
    : Owns .orders fun b => b.orderByRaw template values where
  others {l} b hne := by
    unfold orderByRaw addOrdering
    dsimp only
    split <;> cases l <;> first | rfl | contradiction
  own b := by
    have hcompound : (b.only .orders).isCompound = b.isCompound := rfl
    unfold orderByRaw addOrdering
    dsimp only
    rw [hcompound]
    split <;> rfl

theorem owns_reorder : Owns .orders fun b => b.reorder where
  others {l} b hne := by cases l <;> first | rfl | contradiction
  own _ := rfl

theorem owns_limit (n : Int) : Owns .orders fun b => b.limit n where
  others {l} b hne := by
    unfold limit
    split
    . rfl
    . split <;> cases l <;> first | rfl | contradiction
  own b := by
    have hcompound : (b.only .orders).isCompound = b.isCompound := rfl
    unfold limit
    rw [hcompound]
    split
    . rfl
    . split <;> rfl

theorem owns_offset (n : Int) : Owns .orders fun b => b.offset n where
  others {l} b hne := by
    unfold offset
    split <;> cases l <;> first | rfl | contradiction
  own b := by
    have hcompound : (b.only .orders).isCompound = b.isCompound := rfl
    unfold offset
    rw [hcompound]
    split <;> rfl

theorem owns_addUnion (all : Bool) (member : Builder)
    : Owns .orders fun b => b.addUnion all member where
  others {l} b hne := by cases l <;> first | rfl | contradiction
  own _ := rfl

end Family

namespace Call

open Builder Outcome

/--
The call writes the part of the family, as it finds it, and leaves the other parts alone, also if it
fails. Whether it fails is up to the grammar.
-/
structure Owned (f : Family) (call : Call) : Prop where
  others : ∀ {l : Family} (b : Builder), f ≠ l → (call.run b).builder.only l = b.only l
  own : ∀ b : Builder, (call.run b).builder.only f = (call.run (b.only f)).builder.only f
  failure : ∀ {b b' : Builder}, b.grammar = b'.grammar →
    (call.run b).failure = (call.run b').failure

variable {f : Family} {call : Call}

theorem owned_of_attempt {α : Type} (x : Grammar → Except Failure α) (step : α → Builder → Builder)
    (hrun : ∀ b, call.run b = attempt b ((step · b) <$> x b.grammar)) (h : ∀ a, f.Owns (step a))
    : call.Owned f where
  others b hne := by
    rw [hrun]
    cases x b.grammar with
    | error e => rfl
    | ok a => exact (h a).others b hne
  own b := by
    rw [hrun, hrun, grammar_only]
    cases x b.grammar with
    | error e => exact (only_only f b).symm
    | ok a =>
      have hstep := (h a).own (b.only f)
      rw [only_only] at hstep
      exact ((h a).own b).trans hstep.symm
  failure {b b'} hg := by
    rw [hrun, hrun, hg]
    cases x b'.grammar <;> rfl

theorem owned_of_step (step : Builder → Builder) (hrun : ∀ b, call.run b = { builder := step b })
    (h : f.Owns step) : call.Owned f :=
  owned_of_attempt (fun _ => .ok ()) (fun _ => step) hrun fun _ => h

end Call

end SqlForge
