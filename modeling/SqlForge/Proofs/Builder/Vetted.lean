import SqlForge.Proofs.Builder.Bound
import SqlForge.Proofs.Builder.Locality
import SqlForge.Proofs.Builder.Made
import SqlForge.Proofs.Select.Parts

/-!
What stands in a statement has been looked at. Operators are those that the grammar of the builder
takes, on which they were recorded; nothing is compared with NULL; groups and rows have the shape
that they are written in; and what belongs to a compound statement stands in none that is not one.
Calls that fail, also half way through, keep it so.
-/

namespace SqlForge

open Builder Outcome

/-- The statement is that of a builder of its own. -/
def Select.Recorded (q : Select) : Prop :=
  ∃ b : Builder, b.Made ∧ b.query = q

/--
What holds of a condition that is recorded in the grammar `g`. A group has the conditions of a
builder of the same grammar, a subquery is the statement of a builder of any grammar.
-/
def Condition.Vetted (g : Grammar) : Condition → Prop
  | .compare _ operator operand => g.accepts operator ∧ operand.isNull = false
  | .compareDate _ _ operator operand => g.accepts operator ∧ operand.isNull = false
  | .compareColumns _ operator _ => g.accepts operator
  | .compareQuery _ operator query => g.accepts operator ∧ query.Recorded
  | .compareRow columns operator operands =>
    g.accepts operator ∧ operands.length = columns.length
  | .group clauses =>
    clauses ≠ [] ∧ ∃ b : Builder, b.Made ∧ b.grammar = g ∧ b.query.wheres = clauses
  | .amongRows _ query _ => query.Recorded
  | .exists query _ => query.Recorded
  | .raw _ | .among .. | .isNull .. | .between .. | .jsonContains .. => True

/-- The join has the joins and the conditions of a builder of the same grammar. -/
def Join.Vetted (g : Grammar) (join : Join) : Prop :=
  ∃ b : Builder, b.Made ∧ b.grammar = g ∧ b.query.joins = join.inner ∧
    b.query.wheres = join.conditions

structure Select.Vetted (g : Grammar) (q : Select) : Prop where
  conditions : ∀ condition ∈ q.conditions, condition.Vetted g
  joins : ∀ join ∈ nestedJoins q.joins, join.Vetted g
  members : ∀ member ∈ q.unions, member.query.Recorded
  orders : ∀ o ∈ q.orders, o.carried = []
  single : q.unions = [] → q.unionOrders = [] ∧ q.unionLimit = none ∧ q.unionOffset = none

theorem Select.Vetted.recorded_of_mem {g : Grammar} {q inner : Select} (h : q.Vetted g)
    (hinner : inner ∈ q.subqueries) : inner.Recorded := by
  unfold subqueries at hinner
  cases List.mem_append.mp hinner with
  | inl hcondition =>
    obtain ⟨condition, hmem, hquery⟩ := List.mem_filterMap.mp hcondition
    have hvetted := h.conditions condition hmem
    unfold Condition.query? at hquery
    split at hquery <;> cases hquery
    . exact hvetted
    . exact hvetted
    . exact hvetted.2
  | inr hmember =>
    obtain ⟨member, hmem, hquery⟩ := List.mem_map.mp hmember
    rw [← hquery]
    exact h.members member hmem

def Bound.Vetted (g : Grammar) (bound : Bound) : Prop :=
  ∀ condition ∈ bound.condition.conditions, condition.Vetted g

theorem Grammar.accepts_equal (g : Grammar) : g.accepts "=" := by
  have h : ∀ d : Dialect, d.accepts "=" := by
    intro d
    cases d <;> decide +kernel
  exact h g.dialect

namespace Bound

variable {g : Grammar} {bound : Bound} {column : Column} {operator : String} {operand : Operand}

theorem vetted_of_leaf (h : bound.condition.Vetted g)
    (hleaf : ∀ clauses, bound.condition ≠ .group clauses) : bound.Vetted g := by
  intro condition hcondition
  rw [Condition.conditions] at hcondition
  . rw [List.mem_singleton.mp hcondition]
    exact h
  . exact hleaf

theorem vetted_equal (column : Column) (operand : Operand) : (equal column operand).Vetted g := by
  unfold equal
  split
  . exact vetted_of_leaf trivial nofun
  . next hnull => exact vetted_of_leaf ⟨g.accepts_equal, by simpa using hnull⟩ nofun

theorem vetted_compare (h : compare g column operator operand = .ok bound) : bound.Vetted g := by
  obtain ⟨haccepts, ⟨_, negated, rfl⟩ | ⟨hnull, rfl⟩⟩ := compare_cases h
  . exact vetted_of_leaf trivial nofun
  . exact vetted_of_leaf ⟨haccepts, by simpa using hnull⟩ nofun

theorem vetted_compareDate {part : DatePart}
    (h : compareDate g part column operator operand = .ok bound) : bound.Vetted g := by
  obtain ⟨haccepts, hnull, rfl⟩ := compareDate_eq_ok.mp h
  exact vetted_of_leaf ⟨haccepts, by simpa using hnull⟩ nofun

theorem vetted_compareRow {columns : List Column} {operands : List Operand}
    (h : compareRow g columns operator operands = .ok bound) : bound.Vetted g := by
  obtain ⟨hlength, haccepts, rfl⟩ := compareRow_eq_ok.mp h
  exact vetted_of_leaf ⟨haccepts, hlength.symm⟩ nofun

theorem vetted_compareColumns {first second : Column}
    (h : compareColumns g first operator second = .ok bound) : bound.Vetted g := by
  obtain ⟨haccepts, rfl⟩ := compareColumns_eq_ok.mp h
  exact vetted_of_leaf haccepts nofun

theorem vetted_compareQuery {query : Builder} (hquery : query.Made)
    (h : compareQuery g column operator query = .ok bound) : bound.Vetted g := by
  obtain ⟨haccepts, rfl⟩ := compareQuery_eq_ok.mp h
  exact vetted_of_leaf ⟨haccepts, query, hquery, rfl⟩ nofun

end Bound

namespace Builder

def Vetted (b : Builder) : Prop := b.query.Vetted b.grammar

/-- What being vetted comes to for the part of one family. -/
def VettedIn : Family → Builder → Prop
  | .wheres, b => ∀ condition ∈ clauseConditions b.query.wheres, condition.Vetted b.grammar
  | .havings, b => ∀ condition ∈ clauseConditions b.query.havings, condition.Vetted b.grammar
  | .joins, b => ∀ join ∈ nestedJoins b.query.joins, join.Vetted b.grammar ∧
    ∀ condition ∈ clauseConditions join.conditions, condition.Vetted b.grammar
  | .orders, b =>
    (∀ member ∈ b.query.unions, member.query.Recorded) ∧ (∀ o ∈ b.query.orders, o.carried = []) ∧
      (b.query.unions = [] →
        b.query.unionOrders = [] ∧ b.query.unionLimit = none ∧ b.query.unionOffset = none)
  | _, _ => True

variable {f : Family} {b b' inner : Builder} {bound : Bound}

theorem vetted_iff : b.Vetted ↔ ∀ f, b.VettedIn f := by
  unfold Vetted
  constructor
  . intro h f
    have hconditions := h.conditions
    unfold Select.conditions at hconditions
    simp only [List.mem_append, List.mem_flatMap] at hconditions
    cases f with
    | wheres => exact fun condition hmem => hconditions condition (.inl (.inl hmem))
    | havings => exact fun condition hmem => hconditions condition (.inl (.inr hmem))
    | joins =>
      intro join hjoin
      exact ⟨h.joins join hjoin, fun condition hmem =>
        hconditions condition (.inr ⟨join, hjoin, hmem⟩)⟩
    | orders => exact ⟨h.members, h.orders, h.single⟩
    | _ => exact trivial
  . intro h
    obtain ⟨hmembers, horders, hsingle⟩ := h .orders
    refine ⟨?_, fun join hjoin => (h .joins join hjoin).1, hmembers, horders, hsingle⟩
    intro condition hcondition
    unfold Select.conditions at hcondition
    simp only [List.mem_append, List.mem_flatMap] at hcondition
    rcases hcondition with (hwheres | hhavings) | ⟨join, hjoin, hon⟩
    . exact h .wheres condition hwheres
    . exact h .havings condition hhavings
    . exact (h .joins join hjoin).2 condition hon

theorem vettedIn_only (f : Family) (b : Builder) : (b.only f).VettedIn f ↔ b.VettedIn f := by
  cases f <;> exact Iff.rfl

theorem VettedIn.of_only (h : b.VettedIn f) (heq : b'.only f = b.only f) : b'.VettedIn f := by
  rw [← vettedIn_only, heq, vettedIn_only]
  exact h

theorem vetted_of_source (g : Grammar) (source : Option Source)
    : Vetted { grammar := g, query := { Select.empty with source := source } } := by
  rw [vetted_iff]
  intro f
  cases f <;> simp [VettedIn, Select.empty, clauseConditions, nestedJoins]

theorem vetted_new (g : Grammar) : (new g).Vetted := vetted_of_source g none

/-! ### Conditions -/

theorem forall_clauseConditions_append_singleton {P : Condition → Prop} {clauses : List Clause}
    {clause : Clause}
    : (∀ condition ∈ clauseConditions (clauses ++ [clause]), P condition) ↔
      (∀ condition ∈ clauseConditions clauses, P condition) ∧
        ∀ condition ∈ clause.condition.conditions, P condition := by
  rw [clauseConditions_append, clauseConditions_cons, clauseConditions, List.append_nil]
  exact List.forall_mem_append

theorem VettedIn.filter (c : Connective) (h : b.VettedIn .wheres) (hbound : bound.Vetted b.grammar)
    : (b.filter c bound).VettedIn .wheres :=
  forall_clauseConditions_append_singleton.mpr ⟨h, hbound⟩

theorem VettedIn.having (c : Connective) (h : b.VettedIn .havings) (hbound : bound.Vetted b.grammar)
    : (b.having c bound).VettedIn .havings :=
  forall_clauseConditions_append_singleton.mpr ⟨h, hbound⟩

theorem VettedIn.filterGroup (c : Connective) (h : b.VettedIn .wheres) (hmade : inner.Made)
    (hinner : inner.VettedIn .wheres) (hgrammar : inner.grammar = b.grammar)
    : (b.filterGroup c inner).VettedIn .wheres := by
  unfold Builder.filterGroup
  split
  . exact h
  . next hne =>
    apply h.filter
    intro condition hmem
    rw [Condition.conditions] at hmem
    cases List.mem_cons.mp hmem with
    | inl hgroup =>
      rw [hgroup]
      exact ⟨by simpa using hne, inner, hmade, hgrammar, rfl⟩
    | inr hwithin =>
      rw [← hgrammar]
      exact hinner condition hwithin

theorem grammar_filterPairs (b : Builder) (pairs : List (Column × Operand))
    : (pairs.foldl (fun inner (column, operand) => inner.filter .and (.equal column operand))
        b).grammar = b.grammar := by
  induction pairs generalizing b with
  | nil => rfl
  | cons pair pairs ih => exact ih _

theorem VettedIn.equalities (h : b.VettedIn .wheres) (pairs : List (Column × Operand))
    : (pairs.foldl (fun inner (column, operand) => inner.filter .and (.equal column operand))
        b).VettedIn .wheres := by
  induction pairs generalizing b with
  | nil => exact h
  | cons pair pairs ih => exact ih (h.filter .and (Bound.vetted_equal pair.1 pair.2))

/-! ### Joins -/

theorem VettedIn.addJoin (kind : JoinKind) (source : Source) (h : b.VettedIn .joins)
    (hmade : inner.Made) (hwheres : inner.VettedIn .wheres) (hjoins : inner.VettedIn .joins)
    (hgrammar : inner.grammar = b.grammar) : (b.addJoin kind source inner).VettedIn .joins := by
  intro join hmem
  change join ∈ nestedJoins
    (b.query.joins ++ [⟨kind, source, inner.query.joins, inner.query.wheres⟩]) at hmem
  rw [nestedJoins_append, nestedJoins, nestedJoins, List.append_nil, Join.joins] at hmem
  cases List.mem_append.mp hmem with
  | inl hbefore => exact h join hbefore
  | inr hadded =>
    cases List.mem_cons.mp hadded with
    | inl heq =>
      rw [heq]
      refine ⟨⟨inner, hmade, hgrammar, rfl, rfl⟩, ?_⟩
      change ∀ condition ∈ clauseConditions inner.query.wheres, condition.Vetted b.grammar
      rw [← hgrammar]
      exact hwheres
    | inr hwithin =>
      change join.Vetted b.grammar ∧
        ∀ condition ∈ clauseConditions join.conditions, condition.Vetted b.grammar
      rw [← hgrammar]
      exact hjoins join hwithin

theorem VettedIn.crossJoin (source : Source) (h : b.VettedIn .joins)
    : (b.crossJoin source).VettedIn .joins :=
  have hnew := vetted_iff.mp (vetted_new b.grammar)
  h.addJoin .cross source (.new b.grammar) (hnew .wheres) (hnew .joins) rfl

/-! ### Orderings, paging, compound statements -/

theorem not_isCompound (h : b.query.unions = []) : ¬b.isCompound := by
  simp [isCompound, h]

theorem VettedIn.addOrdering {o : Ordering} (h : b.VettedIn .orders)
    (ho : b.isCompound = false → o.carried = []) : (b.addOrdering o).VettedIn .orders := by
  obtain ⟨hmembers, horders, hsingle⟩ := h
  unfold Builder.addOrdering
  split
  . next hcompound =>
    exact ⟨hmembers, horders, fun hunions => absurd hcompound (not_isCompound hunions)⟩
  . next hcompound =>
    refine ⟨hmembers, ?_, hsingle⟩
    intro other hmem
    change other ∈ b.query.orders ++ [o] at hmem
    cases List.mem_append.mp hmem with
    | inl hbefore => exact horders other hbefore
    | inr hadded =>
      rw [List.mem_singleton.mp hadded]
      exact ho (by simpa using hcompound)

theorem VettedIn.orderByRaw (template : String) (values : List Value) (h : b.VettedIn .orders)
    : (b.orderByRaw template values).VettedIn .orders := by
  unfold Builder.orderByRaw
  dsimp only
  split
  . next hcompound => exact h.addOrdering (by simp [hcompound])
  . exact h.addOrdering (fun _ => rfl)

theorem VettedIn.reorder (h : b.VettedIn .orders) : b.reorder.VettedIn .orders := by
  obtain ⟨hmembers, _, hsingle⟩ := h
  exact ⟨hmembers, nofun, fun hunions => ⟨rfl, (hsingle hunions).2⟩⟩

theorem VettedIn.limit (n : Int) (h : b.VettedIn .orders) : (b.limit n).VettedIn .orders := by
  unfold Builder.limit
  split
  . exact h
  . split
    . next hcompound =>
      exact ⟨h.1, h.2.1, fun hunions => absurd hcompound (not_isCompound hunions)⟩
    . exact h

theorem VettedIn.offset (n : Int) (h : b.VettedIn .orders) : (b.offset n).VettedIn .orders := by
  unfold Builder.offset
  split
  . next hcompound =>
    exact ⟨h.1, h.2.1, fun hunions => absurd hcompound (not_isCompound hunions)⟩
  . exact h

theorem VettedIn.addUnion {member : Builder} (all : Bool) (hmember : member.Made)
    (h : b.VettedIn .orders) : (b.addUnion all member).VettedIn .orders := by
  refine ⟨?_, h.2.1, ?_⟩
  . intro other hmem
    change other ∈ b.query.unions ++ [⟨all, member.query⟩] at hmem
    cases List.mem_append.mp hmem with
    | inl hbefore => exact h.1 other hbefore
    | inr hadded =>
      rw [List.mem_singleton.mp hadded]
      exact ⟨member, hmember, rfl⟩
  . intro hunions
    change b.query.unions ++ [⟨all, member.query⟩] = [] at hunions
    simp at hunions

end Builder

end SqlForge
