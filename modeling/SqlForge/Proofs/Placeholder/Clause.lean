import SqlForge.Proofs.Placeholder.Sql
import SqlForge.Proofs.Select.Render

/-!
The placeholders of clauses, as told from the clauses alone: `slots` are their values in the order
in which the clauses are written, whatever the dialect. Clauses are filled if nothing else in them
writes a question mark.
-/

namespace SqlForge

open Text

/-! ### Clauses that hold no other clauses -/

def Operand.Unmarked : Operand → Prop
  | .value _ => True
  | .raw sql => Text.Unmarked sql

instance (operand : Operand) : Decidable operand.Unmarked := by
  cases operand with
  | value v => exact inferInstanceAs (Decidable True)
  | raw sql => exact inferInstanceAs (Decidable (Text.Unmarked sql))

def Lock.Unmarked : Lock → Prop
  | .raw sql => Text.Unmarked sql
  | _ => True

instance (lock : Lock) : Decidable lock.Unmarked := by
  cases lock with
  | raw sql => exact inferInstanceAs (Decidable (Text.Unmarked sql))
  | update | shared => exact inferInstanceAs (Decidable True)

structure Aggregate.Unmarked (a : Aggregate) : Prop where
  function : Text.Unmarked a.function
  columns : ∀ c ∈ a.columns, c.Unmarked

def Selection.slots : Selection → List Value
  | .column _ => []
  | .fragment sql => sql.values

def Selection.Filled : Selection → Prop
  | .column c => c.Unmarked
  | .fragment sql => sql.Filled

def Source.slots : Source → List Value
  | .table _ => []
  | .fragment sql => sql.values

def Source.Filled : Source → Prop
  | .table t => t.Unmarked
  | .fragment sql => sql.Filled

def Ordering.slots : Ordering → List Value
  | .column .. => []
  | .raw sql _ => sql.values

def Ordering.Filled : Ordering → Prop
  | .column c _ => c.Unmarked
  | .raw sql _ => sql.Filled

namespace Select

/-- An aggregate of a statement without further members stands in place of the columns. -/
def selectionSlots (q : Select) : List Value :=
  if q.aggregate.isSome && q.unions.isEmpty then [] else q.selections.flatMap Selection.slots

def sourceSlots (q : Select) : List Value :=
  q.source.toList.flatMap Source.slots

/-- Orderings of a whole that has no further members are not written. -/
def unionOrderSlots (q : Select) : List Value :=
  if q.unions.isEmpty then [] else q.unionOrders.flatMap Ordering.slots

end Select

/-! ### Clauses that hold other clauses -/

mutual
def Condition.slots : Condition → List Value
  | .compare _ _ operand => boundValues [operand]
  | .raw sql => sql.values
  | .among _ operands _ => boundValues operands
  | .amongRows _ query _ => query.slots
  | .isNull .. => []
  | .between _ low high _ => boundValues [low, high]
  | .group clauses => clauseSlots clauses
  | .exists query _ => query.slots
  | .compareColumns .. => []
  | .compareQuery _ _ query => query.slots
  | .compareDate _ _ _ operand => boundValues [operand]
  | .compareRow _ _ operands => boundValues operands
  | .jsonContains _ operand _ => boundValues [operand]

def clauseSlots : List Clause → List Value
  | [] => []
  | { condition, .. } :: clauses => condition.slots ++ clauseSlots clauses

def Join.slots : Join → List Value
  | { source, inner, conditions, .. } => source.slots ++ joinSlots inner ++ clauseSlots conditions

def joinSlots : List Join → List Value
  | [] => []
  | join :: joins => join.slots ++ joinSlots joins

def memberSlots : List UnionMember → List Value
  | [] => []
  | { query, .. } :: members => query.slots ++ memberSlots members

def Select.slots : Select → List Value
  | q@{ joins, wheres, havings, unions, .. } =>
    q.selectionSlots ++ q.sourceSlots ++ joinSlots joins ++ clauseSlots wheres ++
      clauseSlots havings ++ q.orders.flatMap Ordering.slots ++ memberSlots unions ++
      q.unionOrderSlots
end

mutual
def Condition.Filled : Condition → Prop
  | .compare column operator operand =>
    column.Unmarked ∧ Text.Unmarked operator ∧ operand.Unmarked
  | .raw sql => sql.Filled
  | .among column operands _ => column.Unmarked ∧ ∀ operand ∈ operands, operand.Unmarked
  | .amongRows column query _ => column.Unmarked ∧ query.Filled
  | .isNull column _ => column.Unmarked
  | .between column low high _ => column.Unmarked ∧ low.Unmarked ∧ high.Unmarked
  | .group clauses => ClausesFilled clauses
  | .exists query _ => query.Filled
  | .compareColumns first operator second =>
    first.Unmarked ∧ Text.Unmarked operator ∧ second.Unmarked
  | .compareQuery column operator query =>
    column.Unmarked ∧ Text.Unmarked operator ∧ query.Filled
  | .compareDate _ column operator operand =>
    column.Unmarked ∧ Text.Unmarked operator ∧ operand.Unmarked
  | .compareRow columns operator operands =>
    (∀ column ∈ columns, column.Unmarked) ∧ Text.Unmarked operator ∧
      ∀ operand ∈ operands, operand.Unmarked
  | .jsonContains column operand _ => column.Unmarked ∧ operand.Unmarked

def ClausesFilled : List Clause → Prop
  | [] => True
  | { condition, .. } :: clauses => condition.Filled ∧ ClausesFilled clauses

def Join.Filled : Join → Prop
  | { source, inner, conditions, .. } =>
    source.Filled ∧ JoinsFilled inner ∧ ClausesFilled conditions

def JoinsFilled : List Join → Prop
  | [] => True
  | join :: joins => join.Filled ∧ JoinsFilled joins

def MembersFilled : List UnionMember → Prop
  | [] => True
  | { query, .. } :: members => query.Filled ∧ MembersFilled members

def Select.Filled : Select → Prop
  | q@{ joins, wheres, havings, unions, .. } =>
    (∀ s ∈ q.selections, s.Filled) ∧ (∀ s ∈ q.source, s.Filled) ∧ JoinsFilled joins ∧
      ClausesFilled wheres ∧ (∀ c ∈ q.groups, c.Unmarked) ∧ ClausesFilled havings ∧
      (∀ o ∈ q.orders, o.Filled) ∧ MembersFilled unions ∧ (∀ o ∈ q.unionOrders, o.Filled) ∧
      (∀ a ∈ q.aggregate, a.Unmarked) ∧ (∀ l ∈ q.lock, l.Unmarked)
end

/-- `Select.Filled`, clause by clause. -/
structure Select.FilledParts (q : Select) : Prop where
  selections : ∀ s ∈ q.selections, s.Filled
  source : ∀ s ∈ q.source, s.Filled
  joins : JoinsFilled q.joins
  wheres : ClausesFilled q.wheres
  groups : ∀ c ∈ q.groups, c.Unmarked
  havings : ClausesFilled q.havings
  orders : ∀ o ∈ q.orders, o.Filled
  unions : MembersFilled q.unions
  unionOrders : ∀ o ∈ q.unionOrders, o.Filled
  aggregate : ∀ a ∈ q.aggregate, a.Unmarked
  lock : ∀ l ∈ q.lock, l.Unmarked

theorem Select.filled_iff {q : Select} : q.Filled ↔ q.FilledParts := by
  cases q
  rw [Select.Filled]
  constructor
  . rintro ⟨selections, source, joins, wheres, groups, havings, orders, unions, unionOrders,
      aggregate, lock⟩
    exact ⟨selections, source, joins, wheres, groups, havings, orders, unions, unionOrders,
      aggregate, lock⟩
  . intro h
    exact ⟨h.selections, h.source, h.joins, h.wheres, h.groups, h.havings, h.orders, h.unions,
      h.unionOrders, h.aggregate, h.lock⟩

theorem Select.slots_eq (q : Select)
    : q.slots = q.selectionSlots ++ q.sourceSlots ++ joinSlots q.joins ++ clauseSlots q.wheres ++
        clauseSlots q.havings ++ q.orders.flatMap Ordering.slots ++ memberSlots q.unions ++
        q.unionOrderSlots := by
  cases q
  rw [Select.slots]

theorem clauseSlots_append (a b : List Clause)
    : clauseSlots (a ++ b) = clauseSlots a ++ clauseSlots b := by
  induction a with
  | nil => simp [clauseSlots]
  | cons clause a ih =>
    cases clause
    simp [clauseSlots, ih]

theorem joinSlots_append (a b : List Join) : joinSlots (a ++ b) = joinSlots a ++ joinSlots b := by
  induction a with
  | nil => simp [joinSlots]
  | cons join a ih => simp [joinSlots, ih]

theorem memberSlots_append (a b : List UnionMember)
    : memberSlots (a ++ b) = memberSlots a ++ memberSlots b := by
  induction a with
  | nil => simp [memberSlots]
  | cons member a ih =>
    cases member
    simp [memberSlots, ih]

theorem clausesFilled_append {a b : List Clause}
    : ClausesFilled (a ++ b) ↔ ClausesFilled a ∧ ClausesFilled b := by
  induction a with
  | nil => simp [ClausesFilled]
  | cons clause a ih =>
    cases clause
    simp [ClausesFilled, ih, and_assoc]

theorem joinsFilled_append {a b : List Join}
    : JoinsFilled (a ++ b) ↔ JoinsFilled a ∧ JoinsFilled b := by
  induction a with
  | nil => simp [JoinsFilled]
  | cons join a ih => simp [JoinsFilled, ih, and_assoc]

theorem membersFilled_append {a b : List UnionMember}
    : MembersFilled (a ++ b) ↔ MembersFilled a ∧ MembersFilled b := by
  induction a with
  | nil => simp [MembersFilled]
  | cons member a ih =>
    cases member
    simp [MembersFilled, ih, and_assoc]

end SqlForge
