import SqlForge.Proofs.Builder.Bound
import SqlForge.Proofs.Placeholder.Builder

/-!
A condition comes with the values of its placeholders, in their order.
-/

namespace SqlForge

structure Bound.Filled (bound : Bound) : Prop where
  condition : bound.condition.Filled
  values : bound.values = bound.condition.slots

namespace Bound

variable {g : Grammar} {bound : Bound} {column : Column} {operand : Operand} {operator : String}

theorem filled_isNull (negated : Bool) (hcolumn : column.Unmarked)
    : Filled { condition := .isNull column negated } := by
  constructor
  . rw [Condition.Filled]
    exact hcolumn
  . rw [Condition.slots]

theorem filled_comparison (hcolumn : column.Unmarked) (hoperator : Text.Unmarked operator)
    (hoperand : operand.Unmarked)
    : Filled ⟨.compare column operator operand, boundValues [operand]⟩ := by
  constructor
  . rw [Condition.Filled]
    exact ⟨hcolumn, hoperator, hoperand⟩
  . rw [Condition.slots]

theorem filled_equal (hcolumn : column.Unmarked) (hoperand : operand.Unmarked)
    : (equal column operand).Filled := by
  unfold equal
  split
  . exact filled_isNull false hcolumn
  . exact filled_comparison hcolumn (by decide) hoperand

theorem filled_compare (hcolumn : column.Unmarked) (hoperand : operand.Unmarked)
    (h : compare g column operator operand = .ok bound) : bound.Filled := by
  obtain ⟨haccepts, ⟨_, negated, rfl⟩ | ⟨_, rfl⟩⟩ := compare_cases h
  . exact filled_isNull negated hcolumn
  . exact filled_comparison hcolumn (Dialect.unmarked_of_accepts haccepts) hoperand

theorem filled_between {low high : Operand} (negated : Bool) (hcolumn : column.Unmarked)
    (hlow : low.Unmarked) (hhigh : high.Unmarked) : (between column low high negated).Filled := by
  unfold between
  constructor
  . rw [Condition.Filled]
    exact ⟨hcolumn, hlow, hhigh⟩
  . rw [Condition.slots]

theorem filled_raw {template : String} {values : List Value} (h : Sql.Fits template values)
    : (raw template values).Filled := by
  have := Sql.emits_ofTemplate h
  unfold raw
  constructor
  . rw [Condition.Filled]
    exact this.filled
  . rw [Condition.slots, this.values_eq]

theorem filled_among {operands : List Operand} (negated : Bool) (hcolumn : column.Unmarked)
    (hoperands : ∀ operand ∈ operands, operand.Unmarked)
    : (among column operands negated).Filled := by
  unfold among
  constructor
  . rw [Condition.Filled]
    exact ⟨hcolumn, hoperands⟩
  . rw [Condition.slots]

theorem filled_jsonContains (document : Json) (negated : Bool) (hcolumn : column.Unmarked)
    : (jsonContains column document negated).Filled := by
  unfold jsonContains
  constructor
  . rw [Condition.Filled]
    exact ⟨hcolumn, trivial⟩
  . rw [Condition.slots]

theorem filled_compareDate {part : DatePart} (hcolumn : column.Unmarked)
    (hoperand : operand.Unmarked) (h : compareDate g part column operator operand = .ok bound)
    : bound.Filled := by
  obtain ⟨haccepts, _, rfl⟩ := compareDate_eq_ok.mp h
  constructor
  . rw [Condition.Filled]
    exact ⟨hcolumn, Dialect.unmarked_of_accepts haccepts, hoperand⟩
  . rw [Condition.slots]

theorem filled_compareRow {columns : List Column} {operands : List Operand}
    (hcolumns : ∀ column ∈ columns, column.Unmarked)
    (hoperands : ∀ operand ∈ operands, operand.Unmarked)
    (h : compareRow g columns operator operands = .ok bound) : bound.Filled := by
  obtain ⟨_, haccepts, rfl⟩ := compareRow_eq_ok.mp h
  constructor
  . rw [Condition.Filled]
    exact ⟨hcolumns, Dialect.unmarked_of_accepts haccepts, hoperands⟩
  . rw [Condition.slots]

theorem filled_compareColumns {first second : Column} (hfirst : first.Unmarked)
    (hsecond : second.Unmarked) (h : compareColumns g first operator second = .ok bound)
    : bound.Filled := by
  obtain ⟨haccepts, rfl⟩ := compareColumns_eq_ok.mp h
  constructor
  . rw [Condition.Filled]
    exact ⟨hfirst, Dialect.unmarked_of_accepts haccepts, hsecond⟩
  . rw [Condition.slots]

section
variable {query : Builder} (hquery : query.Complete)
include hquery

theorem filled_amongRows (negated : Bool) (hcolumn : column.Unmarked)
    : (amongRows column query negated).Filled := by
  unfold amongRows
  constructor
  . rw [Condition.Filled, Select.filled_iff]
    exact ⟨hcolumn, hquery.query.toFilledParts⟩
  . rw [Condition.slots]
    exact Builder.values_eq_slots hquery

theorem filled_rowsExist (negated : Bool) : (rowsExist query negated).Filled := by
  unfold rowsExist
  constructor
  . rw [Condition.Filled, Select.filled_iff]
    exact hquery.query.toFilledParts
  . rw [Condition.slots]
    exact Builder.values_eq_slots hquery

theorem filled_compareQuery (hcolumn : column.Unmarked)
    (h : compareQuery g column operator query = .ok bound) : bound.Filled := by
  obtain ⟨haccepts, rfl⟩ := compareQuery_eq_ok.mp h
  constructor
  . rw [Condition.Filled, Select.filled_iff]
    exact ⟨hcolumn, Dialect.unmarked_of_accepts haccepts, hquery.query.toFilledParts⟩
  . rw [Condition.slots]
    exact Builder.values_eq_slots hquery

end

end Bound

end SqlForge
