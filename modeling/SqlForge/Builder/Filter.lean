import SqlForge.Builder.Basic

/-!
Conditions on rows and on groups. A comparison is checked before anything is recorded, and a
comparison with NULL is written as a test for NULL.
-/

namespace SqlForge

def Grammar.checkOperator (g : Grammar) (operator : String) : Except Failure Unit :=
  if g.accepts operator then .ok () else .error (.invalidOperator operator)

/-- A condition, and the values of its placeholders. -/
structure Bound where
  condition : Condition
  values : List Value := []

namespace Bound

/-- `column = operand`; equal to NULL is being NULL. -/
def equal (column : Column) (operand : Operand) : Bound :=
  if operand.isNull then { condition := .isNull column false }
  else { condition := .compare column "=" operand, values := boundValues [operand] }

/-- `column operator operand`. Only equality and its opposite can be asked of NULL. -/
def compare (g : Grammar) (column : Column) (operator : String) (operand : Operand) :
    Except Failure Bound := do
  g.checkOperator operator
  if operand.isNull then
    let op := Text.trimmed operator
    if op = "=" then return { condition := .isNull column false }
    else if op = "<>" ∨ op = "!=" then return { condition := .isNull column true }
    else throw (.nullOperand op)
  else
    return { condition := .compare column operator operand, values := boundValues [operand] }

def between (column : Column) (low high : Operand) (negated : Bool) : Bound where
  condition := .between column low high negated
  values := boundValues [low, high]

def raw (template : String) (values : List Value) : Bound where
  condition := .raw (Sql.ofTemplate template values)
  values := values

def among (column : Column) (operands : List Operand) (negated : Bool) : Bound where
  condition := .among column operands negated
  values := boundValues operands

/-- The document is bound as its text. -/
def jsonContains (column : Column) (document : Json) (negated : Bool) : Bound :=
  let operand : Operand := .value (.text document.compact)
  { condition := .jsonContains column operand negated, values := boundValues [operand] }

/-- A part of a time is never compared with NULL. -/
def compareDate (g : Grammar) (part : DatePart) (column : Column) (operator : String)
    (operand : Operand) : Except Failure Bound := do
  g.checkOperator operator
  if operand.isNull then throw (.nullOperand operator)
  return { condition := .compareDate part column operator operand, values := boundValues [operand] }

def compareRow (g : Grammar) (columns : List Column) (operator : String)
    (operands : List Operand) : Except Failure Bound := do
  if columns.length ≠ operands.length then
    throw (.countMismatch columns.length operands.length)
  g.checkOperator operator
  return { condition := .compareRow columns operator operands, values := boundValues operands }

def compareColumns (g : Grammar) (first : Column) (operator : String) (second : Column) :
    Except Failure Bound := do
  g.checkOperator operator
  return { condition := .compareColumns first operator second }

def amongRows (column : Column) (query : Builder) (negated : Bool) : Bound where
  condition := .amongRows column query.query negated
  values := query.values

def rowsExist (query : Builder) (negated : Bool) : Bound where
  condition := .exists query.query negated
  values := query.values

def compareQuery (g : Grammar) (column : Column) (operator : String) (query : Builder) :
    Except Failure Bound := do
  g.checkOperator operator
  return { condition := .compareQuery column operator query.query, values := query.values }

end Bound

namespace Builder

/-- Adds a condition on rows. -/
def filter (b : Builder) (c : Connective) (bound : Bound) : Builder :=
  { b with
    query := { b.query with wheres := b.query.wheres ++ [⟨c, bound.condition⟩] }
    bindings := b.bindings.extend .filter bound.values }

/-- Adds a condition on groups. -/
def having (b : Builder) (c : Connective) (bound : Bound) : Builder :=
  { b with
    query := { b.query with havings := b.query.havings ++ [⟨c, bound.condition⟩] }
    bindings := b.bindings.extend .having bound.values }

/-- A builder for conditions between parentheses; it knows the source. -/
def nested (b : Builder) : Builder where
  grammar := b.grammar
  query := { Select.empty with source := b.query.source }

/-- Adds the conditions on rows of `inner` between parentheses, if there are any. -/
def filterGroup (b : Builder) (c : Connective) (inner : Builder) : Builder :=
  if inner.query.wheres.isEmpty then b
  else b.filter c { condition := .group inner.query.wheres, values := inner.bindings.filter }

/-- Adds a group of equalities. -/
def filterPairs (b : Builder) (pairs : List (Column × Operand)) : Builder :=
  b.filterGroup .and <|
    pairs.foldl (fun inner (column, operand) => inner.filter .and (.equal column operand)) b.nested

end Builder

end SqlForge
