import SqlForge.Failure
import SqlForge.Grammar

/-!
The clauses of a statement as data. Groups, joins, subqueries and union members hold clauses of
their own.
-/

namespace SqlForge

/-- An entry of the column list: a column, or raw SQL with values of its own. -/
inductive Selection where
  | column (c : Column)
  | fragment (sql : Sql)
  deriving Inhabited

/-- Where rows come from: a table, or raw SQL with values of its own. -/
inductive Source where
  | table (t : Table)
  | fragment (sql : Sql)
  deriving Inhabited

/-- How a condition is joined to the one before it. -/
inductive Connective where
  | and
  | or
  deriving DecidableEq, Repr, Inhabited

def Connective.sql : Connective → String
  | .and => "AND"
  | .or => "OR"

inductive DatePart where
  | date
  | time
  | day
  | month
  | year
  deriving DecidableEq, Repr

inductive JoinKind where
  | inner
  | left
  | right
  | cross
  deriving DecidableEq, Repr

def JoinKind.sql : JoinKind → String
  | .inner => "INNER"
  | .left => "LEFT"
  | .right => "RIGHT"
  | .cross => "CROSS"

inductive Direction where
  | asc
  | desc
  deriving DecidableEq, Repr

def Direction.sql : Direction → String
  | .asc => "ASC"
  | .desc => "DESC"

/--
An entry of an ordering. Raw SQL after a union carries its values itself; before a union they are
in the bucket of the ordering and `carried` is empty.
-/
inductive Ordering where
  | column (c : Column) (direction : Direction)
  | raw (sql : Sql) (carried : List Value)
  deriving Inhabited

def Ordering.carried : Ordering → List Value
  | .column .. => []
  | .raw _ values => values

/-- A function applied to columns in place of the column list. -/
structure Aggregate where
  function : String
  columns : List Column
  deriving DecidableEq, Repr

inductive Lock where
  | update
  | shared
  | raw (sql : String)
  deriving DecidableEq, Repr

mutual
inductive Condition where
  /-- `column operator ?` -/
  | compare (column : Column) (operator : String) (operand : Operand)
  | raw (sql : Sql)
  /-- `column [NOT] IN (?, ...)` -/
  | among (column : Column) (operands : List Operand) (negated : Bool)
  /-- `column [NOT] IN (SELECT ...)` -/
  | amongRows (column : Column) (query : Select) (negated : Bool)
  | isNull (column : Column) (negated : Bool)
  | between (column : Column) (low high : Operand) (negated : Bool)
  /-- Conditions between parentheses. -/
  | group (clauses : List Clause)
  | exists (query : Select) (negated : Bool)
  | compareColumns (first : Column) (operator : String) (second : Column)
  /-- `column operator (SELECT ...)` -/
  | compareQuery (column : Column) (operator : String) (query : Select)
  | compareDate (part : DatePart) (column : Column) (operator : String) (operand : Operand)
  /-- `(a, b) operator (?, ?)` -/
  | compareRow (columns : List Column) (operator : String) (operands : List Operand)
  | jsonContains (column : Column) (operand : Operand) (negated : Bool)

structure Clause where
  connective : Connective
  condition : Condition

structure Join where
  kind : JoinKind
  source : Source
  /-- Joins between the source and its own neighbours. -/
  inner : List Join
  conditions : List Clause

structure UnionMember where
  all : Bool
  query : Select

structure Select where
  distinct : Bool
  selections : List Selection
  source : Option Source
  joins : List Join
  wheres : List Clause
  groups : List Column
  havings : List Clause
  orders : List Ordering
  limit : Option Nat
  offset : Option Nat
  unions : List UnionMember
  unionOrders : List Ordering
  unionLimit : Option Nat
  unionOffset : Option Nat
  aggregate : Option Aggregate
  lock : Option Lock
end

namespace Select

/-- Nothing has been asked for yet: every column, of no source. -/
def empty : Select where
  distinct := false
  selections := []
  source := none
  joins := []
  wheres := []
  groups := []
  havings := []
  orders := []
  limit := none
  offset := none
  unions := []
  unionOrders := []
  unionLimit := none
  unionOffset := none
  aggregate := none
  lock := none

instance : Inhabited Select := ⟨empty⟩

/-- The values that orderings after a union carry. -/
def carriedValues (q : Select) : List Value :=
  q.unionOrders.flatMap Ordering.carried

end Select

/-- The parts of a statement in the order in which they are written. -/
inductive Component where
  | aggregate
  | columns
  | source
  | joins
  | wheres
  | groups
  | havings
  | orders
  | limit
  | offset
  | unions
  | lock
  deriving DecidableEq, Repr

def Component.all : List Component :=
  [.aggregate, .columns, .source, .joins, .wheres, .groups, .havings, .orders, .limit, .offset,
    .unions, .lock]

def Component.name : Component → String
  | .aggregate => "aggregate"
  | .columns => "columns"
  | .source => "from"
  | .joins => "joins"
  | .wheres => "wheres"
  | .groups => "groups"
  | .havings => "havings"
  | .orders => "orders"
  | .limit => "limit"
  | .offset => "offset"
  | .unions => "unions"
  | .lock => "lock"

namespace Select

/-- Whether there is anything to write for the component. -/
def has (q : Select) : Component → Bool
  | .aggregate => q.aggregate.isSome
  | .columns => q.aggregate.isNone
  | .source => q.source.isSome
  | .joins => !q.joins.isEmpty
  | .wheres => !q.wheres.isEmpty
  | .groups => !q.groups.isEmpty
  | .havings => !q.havings.isEmpty
  | .orders => !q.orders.isEmpty
  | .limit => q.limit.isSome
  | .offset => q.offset.isSome
  | .unions => !q.unions.isEmpty
  | .lock => q.lock.isSome

/-- The statement without the component. Dropping the columns keeps the wish for distinct rows. -/
def without (q : Select) : Component → Select
  | .aggregate => { q with aggregate := none }
  | .columns => { q with selections := [] }
  | .source => { q with source := none }
  | .joins => { q with joins := [] }
  | .wheres => { q with wheres := [] }
  | .groups => { q with groups := [] }
  | .havings => { q with havings := [] }
  | .orders => { q with orders := [] }
  | .limit => { q with limit := none }
  | .offset => { q with offset := none }
  | .unions => { q with unions := [], unionOrders := [], unionLimit := none, unionOffset := none }
  | .lock => { q with lock := none }

end Select

/-- The direction that a text names. -/
def Direction.read (s : String) : Except Failure Direction :=
  let lowered := Text.asciiLower (Text.trimmed s)
  if lowered = "asc" then .ok .asc
  else if lowered = "desc" then .ok .desc
  else .error (.invalidDirection s)

end SqlForge
