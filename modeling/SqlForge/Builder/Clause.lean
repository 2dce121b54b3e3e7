import SqlForge.Builder.Filter
import SqlForge.Number.Word

/-!
The other clauses: columns, source, joins, groups, orderings, paging, compound statements, locks.
Once a statement is compound, orderings and paging apply to all of it.
-/

namespace SqlForge

namespace Builder

/-! ### Subqueries -/

/-- SQL in parentheses under an alias, as it stands in the list of columns. -/
def aliasColumn (b : Builder) (sql : Sql) (label : String) : Sql :=
  "(" ++ sql ++ ") AS " ++ b.grammar.wrap label

/-- SQL in parentheses under an alias, as it stands in place of a table. -/
def aliasTable (b : Builder) (sql : Sql) (label : String) : Sql :=
  "(" ++ sql ++ ") AS " ++ b.grammar.wrapTable label

/-! ### Columns and source -/

/-- Replaces the list of columns; the values of the old one go with it. -/
def select (b : Builder) (columns : List Column) : Builder :=
  { b with
    query := { b.query with selections := columns.map .column }
    bindings := b.bindings.clear .select }

def addSelections (b : Builder) (selections : List Selection) (values : List Value := []) :
    Builder :=
  { b with
    query := { b.query with selections := b.query.selections ++ selections }
    bindings := b.bindings.extend .select values }

def addSelect (b : Builder) (columns : List Column) : Builder :=
  b.addSelections (columns.map .column)

def selectRaw (b : Builder) (template : String) (values : List Value) : Builder :=
  b.addSelections [.fragment (Sql.ofTemplate template values)] values

/-- Selects the value of a subquery. -/
def selectQuery (b : Builder) (sql : Sql) (values : List Value) (label : String) : Builder :=
  b.addSelections [.fragment (b.aliasColumn sql label)] values

def distinct (b : Builder) : Builder :=
  { b with query := { b.query with distinct := true } }

/-- Replaces the source. The values of an older one stay. -/
def setSource (b : Builder) (source : Source) (values : List Value := []) : Builder :=
  { b with
    query := { b.query with source := some source }
    bindings := b.bindings.extend .source values }

def table (b : Builder) (t : Table) : Builder :=
  b.setSource (.table t)

def sourceRaw (b : Builder) (template : String) (values : List Value) : Builder :=
  b.setSource (.fragment (Sql.ofTemplate template values)) values

def sourceQuery (b : Builder) (sql : Sql) (values : List Value) (label : String) : Builder :=
  b.setSource (.fragment (b.aliasTable sql label)) values

/-! ### Joins -/

/--
Adds a join. Of `inner` only its joins and its conditions on rows are written, so only their
values are taken over.
-/
def addJoin (b : Builder) (kind : JoinKind) (source : Source) (inner : Builder) : Builder :=
  { b with
    query := { b.query with
      joins := b.query.joins ++ [⟨kind, source, inner.query.joins, inner.query.wheres⟩] }
    bindings := b.bindings.extend .join (inner.bindings.flattenOnly [.join, .filter]) }

def crossJoin (b : Builder) (source : Source) : Builder :=
  b.addJoin .cross source (.new b.grammar)

/-- Joins on one condition. -/
def joinOn (b : Builder) (kind : JoinKind) (source : Source) (bound : Except Failure Bound) :
    Except Failure Builder := do
  let bound ← bound
  return b.addJoin kind source ((new b.grammar).filter .and bound)

/-! ### Groups, orderings, paging -/

def groupBy (b : Builder) (columns : List Column) : Builder :=
  { b with query := { b.query with groups := b.query.groups ++ columns } }

/-- Whether the statement has further members. -/
def isCompound (b : Builder) : Bool :=
  !b.query.unions.isEmpty

def addOrdering (b : Builder) (o : Ordering) : Builder :=
  if b.isCompound then
    { b with query := { b.query with unionOrders := b.query.unionOrders ++ [o] } }
  else
    { b with query := { b.query with orders := b.query.orders ++ [o] } }

def orderBy (b : Builder) (column : Column) (direction : Direction) : Builder :=
  b.addOrdering (.column column direction)

/-- The values of an ordering of a compound statement come last and stay with the ordering. -/
def orderByRaw (b : Builder) (template : String) (values : List Value) : Builder :=
  let sql := Sql.ofTemplate template values
  if b.isCompound then b.addOrdering (.raw sql values)
  else (b.addOrdering (.raw sql [])).bind .order values

def inRandomOrder (b : Builder) (seed : Option Nat) : Builder :=
  b.orderByRaw (b.grammar.randomOrder seed) []

/-- Forgets every ordering. -/
def reorder (b : Builder) : Builder :=
  { b with
    query := { b.query with orders := [], unionOrders := [] }
    bindings := b.bindings.clear .order }

/-- A negative limit is passed over. -/
def limit (b : Builder) (n : Int) : Builder :=
  if n < 0 then b
  else if b.isCompound then { b with query := { b.query with unionLimit := some n.toNat } }
  else { b with query := { b.query with limit := some n.toNat } }

/-- A negative offset counts as none at all. -/
def offset (b : Builder) (n : Int) : Builder :=
  if b.isCompound then { b with query := { b.query with unionOffset := some n.toNat } }
  else { b with query := { b.query with offset := some n.toNat } }

/-- The largest number of rows that a limit or an offset can name. -/
def maxRows : Nat := Int64.maxValue.toNatClampNeg

/--
The rows of a page; pages count from one. The number and the size are words, and the largest word
stands for what is larger.
-/
def forPage (b : Builder) (page perPage : Nat) : Builder :=
  let page := UInt64.ofNatClamp page
  let perPage := UInt64.ofNatClamp perPage
  let skipped := Word.satMul (Word.satSub page 1) perPage
  (b.offset (Word.toSigned skipped).toInt).limit (Word.toSigned perPage).toInt

/-! ### Compound statements and locks -/

def addUnion (b : Builder) (all : Bool) (member : Builder) : Builder :=
  { b with
    query := { b.query with unions := b.query.unions ++ [⟨all, member.query⟩] }
    bindings := b.bindings.extend .union member.values }

def lock (b : Builder) (l : Lock) : Builder :=
  { b with query := { b.query with lock := some l } }

end Builder

end SqlForge
