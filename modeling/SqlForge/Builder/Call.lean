import SqlForge.Builder.Clause

/-!
What a builder can be asked, as data. Some calls come with calls for a builder of their own: the
conditions of a group or a join, a subquery, a member of a compound statement. `Call.run` follows
one call, `runAll` follows several up to the first failure, and `Draft.build` makes a builder from
nothing.
-/

namespace SqlForge

mutual
inductive Call where
  -- Conditions on rows
  | filter (c : Connective) (column : Column) (operator : String) (operand : Operand)
  | filterEqual (c : Connective) (column : Column) (operand : Operand)
  | filterPairs (pairs : List (Column × Operand))
  | filterRaw (c : Connective) (template : String) (values : List Value)
  | filterColumns (c : Connective) (first : Column) (operator : String) (second : Column)
  | filterAmong (c : Connective) (column : Column) (operands : List Operand) (negated : Bool)
  | filterAmongRows (c : Connective) (column : Column) (query : Draft) (negated : Bool)
  | filterNull (c : Connective) (column : Column) (negated : Bool)
  | filterBetween (c : Connective) (column : Column) (low high : Operand) (negated : Bool)
  | filterGroup (c : Connective) (calls : List Call)
  | filterExists (c : Connective) (query : Draft) (negated : Bool)
  | filterQuery (c : Connective) (column : Column) (operator : String) (query : Draft)
  /-- Looks at the operator before it makes the subquery. -/
  | filterQueryWith (c : Connective) (column : Column) (operator : String) (calls : List Call)
  | filterDate (c : Connective) (part : DatePart) (column : Column) (operator : String)
      (operand : Operand)
  | filterRow (c : Connective) (columns : List Column) (operator : String)
      (operands : List Operand)
  | filterJson (c : Connective) (column : Column) (document : Json) (negated : Bool)
  -- Conditions on groups
  | having (c : Connective) (column : Column) (operator : String) (operand : Operand)
  | havingRaw (c : Connective) (template : String) (values : List Value)
  | havingBetween (column : Column) (low high : Operand)
  -- Joins
  | join (kind : JoinKind) (table : Table) (first : Column) (operator : String) (second : Column)
  | joinWhere (kind : JoinKind) (table : Table) (column : Column) (operator : String)
      (operand : Operand)
  | joinWith (kind : JoinKind) (table : Table) (calls : List Call)
  | crossJoin (table : Table)
  | joinQuery (kind : JoinKind) (query : Subquery) (label : String) (first : Column)
      (operator : String) (second : Column)
  | crossJoinQuery (query : Subquery) (label : String)
  -- Columns, source, groups
  | select (columns : List Column)
  | addSelect (columns : List Column)
  | selectRaw (template : String) (values : List Value)
  | selectQuery (query : Subquery) (label : String)
  | distinct
  | table (t : Table)
  | sourceRaw (template : String) (values : List Value)
  | sourceQuery (query : Subquery) (label : String)
  | groupBy (columns : List Column)
  -- Orderings, paging, compound statements, locks
  | orderBy (column : Column) (direction : Direction)
  | orderByText (column : Column) (direction : String)
  | orderByRaw (template : String) (values : List Value)
  | inRandomOrder (seed : Option Nat)
  | reorder
  | limit (n : Int)
  | offset (n : Int)
  | forPage (page perPage : Nat)
  | union (all : Bool) (member : Draft)
  | lock (l : Lock)
  /-- Makes further calls on the same builder if the condition holds. -/
  | when (condition : Bool) (calls : List Call)
  -- Values by hand
  | addBindings (bucket : Bucket) (values : List Value)
  | setBindings (bucket : Bucket) (values : List Value)
  | mergeBindings (other : Draft)

/-- How a builder is made: its own grammar, if it has one, and the calls on it. -/
structure Draft where
  grammar : Option Grammar
  calls : List Call

/-- A subquery that is spliced in as SQL. -/
inductive Subquery where
  | text (sql : String)
  | draft (query : Draft)
end

/-- A builder after some calls, and what went wrong in the last of them if anything did. -/
structure Outcome where
  builder : Builder
  failure : Option Failure := none

namespace Outcome

/-- A step that leaves `b` as it is when it fails. -/
def attempt (b : Builder) : Except Failure Builder → Outcome
  | .ok b' => { builder := b' }
  | .error e => { builder := b, failure := some e }

/-- The builder, unless something went wrong. -/
def toExcept (o : Outcome) : Except Failure Builder :=
  match o.failure with
  | none => .ok o.builder
  | some e => .error e

end Outcome

mutual
def Call.run : Call → Builder → Outcome
  | .filter c column operator operand, b =>
    .attempt b (b.filter c <$> Bound.compare b.grammar column operator operand)
  | .filterEqual c column operand, b => { builder := b.filter c (.equal column operand) }
  | .filterPairs pairs, b => { builder := b.filterPairs pairs }
  | .filterRaw c template values, b => { builder := b.filter c (.raw template values) }
  | .filterColumns c first operator second, b =>
    .attempt b (b.filter c <$> Bound.compareColumns b.grammar first operator second)
  | .filterAmong c column operands negated, b =>
    { builder := b.filter c (.among column operands negated) }
  | .filterAmongRows c column query negated, b => .attempt b do
    let query ← query.build b.grammar
    return b.filter c (.amongRows column query negated)
  | .filterNull c column negated, b =>
    { builder := b.filter c { condition := .isNull column negated } }
  | .filterBetween c column low high negated, b =>
    { builder := b.filter c (.between column low high negated) }
  | .filterGroup c calls, b => .attempt b do
    let inner ← (Call.runAll calls b.nested).toExcept
    return b.filterGroup c inner
  | .filterExists c query negated, b => .attempt b do
    let query ← query.build b.grammar
    return b.filter c (.rowsExist query negated)
  | .filterQuery c column operator query, b => .attempt b do
    let query ← query.build b.grammar
    return b.filter c (← Bound.compareQuery b.grammar column operator query)
  | .filterQueryWith c column operator calls, b => .attempt b do
    b.grammar.checkOperator operator
    let query ← (Call.runAll calls (.new b.grammar)).toExcept
    return b.filter c (← Bound.compareQuery b.grammar column operator query)
  | .filterDate c part column operator operand, b =>
    .attempt b (b.filter c <$> Bound.compareDate b.grammar part column operator operand)
  | .filterRow c columns operator operands, b =>
    .attempt b (b.filter c <$> Bound.compareRow b.grammar columns operator operands)
  | .filterJson c column document negated, b =>
    { builder := b.filter c (.jsonContains column document negated) }
  | .having c column operator operand, b =>
    .attempt b (b.having c <$> Bound.compare b.grammar column operator operand)
  | .havingRaw c template values, b => { builder := b.having c (.raw template values) }
  | .havingBetween column low high, b =>
    { builder := b.having .and (.between column low high false) }
  | .join kind table first operator second, b =>
    .attempt b (b.joinOn kind (.table table) (Bound.compareColumns b.grammar first operator second))
  | .joinWhere kind table column operator operand, b =>
    .attempt b (b.joinOn kind (.table table) (Bound.compare b.grammar column operator operand))
  | .joinWith kind table calls, b => .attempt b do
    let inner ← (Call.runAll calls (.new b.grammar)).toExcept
    return b.addJoin kind (.table table) inner
  | .crossJoin table, b => { builder := b.crossJoin (.table table) }
  | .joinQuery kind query label first operator second, b =>
    match query.build b.grammar with
    | .error e => { builder := b, failure := some e }
    | .ok (sql, values) =>
      let b := b.bind .join values
      .attempt b (b.joinOn kind (.fragment (b.aliasTable sql label))
        (Bound.compareColumns b.grammar first operator second))
  | .crossJoinQuery query label, b => .attempt b do
    let (sql, values) ← query.build b.grammar
    return (b.bind .join values).crossJoin (.fragment (b.aliasTable sql label))
  | .select columns, b => { builder := b.select columns }
  | .addSelect columns, b => { builder := b.addSelect columns }
  | .selectRaw template values, b => { builder := b.selectRaw template values }
  | .selectQuery query label, b => .attempt b do
    let (sql, values) ← query.build b.grammar
    return b.selectQuery sql values label
  | .distinct, b => { builder := b.distinct }
  | .table t, b => { builder := b.table t }
  | .sourceRaw template values, b => { builder := b.sourceRaw template values }
  | .sourceQuery query label, b => .attempt b do
    let (sql, values) ← query.build b.grammar
    return b.sourceQuery sql values label
  | .groupBy columns, b => { builder := b.groupBy columns }
  | .orderBy column direction, b => { builder := b.orderBy column direction }
  | .orderByText column direction, b =>
    .attempt b (b.orderBy column <$> Direction.read direction)
  | .orderByRaw template values, b => { builder := b.orderByRaw template values }
  | .inRandomOrder seed, b => { builder := b.inRandomOrder seed }
  | .reorder, b => { builder := b.reorder }
  | .limit n, b => { builder := b.limit n }
  | .offset n, b => { builder := b.offset n }
  | .forPage page perPage, b => { builder := b.forPage page perPage }
  | .union all member, b => .attempt b do
    let member ← member.build b.grammar
    return b.addUnion all member
  | .lock l, b => { builder := b.lock l }
  | .when condition calls, b => if condition then Call.runAll calls b else { builder := b }
  | .addBindings bucket values, b => { builder := b.bind bucket values }
  | .setBindings bucket values, b =>
    { builder := { b with bindings := b.bindings.set bucket values } }
  | .mergeBindings other, b => .attempt b do
    let other ← other.build b.grammar
    return b.mergeBindings other

/-- Follows calls up to the first failure, and keeps what they did until then. -/
def Call.runAll : List Call → Builder → Outcome
  | [], b => { builder := b }
  | call :: calls, b =>
    let o := call.run b
    match o.failure with
    | none => Call.runAll calls o.builder
    | some _ => o

/-- The builder that the calls make, in the grammar `g` unless the draft has its own. -/
def Draft.build : Draft → Grammar → Except Failure Builder
  | { grammar, calls }, g => (Call.runAll calls (.new (grammar.getD g))).toExcept

/-- The SQL of a subquery and its values; a subquery that is a text has to say something. -/
def Subquery.build : Subquery → Grammar → Except Failure (Sql × List Value)
  | .text sql, _ =>
    if (Text.trimmed sql).isEmpty then .error (.invalidSubquery "empty subquery")
    else .ok (sql, [])
  | .draft query, g => do
    let b ← query.build g
    return (← b.sql, b.values)
end

/-- Makes a builder for `g` from nothing. -/
def Builder.ofCalls (g : Grammar) (calls : List Call) : Except Failure Builder :=
  (Call.runAll calls (.new g)).toExcept

end SqlForge
