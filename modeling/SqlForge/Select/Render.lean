import SqlForge.Select.Basic
import SqlForge.Text.Search

/-!
Writing a SELECT in a dialect. `Select.render` writes the clauses that hold other clauses by
recursion and puts the statement together from them; it fails only where a dialect lacks a
condition.
-/

namespace SqlForge

/-! ### Parts without conditions -/

def Selection.render (g : Grammar) : Selection → Sql
  | .column c => g.column c
  | .fragment sql => sql

/-- The column list; an empty one means every column. -/
def selectionList (g : Grammar) : List Selection → Sql
  | [] => "*"
  | selections => Sql.join ", " (selections.map (·.render g))

def Source.render (g : Grammar) : Source → Sql
  | .table t => g.table t
  | .fragment sql => sql

def Ordering.render (g : Grammar) : Ordering → Sql
  | .column c direction => g.column c ++ " " ++ direction.sql
  | .raw sql _ => sql

def renderOrders (g : Grammar) : List Ordering → Sql
  | [] => Sql.empty
  | orders => "ORDER BY " ++ Sql.join ", " (orders.map (·.render g))

def renderLimit : Option Nat → Sql
  | some n => "LIMIT " ++ toString n
  | none => Sql.empty

/-- Two dialects take no offset without a limit and get one that limits nothing. -/
def renderOffset (g : Grammar) (limited : Bool) : Option Nat → Sql
  | none => Sql.empty
  | some n =>
    let offset := "OFFSET " ++ toString n
    if limited then offset
    else match g.dialect with
      | .mysql => "LIMIT 18446744073709551615 " ++ offset
      | .postgres => offset
      | .sqlite => "LIMIT -1 " ++ offset

def Lock.render : Dialect → Lock → Sql
  | .sqlite, _ => Sql.empty
  | .mysql, .update | .postgres, .update => "FOR UPDATE"
  | .mysql, .shared => "LOCK IN SHARE MODE"
  | .postgres, .shared => "FOR SHARE"
  | _, .raw sql => sql

def Aggregate.render (g : Grammar) (distinct : Bool) (a : Aggregate) : Sql :=
  let columns := g.columnList a.columns
  let columns := if distinct && columns ≠ "*" then "DISTINCT " ++ columns else columns
  "SELECT " ++ a.function ++ "(" ++ columns ++ ") AS aggregate"

/-- A member of a compound statement, as the dialect encloses it. -/
def encloseMember (d : Dialect) (sql : Sql) : Sql :=
  match d with
  | .mysql | .postgres => "(" ++ sql ++ ")"
  | .sqlite => "SELECT * FROM (" ++ sql ++ ")"

/-! ### Statements from their parts -/

/-- The clauses that hold other clauses, as they are written. -/
structure Parts where
  joins : Sql
  wheres : Sql
  havings : Sql
  /-- The members of a compound statement after the first, each with its conjunction. -/
  members : List Sql

/-- Conditions behind their keyword, if there are any. -/
def headed (keyword : String) (clauses : List Clause) (sql : Sql) : Sql :=
  if clauses.isEmpty then Sql.empty else keyword ++ sql

namespace Select

/-- The column list, or an aggregate in its place. -/
def renderHead (g : Grammar) (q : Select) : Option Aggregate → Sql
  | some a => a.render g q.distinct
  | none =>
    (if q.distinct then "SELECT DISTINCT " else "SELECT " : String) ++ selectionList g q.selections

def renderSource (g : Grammar) (q : Select) : Sql :=
  match q.source with
  | some source => "FROM " ++ source.render g
  | none => Sql.empty

def renderGroups (g : Grammar) (q : Select) : Sql :=
  if q.groups.isEmpty then Sql.empty else "GROUP BY " ++ g.columnList q.groups

def renderLock (g : Grammar) (q : Select) : Sql :=
  (q.lock.map (·.render g.dialect)).getD Sql.empty

/-- The first member. -/
def renderSingle (g : Grammar) (q : Select) (a : Option Aggregate) (p : Parts) : Sql :=
  Sql.words [q.renderHead g a, q.renderSource g, p.joins, headed "WHERE " q.wheres p.wheres,
    q.renderGroups g, headed "HAVING " q.havings p.havings, renderOrders g q.orders,
    renderLimit q.limit, renderOffset g q.limit.isSome q.offset]

/-- All members, with the ordering and the paging of the whole. -/
def renderWhole (g : Grammar) (q : Select) (a : Option Aggregate) (p : Parts) : Sql :=
  if q.unions.isEmpty then q.renderSingle g a p
  else
    encloseMember g.dialect (q.renderSingle g a p) ++ " " ++ Sql.words (p.members ++ [
      renderOrders g q.unionOrders,
      renderLimit q.unionLimit,
      renderOffset g q.unionLimit.isSome q.unionOffset])

def renderBody (g : Grammar) (q : Select) (a : Option Aggregate) (p : Parts) : Sql :=
  Sql.words [q.renderWhole g a p, q.renderLock g]

/-- The statement from its parts. An aggregate of a compound statement is taken over all of it. -/
def assemble (g : Grammar) (q : Select) (p : Parts) : Sql :=
  match q.aggregate with
  | some a =>
    if q.unions.isEmpty then q.renderBody g (some a) p
    else
      a.render g q.distinct ++ " FROM (" ++ q.renderBody g none p ++ ") AS " ++
        g.wrapTable "temp_table"
  | none => q.renderBody g none p

end Select

/-! ### Conditions -/

def renderDatePart (d : Dialect) (part : DatePart) (column operator : String) (operand : Sql) : Sql :=
  match d with
  | .mysql =>
    let function := match part with
      | .date => "date"
      | .time => "time"
      | .day => "day"
      | .month => "month"
      | .year => "year"
    function ++ "(" ++ column ++ ") " ++ operator ++ " " ++ operand
  | .postgres =>
    let value := match part with
      | .date => column ++ "::date"
      | .time => column ++ "::time"
      | .day => "extract(day from " ++ column ++ ")"
      | .month => "extract(month from " ++ column ++ ")"
      | .year => "extract(year from " ++ column ++ ")"
    value ++ " " ++ operator ++ " " ++ operand
  | .sqlite =>
    let format := match part with
      | .date => "%Y-%m-%d"
      | .time => "%H:%M:%S"
      | .day => "%d"
      | .month => "%m"
      | .year => "%Y"
    "strftime('" ++ format ++ "', " ++ column ++ ") " ++ operator ++ " cast(" ++ operand ++ " as text)"

/-- Every arrow that gives text becomes the one that gives a document. -/
def documentArrows : List Char → List Char
  | '-' :: '>' :: '>' :: cs => '-' :: '>' :: documentArrows cs
  | c :: cs => c :: documentArrows cs
  | [] => []

def renderJsonContains (g : Grammar) (column : Column) (operand : Operand) (negated : Bool) :
    Except Failure Sql :=
  let not := if negated then "NOT " else ""
  match g.dialect with
  | .mysql =>
    let call (field : String) (path : Sql) : Sql :=
      not ++ "json_contains(" ++ field ++ ", " ++ operand.sql ++ path ++ ")"
    .ok <| match column with
      | .name n =>
        match Identifier.splitJson? n with
        | some (field, path) => call (g.wrap field) (", " ++ Grammar.jsonPath path)
        | none => call (g.wrap n) Sql.empty
      | .raw sql => call sql Sql.empty
  | .postgres =>
    let field := String.ofList (documentArrows (g.column column).toList)
    .ok (not ++ "(" ++ field ++ ")::jsonb @> " ++ operand.sql)
  | .sqlite => .error (.unsupported .sqlite .jsonContainment)

/-- Patterns are compared with text, so one dialect casts the column. -/
def comparedColumn (g : Grammar) (column : Column) (operator : String) : String :=
  if g.dialect = .postgres ∧ Text.contains (Text.asciiLower operator) "like" then
    g.column column ++ "::text"
  else g.column column

def membership (negated : Bool) : String :=
  if negated then " NOT IN (" else " IN ("

mutual
def Condition.render (g : Grammar) : Condition → Except Failure Sql
  | .compare column operator operand =>
    .ok (comparedColumn g column operator ++ " " ++ operator ++ " " ++ operand.sql)
  | .raw sql => .ok sql
  | .among _ [] negated => .ok (if negated then "1 = 1" else "0 = 1" : String)
  | .among column operands negated =>
    .ok (g.column column ++ membership negated ++ operandList operands ++ ")")
  | .amongRows column query negated => do
    let inner ← query.render g
    return g.column column ++ membership negated ++ inner ++ ")"
  | .isNull column negated =>
    .ok (g.column column ++ if negated then " IS NOT NULL" else " IS NULL" : String)
  | .between column low high negated =>
    let between := if negated then " NOT BETWEEN " else " BETWEEN "
    .ok (g.column column ++ between ++ low.sql ++ " AND " ++ high.sql)
  | .group clauses => do
    let inner ← renderClauses g clauses
    return "(" ++ inner ++ ")"
  | .exists query negated => do
    let inner ← query.render g
    return (if negated then "NOT EXISTS (" else "EXISTS (" : String) ++ inner ++ ")"
  | .compareColumns first operator second =>
    .ok (g.column first ++ " " ++ operator ++ " " ++ g.column second : String)
  | .compareQuery column operator query => do
    let inner ← query.render g
    return g.column column ++ " " ++ operator ++ " (" ++ inner ++ ")"
  | .compareDate part column operator operand =>
    .ok (renderDatePart g.dialect part (g.column column) operator operand.sql)
  | .compareRow columns operator operands =>
    .ok ("(" ++ g.columnList columns ++ ") " ++ operator ++ " (" ++ operandList operands ++ ")")
  | .jsonContains column operand negated => renderJsonContains g column operand negated

/-- Conditions with their connectives; the first stands without one. -/
def renderClauses (g : Grammar) : List Clause → Except Failure Sql
  | [] => .ok Sql.empty
  | { condition, .. } :: clauses => do
    let first ← condition.render g
    let rest ← renderFurther g clauses
    return first ++ rest

def renderFurther (g : Grammar) : List Clause → Except Failure Sql
  | [] => .ok Sql.empty
  | { connective, condition } :: clauses => do
    let first ← condition.render g
    let rest ← renderFurther g clauses
    return " " ++ connective.sql ++ " " ++ first ++ rest

def Join.render (g : Grammar) : Join → Except Failure Sql
  | { kind, source, inner, conditions } => do
    let joins ← renderJoins g inner
    let on ← renderClauses g conditions
    let table := source.render g
    let table := if inner.isEmpty then table else "(" ++ table ++ " " ++ joins ++ ")"
    let on := if conditions.isEmpty then Sql.empty else " ON " ++ on
    return kind.sql ++ " JOIN " ++ table ++ on

/-- Joins with spaces between them. -/
def renderJoins (g : Grammar) : List Join → Except Failure Sql
  | [] => .ok Sql.empty
  | [join] => join.render g
  | join :: joins => do
    let first ← join.render g
    let rest ← renderJoins g joins
    return first ++ " " ++ rest

/-- The members of a compound statement after the first, each with its conjunction. -/
def renderMembers (g : Grammar) : List UnionMember → Except Failure (List Sql)
  | [] => .ok []
  | { all, query } :: members => do
    let first ← query.render g
    let rest ← renderMembers g members
    let conjunction := if all then "UNION ALL " else "UNION "
    return (conjunction ++ encloseMember g.dialect first) :: rest

def Select.render (g : Grammar) : Select → Except Failure Sql
  | q@{ joins, wheres, havings, unions, .. } => do
    let joins ← renderJoins g joins
    let wheres ← renderClauses g wheres
    let havings ← renderClauses g havings
    let members ← renderMembers g unions
    return q.assemble g { joins, wheres, havings, members }
end

/-- Asks whether the statement gives any row. -/
def Select.renderExists (g : Grammar) (q : Select) : Except Failure Sql := do
  let inner ← q.render g
  return "SELECT EXISTS(" ++ inner ++ ") AS " ++ g.wrap "exists"

end SqlForge
