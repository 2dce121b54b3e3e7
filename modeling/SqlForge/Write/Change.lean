import SqlForge.Text.Search
import SqlForge.Write.Insert

/-!
UPDATE, DELETE and TRUNCATE. One dialect writes joins and limits into the statement itself. The
others have no place for them there and name the rows by a subquery, which is the query of the
builder over the identity of its rows.
-/

namespace SqlForge

/-- The column by which a dialect identifies a row. -/
def Dialect.rowIdentity : Dialect → String
  | .postgres => "ctid"
  | .mysql | .sqlite => "rowid"

/-- Assignments, separated by commas. Only one dialect takes qualified columns here. -/
def assignments (g : Grammar) (r : Record) : Sql :=
  let target (column : String) : String :=
    match g.dialect with
    | .mysql => g.wrap column
    | .postgres | .sqlite => g.wrap (Identifier.lastSegment column)
  Sql.join ", " (r.fields.map fun (column, operand) => target column ++ " = " ++ operand.sql)

/-- The conditions on rows with their keyword, if there are any. -/
def Select.renderWheres (g : Grammar) (q : Select) : Except Failure Sql := do
  if q.wheres.isEmpty then return Sql.empty
  let wheres ← renderClauses g q.wheres
  return "WHERE " ++ wheres

/-- The name by which the statement knows a written table: its alias, or else all of it. -/
def exposedName (table : String) : String :=
  match Text.afterFirst? " AS ".toList table.toList with
  | some label => String.ofList label
  | none => table

namespace Builder

/-- Whether the rows can be named by the conditions alone. -/
def isPlain (b : Builder) : Bool :=
  b.query.joins.isEmpty && b.query.limit.isNone

/-- The query of the builder over the identity of its rows. -/
def rowIdentities (b : Builder) : Except Failure Select :=
  match b.query.source with
  | some (.table (.name name)) =>
    let label := match Identifier.splitAlias? name with
      | some (_, label) => label
      | none => name
    let identity := label ++ "." ++ b.grammar.dialect.rowIdentity
    .ok { b.query with
      aggregate := none, distinct := false, selections := [.column (.name identity)] }
  | _ => .error (.missingTable .rowIds)

/-- A condition that holds of the rows of the builder. -/
def isRow (b : Builder) : Except Failure Sql := do
  let identities ← b.rowIdentities
  let rows ← identities.render b.grammar
  return b.grammar.wrap b.grammar.dialect.rowIdentity ++ " IN (" ++ rows ++ ")"

/-- The values of a query over the identity of the rows: those of the columns are gone. -/
def rowValues (b : Builder) : List Value :=
  b.bindings.flattenExcept [.select] ++ b.query.carriedValues

def updateSql (b : Builder) (r : Record) : Except Failure Sql := do
  let g := b.grammar
  let q := b.query
  let table ← b.target .update
  let set := "SET " ++ assignments g r
  match g.dialect with
  | .mysql =>
    let joins ← renderJoins g q.joins
    let wheres ← q.renderWheres g
    let paging := if q.joins.isEmpty then [renderOrders g q.orders, renderLimit q.limit] else []
    return Sql.words (["UPDATE " ++ table, joins, set, wheres] ++ paging)
  | .postgres | .sqlite =>
    if b.isPlain then
      let wheres ← q.renderWheres g
      return Sql.words ["UPDATE " ++ table ++ " " ++ set, wheres]
    else
      let isRow ← b.isRow
      return "UPDATE " ++ table ++ " " ++ set ++ " WHERE " ++ isRow

/-- The values of an UPDATE: of the clauses that are written, in the order in which they are. -/
def updateValues (b : Builder) (r : Record) : List Value :=
  match b.grammar.dialect with
  | .mysql =>
    b.bindings.flattenOnly [.source, .join] ++ r.bindings ++
      b.bindings.flattenOnly (if b.query.joins.isEmpty then [.filter, .order] else [.filter])
  | .postgres | .sqlite =>
    if b.isPlain then
      b.bindings.flattenOnly [.source] ++ r.bindings ++ b.bindings.flattenOnly [.filter]
    else r.bindings ++ b.rowValues

def update (b : Builder) (r : Record) : Except Failure Statement := do
  let sql ← b.updateSql r
  return ⟨sql.text, b.updateValues r⟩

def deleteSql (b : Builder) : Except Failure Sql := do
  let g := b.grammar
  let q := b.query
  let table ← b.target .delete
  match g.dialect with
  | .mysql =>
    let joins ← renderJoins g q.joins
    let wheres ← q.renderWheres g
    if q.joins.isEmpty then
      return Sql.words ["DELETE FROM " ++ table, wheres, renderOrders g q.orders, renderLimit q.limit]
    else
      return Sql.words ["DELETE " ++ exposedName table.text ++ " FROM " ++ table, joins, wheres]
  | .postgres | .sqlite =>
    if b.isPlain then
      let wheres ← q.renderWheres g
      return Sql.words ["DELETE FROM " ++ table, wheres]
    else
      let isRow ← b.isRow
      return "DELETE FROM " ++ table ++ " WHERE " ++ isRow

/-- The values of a DELETE: of the clauses that are written, in the order in which they are. -/
def deleteValues (b : Builder) : List Value :=
  match b.grammar.dialect with
  | .mysql =>
    b.bindings.flattenOnly
      (if b.query.joins.isEmpty then [.source, .filter, .order] else [.source, .join, .filter])
  | .postgres | .sqlite =>
    if b.isPlain then b.bindings.flattenOnly [.source, .filter] else b.rowValues

def delete (b : Builder) : Except Failure Statement := do
  let sql ← b.deleteSql
  return ⟨sql.text, b.deleteValues⟩

/-- The statements that empty the table and let its generated keys start again. -/
def truncate (b : Builder) : Except Failure (List Statement) := do
  let table ← b.target .truncate
  match b.grammar.dialect with
  | .mysql => return [{ sql := "TRUNCATE TABLE " ++ table.text }]
  | .postgres => return [{ sql := "TRUNCATE " ++ table.text ++ " RESTART IDENTITY CASCADE" }]
  | .sqlite =>
    match b.query.source with
    | some (.table (.name name)) =>
      return [
        ⟨"DELETE FROM sqlite_sequence WHERE name = ?", [.text (b.grammar.tablePrefix ++ name)]⟩,
        { sql := "DELETE FROM " ++ table.text }]
    | _ => throw (.missingTable .truncate)

end Builder

end SqlForge
