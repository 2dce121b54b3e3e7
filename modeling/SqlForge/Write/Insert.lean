import SqlForge.Builder.Basic
import SqlForge.Record

/-!
INSERT statements. Only the records bind values; of the builder nothing but the source counts.
-/

namespace SqlForge

/-- The source as a table that is written to. -/
def Builder.target (b : Builder) (t : Target) : Except Failure Sql :=
  match b.query.source with
  | some source => .ok (source.render b.grammar)
  | none => .error (.missingTable t)

/-- What becomes of a row that is there already. -/
inductive Duplicates where
  | refused
  | ignored
  deriving DecidableEq, Repr

namespace Duplicates

/-- How the statement starts. -/
def opening : Dialect → Duplicates → String
  | .mysql, ignored => "INSERT IGNORE INTO "
  | .sqlite, ignored => "INSERT OR IGNORE INTO "
  | _, _ => "INSERT INTO "

/-- How the statement ends. -/
def closing : Dialect → Duplicates → String
  | .postgres, ignored => " ON CONFLICT DO NOTHING"
  | _, _ => ""

end Duplicates

/-- The operands of a record between parentheses. -/
def Record.row (r : Record) : Sql :=
  "(" ++ operandList r.operands ++ ")"

/-- What follows the table; the first record names the columns of all. -/
def insertBody (g : Grammar) : List Record → Sql
  | [] =>
    match g.dialect with
    | .mysql => " () VALUES ()"
    | .postgres | .sqlite => " DEFAULT VALUES"
  | first :: rest =>
    " (" ++ ", ".intercalate (first.columns.map g.wrap) ++ ") VALUES " ++
      Sql.join ", " ((first :: rest).map Record.row)

namespace Builder

def insertSql (b : Builder) (duplicates : Duplicates) (records : List Record) :
    Except Failure Sql := do
  let table ← b.target .insert
  let d := b.grammar.dialect
  return duplicates.opening d ++ table ++ insertBody b.grammar records ++ duplicates.closing d

/-- Inserts records, which have to share one list of columns. -/
def insert (b : Builder) (duplicates : Duplicates) (records : List Record) :
    Except Failure Statement := do
  let records ← Record.aligned records
  let sql ← b.insertSql duplicates records
  return ⟨sql.text, records.flatMap Record.bindings⟩

/-- The column whose generated value is wanted. -/
def keyColumn (sequence : Option String) : String :=
  sequence.getD "id"

/-- Inserts a record and asks for its generated key where the dialect can. -/
def insertReturning (b : Builder) (r : Record) (sequence : Option String) :
    Except Failure Statement := do
  let sql ← b.insertSql .refused [r]
  let returning :=
    if b.grammar.dialect = .postgres then
      " RETURNING " ++ b.grammar.wrap (keyColumn sequence)
    else ""
  return ⟨sql.text ++ returning, r.bindings⟩

/-- Inserts the rows of a query. -/
def insertRows (b : Builder) (columns : List Column) (query : Builder) :
    Except Failure Statement := do
  let rows ← query.sql
  let table ← b.target .insert
  let sql : Sql := "INSERT INTO " ++ table ++ " (" ++ b.grammar.columnList columns ++ ") " ++ rows
  return ⟨sql.text, query.values⟩

end Builder

end SqlForge
