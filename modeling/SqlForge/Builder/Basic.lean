import SqlForge.Bindings
import SqlForge.Select.Render
import SqlForge.Statement

/-!
A statement under construction: its clauses, and the values of its clauses in buckets. The values
are handed out bucket after bucket, whatever order they came in.
-/

namespace SqlForge

structure Builder where
  grammar : Grammar
  query : Select := Select.empty
  bindings : Bindings := {}

namespace Builder

/-- Asks for nothing yet. -/
def new (g : Grammar) : Builder where
  grammar := g

def ofTable (g : Grammar) (t : Table) : Builder where
  grammar := g
  query := { Select.empty with source := some (.table t) }

/-- The values of the statement, in the order of the clauses. -/
def values (b : Builder) : List Value :=
  b.bindings.flatten ++ b.query.carriedValues

def sql (b : Builder) : Except Failure Sql :=
  b.query.render b.grammar

def statement (b : Builder) : Except Failure Statement := do
  let sql ← b.sql
  return ⟨sql.text, b.values⟩

/-- The statement that asks whether there is any row. -/
def existsStatement (b : Builder) : Except Failure Statement := do
  let sql ← b.query.renderExists b.grammar
  return ⟨sql.text, b.values⟩

/-! ### Recording values -/

def bind (b : Builder) (bucket : Bucket) (values : List Value) : Builder :=
  { b with bindings := b.bindings.extend bucket values }

/-- Appends every value of `other` to the bucket it has there. -/
def mergeBindings (b other : Builder) : Builder :=
  { b with bindings := b.bindings.merge other.bindings }

/-! ### Derived builders -/

def without (b : Builder) (components : List Component) : Builder :=
  { b with query := components.foldl Select.without b.query }

def withoutBindings (b : Builder) (buckets : List Bucket) : Builder :=
  { b with bindings := buckets.foldl Bindings.clear b.bindings }

/--
The builder that evaluates an aggregate. A compound statement is evaluated as a whole, and
conditions on groups may name selected columns, so these keep their column list; all others lose
it and its values.
-/
def aggregate (b : Builder) (function : String) (columns : List Column) : Builder :=
  let keepsColumns := !b.query.unions.isEmpty || !b.query.havings.isEmpty
  let b := if keepsColumns then b else (b.without [.columns]).withoutBindings [.select]
  { b with query := { b.query with aggregate := some ⟨function, columns⟩ } }

end Builder

end SqlForge
