import SqlForge.Schema.Catalog
import SqlForge.Schema.Statement
import SqlForge.Session.Basic

/-!
Changing and inspecting tables through a connection.
-/

namespace SqlForge.Connection

open SqlForge.Schema

variable {σ : Type} (c : Connection σ)

/-- A change to a table, with the prefix and the length of texts of the connection. -/
def blueprint (table : String) : Blueprint :=
  .ofGrammar c.grammar c.config.stringLength table

/-- Sends statements in order up to the first that fails. -/
def executeChanges : List String → Action σ Unit
  | [] => return ()
  | sql :: rest => do
    dispatchSchema .schema sql
    let _ ← c.execute .statement { sql }
    executeChanges rest

/-- Makes a change; nothing is sent unless all of it can be written. -/
def build (b : Blueprint) : Action σ Unit := do
  let statements ← b.statements c.grammar
  c.executeChanges statements

def createTable (table : String) (define : Blueprint → Blueprint) : Action σ Unit :=
  c.build (define ((c.blueprint table).record .create))

def alterTable (table : String) (define : Blueprint → Blueprint) : Action σ Unit :=
  c.build (define (c.blueprint table))

def dropTable (table : String) : Action σ Unit :=
  c.build ((c.blueprint table).record .drop)

def dropTableIfExists (table : String) : Action σ Unit :=
  c.build ((c.blueprint table).record .dropIfExists)

def renameTable (source target : String) : Action σ Unit :=
  c.build ((c.blueprint source).record (.rename target))

def hasTable (table : String) : Action σ Bool := do
  let s := c.grammar.tableExists c.config.database table
  dispatchSchema .hasTable s.sql
  let rows ← c.select .select s
  return !rows.isEmpty

def columnsOf (table : String) : Action σ (List String) := do
  let s := c.grammar.columnListing c.config.database table
  dispatchSchema .columnListing s.sql
  let rows ← c.select .select s
  return c.config.dialect.listedColumns rows

/-- Whether the table has all of these columns, in any case. -/
def hasColumns (table : String) (columns : List String) : Action σ Bool := do
  let listed ← c.columnsOf table
  let listed := listed.map Text.lowercase
  return columns.all fun column => listed.contains (Text.lowercase column)

def checkForeignKeys (checked : Bool) : Action σ Bool :=
  c.execute .statement { sql := c.grammar.checkForeignKeys checked }

end SqlForge.Connection
