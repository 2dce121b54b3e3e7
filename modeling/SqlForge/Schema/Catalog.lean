import SqlForge.Grammar
import SqlForge.Statement

/-!
What a database says about itself: whether a table is there, what its columns are called, whether
foreign keys are checked.
-/

namespace SqlForge.Grammar

variable (g : Grammar)

/-- The schema that is searched; one dialect has a name for the usual one. -/
def schemaName (database : Option String) : String :=
  match g.dialect with
  | .postgres => database.getD "public"
  | .mysql | .sqlite => database.getD ""

/-- A query that gives a row if the table is there. -/
def tableExists (database : Option String) (table : String) : Statement :=
  let name := Value.text (g.tablePrefix ++ table)
  match g.dialect with
  | .mysql | .postgres =>
    ⟨"select * from information_schema.tables where table_schema = ? and table_name = ?" ++
      " and table_type = 'BASE TABLE'", [.text (g.schemaName database), name]⟩
  | .sqlite => ⟨"select * from sqlite_master where type = 'table' and name = ?", [name]⟩

/-- A query that gives a row for each column of the table. -/
def columnListing (database : Option String) (table : String) : Statement :=
  let bindings := [Value.text (g.schemaName database), .text (g.tablePrefix ++ table)]
  let rest := " from information_schema.columns where table_schema = ? and table_name = ?"
  match g.dialect with
  | .mysql => ⟨"select column_name as " ++ g.wrap "column_name" ++ rest, bindings⟩
  | .postgres => ⟨"select column_name" ++ rest, bindings⟩
  | .sqlite => { sql := "pragma table_info(" ++ g.wrapTable table ++ ")" }

/-- The statement that turns the checking of foreign keys on or off. -/
def checkForeignKeys (checked : Bool) : String :=
  match g.dialect, checked with
  | .mysql, true => "SET FOREIGN_KEY_CHECKS=1;"
  | .mysql, false => "SET FOREIGN_KEY_CHECKS=0;"
  | .postgres, true => "SET CONSTRAINTS ALL IMMEDIATE;"
  | .postgres, false => "SET CONSTRAINTS ALL DEFERRED;"
  | .sqlite, true => "PRAGMA foreign_keys = ON;"
  | .sqlite, false => "PRAGMA foreign_keys = OFF;"

end SqlForge.Grammar
