import SqlForge.Grammar
import SqlForge.Schema.Column
import SqlForge.Text.Lowercase

/-!
A change to one table: the columns it gets, what is done to it, and what follows from its columns.
-/

namespace SqlForge.Schema

structure Index where
  name : String
  columns : List String
  /-- How the index is kept. -/
  algorithm : Option String := none
  deriving DecidableEq, Repr

structure ForeignKey where
  name : String
  columns : List String
  references : List String := []
  on : String := ""
  onDelete : Option String := none
  onUpdate : Option String := none
  deriving DecidableEq, Repr

inductive Command where
  | create
  /-- Adds the columns to a table that is there. -/
  | add
  | drop
  | dropIfExists
  | dropColumns (columns : List String)
  | renameColumn (source target : String)
  | rename (target : String)
  | index (kind : IndexKind) (index : Index)
  | foreign (key : ForeignKey)
  | dropPrimary
  | dropIndex (kind : IndexKind) (name : String)
  | dropForeign (name : String)
  | renameIndex (source target : String)
  | comment (column text : String)
  deriving DecidableEq, Repr

structure Blueprint where
  table : String
  /-- What generated index names start with. -/
  tablePrefix : String := ""
  /-- The length of texts for which none is given. -/
  stringLength : Nat := 255
  columns : List Column := []
  /-- What is done to the table, in order. -/
  commands : List Command := []
  foreignKeys : List ForeignKey := []
  engine : Option String := none
  charset : Option String := none
  collation : Option String := none
  temporary : Bool := false
  deriving Inhabited

namespace Blueprint

/-- A change that names indexes as the grammar names tables. -/
def ofGrammar (g : Grammar) (stringLength : Nat) (table : String) : Blueprint where
  table := table
  tablePrefix := g.tablePrefix
  stringLength := stringLength

/-- Whether the table is created. -/
def isCreating (b : Blueprint) : Bool :=
  b.commands.contains .create

/-- The name of an index that is given none: in lower case, with hyphens and dots replaced. -/
def indexName (b : Blueprint) (suffix : String) (columns : List String) : String :=
  let name := b.tablePrefix ++ b.table ++ "_" ++ "_".intercalate columns ++ "_" ++ suffix
  (Text.lowercase name).map fun c => if c = '-' ∨ c = '.' then '_' else c

def record (b : Blueprint) (c : Command) : Blueprint :=
  { b with commands := b.commands ++ [c] }

def addColumn (b : Blueprint) (c : Column) : Blueprint :=
  { b with columns := b.columns ++ [c] }

def addIndex (b : Blueprint) (kind : IndexKind) (columns : List String) : Blueprint :=
  b.record (.index kind { name := b.indexName kind.suffix columns, columns := columns })

/-- Adds a foreign key; `finish` says what it refers to. -/
def addForeign (b : Blueprint) (columns : List String) (finish : ForeignKey → ForeignKey) :
    Blueprint :=
  let key : ForeignKey := { name := b.indexName "foreign" columns, columns := columns }
  { b with foreignKeys := b.foreignKeys ++ [finish key] }

/-- Adds a column that counts up; `finish` says what else it is. -/
def addCounter (b : Blueprint) (name : String) (type : ColumnType) (finish : Column → Column) :
    Blueprint :=
  b.addColumn (finish { name, type, unsigned := true, autoIncrement := true })

def addUnsigned (b : Blueprint) (name : String) (type : ColumnType) (finish : Column → Column) :
    Blueprint :=
  b.addColumn (finish { name, type, unsigned := true })

/-- Adds the times at which a row was made and changed. -/
def addTimestamps (b : Blueprint) : Blueprint :=
  (b.addColumn { name := "created_at", type := .timestamp, nullable := true }).addColumn
    { name := "updated_at", type := .timestamp, nullable := true }

/-- Adds the time at which a row was marked as deleted. -/
def addSoftDeletes (b : Blueprint) (finish : Column → Column) : Blueprint :=
  b.addColumn (finish { name := "deleted_at", type := .timestamp, nullable := true })

/-! ### What follows from the columns -/

def addedColumns (b : Blueprint) : List Command :=
  if b.columns.isEmpty || b.isCreating then [] else [.add]

def columnIndexes (b : Blueprint) : List Command :=
  b.columns.flatMap fun c =>
    c.indexes.map fun (kind, name) =>
      .index kind { name := name.getD (b.indexName kind.suffix [c.name]), columns := [c.name] }

/-- Only one dialect has statements for comments. -/
def columnComments (b : Blueprint) : Dialect → List Command
  | .postgres => b.columns.filterMap fun c => c.comment.map fun text => .comment c.name text
  | .mysql | .sqlite => []

/-- Everything to be done, in order. -/
def allCommands (b : Blueprint) (d : Dialect) : List Command :=
  b.addedColumns ++ b.commands ++ b.columnIndexes ++ b.foreignKeys.map .foreign ++
    b.columnComments d

end Blueprint

end SqlForge.Schema
