import SqlForge.Failure
import SqlForge.Schema.Blueprint
import SqlForge.Schema.Definition

/-!
The statements of a change. Most commands are one statement; one dialect has to write keys into the
statement that creates the table, and cannot add them later.
-/

namespace SqlForge.Schema

namespace Blueprint

variable (g : Grammar) (b : Blueprint)

def tableText : String :=
  g.wrapTable b.table

/-- Names of columns, separated by commas; none at all is nothing. -/
def nameList (names : List String) : String :=
  ", ".intercalate (names.map g.wrap)

def definitions : List String :=
  b.columns.map (·.definition g)

/-- What a foreign key refers to, and what becomes of its rows. -/
def reference (key : ForeignKey) : String :=
  let action (event : String) : Option String → String
    | some action => " on " ++ event ++ " " ++ action
    | none => ""
  " references " ++ g.wrapTable key.on ++ " (" ++ nameList g key.references ++ ")" ++
    action "delete" key.onDelete ++ action "update" key.onUpdate

def usingAlgorithm (i : Index) : String :=
  match i.algorithm with
  | some algorithm => " using " ++ algorithm
  | none => ""

def alter (change : String) : String :=
  "alter table " ++ b.tableText g ++ " " ++ change

/-- A statement that changes the table in several ways at once. -/
def alterAll (changes : List String) : String :=
  b.alter g (", ".intercalate changes)

def alterForeign (key : ForeignKey) : String :=
  b.alter g <| "add constraint " ++ g.wrapSegment key.name ++ " foreign key (" ++
    nameList g key.columns ++ ")" ++ reference g key

def renameColumnText (source target : String) : String :=
  b.alter g ("rename column " ++ g.wrap source ++ " to " ++ g.wrap target)

/-- The statement that creates the table with `body` between its parentheses. -/
def createText (body : String) : String :=
  (if b.temporary then "create temporary table " else "create table ") ++ b.tableText g ++
    " (" ++ body ++ ")"

def columnBody : String :=
  ", ".intercalate (b.definitions g)

/-! ### Three dialects -/

/-- Options behind the columns of a new table. -/
def tableOptions : String :=
  let option (before : String) (after : String) : Option String → String
    | some text => before ++ text ++ after
    | none => ""
  option " default character set " "" b.charset ++ option " collate '" "'" b.collation ++
    option " engine = " "" b.engine

def mysqlKey (kind : IndexKind) (i : Index) : String :=
  let name := match kind with
    | .primary => "primary key "
    | .unique => "unique " ++ g.wrapSegment i.name
    | .plain => "index " ++ g.wrapSegment i.name
    | .spatial => "spatial index " ++ g.wrapSegment i.name
  b.alter g ("add " ++ name ++ usingAlgorithm i ++ "(" ++ nameList g i.columns ++ ")")

def mysqlStatements : Command → List String
  | .create => [b.createText g (b.columnBody g) ++ b.tableOptions]
  | .add => [b.alterAll g ((b.definitions g).map ("add " ++ ·))]
  | .drop => ["drop table " ++ b.tableText g]
  | .dropIfExists => ["drop table if exists " ++ b.tableText g]
  | .dropColumns columns => [b.alterAll g (columns.map ("drop " ++ g.wrap ·))]
  | .renameColumn source target => [b.renameColumnText g source target]
  | .rename target => ["rename table " ++ b.tableText g ++ " to " ++ g.wrapTable target]
  | .index kind i => [b.mysqlKey g kind i]
  | .foreign key => [b.alterForeign g key]
  | .dropPrimary => [b.alter g "drop primary key"]
  | .dropIndex _ name => [b.alter g ("drop index " ++ g.wrapSegment name)]
  | .dropForeign name => [b.alter g ("drop foreign key " ++ g.wrapSegment name)]
  | .renameIndex source target =>
    [b.alter g ("rename index " ++ g.wrapSegment source ++ " to " ++ g.wrapSegment target)]
  | .comment .. => []

def postgresKey (kind : IndexKind) (i : Index) : String :=
  let columns := "(" ++ nameList g i.columns ++ ")"
  let create := "create index " ++ g.wrapSegment i.name ++ " on " ++ b.tableText g
  match kind with
  | .primary => b.alter g ("add primary key " ++ columns)
  | .unique => b.alter g ("add constraint " ++ g.wrapSegment i.name ++ " unique " ++ columns)
  | .plain => create ++ usingAlgorithm i ++ " " ++ columns
  | .spatial => create ++ " using gist " ++ columns

def postgresStatements : Command → List String
  | .create => [b.createText g (b.columnBody g)]
  | .add => [b.alterAll g ((b.definitions g).map ("add column " ++ ·))]
  | .drop => ["drop table " ++ b.tableText g]
  | .dropIfExists => ["drop table if exists " ++ b.tableText g]
  | .dropColumns columns => [b.alterAll g (columns.map ("drop column " ++ g.wrap ·))]
  | .renameColumn source target => [b.renameColumnText g source target]
  | .rename target => [b.alter g ("rename to " ++ g.wrapTable target)]
  | .index kind i => [b.postgresKey g kind i]
  | .foreign key => [b.alterForeign g key]
  | .dropPrimary =>
    [b.alter g ("drop constraint " ++ g.wrapSegment (g.tablePrefix ++ b.table ++ "_pkey"))]
  | .dropIndex .plain name | .dropIndex .spatial name => ["drop index " ++ g.wrapSegment name]
  | .dropIndex _ name | .dropForeign name =>
    [b.alter g ("drop constraint " ++ g.wrapSegment name)]
  | .renameIndex source target =>
    ["alter index " ++ g.wrapSegment source ++ " rename to " ++ g.wrapSegment target]
  | .comment column text =>
    ["comment on column " ++ b.tableText g ++ "." ++ g.wrap column ++ " is " ++
      Identifier.quoteText text]

/-- The keys that are written into the statement that creates the table. -/
def inlineKeys (commands : List Command) : String :=
  let foreign := commands.filterMap fun
    | .foreign key =>
      some (", foreign key(" ++ nameList g key.columns ++ ")" ++ reference g key)
    | _ => none
  let primary := commands.findSome? fun
    | .index .primary i => some (", primary key (" ++ nameList g i.columns ++ ")")
    | _ => none
  String.join foreign ++ primary.getD ""

/-- A key that the statement for a new table has room for, and no other statement. -/
def onlyInline (feature : Feature) : Except Failure (List String) :=
  if b.isCreating then .ok [] else .error (.unsupported .sqlite feature)

def sqliteStatements (commands : List Command) : Command → Except Failure (List String)
  | .create => .ok [b.createText g (b.columnBody g ++ inlineKeys g commands)]
  | .add => .ok ((b.definitions g).map fun d => b.alter g ("add column " ++ d))
  | .drop => .ok ["drop table " ++ b.tableText g]
  | .dropIfExists => .ok ["drop table if exists " ++ b.tableText g]
  | .dropColumns columns => .ok (columns.map fun c => b.alter g ("drop column " ++ g.wrap c))
  | .renameColumn source target => .ok [b.renameColumnText g source target]
  | .rename target => .ok [b.alter g ("rename to " ++ g.wrapTable target)]
  | .index .primary _ => b.onlyInline .addPrimaryKey
  | .index .unique i =>
    .ok ["create unique index " ++ g.wrapSegment i.name ++ " on " ++ b.tableText g ++ " (" ++
      nameList g i.columns ++ ")"]
  | .index .plain i =>
    .ok ["create index " ++ g.wrapSegment i.name ++ " on " ++ b.tableText g ++ " (" ++
      nameList g i.columns ++ ")"]
  | .foreign _ => b.onlyInline .addForeignKey
  | .dropPrimary => .error (.unsupported .sqlite .dropPrimaryKey)
  | .index .spatial _ | .dropIndex .spatial _ => .error (.unsupported .sqlite .spatialIndexes)
  | .dropIndex _ name => .ok ["drop index " ++ g.wrapSegment name]
  | .dropForeign _ => .error (.unsupported .sqlite .dropForeignKey)
  | .renameIndex .. => .error (.unsupported .sqlite .renameIndex)
  | .comment .. => .ok []

/-- The statements of one command among all of them. -/
def commandStatements (commands : List Command) (c : Command) : Except Failure (List String) :=
  match g.dialect with
  | .mysql => .ok (b.mysqlStatements g c)
  | .postgres => .ok (b.postgresStatements g c)
  | .sqlite => b.sqliteStatements g commands c

/-- Everything that has to be executed, in order. -/
def statements : Except Failure (List String) := do
  let commands := b.allCommands g.dialect
  let texts ← commands.mapM (b.commandStatements g commands)
  return texts.flatten

end Blueprint

end SqlForge.Schema
