import SqlForge.Dialect
import SqlForge.Identifier
import SqlForge.Number.Digits
import SqlForge.Sql

/-!
Writing names in a dialect: quoting, the table prefix, JSON selectors.
-/

namespace SqlForge

/-- A column of a condition or a list, by name or as raw SQL. -/
inductive Column where
  | name (name : String)
  | raw (sql : String)
  deriving DecidableEq, Repr, Inhabited

/-- A table, by name or as raw SQL. -/
inductive Table where
  | name (name : String)
  | raw (sql : String)
  deriving DecidableEq, Repr, Inhabited

/-- A dialect and the text in front of every table name. -/
structure Grammar where
  dialect : Dialect
  tablePrefix : String := ""
  deriving DecidableEq, Repr

namespace Grammar

/-- The path of a JSON selector as a text literal: `'$."a"."b"'`. -/
def jsonPath (path : List String) : String :=
  let key (k : String) : String :=
    "\"" ++ String.ofList (Identifier.double '\x27' k.toList) ++ "\""
  "'$." ++ ".".intercalate (path.map key) ++ "'"

/-- A step into a JSON document; whole numbers count into arrays and stay bare. -/
def jsonStep (key : String) : String :=
  match Number.int64? key.toList with
  | some _ => key
  | none => Identifier.quoteText key

/-- Steps with arrows between them, the last of which gives text. -/
def jsonArrows : List String → String
  | [] => "->>"
  | [key] => "->>" ++ jsonStep key
  | key :: keys => "->" ++ jsonStep key ++ jsonArrows keys

def jsonSelector : Dialect → String → List String → String
  | .mysql, field, path => "json_unquote(json_extract(" ++ field ++ ", " ++ jsonPath path ++ "))"
  | .sqlite, field, path => "json_extract(" ++ field ++ ", " ++ jsonPath path ++ ")"
  | .postgres, field, path => field ++ jsonArrows path

variable (g : Grammar)

def wrapSegment (segment : String) : String :=
  Identifier.quoteSegment g.dialect.quote segment

/-- Dotted segments; outside table position the first of several names a table. -/
def wrapSegments (asTable : Bool) : List String → String
  | [] => ""
  | [segment] => g.wrapSegment segment
  | segment :: rest =>
    let first :=
      if asTable then g.wrapSegment segment
      else Identifier.quoted g.dialect.quote (g.tablePrefix ++ segment)
    ".".intercalate (first :: rest.map g.wrapSegment)

/-- Writes a star or dotted segments. -/
def wrapDotted (asTable : Bool) (s : String) : String :=
  if s = "*" then "*" else g.wrapSegments asTable (Identifier.segments s)

/-- Writes a name without alias, which may be a path into a JSON column. -/
def wrapTarget (asTable : Bool) (s : String) : String :=
  match Identifier.splitJson? s with
  | some (column, path) => jsonSelector g.dialect (g.wrapDotted false column) path
  | none => g.wrapDotted asTable s

/-- Writes a name. In table position an alias takes the table prefix. -/
def wrapName (asTable : Bool) (s : String) : String :=
  match Identifier.splitAlias? s with
  | some (target, label) =>
    g.wrapTarget asTable target ++ " AS " ++
      g.wrapSegment (if asTable then g.tablePrefix ++ label else label)
  | none => g.wrapTarget asTable s

/-- A name in column position. -/
def wrap (s : String) : String :=
  g.wrapName false s

/-- A name in table position, with the table prefix. -/
def wrapTable (s : String) : String :=
  g.wrapName true (g.tablePrefix ++ s)

def column : Column → String
  | .name n => g.wrap n
  | .raw sql => sql

def table : Table → String
  | .name n => g.wrapTable n
  | .raw sql => sql

/-- A comma separated list of columns; no column at all means every one. -/
def columnList : List Column → String
  | [] => "*"
  | columns => ", ".intercalate (columns.map g.column)

def accepts (operator : String) : Bool :=
  g.dialect.accepts operator

/-- An ordering by chance; only one dialect takes the seed. -/
def randomOrder (seed : Option Nat) : String :=
  match g.dialect, seed with
  | .mysql, some seed => "RAND(" ++ toString seed ++ ")"
  | .mysql, none => "RAND()"
  | _, _ => "RANDOM()"

end Grammar

end SqlForge
