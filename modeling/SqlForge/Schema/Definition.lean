import SqlForge.Grammar
import SqlForge.Schema.Column
import SqlForge.Text.Bytes

/-!
Column definitions: the name, the type, and the modifiers that a dialect knows, in its order.
-/

namespace SqlForge

open SqlForge.Schema

/-- Modifiers in the order in which a dialect writes them. -/
def Dialect.modifiers : Dialect → List Modifier
  | .mysql =>
    [.unsigned, .charset, .collate, .virtualAs, .storedAs, .nullable, .default, .increment,
      .comment, .after, .first]
  | .postgres => [.collate, .increment, .nullable, .default, .virtualAs, .storedAs]
  | .sqlite => [.nullable, .default, .increment]

namespace Schema

/-- Text literals, separated by commas. -/
def textList (texts : List String) : String :=
  ", ".intercalate (texts.map Identifier.quoteText)

/-- The text of a value that a column falls back to, without quotes. -/
def valueText : Value → String
  | .null => "null"
  | .text s => s
  | .bytes bs => Text.ofBytesLossy bs
  | .date d => d.text
  | .dateTime t => t.text
  | .uuid u => u.text
  | v => v.display

/-- What a column falls back to: raw SQL as it is, and every value but NULL as a text literal. -/
def fallbackText : Operand → String
  | .raw sql => sql
  | .value .null => "null"
  | .value v => Identifier.quoteText (valueText v)

namespace Column

/-- The type of a time, which may start out as the current one. -/
def timeType (c : Column) (type : String) : String :=
  if c.useCurrent then type ++ " default CURRENT_TIMESTAMP" else type

/-- A type of two sizes. -/
def sizedType (type : String) (total places : Nat) : String :=
  type ++ "(" ++ toString total ++ ", " ++ toString places ++ ")"

def mysqlType (c : Column) : String :=
  match c.type with
  | .increments | .integer => "int"
  | .bigIncrements | .bigInteger => "bigint"
  | .tinyInteger => "tinyint"
  | .smallInteger => "smallint"
  | .mediumInteger => "mediumint"
  | .char length => "char(" ++ toString length ++ ")"
  | .string length => "varchar(" ++ toString length ++ ")"
  | .text => "text"
  | .mediumText => "mediumtext"
  | .longText => "longtext"
  | .boolean => "tinyint(1)"
  | .decimal total places => sizedType "decimal" total places
  | .float total places | .double (some (total, places)) => sizedType "double" total places
  | .double none => "double"
  | .date => "date"
  | .dateTime => c.timeType "datetime"
  | .time => "time"
  | .timestamp => c.timeType "timestamp"
  | .year => "year"
  | .json | .jsonb => "json"
  | .binary => "blob"
  | .uuid => "char(36)"
  | .enumeration members => "enum(" ++ textList members ++ ")"
  | .ipAddress => "varchar(45)"
  | .macAddress => "varchar(17)"

def postgresType (g : Grammar) (c : Column) : String :=
  let serial (counting plain : String) : String := if c.autoIncrement then counting else plain
  match c.type with
  | .increments => "serial"
  | .bigIncrements => "bigserial"
  | .integer | .mediumInteger => serial "serial" "integer"
  | .bigInteger => serial "bigserial" "bigint"
  | .tinyInteger | .smallInteger => serial "smallserial" "smallint"
  | .char length => "char(" ++ toString length ++ ")"
  | .string length => "varchar(" ++ toString length ++ ")"
  | .text | .mediumText | .longText => "text"
  | .boolean => "boolean"
  | .decimal total places => sizedType "decimal" total places
  | .float .. | .double _ => "double precision"
  | .date => "date"
  | .dateTime | .timestamp => c.timeType "timestamp(0) without time zone"
  | .time => "time(0) without time zone"
  | .year => "integer"
  | .json => "json"
  | .jsonb => "jsonb"
  | .binary => "bytea"
  | .uuid => "uuid"
  | .enumeration members =>
    "varchar(255) check (" ++ g.wrap c.name ++ " in (" ++ textList members ++ "))"
  | .ipAddress => "inet"
  | .macAddress => "macaddr"

def sqliteType (g : Grammar) (c : Column) : String :=
  match c.type with
  | .increments | .bigIncrements | .tinyInteger | .smallInteger | .mediumInteger | .integer
  | .bigInteger | .year => "integer"
  | .char _ | .string _ | .uuid | .ipAddress | .macAddress => "varchar"
  | .text | .mediumText | .longText | .json | .jsonb => "text"
  | .boolean => "tinyint(1)"
  | .decimal .. => "numeric"
  | .float .. | .double _ => "float"
  | .date => "date"
  | .dateTime | .timestamp => c.timeType "datetime"
  | .time => "time"
  | .binary => "blob"
  | .enumeration members => "varchar check (" ++ g.wrap c.name ++ " in (" ++ textList members ++ "))"

def typeText (g : Grammar) (c : Column) : String :=
  match g.dialect with
  | .mysql => c.mysqlType
  | .postgres => c.postgresType g
  | .sqlite => c.sqliteType g

/-- Whether the column takes NULL, said in words. -/
def nullText (c : Column) : String :=
  if c.nullable then " null" else " not null"

/-- A part that is written only if it is asked for. -/
def given (asked : Bool) (part : String) : Option String :=
  if asked then some part else none

def mysqlModifier (g : Grammar) (c : Column) : Modifier → Option String
  | .unsigned => given c.unsigned " unsigned"
  | .charset => c.charset.map (" character set " ++ ·)
  | .collate => c.collation.map (" collate " ++ Identifier.quoteText ·)
  | .virtualAs => c.virtualAs.map fun e => " as (" ++ e ++ ")"
  | .storedAs => c.storedAs.map fun e => " as (" ++ e ++ ") stored"
  | .nullable => given (!(c.isGenerated && c.nullable)) c.nullText
  | .default => c.fallback.map (" default " ++ fallbackText ·)
  | .increment => given c.isCounter " auto_increment primary key"
  | .comment => c.comment.map (" comment " ++ Identifier.quoteText ·)
  | .after => c.after.map (" after " ++ g.wrap ·)
  | .first => given c.first " first"

def postgresModifier (g : Grammar) (c : Column) : Modifier → Option String
  | .collate => c.collation.map (" collate " ++ g.wrapSegment ·)
  | .increment => given c.isCounter " primary key"
  | .nullable => some c.nullText
  | .default => c.fallback.map (" default " ++ fallbackText ·)
  | .virtualAs => c.virtualAs.map fun e => " generated always as (" ++ e ++ ")"
  | .storedAs => c.storedAs.map fun e => " generated always as (" ++ e ++ ") stored"
  | .unsigned | .charset | .comment | .after | .first => none

def sqliteModifier (c : Column) : Modifier → Option String
  | .nullable => some c.nullText
  | .default => if c.isGenerated then none else c.fallback.map (" default " ++ fallbackText ·)
  | .increment => given c.isCounter " primary key autoincrement"
  | _ => none

def modifierText? (g : Grammar) (c : Column) (m : Modifier) : Option String :=
  match g.dialect with
  | .mysql => c.mysqlModifier g m
  | .postgres => c.postgresModifier g m
  | .sqlite => c.sqliteModifier m

/-- The name, the type, and the modifiers that the column has. -/
def definition (g : Grammar) (c : Column) : String :=
  g.wrap c.name ++ " " ++ c.typeText g ++
    String.join (g.dialect.modifiers.filterMap (c.modifierText? g))

end Column

end Schema

end SqlForge
