import SqlForge.Value

/-!
Columns of a table that is created or altered: a type, and attributes that may follow it.
-/

namespace SqlForge.Schema

inductive ColumnType where
  | increments
  | bigIncrements
  | tinyInteger
  | smallInteger
  | mediumInteger
  | integer
  | bigInteger
  | char (length : Nat)
  | string (length : Nat)
  | text
  | mediumText
  | longText
  | boolean
  | decimal (total places : Nat)
  | float (total places : Nat)
  | double (precision : Option (Nat × Nat))
  | date
  | dateTime
  | time
  | timestamp
  | year
  | json
  | jsonb
  | binary
  | uuid
  | enumeration (members : List String)
  | ipAddress
  | macAddress
  deriving DecidableEq, Repr

/-- The types that take no sizes and no members, by name. -/
def ColumnType.named : List (String × ColumnType) := [
  ("increments", .increments), ("big_increments", .bigIncrements),
  ("tiny_integer", .tinyInteger), ("small_integer", .smallInteger),
  ("medium_integer", .mediumInteger), ("integer", .integer), ("big_integer", .bigInteger),
  ("text", .text), ("medium_text", .mediumText), ("long_text", .longText), ("boolean", .boolean),
  ("date", .date), ("date_time", .dateTime), ("time", .time), ("timestamp", .timestamp),
  ("year", .year), ("json", .json), ("jsonb", .jsonb), ("binary", .binary), ("uuid", .uuid),
  ("ip_address", .ipAddress), ("mac_address", .macAddress)]

/-- Only whole numbers can count up by themselves. -/
def ColumnType.isInteger : ColumnType → Bool
  | .increments | .bigIncrements | .tinyInteger | .smallInteger | .mediumInteger | .integer
  | .bigInteger => true
  | _ => false

/-- What is written behind the type of a column, each dialect having an order of its own. -/
inductive Modifier where
  | unsigned
  | charset
  | collate
  | virtualAs
  | storedAs
  | nullable
  | default
  | increment
  | comment
  | after
  | first
  deriving DecidableEq, Repr

def Modifier.name : Modifier → String
  | .unsigned => "Unsigned"
  | .charset => "Charset"
  | .collate => "Collate"
  | .virtualAs => "VirtualAs"
  | .storedAs => "StoredAs"
  | .nullable => "Nullable"
  | .default => "Default"
  | .increment => "Increment"
  | .comment => "Comment"
  | .after => "After"
  | .first => "First"

inductive IndexKind where
  | primary
  | unique
  | plain
  | spatial
  deriving DecidableEq, Repr

/-- The end of a generated index name. -/
def IndexKind.suffix : IndexKind → String
  | .primary => "primary"
  | .unique => "unique"
  | .plain => "index"
  | .spatial => "spatialindex"

structure Column where
  name : String
  type : ColumnType
  nullable : Bool := false
  /-- The value of the column in a row that gives none. -/
  fallback : Option Operand := none
  unsigned : Bool := false
  autoIncrement : Bool := false
  comment : Option String := none
  /-- The column that this one is put behind. -/
  after : Option String := none
  first : Bool := false
  charset : Option String := none
  collation : Option String := none
  /-- A time that is not given is the current one. -/
  useCurrent : Bool := false
  virtualAs : Option String := none
  storedAs : Option String := none
  /-- Indexes over this column alone, some with a name of their own. -/
  indexes : List (IndexKind × Option String) := []

namespace Column

/-- Whether the values of the column come from an expression. -/
def isGenerated (c : Column) : Bool :=
  c.virtualAs.isSome || c.storedAs.isSome

/-- Whether the column counts up by itself. -/
def isCounter (c : Column) : Bool :=
  c.autoIncrement && c.type.isInteger

def addIndex (c : Column) (kind : IndexKind) (name : Option String := none) : Column :=
  { c with indexes := c.indexes ++ [(kind, name)] }

end Column

end SqlForge.Schema
