import SqlForge.Failure
import SqlForge.Grammar
import SqlForge.Text.Bytes
import SqlForge.Toml.Reader

/-!
What a connection is told at the start: the dialect, the table prefix, what is logged. It can be
read from a TOML document.
-/

namespace SqlForge

/-- What is logged of the statements. -/
structure LogConfig where
  /-- Whether every statement is logged. Slow ones are in any case. -/
  enabled : Bool := true
  /-- Longer statements are cut to this many bytes. -/
  maxLength : Option Nat := some 200
  /-- Statements that take more milliseconds are slow. -/
  slowAfter : Option Nat := none
  deriving DecidableEq, Repr

/-- The statement as it is logged: cut between characters and marked if it is too long. -/
def LogConfig.shorten (c : LogConfig) (sql : String) : String :=
  match c.maxLength with
  | none => sql
  | some max =>
    let cs := sql.toList
    if Text.byteLength cs ≤ max then sql
    else String.ofList (Text.takeBytes max cs) ++ "..."

structure Config where
  dialect : Dialect
  tablePrefix : String := ""
  /-- The database or schema that is searched for tables. -/
  database : Option String := none
  /-- The length of texts for which none is given. -/
  stringLength : Nat := 255
  log : LogConfig := {}
  deriving DecidableEq, Repr

namespace Config

def grammar (c : Config) : Grammar where
  dialect := c.dialect
  tablePrefix := c.tablePrefix

def validate (c : Config) : Except Failure Unit :=
  if c.stringLength = 0 then .error (.config .noStringLength)
  else if c.tablePrefix.any Text.isBlank then .error (.config (.blankInPrefix c.tablePrefix))
  else .ok ()

/-! ### Reading -/

def text? : Toml → Option String
  | .text s => some s
  | _ => none

def bool? : Toml → Option Bool
  | .bool b => some b
  | _ => none

/-- A whole number below `2 ^ bits`. -/
def word? (bits : Nat) : Toml → Option Nat
  | .integer n => if 0 ≤ n ∧ n < Nat.pow 2 bits then some n.toNat else none
  | _ => none

/-- An entry that may be missing. -/
def field {α : Type} (entries : Toml.Entries) (key : String) (missing : α)
    (read : Toml → Option α) : Option α :=
  match entries.lookup key with
  | some value => read value
  | none => some missing

/-- What is there, if it can be read. -/
def optional {α : Type} (read : Toml → Option α) (value : Toml) : Option (Option α) :=
  (read value).map some

def isVoid : Toml → Bool
  | .array items => items.isEmpty
  | .inline entries | .table entries | .implied _ entries => entries.isEmpty
  | _ => false

/-- A dialect by its name, or by a table with its name as the only key and nothing in it. -/
def dialect? : Toml → Option Dialect
  | .text name => Dialect.ofName? name
  | value =>
    match value.entries? with
    | some [(name, inner)] => if isVoid inner then Dialect.ofName? name else none
    | _ => none

/--
The entries of a log configuration by key, or in order in an array, of which nothing is looked at
beyond them.
-/
def log? (value : Toml) : Option LogConfig := do
  let entries ← match value with
    | .array items => some (["enabled", "max_sql_length", "slow_query_threshold_ms"].zip items)
    | value => if value.isSound then value.entries? else none
  let standard : LogConfig := {}
  let enabled ← field entries "enabled" standard.enabled bool?
  let maxLength ← field entries "max_sql_length" standard.maxLength (optional (word? 64))
  let slowAfter ← field entries "slow_query_threshold_ms" standard.slowAfter (optional (word? 64))
  return { enabled, maxLength, slowAfter }

/--
The configuration that a document describes. Keys without a meaning are passed over, but what stands
under them must be sound.
-/
def ofEntries? (entries : Toml.Entries) : Option Config := do
  guard <| entries.all fun (key, value) => key = "log" || value.isSound
  let dialect ← (entries.lookup "dialect").bind dialect?
  let tablePrefix ← field entries "table_prefix" "" text?
  let database ← field entries "database" none (optional text?)
  let stringLength ← field entries "default_string_length" 255 (word? 32)
  let log ← field entries "log" {} log?
  return { dialect, tablePrefix, database, stringLength, log }

/-- Reads a document and checks what it says. -/
def read (document : String) : Except Failure Config := do
  match (Toml.read? document).bind ofEntries? with
  | some c =>
    c.validate
    return c
  | none => throw (.config .malformed)

end Config

end SqlForge
