import SqlForge.Dialect
import SqlForge.Text.Escaped
import SqlForge.Value

/-!
What can go wrong, by cause, and the wording of each cause.
-/

namespace SqlForge

/-- The statements that need a table. -/
inductive Target where
  | insert
  | update
  | delete
  | truncate
  | rowIds
  deriving DecidableEq, Repr

def Target.text : Target → String
  | .insert => "insert"
  | .update => "update"
  | .delete => "delete"
  | .truncate => "truncate"
  | .rowIds => "row id subselect"

/-- What a dialect may lack. -/
inductive Feature where
  | jsonContainment
  | spatialIndexes
  | addPrimaryKey
  | addForeignKey
  | dropPrimaryKey
  | dropForeignKey
  | renameIndex
  deriving DecidableEq, Repr

def Feature.text : Feature → String
  | .jsonContainment => "JSON containment"
  | .spatialIndexes => "spatial indexes"
  | .addPrimaryKey => "adding a primary key to an existing table"
  | .addForeignKey => "adding a foreign key to an existing table"
  | .dropPrimaryKey => "dropping a primary key"
  | .dropForeignKey => "dropping a foreign key"
  | .renameIndex => "renaming an index"

/-- Why a value of a row could not be read. -/
inductive DecodeFault where
  | absent
  | emptyRow
  | mismatch (expected found : String)
  | outOfRange (n : Int) (type : String)
  /-- A text that does not have the form of the expected kind. -/
  | malformed (expected : String)
  | other (text : String)
  deriving DecidableEq, Repr

def DecodeFault.text : DecodeFault → String
  | .absent => "column not present in row"
  | .emptyRow => "empty row"
  | .mismatch expected found => s!"expected {expected}, found {found}"
  | .outOfRange n type => s!"{n} out of range for {type}"
  | .malformed expected => s!"not the text of a {expected}"
  | .other text => text

/-- Why a configuration was refused. -/
inductive ConfigFault where
  | unknownDialect (name : String)
  | noStringLength
  | blankInPrefix (tablePrefix : String)
  /-- The document is not well formed, or a field has the wrong type. -/
  | malformed
  | other (text : String)
  deriving DecidableEq, Repr

def ConfigFault.text : ConfigFault → String
  | .unknownDialect name => s!"unknown dialect '{name}'"
  | .noStringLength => "default_string_length must be greater than zero"
  | .blankInPrefix p => "table_prefix must not contain whitespace: " ++ Text.escaped p
  | .malformed => "malformed document"
  | .other text => text

inductive Failure where
  | invalidOperator (operator : String)
  | nullOperand (operator : String)
  | countMismatch (columns values : Nat)
  | invalidDirection (text : String)
  | mismatchedRecord (index : Nat) (expected found : List String)
  | invalidSubquery (reason : String)
  | missingTable (target : Target)
  | unsupported (dialect : Dialect) (feature : Feature)
  | driver (text : String)
  /-- A failure together with the statement that met it. -/
  | inStatement (sql : String) (bindings : List Value) (cause : Failure)
  | notFound (text : String)
  | decode (column : String) (fault : DecodeFault)
  | config (fault : ConfigFault)
  deriving Inhabited

namespace Failure

def message : Failure → String
  | .invalidOperator operator => s!"Invalid operator: {operator}"
  | .nullOperand operator => s!"Illegal operator and value combination: {operator} NULL"
  | .countMismatch columns values =>
    s!"The number of columns ({columns}) must match the number of values ({values})"
  | .invalidDirection text => s!"Order direction must be 'asc' or 'desc', got '{text}'"
  | .mismatchedRecord index expected found =>
    s!"Insert record {index} has columns [" ++ ", ".intercalate found ++ "], expected [" ++
      ", ".intercalate expected ++ "]"
  | .invalidSubquery reason => s!"Invalid subquery: {reason}"
  | .missingTable target => "No table specified for " ++ target.text
  | .unsupported dialect feature => s!"{dialect} does not support " ++ feature.text
  | .driver text => s!"Driver error: {text}"
  | .inStatement sql _ cause => cause.message ++ " (SQL: " ++ sql ++ ")"
  | .notFound text => s!"Not found: {text}"
  | .decode column fault => s!"Decode error on column '{column}': " ++ fault.text
  | .config fault => "Configuration error: " ++ fault.text

/-- Attaches the statement that failed; a failure that has one keeps it. -/
def attach (sql : String) (bindings : List Value) : Failure → Failure
  | .inStatement sql bindings cause => .inStatement sql bindings cause
  | cause => .inStatement sql bindings cause

def statement? : Failure → Option String
  | .inStatement sql _ _ => some sql
  | _ => none

/-- Whether a fluent call or a record was at fault, before anything was rendered. -/
def isConstruction : Failure → Bool
  | .invalidOperator _ | .nullOperand _ | .countMismatch .. | .invalidDirection _
  | .mismatchedRecord .. | .invalidSubquery _ | .missingTable _ => true
  | _ => false

def isRender : Failure → Bool
  | .unsupported .. => true
  | _ => false

def isNotFound : Failure → Bool
  | .notFound _ => true
  | _ => false

theorem attach_attach (sql sql' : String) (bs bs' : List Value) (e : Failure) :
    (e.attach sql bs).attach sql' bs' = e.attach sql bs := by
  cases e <;> rfl

end Failure

/-- The dialect with this name, in any case. -/
def Dialect.read (s : String) : Except Failure Dialect :=
  let lowered := Text.asciiLower s
  match Dialect.ofName? lowered with
  | some d => .ok d
  | none => .error (.config (.unknownDialect lowered))

end SqlForge
