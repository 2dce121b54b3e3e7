import SqlForge.Calendar
import SqlForge.Json.Basic
import SqlForge.Uuid

/-!
Values that are bound to placeholders, and operands, which are bound values or raw SQL.
-/

namespace SqlForge

open SqlForge.Number

inductive Value where
  | null
  | int (n : Int64)
  | float (x : Binary64)
  | text (s : String)
  | bytes (bytes : List UInt8)
  | json (document : Json)
  | date (d : Date)
  | dateTime (t : DateTime)
  | uuid (u : Uuid)
  deriving Inhabited

namespace Value

/-- Truth values are bound as the numbers one and zero. -/
def ofBool (b : Bool) : Value :=
  .int (if b then 1 else 0)

def isNull : Value → Bool
  | .null => true
  | _ => false

def kind : Value → String
  | .null => "null"
  | .int _ => "int"
  | .float _ => "float"
  | .text _ => "text"
  | .bytes _ => "bytes"
  | .json _ => "json"
  | .date _ => "date"
  | .dateTime _ => "datetime"
  | .uuid _ => "uuid"

/-- The value as it is shown to a reader: texts and times between single quotes. -/
def display : Value → String
  | .null => "NULL"
  | .int n => toString n.toInt
  | .float x => x.plainText
  | .text s => "'" ++ s ++ "'"
  | .bytes bs => "<" ++ toString bs.length ++ " bytes>"
  | .json j => j.compact
  | .date d => "'" ++ d.text ++ "'"
  | .dateTime t => "'" ++ t.text ++ "'"
  | .uuid u => "'" ++ u.text ++ "'"

/-- The value as a JSON document; the kind is not recorded. -/
def toJson : Value → Json
  | .null => .null
  | .int n => .integer n.toInt
  | .float x => .float x
  | .text s => .text s
  | .bytes bs => .array (bs.map fun b => .integer b.toNat)
  | .json j => j
  | .date d => .text d.text
  | .dateTime t => .text t.isoText
  | .uuid u => .text u.text

end Value

/-- What a condition or an assignment takes: a value for a placeholder, or SQL written as it is. -/
inductive Operand where
  | value (v : Value)
  | raw (sql : String)
  deriving Inhabited

namespace Operand

def value? : Operand → Option Value
  | .value v => some v
  | .raw _ => none

def isNull : Operand → Bool
  | .value v => v.isNull
  | .raw _ => false

def isRaw : Operand → Bool
  | .value _ => false
  | .raw _ => true

end Operand

/-- The values that operands bind, in order. -/
def boundValues (operands : List Operand) : List Value :=
  operands.filterMap Operand.value?

end SqlForge
