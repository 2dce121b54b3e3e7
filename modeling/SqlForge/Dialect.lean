import SqlForge.Text.Blank

/-!
The dialects of SQL that statements are written in.
-/

namespace SqlForge

inductive Dialect where
  | mysql
  | postgres
  | sqlite
  deriving DecidableEq, Repr

namespace Dialect

def all : List Dialect := [.mysql, .postgres, .sqlite]

def name : Dialect → String
  | .mysql => "mysql"
  | .postgres => "postgres"
  | .sqlite => "sqlite"

instance : ToString Dialect := ⟨name⟩

/-- The character around quoted identifiers. -/
def quote : Dialect → Char
  | .mysql => '\x60'
  | .postgres | .sqlite => '\x22'

/-- The dialect with this very name. -/
def ofName? : String → Option Dialect
  | "mysql" | "mariadb" => some .mysql
  | "postgres" | "postgresql" | "pgsql" => some .postgres
  | "sqlite" => some .sqlite
  | _ => none

/-- Operators that every dialect takes. -/
def commonOperators : List String :=
  ["=", "<", ">", "<=", ">=", "<>", "!=", "<=>", "like", "like binary", "not like", "ilike", "&",
    "|", "^", "<<", ">>", "rlike", "not rlike", "regexp", "not regexp", "~", "~*", "!~", "!~*",
    "similar to", "not similar to", "not ilike", "~~*", "!~~*"]

/-- Operators that a dialect takes besides. -/
def extraOperators : Dialect → List String
  | .mysql => ["sounds like"]
  | .postgres =>
    ["ilike", "not ilike", "~", "~*", "!~", "!~*", "similar to", "not similar to", "@>", "<@",
      "&&", "||", "#", "-", "<<", ">>"]
  | .sqlite => ["ilike", "&", "|", "<<", ">>"]

/-- Operators are compared without blanks around them and without regard to case. -/
def accepts (d : Dialect) (operator : String) : Bool :=
  let op := Text.asciiLower (Text.trimmed operator)
  commonOperators.contains op || d.extraOperators.contains op

end Dialect

end SqlForge
