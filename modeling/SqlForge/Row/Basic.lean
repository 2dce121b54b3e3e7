import SqlForge.Row.Decode

/-!
Result rows: values under the names of columns, in the order of the result.
-/

namespace SqlForge

structure Row where
  fields : List (String × Value)
  deriving Inhabited

namespace Row

def columns (r : Row) : List String :=
  r.fields.map Prod.fst

def values (r : Row) : List Value :=
  r.fields.map Prod.snd

def size (r : Row) : Nat :=
  r.fields.length

def isEmpty (r : Row) : Bool :=
  r.fields.isEmpty

/-- The value of the first column of this name. -/
def get? (r : Row) (column : String) : Option Value :=
  (r.fields.find? (·.1 == column)).map Prod.snd

def at? (r : Row) (index : Nat) : Option Value :=
  r.fields[index]?.map Prod.snd

/-- Reads a value on behalf of a column. -/
def readValue {α : Type} (column : String) (read : Value → Decoded α) (v : Value) :
    Except Failure α :=
  (read v).mapError (.decode column)

/-- Reads the value of a column, which has to be there. -/
def read {α : Type} (r : Row) (column : String) (read : Value → Decoded α) : Except Failure α :=
  match r.get? column with
  | some v => readValue column read v
  | none => .error (.decode column .absent)

/-- The row as a JSON document: an object with the pairs of column and value in order. -/
def toJson (r : Row) : Json :=
  .object [("columns", .array (r.fields.map fun (c, v) => .array [.text c, v.toJson]))]

end Row

/-! ### What a dialect's answers hold -/

/-- The column that holds the names in a listing of columns. -/
def Dialect.listingField : Dialect → String
  | .mysql | .postgres => "column_name"
  | .sqlite => "name"

/-- The names in a listing of columns; anything but a text is passed over. -/
def Dialect.listedColumns (d : Dialect) (rows : List Row) : List String :=
  rows.filterMap fun r =>
    match r.get? d.listingField with
    | some (.text name) => some name
    | _ => none

/-- The generated key: the value of its column, or of the first column if there is none such. -/
def generatedKey (rows : List Row) (column : String) : Except Failure Int64 :=
  match rows with
  | [] => .error (.notFound "INSERT returned no rows")
  | r :: _ =>
    match (r.get? column).or (r.at? 0) with
    | some v => Row.readValue column Value.readInt64 v
    | none => .error (.decode column .emptyRow)

end SqlForge
