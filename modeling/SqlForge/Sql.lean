import SqlForge.Value

/-!
SQL in the making: pieces of text, and placeholders that know the value they stand for. The text of
a statement is one view of its pieces, the values in the order of the placeholders another.
-/

namespace SqlForge

inductive Piece where
  | text (s : String)
  | slot (v : Value)
  deriving Inhabited

def Piece.toString : Piece → String
  | .text s => s
  | .slot _ => "?"

def Piece.value? : Piece → Option Value
  | .text _ => none
  | .slot v => some v

structure Sql where
  pieces : List Piece
  deriving Inhabited

namespace Sql

instance : Coe String Sql := ⟨fun s => ⟨[.text s]⟩⟩

instance : Append Sql := ⟨fun a b => ⟨a.pieces ++ b.pieces⟩⟩

def empty : Sql := ⟨[]⟩

/-- A placeholder for `v`. -/
def slot (v : Value) : Sql := ⟨[.slot v]⟩

def text (sql : Sql) : String :=
  String.join (sql.pieces.map Piece.toString)

/-- The values of the placeholders, from left to right. -/
def values (sql : Sql) : List Value :=
  sql.pieces.filterMap Piece.value?

/-- Whether the text is empty. -/
def isEmpty (sql : Sql) : Bool :=
  sql.text.isEmpty

/-- The parts with `separator` between them. -/
def join (separator : String) : List Sql → Sql
  | [] => empty
  | [sql] => sql
  | sql :: rest => sql ++ (separator : Sql) ++ join separator rest

/-- The parts that are not empty, with a space between them. -/
def words (parts : List Sql) : Sql :=
  join " " (parts.filter (!·.isEmpty))

def prependChar (c : Char) : List Piece → List Piece
  | .text s :: pieces => .text (c.toString ++ s) :: pieces
  | pieces => .text c.toString :: pieces

/-- SQL as written, whose question marks stand for the values as long as there are any. -/
def ofTemplate (template : String) (values : List Value) : Sql :=
  ⟨go template.toList values⟩
where
  go : List Char → List Value → List Piece
    | [], _ => []
    | c :: cs, [] => prependChar c (go cs [])
    | c :: cs, v :: vs =>
      if c = '?' then .slot v :: go cs vs else prependChar c (go cs (v :: vs))

@[simp] theorem pieces_append (a b : Sql) : (a ++ b).pieces = a.pieces ++ b.pieces := rfl

@[simp] theorem text_append (a b : Sql) : (a ++ b).text = a.text ++ b.text := by
  simp [text]

@[simp] theorem values_append (a b : Sql) : (a ++ b).values = a.values ++ b.values := by
  simp [values]

@[simp] theorem text_coe (s : String) : (s : Sql).text = s := by
  simp [text, Piece.toString]

@[simp] theorem values_text (s : String) : (s : Sql).values = [] := rfl

@[simp] theorem values_slot (v : Value) : (slot v).values = [v] := rfl

@[simp] theorem values_empty : empty.values = [] := rfl

@[simp] theorem text_slot (v : Value) : (slot v).text = "?" := rfl

end Sql

def Operand.sql : Operand → Sql
  | .value v => .slot v
  | .raw sql => sql

/-- A comma separated list of placeholders and raw operands. -/
def operandList (operands : List Operand) : Sql :=
  Sql.join ", " (operands.map Operand.sql)

end SqlForge
