import SqlForge.Failure
import SqlForge.Json.Reader
import SqlForge.Number.Reader
import SqlForge.Text.Bytes

/-!
Reading a value as a value of a given kind. Drivers hand numbers and times back in several forms,
so most readers take texts as well.
-/

namespace SqlForge

open SqlForge.Number

/-- Whole numbers of some width, with or without a sign. -/
structure IntegerKind where
  name : String
  signed : Bool
  bits : Nat
  deriving DecidableEq, Repr

namespace IntegerKind

def low (k : IntegerKind) : Int :=
  if k.signed then -(Nat.pow 2 (k.bits - 1) : Int) else 0

def high (k : IntegerKind) : Int :=
  (Nat.pow 2 (if k.signed then k.bits - 1 else k.bits) : Int) - 1

def all : List IntegerKind := [
  ⟨"i8", true, 8⟩, ⟨"i16", true, 16⟩, ⟨"i32", true, 32⟩, ⟨"i64", true, 64⟩,
  ⟨"u8", false, 8⟩, ⟨"u16", false, 16⟩, ⟨"u32", false, 32⟩, ⟨"u64", false, 64⟩,
  ⟨"usize", false, 64⟩]

end IntegerKind

/-- The number of the word range nearest to `n`. -/
def Number.clampInt64 (n : Int) : Int64 :=
  if n < Int64.minValue.toInt then Int64.minValue
  else if Int64.maxValue.toInt < n then Int64.maxValue
  else Int64.ofInt n

/-- What reading a value gives. -/
abbrev Decoded (α : Type) := Except DecodeFault α

namespace Value

def mismatch (expected : String) (v : Value) : DecodeFault :=
  .mismatch expected v.kind

/-- A whole number; also from its numeral, and from a float without a fraction. -/
def readInt64 (v : Value) : Decoded Int64 :=
  let found : Option Int64 :=
    match v with
    | .int n => some n
    | .text s => int64? (Text.trim s.toList)
    | .float x => x.toInt?.map clampInt64
    | _ => none
  match found with
  | some n => .ok n
  | none => .error (v.mismatch "integer")

/-- A whole number in the range of the kind. -/
def readInteger (k : IntegerKind) (v : Value) : Decoded Int := do
  let n := (← v.readInt64).toInt
  if k.low ≤ n ∧ n ≤ k.high then return n
  else throw (.outOfRange n k.name)

def readFloat (v : Value) : Decoded Binary64 :=
  let found : Option Binary64 :=
    match v with
    | .float x => some x
    | .int n => some (.ofInt n.toInt)
    | .text s => Binary.read? (Text.trimmed s)
    | _ => none
  match found with
  | some x => .ok x
  | none => .error (v.mismatch "float")

def readFloat32 (v : Value) : Decoded Binary32 := do
  let x ← v.readFloat
  return x.convert

def readBool (v : Value) : Decoded Bool :=
  match v with
  | .int n => .ok (n != 0)
  | .text "1" | .text "t" | .text "true" => .ok true
  | .text "0" | .text "f" | .text "false" => .ok false
  | _ => .error (v.mismatch "boolean")

/-- A text; other values are read as they are shown. -/
def readText (v : Value) : Decoded String :=
  match v with
  | .text s => .ok s
  | .null | .bytes _ => .error (v.mismatch "text")
  | v => .ok v.display

def readBytes (v : Value) : Decoded (List UInt8) :=
  match v with
  | .bytes bs => .ok bs
  | .text s => .ok (Text.toBytes s)
  | v => .error (v.mismatch "bytes")

/-- What a text says, if it has the form of the kind. -/
def readForm {α : Type} (expected : String) : Option α → Decoded α
  | some a => .ok a
  | none => .error (.malformed expected)

def readJson (v : Value) : Decoded Json :=
  match v with
  | .json j => .ok j
  | .text s => readForm "json" (Json.read? s)
  | v => .error (v.mismatch "json")

def readDate (v : Value) : Decoded Date :=
  match v with
  | .date d => .ok d
  | .dateTime t => .ok t.date
  | .text s => readForm "date" (Date.read? s)
  | v => .error (v.mismatch "date")

def readDateTime (v : Value) : Decoded DateTime :=
  match v with
  | .dateTime t => .ok t
  | .text s => readForm "datetime" (DateTime.read? s)
  | v => .error (v.mismatch "datetime")

def readUuid (v : Value) : Decoded Uuid :=
  match v with
  | .uuid u => .ok u
  | .text s => readForm "uuid" (Uuid.read? s)
  | v => .error (v.mismatch "uuid")

/-- NULL, or what `read` makes of any other value. -/
def readOption {α : Type} (read : Value → Decoded α) (v : Value) : Decoded (Option α) :=
  match v with
  | .null => .ok none
  | v => some <$> read v

end Value

end SqlForge
