import SqlForge.Entries
import SqlForge.Failure

/-!
Records: what is assigned to which column by an INSERT or an UPDATE. A record names no column
twice.
-/

namespace SqlForge

structure Record where
  fields : List (String × Operand)
  nodup : (fields.map Prod.fst).Nodup

namespace Record

def empty : Record := ⟨[], .nil⟩

instance : Inhabited Record := ⟨empty⟩

/-- Assigns to a column. The column keeps its place if it has one, and the last operand counts. -/
def set (r : Record) (column : String) (operand : Operand) : Record :=
  ⟨setEntry column operand r.fields, nodup_keys_setEntry r.nodup⟩

/-- Assigns to a column if there is an operand. -/
def setOption (r : Record) (column : String) : Option Operand → Record
  | some operand => r.set column operand
  | none => r

def ofList (fields : List (String × Operand)) : Record :=
  fields.foldl (fun r (column, operand) => r.set column operand) empty

/-- Makes every assignment of `other`, in order. -/
def merge (r other : Record) : Record :=
  other.fields.foldl (fun r (column, operand) => r.set column operand) r

def columns (r : Record) : List String :=
  r.fields.map Prod.fst

def operands (r : Record) : List Operand :=
  r.fields.map Prod.snd

/-- The values that placeholders of the record stand for. -/
def bindings (r : Record) : List Value :=
  boundValues r.operands

def size (r : Record) : Nat :=
  r.fields.length

def isEmpty (r : Record) : Bool :=
  r.fields.isEmpty

/-- The record with its columns in the order of their names. -/
def sorted (r : Record) : Record :=
  let byName (a b : String × Operand) : Bool := !decide (b.1 < a.1)
  ⟨r.fields.mergeSort byName,
    (((List.mergeSort_perm r.fields byName).map Prod.fst).nodup_iff).2 r.nodup⟩

/-- The first of several records that lacks the columns of `expected`, as a failure. -/
def checkColumns (expected : List String) (index : Nat) : List Record → Except Failure Unit
  | [] => .ok ()
  | r :: rest =>
    if r.columns = expected then checkColumns expected (index + 1) rest
    else .error (.mismatchedRecord index expected r.columns)

/--
Records in a form that shares one column list: several are sorted by column and have to agree,
one is left as it is.
-/
def aligned : List Record → Except Failure (List Record)
  | first :: second :: rest => do
    checkColumns first.sorted.columns 1 ((second :: rest).map sorted)
    return (first :: second :: rest).map sorted
  | records => .ok records

end Record

end SqlForge
