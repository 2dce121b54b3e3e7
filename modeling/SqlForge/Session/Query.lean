import SqlForge.Builder.Filter
import SqlForge.Builder.Clause
import SqlForge.Session.Basic

/-!
Reading rows through a connection: all of them, the first, one by its key, page after page, and
values that the database computes.
-/

namespace SqlForge

/-- The name under which a selected column stands in a row. -/
def resultKey (column : String) : String :=
  match Identifier.splitAlias? column with
  | some (_, label) => label
  | none => Identifier.lastSegment column

namespace Builder

/-- The column that holds the key of a row: that of the table if the source is one by name. -/
def keyOfSource (b : Builder) : String :=
  match b.query.source with
  | some (.table (.name name)) =>
    if (Identifier.splitAlias? name).isNone then name ++ ".id" else "id"
  | _ => "id"

def withKey (b : Builder) (key : Value) : Builder :=
  b.filter .and (.equal (.name b.keyOfSource) (.value key))

end Builder

/-- What came of a walk over pages. -/
structure Walk where
  /-- The pages that were handed over. -/
  pages : List (List Row)
  /-- Whether every page was wanted. -/
  complete : Except Failure Bool

namespace Connection

variable {σ : Type} (c : Connection σ)

def get (b : Builder) : Action σ (List Row) := do
  let s ← b.statement
  dispatch .select s
  c.select .select s

def getAs {α : Type} (b : Builder) (read : Row → Except Failure α) : Action σ (List α) := do
  let rows ← c.get b
  liftM (rows.mapM read : Except Failure (List α))

def first (b : Builder) : Action σ (Option Row) := do
  let rows ← c.get (b.limit 1)
  return rows.head?

def find (b : Builder) (key : Value) : Action σ (Option Row) :=
  c.first (b.withKey key)

def value (b : Builder) (column : Column) : Action σ (Option Value) := do
  let row ← c.first (b.select [column])
  return row.bind (·.at? 0)

def pluck (b : Builder) (column : String) : Action σ (List Value) := do
  let rows ← c.get (b.select [.name column])
  return rows.map fun row => ((row.get? (resultKey column)).or (row.at? 0)).getD .null

/-- All rows, to be taken one by one. -/
def cursor (b : Builder) : Action σ (List Row) := do
  let s ← b.statement
  dispatch .cursor s
  c.select .cursor s

/-- Walks over the pages from number `page` on, as long as `accept` wants more. -/
def walkFrom (b : Builder) (size : Nat) (accept : Nat → List Row → Bool) :
    Nat → Nat → StateM (Run σ) Walk
  | 0, _ => fun run => (⟨[], .ok true⟩, run)
  | fuel + 1, page => fun run =>
    match (c.get (b.forPage page size)).run run with
    | (.error e, run) => (⟨[], .error e⟩, run)
    | (.ok rows, run) =>
      if rows.isEmpty then (⟨[], .ok true⟩, run)
      else if !accept page rows then (⟨[rows], .ok false⟩, run)
      else if rows.length < size then (⟨[rows], .ok true⟩, run)
      else
        let (walk, run) := walkFrom b size accept fuel (page + 1) run
        ({ walk with pages := rows :: walk.pages }, run)

/-- Page numbers are words; there is no page beyond. -/
def lastPage : Nat := UInt64.size - 1

/-- Walks over all pages of `size` rows; `accept` is given the number and the rows of each. -/
def walk (b : Builder) (size : Nat) (accept : Nat → List Row → Bool) : StateM (Run σ) Walk :=
  if size = 0 then return ⟨[], .ok true⟩
  else c.walkFrom b size accept lastPage 1

/-- The pages of a walk and whether all were wanted, if every page could be read. -/
def chunk (b : Builder) (size : Nat) (accept : Nat → List Row → Bool) :
    Action σ (Bool × List (List Row)) :=
  ExceptT.mk do
    let walk ← c.walk b size accept
    return walk.complete.map (·, walk.pages)

def rowsExist (b : Builder) : Action σ Bool := do
  let s ← b.existsStatement
  dispatch .exists s
  let rows ← c.select .select s
  match rows with
  | row :: _ => row.read "exists" Value.readBool
  | [] => return false

def rowsMissing (b : Builder) : Action σ Bool := do
  let found ← c.rowsExist b
  return !found

/-- The value of an aggregate, if the database gives one. -/
def aggregate (b : Builder) (function : String) (columns : List Column) :
    Action σ (Option Value) := do
  let rows ← c.get (b.aggregate function columns)
  return rows.head?.bind (·.get? "aggregate")

def count (b : Builder) : Action σ Int64 := do
  match ← c.aggregate b "count" [.name "*"] with
  | some v => Row.readValue "aggregate" Value.readInt64 v
  | none => return 0

/-- The sum of a column; that of no rows is zero. -/
def sum (b : Builder) (column : Column) : Action σ Value := do
  match ← c.aggregate b "sum" [column] with
  | some .null | none => return .int 0
  | some v => return v

end Connection

end SqlForge
