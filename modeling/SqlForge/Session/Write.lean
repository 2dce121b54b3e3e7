import SqlForge.Session.Query
import SqlForge.Write.Change

/-!
Changing rows through a connection.
-/

namespace SqlForge

/-- The assignment `column = column + amount`, or with a minus, under those of `extra`. -/
def Grammar.stepRecord (g : Grammar) (column : String) (down : Bool) (amount : Int64)
    (extra : Record) : Record :=
  let sign := if down then " - " else " + "
  (Record.empty.set column (.raw (g.wrap column ++ sign ++ toString amount.toInt))).merge extra

namespace Connection

variable {σ : Type} (c : Connection σ)

/-- Inserts records with one statement, if there are any. -/
def insertAll (b : Builder) (records : List Record) : Action σ Bool := do
  if records.isEmpty then return true
  let s ← b.insert .refused records
  dispatch .insert s
  c.execute .insert s

/-- Inserts a record, if it assigns anything. -/
def insert (b : Builder) (r : Record) : Action σ Bool := do
  if r.isEmpty then return true
  c.insertAll b [r]

/-- Inserts the records that are not there yet, and counts them. -/
def insertOrIgnore (b : Builder) (records : List Record) : Action σ Nat := do
  if records.isEmpty then return 0
  let s ← b.insert .ignored records
  dispatch .insert s
  c.affect .affecting s

def insertReturning (b : Builder) (r : Record) (sequence : Option String) : Action σ Int64 := do
  let s ← b.insertReturning r sequence
  dispatch .insert s
  match b.grammar.dialect with
  | .postgres =>
    let rows ← c.select .select s
    generatedKey rows (Builder.keyColumn sequence)
  | .mysql | .sqlite =>
    let _ ← c.execute .insert s
    c.lastKey

def insertRows (b : Builder) (columns : List Column) (query : Builder) : Action σ Nat := do
  let s ← b.insertRows columns query
  dispatch .insert s
  c.affect .affecting s

def update (b : Builder) (r : Record) : Action σ Nat := do
  let s ← b.update r
  dispatch .update s
  c.affect .update s

/-- Adds to a column, or takes away from it. -/
def step (b : Builder) (column : String) (down : Bool) (amount : Int64) (extra : Record) :
    Action σ Nat :=
  c.update b (b.grammar.stepRecord column down amount extra)

def delete (b : Builder) : Action σ Nat := do
  let s ← b.delete
  dispatch .delete s
  c.affect .delete s

def deleteKey (b : Builder) (key : Value) : Action σ Nat :=
  c.delete (b.withKey key)

/-- Sends statements in order up to the first that fails. -/
def executeAll (purpose : Purpose) : List Statement → Action σ Unit
  | [] => return ()
  | s :: rest => do
    dispatch purpose s
    let _ ← c.execute .statement s
    executeAll purpose rest

def truncate (b : Builder) : Action σ Unit := do
  let statements ← b.truncate
  c.executeAll .truncate statements

end Connection

end SqlForge
