import SqlForge.Session.Schema
import SqlForge.Session.Write

/-!
What is done with a connection, as data. `Connection.reports` does one thing after the other, each
whatever came of the ones before it.
-/

namespace SqlForge

/-- Reads or changes rows, and gives an answer of the type. -/
inductive Operation : Type → Type 1 where
  | get (b : Builder) : Operation (List Row)
  | getAs {α : Type} (b : Builder) (read : Row → Except Failure α) : Operation (List α)
  | first (b : Builder) : Operation (Option Row)
  | find (b : Builder) (key : Value) : Operation (Option Row)
  | value (b : Builder) (column : Column) : Operation (Option Value)
  | pluck (b : Builder) (column : String) : Operation (List Value)
  | cursor (b : Builder) : Operation (List Row)
  | chunk (b : Builder) (size : Nat) (accept : Nat → List Row → Bool) :
      Operation (Bool × List (List Row))
  | rowsExist (b : Builder) : Operation Bool
  | rowsMissing (b : Builder) : Operation Bool
  | aggregate (b : Builder) (function : String) (columns : List Column) : Operation (Option Value)
  | count (b : Builder) : Operation Int64
  | sum (b : Builder) (column : Column) : Operation Value
  | insert (b : Builder) (r : Record) : Operation Bool
  | insertAll (b : Builder) (records : List Record) : Operation Bool
  | insertOrIgnore (b : Builder) (records : List Record) : Operation Nat
  | insertReturning (b : Builder) (r : Record) (sequence : Option String) : Operation Int64
  | insertRows (b : Builder) (columns : List Column) (query : Builder) : Operation Nat
  | update (b : Builder) (r : Record) : Operation Nat
  | step (b : Builder) (column : String) (down : Bool) (amount : Int64) (extra : Record) :
      Operation Nat
  | delete (b : Builder) : Operation Nat
  | deleteKey (b : Builder) (key : Value) : Operation Nat
  | truncate (b : Builder) : Operation Unit

namespace Operation

variable {σ : Type} (c : Connection σ)

def run : {α : Type} → Operation α → Action σ α
  | _, .get b => c.get b
  | _, .getAs b read => c.getAs b read
  | _, .first b => c.first b
  | _, .find b key => c.find b key
  | _, .value b column => c.value b column
  | _, .pluck b column => c.pluck b column
  | _, .cursor b => c.cursor b
  | _, .chunk b size accept => c.chunk b size accept
  | _, .rowsExist b => c.rowsExist b
  | _, .rowsMissing b => c.rowsMissing b
  | _, .aggregate b function columns => c.aggregate b function columns
  | _, .count b => c.count b
  | _, .sum b column => c.sum b column
  | _, .insert b r => c.insert b r
  | _, .insertAll b records => c.insertAll b records
  | _, .insertOrIgnore b records => c.insertOrIgnore b records
  | _, .insertReturning b r sequence => c.insertReturning b r sequence
  | _, .insertRows b columns query => c.insertRows b columns query
  | _, .update b r => c.update b r
  | _, .step b column down amount extra => c.step b column down amount extra
  | _, .delete b => c.delete b
  | _, .deleteKey b key => c.deleteKey b key
  | _, .truncate b => c.truncate b

end Operation

namespace Schema

/-- Changes or inspects tables, and gives an answer of the type. -/
inductive Operation : Type → Type 1 where
  | build (b : Blueprint) : Operation Unit
  | create (table : String) (define : Blueprint → Blueprint) : Operation Unit
  | alter (table : String) (define : Blueprint → Blueprint) : Operation Unit
  | drop (table : String) : Operation Unit
  | dropIfExists (table : String) : Operation Unit
  | rename (source target : String) : Operation Unit
  | hasTable (table : String) : Operation Bool
  | columnsOf (table : String) : Operation (List String)
  | hasColumns (table : String) (columns : List String) : Operation Bool
  | checkForeignKeys (checked : Bool) : Operation Bool

def Operation.run {σ : Type} (c : Connection σ) : {α : Type} → Operation α → Action σ α
  | _, .build b => c.build b
  | _, .create table define => c.createTable table define
  | _, .alter table define => c.alterTable table define
  | _, .drop table => c.dropTable table
  | _, .dropIfExists table => c.dropTableIfExists table
  | _, .rename source target => c.renameTable source target
  | _, .hasTable table => c.hasTable table
  | _, .columnsOf table => c.columnsOf table
  | _, .hasColumns table columns => c.hasColumns table columns
  | _, .checkForeignKeys checked => c.checkForeignKeys checked

end Schema

inductive Task : Type → Type 1 where
  | rows {α : Type} (op : Operation α) : Task α
  | tables {α : Type} (op : Schema.Operation α) : Task α

def Task.run {σ α : Type} (c : Connection σ) : Task α → Action σ α
  | .rows op => op.run c
  | .tables op => op.run c

/-- What came of a task, and what there was to see of it. -/
structure Report where
  {α : Type}
  answer : Except Failure α
  trace : List Moment

/-- Does the tasks in order, and gives the state that the driver is in after them. -/
def Connection.reports {σ : Type} (c : Connection σ) : List (Sigma Task) → σ → List Report × σ
  | [], state => ([], state)
  | ⟨_, task⟩ :: tasks, state =>
    let (answer, run) := (task.run c).run { driver := state }
    let (rest, state) := c.reports tasks run.driver
    (⟨answer, run.trace⟩ :: rest, state)

end SqlForge
