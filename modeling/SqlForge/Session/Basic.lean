import SqlForge.Config
import SqlForge.Row.Basic
import SqlForge.Statement

/-!
Sending statements. A driver answers them; around it lie layers that log what goes through and name
the statement in a failure. A run records, in order, what the driver was sent and what was logged.
-/

namespace SqlForge

/-- An answer, and the time it took in nanoseconds. -/
structure Reply (α : Type) where
  result : Except Failure α
  elapsed : Nat

def Reply.failure? {α : Type} (r : Reply α) : Option Failure :=
  match r.result with
  | .ok _ => none
  | .error e => some e

/-- A database behind a wire, whose state is of type `σ`. -/
structure Driver (σ : Type) where
  select : Statement → StateM σ (Reply (List Row))
  execute : Statement → StateM σ (Reply Bool)
  affect : Statement → StateM σ (Reply Nat)
  /-- The key that the last INSERT generated. -/
  lastKey : StateM σ (Reply Int64)

/-- What a driver was sent. -/
inductive Request where
  | select (s : Statement)
  | execute (s : Statement)
  | affect (s : Statement)
  | lastKey
  deriving Inhabited

/-- What a statement is meant to do, when it is handed over. -/
inductive Purpose where
  | select
  | cursor
  | exists
  | insert
  | update
  | delete
  | truncate
  | schema
  | hasTable
  | columnListing
  deriving DecidableEq, Repr

def Purpose.name : Purpose → String
  | .select => "select"
  | .cursor => "cursor"
  | .exists => "exists"
  | .insert => "insert"
  | .update => "update"
  | .delete => "delete"
  | .truncate => "truncate"
  | .schema => "schema"
  | .hasTable => "has_table"
  | .columnListing => "column_listing"

/-- How a layer sees a statement go through. -/
inductive Passage where
  | select
  | statement
  | affecting
  | insert
  | update
  | delete
  | cursor
  deriving DecidableEq, Repr

def Passage.name : Passage → String
  | .select => "select"
  | .statement => "statement"
  | .affecting => "affecting"
  | .insert => "insert"
  | .update => "update"
  | .delete => "delete"
  | .cursor => "cursor"

/-- How much an event matters. -/
inductive Level where
  | debug
  | warn
  deriving DecidableEq, Repr

def Level.name : Level → String
  | .debug => "DEBUG"
  | .warn => "WARN"

inductive Event where
  /-- A statement is about to be sent; changes to a schema do not count their values. -/
  | dispatched (purpose : Purpose) (sql : String) (bindings : Option Nat)
  | finished (passage : Passage) (sql : String) (bindings : Nat)
  | failed (passage : Passage) (sql : String) (bindings : Nat) (cause : Failure)
  /-- A statement took longer than the threshold, in milliseconds. -/
  | slow (passage : Passage) (sql : String) (threshold : Nat)

namespace Event

def level : Event → Level
  | .dispatched .. | .finished .. | .failed .. => .debug
  | .slow .. => .warn

/-- What the layers see can be listened to apart from what is handed over. -/
def target : Event → String
  | .dispatched .. => "querykit::query"
  | .finished .. | .failed .. | .slow .. => "querykit::sql"

def message : Event → String
  | .dispatched .. => "dispatching statement"
  | .finished .. => "statement finished"
  | .failed .. => "statement failed"
  | .slow .. => "slow query"

def kind : Event → String
  | .dispatched purpose .. => purpose.name
  | .finished passage .. | .failed passage .. | .slow passage .. => passage.name

def sql : Event → String
  | .dispatched _ sql _ | .finished _ sql _ | .failed _ sql .. | .slow _ sql _ => sql

end Event

structure Connection (σ : Type) where
  config : Config
  driver : Driver σ
  /-- The layers around the driver, the outermost first. -/
  layers : List LogConfig := []

/-- What there is to see: a request, and its failure if there was one, or an event. -/
inductive Moment where
  | sent (request : Request) (failure : Option Failure)
  | logged (e : Event)

def Moment.request? : Moment → Option Request
  | .sent request _ => some request
  | .logged _ => none

def Moment.event? : Moment → Option Event
  | .sent .. => none
  | .logged e => some e

/-- The state of the driver, and what there has been to see. -/
structure Run (σ : Type) where
  driver : σ
  trace : List Moment := []

namespace Run

variable {σ : Type}

def requests (run : Run σ) : List Request :=
  run.trace.filterMap Moment.request?

def events (run : Run σ) : List Event :=
  run.trace.filterMap Moment.event?

def log (run : Run σ) (events : List Event) : Run σ :=
  { run with trace := run.trace ++ events.map .logged }

end Run

/-- What is done with a connection: it changes the run and may fail in the end. -/
abbrev Action (σ α : Type) := ExceptT Failure (StateM (Run σ)) α

namespace LogConfig

/-- Whether an answer after `elapsed` nanoseconds is slow, and by which threshold. -/
def slow? (c : LogConfig) (elapsed : Nat) : Option Nat :=
  c.slowAfter.filter fun threshold => threshold * 1000000 < elapsed

/-- What a layer logs of a statement and its answer. -/
def eventsOf {α : Type} (c : LogConfig) (p : Passage) (s : Statement) (r : Reply α) : List Event :=
  let shown := c.shorten s.sql
  let outcome :=
    if c.enabled then
      match r.result with
      | .ok _ => [.finished p shown s.bindings.length]
      | .error e => [.failed p shown s.bindings.length e]
    else []
  outcome ++ (c.slow? r.elapsed).toList.map fun threshold => .slow p shown threshold

end LogConfig

namespace Connection

variable {σ α : Type}

def submit (request : Request) (answer : StateM σ (Reply α)) : StateM (Run σ) (Reply α) := fun run =>
  let (reply, driver) := answer run.driver
  (reply, { driver, trace := run.trace ++ [.sent request reply.failure?] })

/-- Through the layers: each logs the answer and names the statement in a failure. -/
def through (p : Passage) (s : Statement) (inner : StateM (Run σ) (Reply α)) :
    List LogConfig → StateM (Run σ) (Reply α)
  | [] => inner
  | layer :: layers => fun run =>
    let (reply, run) := through p s inner layers run
    ({ reply with result := reply.result.mapError (·.attach s.sql s.bindings) },
      run.log (layer.eventsOf p s reply))

variable (c : Connection σ)

/-- Sends a statement and takes its answer out of the reply. -/
def send (p : Passage) (s : Statement) (inner : StateM (Run σ) (Reply α)) : Action σ α :=
  ExceptT.mk do
    let reply ← through p s inner c.layers
    return reply.result

def select (p : Passage) (s : Statement) : Action σ (List Row) :=
  c.send p s (submit (.select s) (c.driver.select s))

def execute (p : Passage) (s : Statement) : Action σ Bool :=
  c.send p s (submit (.execute s) (c.driver.execute s))

def affect (p : Passage) (s : Statement) : Action σ Nat :=
  c.send p s (submit (.affect s) (c.driver.affect s))

/-- The layers have no part in this. -/
def lastKey : Action σ Int64 :=
  ExceptT.mk do
    let reply ← submit .lastKey c.driver.lastKey
    return reply.result

def dispatch (purpose : Purpose) (s : Statement) : Action σ Unit :=
  modify (·.log [.dispatched purpose s.sql (some s.bindings.length)])

def dispatchSchema (purpose : Purpose) (sql : String) : Action σ Unit :=
  modify (·.log [.dispatched purpose sql none])

def grammar : Grammar := c.config.grammar

def logged (layer : LogConfig) : Connection σ :=
  { c with layers := layer :: c.layers }

end Connection

end SqlForge
