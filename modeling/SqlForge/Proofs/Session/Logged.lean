import Mathlib.Data.List.Forall2
import SqlForge.Proofs.Session.Run
import SqlForge.Session.Operation

/-!
A layer changes nothing but what it is there for: it logs each statement that goes through, and
names the statement in its failure. A connection with one more layer is followed side by side with
the connection itself, request by request.
-/

namespace SqlForge

def Request.statement? : Request → Option Statement
  | .select s | .execute s | .affect s => some s
  | .lastKey => none

namespace Moment

def statement? (moment : Moment) : Option Statement :=
  moment.request?.bind Request.statement?

/-- The statement that was sent, and how it failed, if it did. -/
def fault? : Moment → Option (Statement × Failure)
  | .sent request (some e) => request.statement?.map (·, e)
  | _ => none

def isOutcome : Moment → Bool
  | .logged (.finished ..) | .logged (.failed ..) => true
  | _ => false

end Moment

/-- What a layer logs of how a statement went, unless it is turned off: one event. -/
def LogConfig.outcome (layer : LogConfig) (p : Passage) (s : Statement)
    (failure : Option Failure) : List Event :=
  if layer.enabled then
    match failure with
    | none => [.finished p (layer.shorten s.sql) s.bindings.length]
    | some e => [.failed p (layer.shorten s.sql) s.bindings.length e]
  else []

/-- What a layer logs of how long a statement took, at most one event. -/
def LogConfig.warning (layer : LogConfig) (p : Passage) (s : Statement) (elapsed : Nat) :
    List Event :=
  (layer.slow? elapsed).toList.map fun threshold => .slow p (layer.shorten s.sql) threshold

section

variable (layer : LogConfig) (layers : List LogConfig)

/--
What there is to see with the layer around `layers`, beside what there is to see without it: of each
statement, the events of the layer come behind those of the layers inside it, and tell of the
failure as these pass it on. All else is the same.
-/
inductive Logged : List Moment → List Moment → Prop where
  | nil : Logged [] []
  | announced {t t' : List Moment} (purpose : Purpose) (sql : String) (bindings : Option Nat) :
      Logged t t' →
      Logged (.logged (.dispatched purpose sql bindings) :: t)
        (.logged (.dispatched purpose sql bindings) :: t')
  | lastKey {t t' : List Moment} (failure : Option Failure) : Logged t t' →
      Logged (.sent .lastKey failure :: t) (.sent .lastKey failure :: t')
  | statement {t t' : List Moment} {request : Request} {s : Statement} (p : Passage)
      (failure : Option Failure) (elapsed : Nat) (inner : List Event) :
      request.statement? = some s → Logged t t' →
      Logged (.sent request failure :: inner.map .logged ++ t)
        (.sent request failure ::
          (inner ++ layer.outcome p s (failure.map (·.throughLayers layers s)) ++
            layer.warning p s elapsed).map .logged ++ t')

/--
The answer with the layer around `layers`, beside the answer without it. The moments are those
without it: if a statement failed there, its failure is the answer, and it names the statement.
-/
inductive Named {α : Type} (t : List Moment) : Except Failure α → Except Failure α → Prop where
  | same (answer : Except Failure α) : t.filterMap Moment.fault? = [] → Named t answer answer
  | failed {s : Statement} {e : Failure} : t.filterMap Moment.fault? = [(s, e)] →
      Named t (.error (e.throughLayers layers s)) (.error (e.attach s.sql s.bindings))

end

theorem Named.prepend {α : Type} {layers : List LogConfig} {t u : List Moment}
    {answer answer' : Except Failure α} (ht : t.filterMap Moment.fault? = [])
    (h : Named layers u answer answer') : Named layers (t ++ u) answer answer' := by
  cases h with
  | same _ hu =>
    apply Named.same
    rw [List.filterMap_append, ht, hu, List.nil_append]
  | failed hu =>
    apply Named.failed
    rw [List.filterMap_append, ht, hu, List.nil_append]

namespace Logged

variable {layer : LogConfig} {layers : List LogConfig} {t t' u u' : List Moment}

theorem append (h : Logged layer layers t t') (hmore : Logged layer layers u u')
    : Logged layer layers (t ++ u) (t' ++ u') := by
  induction h with
  | nil => exact hmore
  | announced purpose sql bindings _ ih => exact ih.announced purpose sql bindings
  | lastKey failure _ ih => exact ih.lastKey failure
  | statement p failure elapsed inner hs _ ih =>
    rw [List.append_assoc, List.append_assoc]
    exact ih.statement p failure elapsed inner hs

theorem filterMap_fault?_map_logged (events : List Event)
    : (events.map Moment.logged).filterMap Moment.fault? = [] := by
  rw [List.filterMap_map]
  exact List.filterMap_eq_nil_iff.mpr fun _ _ => rfl

theorem requests_eq (h : Logged layer layers t t')
    : t'.filterMap Moment.request? = t.filterMap Moment.request? := by
  induction h with
  | nil => rfl
  | announced purpose sql bindings _ ih => exact ih
  | lastKey failure _ ih => exact congrArg (_ :: ·) ih
  | statement p failure elapsed inner _ _ ih =>
    rw [List.cons_append, List.cons_append]
    simp only [List.filterMap_cons, Moment.request?, List.filterMap_append,
      filterMap_request?_map_logged, List.nil_append, ih]

theorem countP_outcome (p : Passage) (s : Statement) (failure : Option Failure)
    : ((layer.outcome p s failure).map Moment.logged).countP Moment.isOutcome
      = if layer.enabled then 1 else 0 := by
  unfold LogConfig.outcome
  split
  . cases failure <;> rfl
  . rfl

theorem countP_warning (p : Passage) (s : Statement) (elapsed : Nat)
    : ((layer.warning p s elapsed).map Moment.logged).countP Moment.isOutcome = 0 := by
  unfold LogConfig.warning
  cases layer.slow? elapsed <;> rfl

theorem filterMap_statement?_map_logged (events : List Event)
    : (events.map Moment.logged).filterMap Moment.statement? = [] := by
  rw [List.filterMap_map]
  exact List.filterMap_eq_nil_iff.mpr fun _ _ => rfl

theorem countP_isOutcome (h : Logged layer layers t t')
    : t'.countP Moment.isOutcome
      = t.countP Moment.isOutcome
        + if layer.enabled then (t.filterMap Moment.statement?).length else 0 := by
  induction h with
  | nil => simp
  | announced purpose sql bindings _ ih =>
    simpa [Moment.isOutcome, List.filterMap_cons, Moment.statement?, Moment.request?] using ih
  | lastKey failure _ ih =>
    simpa [Moment.isOutcome, List.filterMap_cons, Moment.statement?, Moment.request?,
      Request.statement?] using ih
  | statement p failure elapsed inner hs _ ih =>
    simp only [List.cons_append, List.countP_cons, List.countP_append, List.map_append,
      List.filterMap_cons, List.filterMap_append, filterMap_statement?_map_logged,
      countP_outcome, countP_warning, Moment.statement?, Moment.request?, Option.bind_some, hs, ih]
    split
    . simp [Moment.isOutcome]
      omega
    . simp [Moment.isOutcome]

end Logged

/-! ### Actions side by side -/

variable {σ α β : Type}

/--
From the same state of the driver, `x` without the layer and `x'` with it lead to the same state,
and to moments and answers that correspond.
-/
def Corresponds (layer : LogConfig) (layers : List LogConfig) (x x' : Action σ α) : Prop :=
  ∀ run run' : Run σ, run.driver = run'.driver →
    ∃ t t', (x.run run).2.trace = run.trace ++ t ∧ (x'.run run').2.trace = run'.trace ++ t' ∧
      (x.run run).2.driver = (x'.run run').2.driver ∧ Logged layer layers t t' ∧
      Named layers t (x.run run).1 (x'.run run').1

namespace Corresponds

variable {layer : LogConfig} {layers : List LogConfig} {x x' : Action σ α}

theorem pure (a : α)
    : Corresponds layer layers (Pure.pure a : Action σ α) (Pure.pure a : Action σ α) := by
  intro run run' hdriver
  exact ⟨[], [], (List.append_nil _).symm, (List.append_nil _).symm, hdriver, .nil, .same _ rfl⟩

theorem liftM (answer : Except Failure α)
    : Corresponds layer layers (MonadLiftT.monadLift answer : Action σ α)
        (MonadLiftT.monadLift answer : Action σ α) := by
  intro run run' hdriver
  exact ⟨[], [], (List.append_nil _).symm, (List.append_nil _).symm, hdriver, .nil, .same _ rfl⟩

theorem dispatch (purpose : Purpose) (s : Statement)
    : Corresponds layer layers (Connection.dispatch purpose s : Action σ Unit)
        (Connection.dispatch purpose s : Action σ Unit) := by
  intro run run' hdriver
  exact ⟨_, _, rfl, rfl, hdriver, .announced purpose _ _ .nil, .same _ rfl⟩

theorem dispatchSchema (purpose : Purpose) (sql : String)
    : Corresponds layer layers (Connection.dispatchSchema purpose sql : Action σ Unit)
        (Connection.dispatchSchema purpose sql : Action σ Unit) := by
  intro run run' hdriver
  exact ⟨_, _, rfl, rfl, hdriver, .announced purpose _ _ .nil, .same _ rfl⟩

theorem bind {f f' : α → Action σ β} (hx : Corresponds layer layers x x')
    (hf : ∀ a, Corresponds layer layers (f a) (f' a))
    : Corresponds layer layers (x >>= f) (x' >>= f') := by
  intro run run' hdriver
  obtain ⟨t, t', htrace, htrace', hsame, hlogged, hnamed⟩ := hx run run' hdriver
  match hrun : x.run run, hrun' : x'.run run' with
  | (answer, next), (answer', next') =>
    rw [hrun] at htrace hsame hnamed
    rw [hrun'] at htrace' hsame hnamed
    dsimp only at htrace htrace' hsame hnamed
    cases hnamed with
    | same _ ht =>
      cases answer with
      | error e =>
        rw [Action.run_bind_of_error hrun, Action.run_bind_of_error hrun']
        exact ⟨t, t', htrace, htrace', hsame, hlogged, .same _ ht⟩
      | ok a =>
        obtain ⟨u, u', hmore, hmore', hend, hlogged', hnamed'⟩ := hf a next next' hsame
        rw [Action.run_bind_of_ok hrun, Action.run_bind_of_ok hrun']
        refine ⟨t ++ u, t' ++ u', ?_, ?_, hend, hlogged.append hlogged', hnamed'.prepend ht⟩
        . rw [hmore, htrace, List.append_assoc]
        . rw [hmore', htrace', List.append_assoc]
    | failed ht =>
      rw [Action.run_bind_of_error hrun, Action.run_bind_of_error hrun']
      exact ⟨t, t', htrace, htrace', hsame, hlogged, .failed ht⟩

end Corresponds

section

variable (c : Connection σ) (layer : LogConfig)

theorem eventsOf_eq (p : Passage) (s : Statement) (r : Reply α)
    : layer.eventsOf p s r = layer.outcome p s r.failure? ++ layer.warning p s r.elapsed := by
  obtain ⟨result, elapsed⟩ := r
  cases result <;> rfl

theorem corresponds_send (p : Passage) {s : Statement} {request : Request}
    (answer : StateM σ (Reply α)) (hs : request.statement? = some s)
    : Corresponds layer c.layers (c.send p s (Connection.submit request answer))
        ((c.logged layer).send p s (Connection.submit request answer)) := by
  intro run run' hdriver
  match hanswer : answer run.driver with
  | (reply, driver) =>
    have hrun := c.run_send p s request hanswer
    rw [hdriver] at hanswer
    have hrun' := (c.logged layer).run_send p s request hanswer
    rw [hrun, hrun']
    refine ⟨_, _, rfl, rfl, rfl, ?_, ?_⟩
    . change Logged layer c.layers _ (.sent request reply.failure? ::
        (layerEvents p s reply c.layers ++
          layer.eventsOf p s (reply.throughLayers c.layers s)).map .logged)
      rw [eventsOf_eq, Reply.failure?_throughLayers, Reply.elapsed_throughLayers]
      have hnil : Logged layer c.layers [] [] := .nil
      simpa using hnil.statement p reply.failure? reply.elapsed (layerEvents p s reply c.layers) hs
    . obtain ⟨result, elapsed⟩ := reply
      cases result with
      | ok a =>
        apply Named.same
        exact Logged.filterMap_fault?_map_logged _
      | error e =>
        apply Named.failed
        have hfault : Moment.fault? (.sent request (some e)) = some (s, e) := by
          rw [Moment.fault?, hs]
          rfl
        change List.filterMap Moment.fault? (.sent request (some e) :: _) = _
        rw [List.filterMap_cons_some hfault, Logged.filterMap_fault?_map_logged]

theorem corresponds_select (p : Passage) (s : Statement)
    : Corresponds layer c.layers (c.select p s) ((c.logged layer).select p s) :=
  corresponds_send c layer p (c.driver.select s) rfl

theorem corresponds_execute (p : Passage) (s : Statement)
    : Corresponds layer c.layers (c.execute p s) ((c.logged layer).execute p s) :=
  corresponds_send c layer p (c.driver.execute s) rfl

theorem corresponds_affect (p : Passage) (s : Statement)
    : Corresponds layer c.layers (c.affect p s) ((c.logged layer).affect p s) :=
  corresponds_send c layer p (c.driver.affect s) rfl

-- The layer has no part in this, so a failure is the answer as it is.
theorem corresponds_lastKey
    : Corresponds layer c.layers c.lastKey (c.logged layer).lastKey := by
  intro run run' hdriver
  match hanswer : c.driver.lastKey run.driver with
  | (reply, driver) =>
    have hrun := c.run_lastKey hanswer
    rw [hdriver] at hanswer
    have hrun' := (c.logged layer).run_lastKey hanswer
    rw [hrun, hrun']
    refine ⟨_, _, rfl, rfl, rfl, .lastKey _ .nil, .same _ ?_⟩
    cases reply.failure? <;> rfl

theorem corresponds_executeAll (purpose : Purpose) (statements : List Statement)
    : Corresponds layer c.layers (c.executeAll purpose statements)
        ((c.logged layer).executeAll purpose statements) := by
  induction statements with
  | nil => exact .pure ()
  | cons s rest ih =>
    exact (Corresponds.dispatch purpose s).bind fun _ =>
      (corresponds_execute c layer .statement s).bind fun _ => ih

theorem corresponds_executeChanges (statements : List String)
    : Corresponds layer c.layers (c.executeChanges statements)
        ((c.logged layer).executeChanges statements) := by
  induction statements with
  | nil => exact .pure ()
  | cons sql rest ih =>
    exact (Corresponds.dispatchSchema .schema sql).bind fun _ =>
      (corresponds_execute c layer .statement { sql }).bind fun _ => ih

theorem corresponds_get (b : Builder)
    : Corresponds layer c.layers (c.get b) ((c.logged layer).get b) :=
  (Corresponds.liftM b.statement).bind fun s =>
    (Corresponds.dispatch .select s).bind fun _ => corresponds_select c layer .select s

theorem corresponds_first (b : Builder)
    : Corresponds layer c.layers (c.first b) ((c.logged layer).first b) :=
  (corresponds_get c layer (b.limit 1)).bind fun _ => .pure _

theorem corresponds_rowsExist (b : Builder)
    : Corresponds layer c.layers (c.rowsExist b) ((c.logged layer).rowsExist b) := by
  refine (Corresponds.liftM b.existsStatement).bind fun s => ?_
  refine (Corresponds.dispatch .exists s).bind fun _ => ?_
  refine (corresponds_select c layer .select s).bind fun rows => ?_
  cases rows with
  | nil => exact .pure false
  | cons row rows => exact .liftM _

theorem corresponds_aggregate (b : Builder) (function : String) (columns : List Column)
    : Corresponds layer c.layers (c.aggregate b function columns)
        ((c.logged layer).aggregate b function columns) :=
  (corresponds_get c layer (b.aggregate function columns)).bind fun _ => .pure _

theorem corresponds_insertAll (b : Builder) (records : List Record)
    : Corresponds layer c.layers (c.insertAll b records)
        ((c.logged layer).insertAll b records) := by
  unfold Connection.insertAll
  split
  . exact .pure true
  . exact (Corresponds.liftM (b.insert .refused records)).bind fun s =>
      (Corresponds.dispatch .insert s).bind fun _ => corresponds_execute c layer .insert s

theorem corresponds_insert (b : Builder) (r : Record)
    : Corresponds layer c.layers (c.insert b r) ((c.logged layer).insert b r) := by
  unfold Connection.insert
  split
  . exact .pure true
  . exact corresponds_insertAll c layer b [r]

theorem corresponds_insertOrIgnore (b : Builder) (records : List Record)
    : Corresponds layer c.layers (c.insertOrIgnore b records)
        ((c.logged layer).insertOrIgnore b records) := by
  unfold Connection.insertOrIgnore
  split
  . exact .pure 0
  . exact (Corresponds.liftM (b.insert .ignored records)).bind fun s =>
      (Corresponds.dispatch .insert s).bind fun _ => corresponds_affect c layer .affecting s

theorem corresponds_insertReturning (b : Builder) (r : Record) (sequence : Option String)
    : Corresponds layer c.layers (c.insertReturning b r sequence)
        ((c.logged layer).insertReturning b r sequence) := by
  refine (Corresponds.liftM (b.insertReturning r sequence)).bind fun s => ?_
  refine (Corresponds.dispatch .insert s).bind fun _ => ?_
  cases b.grammar.dialect with
  | postgres => exact (corresponds_select c layer .select s).bind fun _ => .liftM _
  | mysql | sqlite =>
    exact (corresponds_execute c layer .insert s).bind fun _ => corresponds_lastKey c layer

theorem corresponds_insertRows (b : Builder) (columns : List Column) (query : Builder)
    : Corresponds layer c.layers (c.insertRows b columns query)
        ((c.logged layer).insertRows b columns query) :=
  (Corresponds.liftM (b.insertRows columns query)).bind fun s =>
    (Corresponds.dispatch .insert s).bind fun _ => corresponds_affect c layer .affecting s

theorem corresponds_update (b : Builder) (r : Record)
    : Corresponds layer c.layers (c.update b r) ((c.logged layer).update b r) :=
  (Corresponds.liftM (b.update r)).bind fun s =>
    (Corresponds.dispatch .update s).bind fun _ => corresponds_affect c layer .update s

theorem corresponds_delete (b : Builder)
    : Corresponds layer c.layers (c.delete b) ((c.logged layer).delete b) :=
  (Corresponds.liftM b.delete).bind fun s =>
    (Corresponds.dispatch .delete s).bind fun _ => corresponds_affect c layer .delete s

theorem corresponds_chunkFrom (b : Builder) (size : Nat) (accept : Nat → List Row → Bool)
    (fuel page : Nat)
    : Corresponds layer c.layers (c.chunkFrom b size accept fuel page)
        ((c.logged layer).chunkFrom b size accept fuel page) := by
  induction fuel generalizing page with
  | zero => exact .pure _
  | succ fuel ih =>
    rw [Connection.chunkFrom_succ, Connection.chunkFrom_succ]
    refine (corresponds_get c layer (b.forPage page size)).bind fun rows => ?_
    unfold Connection.afterPage
    split
    . exact .pure _
    . split
      . exact .pure _
      . split
        . exact .pure _
        . exact (ih (page + 1)).bind fun _ => .pure _

theorem corresponds_chunk (b : Builder) (size : Nat) (accept : Nat → List Row → Bool)
    : Corresponds layer c.layers (c.chunk b size accept)
        ((c.logged layer).chunk b size accept) := by
  rw [Connection.chunk_eq, Connection.chunk_eq]
  split
  . exact .pure _
  . exact corresponds_chunkFrom c layer b size accept _ _

theorem Operation.corresponds (op : Operation α)
    : Corresponds layer c.layers (op.run c) (op.run (c.logged layer)) := by
  cases op with
  | get b => exact corresponds_get c layer b
  | getAs b read => exact (corresponds_get c layer b).bind fun _ => .liftM _
  | first b => exact corresponds_first c layer b
  | find b key => exact corresponds_first c layer (b.withKey key)
  | value b column =>
    exact (corresponds_first c layer (b.select [column])).bind fun _ => .pure _
  | pluck b column =>
    exact (corresponds_get c layer (b.select [.name column])).bind fun _ => .pure _
  | cursor b =>
    exact (Corresponds.liftM b.statement).bind fun s =>
      (Corresponds.dispatch .cursor s).bind fun _ => corresponds_select c layer .cursor s
  | chunk b size accept => exact corresponds_chunk c layer b size accept
  | rowsExist b => exact corresponds_rowsExist c layer b
  | rowsMissing b => exact (corresponds_rowsExist c layer b).bind fun _ => .pure _
  | aggregate b function columns => exact corresponds_aggregate c layer b function columns
  | count b =>
    refine (corresponds_aggregate c layer b "count" [.name "*"]).bind fun found => ?_
    cases found with
    | none => exact .pure 0
    | some v => exact .liftM _
  | sum b column =>
    refine (corresponds_aggregate c layer b "sum" [column]).bind fun found => ?_
    split <;> exact .pure _
  | insert b r => exact corresponds_insert c layer b r
  | insertAll b records => exact corresponds_insertAll c layer b records
  | insertOrIgnore b records => exact corresponds_insertOrIgnore c layer b records
  | insertReturning b r sequence => exact corresponds_insertReturning c layer b r sequence
  | insertRows b columns query => exact corresponds_insertRows c layer b columns query
  | update b r => exact corresponds_update c layer b r
  | step b column down amount extra => exact corresponds_update c layer b _
  | delete b => exact corresponds_delete c layer b
  | deleteKey b key => exact corresponds_delete c layer (b.withKey key)
  | truncate b =>
    exact (Corresponds.liftM b.truncate).bind fun statements =>
      corresponds_executeAll c layer .truncate statements

/-! ### Tables -/

theorem corresponds_build (b : Schema.Blueprint)
    : Corresponds layer c.layers (c.build b) ((c.logged layer).build b) :=
  (Corresponds.liftM (b.statements c.grammar)).bind fun statements =>
    corresponds_executeChanges c layer statements

theorem corresponds_columnsOf (table : String)
    : Corresponds layer c.layers (c.columnsOf table) ((c.logged layer).columnsOf table) :=
  (Corresponds.dispatchSchema .columnListing _).bind fun _ =>
    (corresponds_select c layer .select _).bind fun _ => .pure _

theorem Schema.Operation.corresponds (op : Schema.Operation α)
    : Corresponds layer c.layers (op.run c) (op.run (c.logged layer)) := by
  cases op with
  | build b => exact corresponds_build c layer b
  | create table define => exact corresponds_build c layer _
  | alter table define => exact corresponds_build c layer _
  | drop table => exact corresponds_build c layer _
  | dropIfExists table => exact corresponds_build c layer _
  | rename source target => exact corresponds_build c layer _
  | hasTable table =>
    exact (Corresponds.dispatchSchema .hasTable _).bind fun _ =>
      (corresponds_select c layer .select _).bind fun _ => .pure _
  | columnsOf table => exact corresponds_columnsOf c layer table
  | hasColumns table columns => exact (corresponds_columnsOf c layer table).bind fun _ => .pure _
  | checkForeignKeys checked => exact corresponds_execute c layer .statement _

theorem Task.corresponds (task : Task α)
    : Corresponds layer c.layers (task.run c) (task.run (c.logged layer)) := by
  cases task with
  | rows op => exact op.corresponds c layer
  | tables op => exact op.corresponds c layer

end

/-! ### Sequences of tasks -/

/-- What came of a task without the layer around `layers`, and with it. -/
inductive Report.Logged (layer : LogConfig) (layers : List LogConfig) : Report → Report → Prop where
  | intro {α : Type} {answer answer' : Except Failure α} {t t' : List Moment} :
      t'.filterMap Moment.request? = t.filterMap Moment.request? →
      Named layers t answer answer' →
      SqlForge.Logged layer layers t t' →
      t'.countP Moment.isOutcome
        = t.countP Moment.isOutcome
          + (if layer.enabled then (t.filterMap Moment.statement?).length else 0) →
      Report.Logged layer layers ⟨answer, t⟩ ⟨answer', t'⟩

end SqlForge
