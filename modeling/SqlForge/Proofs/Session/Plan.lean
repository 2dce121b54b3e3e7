import SqlForge.Proofs.Except
import SqlForge.Proofs.Select.Containment
import SqlForge.Proofs.Session.Run
import SqlForge.Session.Operation

/-!
What an operation is to send, told from its builder alone: a list of requests, each of which is made
once and in order, up to the first that fails. A statement is announced right before it is sent.
-/

namespace SqlForge

inductive Stage where
  | select (purpose : Purpose) (s : Statement)
  | execute (purpose : Purpose) (s : Statement)
  | affect (purpose : Purpose) (s : Statement)
  | lastKey

namespace Stage

def request : Stage → Request
  | .select _ s => .select s
  | .execute _ s => .execute s
  | .affect _ s => .affect s
  | .lastKey => .lastKey

def announcement : Stage → List Event
  | .select purpose s | .execute purpose s | .affect purpose s =>
    [.dispatched purpose s.sql (some s.bindings.length)]
  | .lastKey => []

/-- What there is to see of the request, leaving aside the layers. -/
def moments (stage : Stage) (failure : Option Failure) : List Moment :=
  stage.announcement.map .logged ++ [.sent stage.request failure]

/-- One dialect gives the key of a new row as a row, the others when they are asked for it. -/
def generated (d : Dialect) (s : Statement) : List Stage :=
  match d with
  | .postgres => [.select .insert s]
  | .mysql | .sqlite => [.execute .insert s, .lastKey]

end Stage

/--
The requests are made in order, up to the first that fails: the moments are what there is to see of
them, and the failure is that of the last one made.
-/
inductive Followed : List Stage → List Moment → Option Failure → Prop where
  | done : Followed [] [] none
  | next {stage : Stage} {stages : List Stage} {moments : List Moment} {failure : Option Failure} :
      Followed stages moments failure →
      Followed (stage :: stages) (stage.moments none ++ moments) failure
  | failed {stage : Stage} {stages : List Stage} (e : Failure) :
      Followed (stage :: stages) (stage.moments (some e)) (some e)

def Builder.pageStages (b : Builder) (size : Nat) : Nat → Nat → Except Failure (List Stage)
  | _, 0 => return []
  | page, pages + 1 => do
    let s ← (b.forPage page size).statement
    return .select .select s :: (← b.pageStages size (page + 1) pages)

/-- The requests of an operation. A walk is over this many pages. -/
def Operation.plan (pages : Nat) : {α : Type} → Operation α → Except Failure (List Stage)
  | _, .get b | _, .getAs b _ => return [.select .select (← b.statement)]
  | _, .first b => return [.select .select (← (b.limit 1).statement)]
  | _, .find b key => return [.select .select (← ((b.withKey key).limit 1).statement)]
  | _, .value b column => return [.select .select (← ((b.select [column]).limit 1).statement)]
  | _, .pluck b column => return [.select .select (← (b.select [.name column]).statement)]
  | _, .cursor b => return [.select .cursor (← b.statement)]
  | _, .chunk b size _ =>
    if size = 0 then .ok []
    else b.pageStages size 1 pages
  | _, .rowsExist b | _, .rowsMissing b => return [.select .exists (← b.existsStatement)]
  | _, .aggregate b function columns =>
    return [.select .select (← (b.aggregate function columns).statement)]
  | _, .count b => return [.select .select (← (b.aggregate "count" [.name "*"]).statement)]
  | _, .sum b column => return [.select .select (← (b.aggregate "sum" [column]).statement)]
  | _, .insert b r =>
    if r.isEmpty then .ok [] else return [.execute .insert (← b.insert .refused [r])]
  | _, .insertAll b records =>
    if records.isEmpty then .ok [] else return [.execute .insert (← b.insert .refused records)]
  | _, .insertOrIgnore b records =>
    if records.isEmpty then .ok [] else return [.affect .insert (← b.insert .ignored records)]
  | _, .insertReturning b r sequence =>
    return Stage.generated b.grammar.dialect (← b.insertReturning r sequence)
  | _, .insertRows b columns query => return [.affect .insert (← b.insertRows columns query)]
  | _, .update b r => return [.affect .update (← b.update r)]
  | _, .step b column down amount extra =>
    return [.affect .update (← b.update (b.grammar.stepRecord column down amount extra))]
  | _, .delete b => return [.affect .delete (← b.delete)]
  | _, .deleteKey b key => return [.affect .delete (← (b.withKey key).delete)]
  | _, .truncate b => return (← b.truncate).map (.execute .truncate)

/-- What a layer has no part in: the requests, and the announcements of statements. -/
def Moment.isOwn : Moment → Bool
  | .sent .. | .logged (.dispatched ..) => true
  | .logged _ => false

theorem Stage.requests_moments (stage : Stage) (failure : Option Failure)
    : (stage.moments failure).filterMap Moment.request? = [stage.request] := by
  cases stage <;> rfl

theorem Followed.requests_subset {stages : List Stage} {moments : List Moment}
    {failure : Option Failure} (h : Followed stages moments failure)
    : moments.filterMap Moment.request? ⊆ stages.map Stage.request := by
  induction h with
  | done => exact List.nil_subset _
  | next _ ih =>
    rw [List.filterMap_append, Stage.requests_moments, List.map_cons]
    exact List.cons_subset_cons _ ih
  | failed e =>
    rw [Stage.requests_moments, List.map_cons]
    exact List.cons_subset_cons _ (List.nil_subset _)

theorem filterMap_request?_filter_isOwn (seen : List Moment)
    : (seen.filter Moment.isOwn).filterMap Moment.request? = seen.filterMap Moment.request? := by
  rw [List.filterMap_filter]
  congr 1
  funext moment
  cases moment with
  | sent request failure => rfl
  | logged e => cases e <;> rfl

theorem Followed.append {stages more : List Stage} {moments moments' : List Moment}
    {failure : Option Failure} (h : Followed stages moments none)
    (hmore : Followed more moments' failure)
    : Followed (stages ++ more) (moments ++ moments') failure := by
  generalize hnone : none = found at h
  induction h with
  | done => exact hmore
  | next _ ih =>
    rw [List.append_assoc]
    exact (ih hnone).next
  | failed e => cases hnone

theorem Followed.append_of_failed {stages : List Stage} {moments : List Moment} {e : Failure}
    (h : Followed stages moments (some e)) (more : List Stage)
    : Followed (stages ++ more) moments (some e) := by
  generalize hsome : some e = found at h
  induction h with
  | done => cases hsome
  | next _ ih => exact (ih hsome).next
  | failed found =>
    cases hsome
    exact .failed e

/-! ### Actions that make requests -/

variable {σ α β : Type} {run : Run σ}

/-- The action makes the requests, and fails if one of them does. -/
def Performs (x : Action σ α) (run : Run σ) (stages : List Stage) : Prop :=
  ∃ seen failure, (x.run run).2.trace = run.trace ++ seen ∧
    Followed stages (seen.filter Moment.isOwn) failure ∧
    (failure.isSome → ∃ e, (x.run run).1 = .error e)

/-- The action makes the requests, and fails just when one of them does. -/
def Sends (x : Action σ α) (run : Run σ) (stages : List Stage) : Prop :=
  ∃ seen failure, (x.run run).2.trace = run.trace ++ seen ∧
    Followed stages (seen.filter Moment.isOwn) failure ∧
    (failure.isSome ↔ ∃ e, (x.run run).1 = .error e)

theorem Sends.performs {x : Action σ α} {stages : List Stage} (h : Sends x run stages)
    : Performs x run stages := by
  obtain ⟨seen, failure, htrace, hfollowed, hfails⟩ := h
  exact ⟨seen, failure, htrace, hfollowed, hfails.mp⟩

theorem sends_pure (a : α) : Sends (pure a) run [] :=
  ⟨[], none, (List.append_nil _).symm, .done, iff_of_false nofun nofun⟩

theorem Sends.bind {x : Action σ α} {f : α → Action σ β} {stages more : List Stage}
    (h : Sends x run stages)
    (hf : ∀ a run', x.run run = (.ok a, run') → Performs (f a) run' more)
    : Performs (x >>= f) run (stages ++ more) := by
  obtain ⟨seen, failure, htrace, hfollowed, hfails⟩ := h
  match hx : x.run run with
  | (.error e, run') =>
    rw [hx] at htrace hfails
    obtain ⟨found, rfl⟩ := Option.isSome_iff_exists.mp (hfails.mpr ⟨e, rfl⟩)
    have hbind := Action.run_bind_of_error (f := f) hx
    refine ⟨seen, some found, ?_, hfollowed.append_of_failed more, fun _ => ⟨e, ?_⟩⟩
    . rw [hbind]
      exact htrace
    . rw [hbind]
  | (.ok a, run') =>
    rw [hx] at htrace hfails
    obtain rfl : failure = none := by
      rw [← Option.not_isSome_iff_eq_none, hfails]
      nofun
    obtain ⟨seen', failure', htrace', hfollowed', hfails'⟩ := hf a run' hx
    rw [← Action.run_bind_of_ok (f := f) hx] at htrace' hfails'
    dsimp only at htrace
    refine ⟨seen ++ seen', failure', ?_, ?_, hfails'⟩
    . rw [htrace', htrace, List.append_assoc]
    . rw [List.filter_append]
      exact hfollowed.append hfollowed'

theorem Performs.map {x : Action σ α} {f : α → Action σ β} {stages : List Stage}
    (h : Performs x run stages) (hf : ∀ a run', ∃ answer, (f a).run run' = (answer, run'))
    : Performs (x >>= f) run stages := by
  obtain ⟨seen, failure, htrace, hfollowed, hfails⟩ := h
  match hx : x.run run with
  | (.error e, run') =>
    have hbind := Action.run_bind_of_error (f := f) hx
    rw [hx] at htrace
    refine ⟨seen, failure, ?_, hfollowed, fun _ => ⟨e, ?_⟩⟩
    . rw [hbind]
      exact htrace
    . rw [hbind]
  | (.ok a, run') =>
    obtain ⟨answer, ha⟩ := hf a run'
    have hbind := Action.run_bind_of_ok (f := f) hx
    rw [hx] at htrace hfails
    refine ⟨seen, failure, ?_, hfollowed, ?_⟩
    . rw [hbind, ha]
      exact htrace
    . intro hsome
      obtain ⟨e, he⟩ := hfails hsome
      cases he

/-! ### Statements -/

theorem not_isOwn_of_mem_eventsOf {layer : LogConfig} {p : Passage} {s : Statement} {r : Reply α}
    {e : Event} (h : e ∈ layer.eventsOf p s r) : ¬(Moment.logged e).isOwn := by
  unfold LogConfig.eventsOf at h
  cases List.mem_append.mp h with
  | inl houtcome =>
    split at houtcome
    . split at houtcome <;> cases List.mem_singleton.mp houtcome <;> nofun
    . cases houtcome
  | inr hslow =>
    obtain ⟨threshold, _, rfl⟩ := List.mem_map.mp hslow
    nofun

theorem filter_isOwn_layerEvents (p : Passage) (s : Statement) (r : Reply α)
    (layers : List LogConfig)
    : ((layerEvents p s r layers).map Moment.logged).filter Moment.isOwn = [] := by
  induction layers with
  | nil => rfl
  | cons layer layers ih =>
    rw [layerEvents, List.map_append, List.filter_append, ih, List.nil_append,
      List.filter_eq_nil_iff]
    intro moment hmoment
    obtain ⟨e, he, rfl⟩ := List.mem_map.mp hmoment
    exact not_isOwn_of_mem_eventsOf he

variable (c : Connection σ)

theorem sends_announced (run : Run σ) (stage : Stage) (purpose : Purpose) (p : Passage)
    (s : Statement) (answer : StateM σ (Reply α))
    (h : stage.announcement = [.dispatched purpose s.sql (some s.bindings.length)])
    : Sends (Connection.dispatch purpose s >>= fun _ =>
        c.send p s (Connection.submit stage.request answer)) run [stage] := by
  let announced := run.log [.dispatched purpose s.sql (some s.bindings.length)]
  have hdispatch : (Connection.dispatch purpose s).run run = (.ok (), announced) := rfl
  match hanswer : answer announced.driver with
  | (reply, driver) =>
    have hsend := c.run_send p s stage.request hanswer
    rw [Sends, Action.run_bind_of_ok hdispatch, hsend]
    have hfails := (reply.throughLayers c.layers s).failure?_isSome_iff
    rw [Reply.failure?_throughLayers, Option.isSome_map] at hfails
    refine ⟨stage.moments reply.failure? ++ (layerEvents p s reply c.layers).map .logged,
      reply.failure?, ?_, ?_, hfails⟩
    . simp [announced, Run.log, Stage.moments, h]
    . rw [List.filter_append, filter_isOwn_layerEvents, List.append_nil]
      have hown : (stage.moments reply.failure?).filter Moment.isOwn
          = stage.moments reply.failure? := by
        simp [Stage.moments, h, Moment.isOwn]
      rw [hown]
      cases reply.failure? with
      | none =>
        have hdone : Followed [stage] (stage.moments none ++ []) none := .next .done
        rwa [List.append_nil] at hdone
      | some e => exact .failed e

theorem sends_select (run : Run σ) (purpose : Purpose) (p : Passage) (s : Statement)
    : Sends (Connection.dispatch purpose s >>= fun _ => c.select p s) run [.select purpose s] :=
  sends_announced c run (.select purpose s) purpose p s (c.driver.select s) rfl

theorem sends_execute (run : Run σ) (purpose : Purpose) (p : Passage) (s : Statement)
    : Sends (Connection.dispatch purpose s >>= fun _ => c.execute p s) run [.execute purpose s] :=
  sends_announced c run (.execute purpose s) purpose p s (c.driver.execute s) rfl

theorem sends_affect (run : Run σ) (purpose : Purpose) (p : Passage) (s : Statement)
    : Sends (Connection.dispatch purpose s >>= fun _ => c.affect p s) run [.affect purpose s] :=
  sends_announced c run (.affect purpose s) purpose p s (c.driver.affect s) rfl

theorem sends_lastKey : Sends c.lastKey run [.lastKey] := by
  match hanswer : c.driver.lastKey run.driver with
  | (reply, driver) =>
    rw [Sends, c.run_lastKey hanswer]
    refine ⟨[.sent .lastKey reply.failure?], reply.failure?, rfl, ?_, reply.failure?_isSome_iff⟩
    change Followed [.lastKey] (Stage.lastKey.moments reply.failure?) _
    cases reply.failure? with
    | none => exact Followed.done.next
    | some e => exact .failed e

theorem performs_executeAll (purpose : Purpose) (statements : List Statement) (run : Run σ)
    : Performs (c.executeAll purpose statements) run (statements.map (.execute purpose)) := by
  induction statements generalizing run with
  | nil => exact (sends_pure ()).performs
  | cons s rest ih =>
    have hfirst := sends_execute c run purpose .statement s
    rw [Connection.executeAll, ← bind_assoc]
    exact hfirst.bind fun _ run' _ => ih run'

/-! ### Operations -/

/-- The action makes the requests of the plan; if there is no plan, nothing is seen of it. -/
def Follows (x : Action σ α) (run : Run σ) : Except Failure (List Stage) → Prop
  | .error e => x.run run = (.error e, run)
  | .ok stages => Performs x run stages

theorem follows_liftM_bind {compiled : Except Failure β} {f : β → Action σ α}
    {stages : β → List Stage} (h : ∀ s, Performs (f s) run (stages s))
    : Follows (liftM compiled >>= f) run (do return stages (← compiled)) := by
  cases compiled with
  | error e => exact Action.run_bind_of_error rfl
  | ok s =>
    have hbind : (liftM (.ok s : Except Failure β) >>= f : Action σ α) = f s := rfl
    rw [hbind]
    exact h s

theorem Follows.map {x : Action σ α} {f : α → Action σ β} {plan : Except Failure (List Stage)}
    (h : Follows x run plan) (hf : ∀ a run', ∃ answer, (f a).run run' = (answer, run'))
    : Follows (x >>= f) run plan := by
  cases plan with
  | error e => exact Action.run_bind_of_error h
  | ok stages => exact Performs.map h hf

/-- What is sent is in the plan. -/
theorem Follows.mem_requests {x : Action σ α} {state : σ} {plan : Except Failure (List Stage)}
    (h : Follows x { driver := state } plan) {request : Request}
    (hmem : request ∈ (x.run { driver := state }).2.requests)
    : ∃ stages, plan = .ok stages ∧ request ∈ stages.map Stage.request := by
  cases plan with
  | error e =>
    rw [Follows] at h
    rw [h] at hmem
    cases hmem
  | ok stages =>
    obtain ⟨seen, failure, htrace, hfollowed, -⟩ := h
    refine ⟨stages, rfl, hfollowed.requests_subset ?_⟩
    rw [filterMap_request?_filter_isOwn]
    rw [Run.requests, htrace] at hmem
    exact hmem

/-- What has been sent before the action stays seen. -/
theorem Follows.requests_isPrefix {x : Action σ α} {plan : Except Failure (List Stage)}
    (h : Follows x run plan) : run.requests <+: (x.run run).2.requests := by
  cases plan with
  | error e =>
    rw [Follows] at h
    simp [h]
  | ok stages =>
    obtain ⟨seen, _, htrace, -⟩ := h
    rw [Run.requests, Run.requests, htrace, List.filterMap_append]
    apply List.prefix_append

theorem follows_get (b : Builder) (run : Run σ)
    : Follows (c.get b) run (do return [.select .select (← b.statement)]) := by
  apply follows_liftM_bind
  intro s
  exact (sends_select c run .select .select s).performs

theorem follows_first (b : Builder) (run : Run σ)
    : Follows (c.first b) run (do return [.select .select (← (b.limit 1).statement)]) :=
  (follows_get c (b.limit 1) run).map fun _ _ => ⟨_, rfl⟩

theorem follows_rowsExist (b : Builder) (run : Run σ)
    : Follows (c.rowsExist b) run (do return [.select .exists (← b.existsStatement)]) := by
  apply follows_liftM_bind
  intro s
  have hsend := sends_select c run .exists .select s
  rw [← bind_assoc]
  apply hsend.performs.map
  intro rows _
  cases rows <;> exact ⟨_, rfl⟩

theorem follows_aggregate (b : Builder) (function : String) (columns : List Column) (run : Run σ)
    : Follows (c.aggregate b function columns) run
        (do return [.select .select (← (b.aggregate function columns).statement)]) :=
  (follows_get c (b.aggregate function columns) run).map fun _ _ => ⟨_, rfl⟩

theorem follows_insertAll (b : Builder) (records : List Record) (run : Run σ)
    : Follows (c.insertAll b records) run
        (if records.isEmpty then .ok []
          else do return [.execute .insert (← b.insert .refused records)]) := by
  unfold Connection.insertAll
  split
  . exact (sends_pure true).performs
  . apply follows_liftM_bind
    intro s
    exact (sends_execute c run .insert .insert s).performs

theorem follows_insert (b : Builder) (r : Record) (run : Run σ)
    : Follows (c.insert b r) run
        (if r.isEmpty then .ok []
          else do return [.execute .insert (← b.insert .refused [r])]) := by
  unfold Connection.insert
  split
  . exact (sends_pure true).performs
  . exact follows_insertAll c b [r] run

theorem follows_insertOrIgnore (b : Builder) (records : List Record) (run : Run σ)
    : Follows (c.insertOrIgnore b records) run
        (if records.isEmpty then .ok []
          else do return [.affect .insert (← b.insert .ignored records)]) := by
  unfold Connection.insertOrIgnore
  split
  . exact (sends_pure 0).performs
  . apply follows_liftM_bind
    intro s
    exact (sends_affect c run .insert .affecting s).performs

theorem follows_update (b : Builder) (r : Record) (run : Run σ)
    : Follows (c.update b r) run (do return [.affect .update (← b.update r)]) := by
  apply follows_liftM_bind
  intro s
  exact (sends_affect c run .update .update s).performs

theorem follows_delete (b : Builder) (run : Run σ)
    : Follows (c.delete b) run (do return [.affect .delete (← b.delete)]) := by
  apply follows_liftM_bind
  intro s
  exact (sends_affect c run .delete .delete s).performs

theorem follows_insertReturning (b : Builder) (r : Record) (sequence : Option String)
    (run : Run σ)
    : Follows (c.insertReturning b r sequence) run
        (do return Stage.generated b.grammar.dialect (← b.insertReturning r sequence)) := by
  apply follows_liftM_bind
  intro s
  cases b.grammar.dialect with
  | postgres =>
    have hsend := sends_select c run .insert .select s
    dsimp only
    rw [← bind_assoc]
    exact hsend.performs.map fun _ _ => ⟨_, rfl⟩
  | mysql | sqlite =>
    have hsend := sends_execute c run .insert .insert s
    dsimp only
    rw [← bind_assoc]
    exact hsend.bind fun _ _ _ => (sends_lastKey c).performs

/-! ### Pages -/

theorem hasContainment_limit (b : Builder) (n : Int)
    : (b.limit n).query.HasContainment ↔ b.query.HasContainment := by
  have hsame := (Select.hasContainment_iff (q := b.query)).symm
  unfold Builder.limit
  split
  . exact .rfl
  . split <;> exact Select.hasContainment_iff.trans hsame

theorem hasContainment_offset (b : Builder) (n : Int)
    : (b.offset n).query.HasContainment ↔ b.query.HasContainment := by
  have hsame := (Select.hasContainment_iff (q := b.query)).symm
  unfold Builder.offset
  split <;> exact Select.hasContainment_iff.trans hsame

theorem grammar_limit (b : Builder) (n : Int) : (b.limit n).grammar = b.grammar := by
  unfold Builder.limit
  split
  . rfl
  . split <;> rfl

theorem grammar_offset (b : Builder) (n : Int) : (b.offset n).grammar = b.grammar := by
  unfold Builder.offset
  split <;> rfl

theorem grammar_forPage (b : Builder) (page size : Nat)
    : (b.forPage page size).grammar = b.grammar :=
  (grammar_limit _ _).trans (grammar_offset b _)

theorem failsFor_forPage (b : Builder) (page size : Nat)
    : FailsFor b.grammar b.query.HasContainment (b.forPage page size).statement := by
  rw [← grammar_forPage b page size]
  exact ((Select.failsFor_render _ _).map _).congr
    ((hasContainment_limit _ _).trans (hasContainment_offset b _))

theorem exists_pageStages {b : Builder} {size page : Nat} {s : Statement}
    (h : (b.forPage page size).statement = .ok s) (first pages : Nat)
    : ∃ stages, b.pageStages size first pages = .ok stages := by
  induction pages generalizing first with
  | zero => exact ⟨[], rfl⟩
  | succ pages ih =>
    obtain ⟨stages, hstages⟩ := ih (first + 1)
    cases hfirst : (b.forPage first size).statement with
    | error e =>
      have hfails := ((failsFor_forPage b first size) e).mp hfirst
      rw [((failsFor_forPage b page size) e).mpr hfails] at h
      cases h
    | ok s' =>
      rw [Builder.pageStages, hfirst, ok_bind, hstages, ok_bind]
      exact ⟨_, rfl⟩

theorem exists_performs_afterPage {b : Builder} {size page : Nat} {s : Statement}
    {accept : Nat → List Row → Bool} {fuel : Nat} (h : (b.forPage page size).statement = .ok s)
    (hnext : ∀ run : Run σ, ∃ pages, Follows (c.chunkFrom b size accept fuel (page + 1)) run
      (b.pageStages size (page + 1) pages))
    (rows : List Row) (run : Run σ)
    : ∃ pages stages, b.pageStages size (page + 1) pages = .ok stages ∧
        Performs (c.afterPage b size accept fuel page rows) run stages := by
  unfold Connection.afterPage
  split
  . exact ⟨0, [], rfl, (sends_pure _).performs⟩
  split
  . exact ⟨0, [], rfl, (sends_pure _).performs⟩
  split
  . exact ⟨0, [], rfl, (sends_pure _).performs⟩
  obtain ⟨pages, hpages⟩ := hnext run
  obtain ⟨stages, hstages⟩ := exists_pageStages h (page + 1) pages
  rw [hstages] at hpages
  exact ⟨pages, stages, hstages, Performs.map hpages fun _ _ => ⟨_, rfl⟩⟩

theorem exists_follows_chunkFrom (b : Builder) (size : Nat) (accept : Nat → List Row → Bool)
    (fuel page : Nat) (run : Run σ)
    : ∃ pages, Follows (c.chunkFrom b size accept fuel page) run
        (b.pageStages size page pages) := by
  induction fuel generalizing page run with
  | zero => exact ⟨0, (sends_pure (true, [])).performs⟩
  | succ fuel ih =>
    rw [Connection.chunkFrom_succ]
    cases hs : (b.forPage page size).statement with
    | error e =>
      have hget := follows_get c (b.forPage page size) run
      rw [hs] at hget
      refine ⟨1, ?_⟩
      rw [Builder.pageStages, hs]
      exact Action.run_bind_of_error hget
    | ok s =>
      have hget : Sends (c.get (b.forPage page size)) run [.select .select s] := by
        unfold Connection.get
        rw [hs]
        exact sends_select c run .select .select s
      match hrows : (c.get (b.forPage page size)).run run with
      | (.error e, run') =>
        refine ⟨1, ?_⟩
        rw [Builder.pageStages, hs]
        apply hget.bind
        intro _ _ hok
        rw [hrows] at hok
        cases hok
      | (.ok rows, run') =>
        obtain ⟨pages, stages, hstages, hrest⟩ :=
          exists_performs_afterPage c hs (ih (page + 1)) rows run'
        refine ⟨pages + 1, ?_⟩
        rw [Builder.pageStages, hs, ok_bind, hstages]
        apply hget.bind
        intro _ _ hok
        rw [hrows] at hok
        cases hok
        exact hrest

theorem exists_follows_chunk (b : Builder) (size : Nat) (accept : Nat → List Row → Bool)
    (run : Run σ)
    : ∃ pages, Follows (c.chunk b size accept) run
        (if size = 0 then .ok [] else b.pageStages size 1 pages) := by
  rw [Connection.chunk_eq]
  split
  . exact ⟨0, (sends_pure (true, [])).performs⟩
  . exact exists_follows_chunkFrom c b size accept Connection.lastPage 1 run

namespace Operation

theorem exists_follows (op : Operation α) (run : Run σ)
    : ∃ pages, Follows (op.run c) run (op.plan pages) := by
  cases op with
  | chunk b size accept => exact exists_follows_chunk c b size accept run
  | get b => exact ⟨0, follows_get c b run⟩
  | getAs b read => exact ⟨0, (follows_get c b run).map fun _ _ => ⟨_, rfl⟩⟩
  | first b => exact ⟨0, follows_first c b run⟩
  | find b key => exact ⟨0, follows_first c (b.withKey key) run⟩
  | value b column =>
    exact ⟨0, (follows_first c (b.select [column]) run).map fun _ _ => ⟨_, rfl⟩⟩
  | pluck b column =>
    exact ⟨0, (follows_get c (b.select [.name column]) run).map fun _ _ => ⟨_, rfl⟩⟩
  | cursor b =>
    refine ⟨0, follows_liftM_bind fun s => ?_⟩
    exact (sends_select c run .cursor .cursor s).performs
  | rowsExist b => exact ⟨0, follows_rowsExist c b run⟩
  | rowsMissing b => exact ⟨0, (follows_rowsExist c b run).map fun _ _ => ⟨_, rfl⟩⟩
  | aggregate b function columns => exact ⟨0, follows_aggregate c b function columns run⟩
  | count b =>
    refine ⟨0, (follows_aggregate c b "count" [.name "*"] run).map fun found _ => ?_⟩
    cases found <;> exact ⟨_, rfl⟩
  | sum b column =>
    refine ⟨0, (follows_aggregate c b "sum" [column] run).map fun found _ => ?_⟩
    split <;> exact ⟨_, rfl⟩
  | insert b r => exact ⟨0, follows_insert c b r run⟩
  | insertAll b records => exact ⟨0, follows_insertAll c b records run⟩
  | insertOrIgnore b records => exact ⟨0, follows_insertOrIgnore c b records run⟩
  | insertReturning b r sequence => exact ⟨0, follows_insertReturning c b r sequence run⟩
  | insertRows b columns query =>
    refine ⟨0, follows_liftM_bind fun s => ?_⟩
    exact (sends_affect c run .insert .affecting s).performs
  | update b r => exact ⟨0, follows_update c b r run⟩
  | step b column down amount extra =>
    exact ⟨0, follows_update c b (b.grammar.stepRecord column down amount extra) run⟩
  | delete b => exact ⟨0, follows_delete c b run⟩
  | deleteKey b key => exact ⟨0, follows_delete c (b.withKey key) run⟩
  | truncate b =>
    exact ⟨0, follows_liftM_bind fun statements =>
      performs_executeAll c .truncate statements run⟩

/--
Whatever the driver answers, an operation makes the requests of its plan, each once, in order and
up to the first that fails, and each statement is announced right before it is sent. If there is no
plan, because a statement cannot be written, nothing is sent and nothing is logged.
-/
theorem run_follows_plan (op : Operation α) (state : σ)
    : ∃ pages,
        match op.plan pages with
        | .error e => (op.run c).run { driver := state } = (.error e, { driver := state })
        | .ok stages => ∃ failure,
          Followed stages
              (((op.run c).run { driver := state }).2.trace.filter Moment.isOwn) failure ∧
            (failure.isSome → ∃ e, ((op.run c).run { driver := state }).1 = .error e) := by
  obtain ⟨pages, h⟩ := op.exists_follows c { driver := state }
  refine ⟨pages, ?_⟩
  cases hplan : op.plan pages with
  | error e =>
    rw [hplan] at h
    exact h
  | ok stages =>
    rw [hplan] at h
    obtain ⟨seen, failure, htrace, hfollowed, hfails⟩ := h
    rw [List.nil_append] at htrace
    rw [htrace]
    exact ⟨failure, hfollowed, hfails⟩

end Operation

end SqlForge
