import SqlForge.Session.Query

/-!
How an action runs: through the layers around a driver, step by step and page by page. Each layer
adds its events behind those of the layers inside it, and the statement is named in a failure once,
by whichever layer is innermost.
-/

namespace SqlForge

variable {σ α β : Type}

/-- The failure of a statement as it comes out of the layers. -/
def Failure.throughLayers (layers : List LogConfig) (s : Statement) (e : Failure) : Failure :=
  if layers.isEmpty then e else e.attach s.sql s.bindings

theorem Failure.throughLayers_cons (layer : LogConfig) (layers : List LogConfig) (s : Statement)
    (e : Failure)
    : e.throughLayers (layer :: layers) s
      = (e.throughLayers layers s).attach s.sql s.bindings := by
  cases layers with
  | nil => rfl
  | cons next layers => exact (attach_attach s.sql s.sql s.bindings s.bindings e).symm

/-- The answer to a statement as it comes out of the layers. -/
def Reply.throughLayers (layers : List LogConfig) (s : Statement) (r : Reply α) : Reply α :=
  { r with result := r.result.mapError (·.throughLayers layers s) }

@[simp]
theorem Reply.elapsed_throughLayers (layers : List LogConfig) (s : Statement) (r : Reply α)
    : (r.throughLayers layers s).elapsed = r.elapsed := rfl

@[simp]
theorem Reply.failure?_throughLayers (layers : List LogConfig) (s : Statement) (r : Reply α)
    : (r.throughLayers layers s).failure? = r.failure?.map (·.throughLayers layers s) := by
  obtain ⟨result, elapsed⟩ := r
  cases result <;> rfl

theorem Reply.failure?_isSome_iff (r : Reply α)
    : r.failure?.isSome ↔ ∃ e, r.result = .error e := by
  obtain ⟨result, elapsed⟩ := r
  cases result with
  | error e => exact iff_of_true rfl ⟨e, rfl⟩
  | ok a => exact iff_of_false nofun nofun

theorem Reply.throughLayers_nil (s : Statement) (r : Reply α) : r.throughLayers [] s = r := by
  obtain ⟨result, elapsed⟩ := r
  cases result <;> rfl

theorem Reply.throughLayers_cons (layer : LogConfig) (layers : List LogConfig) (s : Statement)
    (r : Reply α)
    : r.throughLayers (layer :: layers) s =
      { r.throughLayers layers s with
        result := (r.throughLayers layers s).result.mapError (·.attach s.sql s.bindings) } := by
  obtain ⟨result, elapsed⟩ := r
  cases result with
  | error e =>
    change (⟨.error (e.throughLayers (layer :: layers) s), elapsed⟩ : Reply α) = _
    rw [Failure.throughLayers_cons]
    rfl
  | ok a => rfl

/-- What the layers log of a statement, in order. -/
def layerEvents (p : Passage) (s : Statement) (r : Reply α) : List LogConfig → List Event
  | [] => []
  | layer :: layers => layerEvents p s r layers ++ layer.eventsOf p s (r.throughLayers layers s)

theorem filterMap_request?_map_logged (events : List Event)
    : (events.map Moment.logged).filterMap Moment.request? = [] := by
  rw [List.filterMap_map]
  exact List.filterMap_eq_nil_iff.mpr fun _ _ => rfl

section

variable {answer : StateM σ (Reply α)} {reply : Reply α} {driver : σ} {run : Run σ}

theorem Connection.through_submit (p : Passage) (s : Statement) (request : Request)
    (layers : List LogConfig) (h : answer run.driver = (reply, driver))
    : through p s (submit request answer) layers run =
      (reply.throughLayers layers s,
        { driver
          trace := run.trace ++
            .sent request reply.failure? :: (layerEvents p s reply layers).map .logged }) := by
  induction layers with
  | nil =>
    rw [Reply.throughLayers_nil, through]
    unfold submit
    rw [h]
    rfl
  | cons layer layers ih =>
    rw [through]
    dsimp only
    rw [ih, Reply.throughLayers_cons, layerEvents]
    simp [Run.log]

theorem Connection.run_send (c : Connection σ) (p : Passage) (s : Statement) (request : Request)
    (h : answer run.driver = (reply, driver))
    : (c.send p s (submit request answer)).run run =
      ((reply.throughLayers c.layers s).result,
        { driver
          trace := run.trace ++
            .sent request reply.failure? :: (layerEvents p s reply c.layers).map .logged }) := by
  have hthrough := through_submit p s request c.layers h
  have hrun : (c.send p s (submit request answer)).run run =
      (fun r => (r.1.result, r.2)) (through p s (submit request answer) c.layers run) := rfl
  rw [hrun, hthrough]

theorem Connection.run_lastKey (c : Connection σ) {reply : Reply Int64}
    (h : c.driver.lastKey run.driver = (reply, driver))
    : c.lastKey.run run =
      (reply.result, { driver, trace := run.trace ++ [.sent .lastKey reply.failure?] }) := by
  have hrun : c.lastKey.run run =
      (fun (r : Reply Int64 × σ) => (r.1.result,
        { driver := r.2, trace := run.trace ++ [.sent .lastKey r.1.failure?] }))
        (c.driver.lastKey run.driver) := rfl
  rw [hrun, h]

end

/-! ### Steps of an action -/

variable {run run' : Run σ} {x : Action σ α} {f : α → Action σ β}

theorem Action.run_bind_of_ok {a : α} (h : x.run run = (.ok a, run'))
    : (x >>= f).run run = (f a).run run' := by
  have hbind : (x >>= f).run run = (fun r => ExceptT.bindCont f r.1 r.2) (x.run run) := rfl
  rw [hbind, h]
  rfl

theorem Action.run_bind_of_error {e : Failure} (h : x.run run = (.error e, run'))
    : (x >>= f).run run = (.error e, run') := by
  have hbind : (x >>= f).run run = (fun r => ExceptT.bindCont f r.1 r.2) (x.run run) := rfl
  rw [hbind, h]
  rfl

/-! ### Pages -/

namespace Connection

variable (c : Connection σ) (b : Builder) (size : Nat) (accept : Nat → List Row → Bool)

/-- The pages from number `page` on and whether all were wanted, if every page could be read. -/
def chunkFrom (fuel page : Nat) : Action σ (Bool × List (List Row)) :=
  ExceptT.mk do
    let walk ← c.walkFrom b size accept fuel page
    return walk.complete.map (·, walk.pages)

theorem chunk_eq
    : c.chunk b size accept =
      if size = 0 then return (true, []) else c.chunkFrom b size accept lastPage 1 := by
  unfold chunk walk
  split <;> rfl

/-- What follows when a page has been read. -/
def afterPage (fuel page : Nat) (rows : List Row) : Action σ (Bool × List (List Row)) :=
  if rows.isEmpty then return (true, [])
  else if !accept page rows then return (false, [rows])
  else if rows.length < size then return (true, [rows])
  else do
    let (all, pages) ← c.chunkFrom b size accept fuel (page + 1)
    return (all, rows :: pages)

theorem chunkFrom_succ (fuel page : Nat)
    : c.chunkFrom b size accept (fuel + 1) page = (do
        let rows ← c.get (b.forPage page size)
        c.afterPage b size accept fuel page rows) := by
  have hrun (fuel page : Nat) (run : Run σ) : (c.chunkFrom b size accept fuel page).run run =
      (fun r => (r.1.complete.map (·, r.1.pages), r.2))
        (c.walkFrom b size accept fuel page run) := rfl
  funext run
  apply (hrun (fuel + 1) page run).trans
  rw [walkFrom]
  dsimp only
  match hget : (c.get (b.forPage page size)).run run with
  | (.error e, run') =>
    exact (Action.run_bind_of_error hget).symm
  | (.ok rows, run') =>
    apply Eq.trans _ (Action.run_bind_of_ok hget).symm
    unfold afterPage
    dsimp only
    split
    . rfl
    . split
      . rfl
      . split
        . rfl
        . have hrest := hrun fuel (page + 1) run'
          match hwalk : c.walkFrom b size accept fuel (page + 1) run' with
          | (⟨pages, .error e⟩, run'') =>
            rw [hwalk] at hrest
            exact (Action.run_bind_of_error hrest).symm
          | (⟨pages, .ok all⟩, run'') =>
            rw [hwalk] at hrest
            apply Eq.trans _ (Action.run_bind_of_ok hrest).symm
            rfl

end Connection

end SqlForge
