import SqlForge.Proofs.Schema.Refusal
import SqlForge.Proofs.Session.Run
import SqlForge.Session.Schema
import SqlForge.Session.Script

/-!
Making a change to a table. All of its statements are written before the first is sent; then they are
sent in order, up to the first that the driver fails.
-/

namespace SqlForge.Connection

open SqlForge.Schema

variable {σ : Type} (c : Connection σ)

/-- What there is to see of one statement of a change, and of the reply to it. -/
def changeMoments (sql : String) (reply : Reply Bool) : List Moment :=
  .logged (.dispatched .schema sql none) :: .sent (.execute { sql }) reply.failure? ::
    (layerEvents .statement { sql } reply c.layers).map .logged

/--
The driver is sent statements in order, up to the first that it fails: what there is to see of it, the
state that it is left in, and the answer.
-/
inductive Executes : List String → σ → List Moment → σ → Except Failure Unit → Prop where
  | done (driver : σ) : Executes [] driver [] driver (.ok ())
  | next {sql : String} {rest : List String} {driver driver' final : σ} {accepted : Bool}
      {elapsed : Nat} {moments : List Moment} {answer : Except Failure Unit} :
      c.driver.execute { sql } driver = (⟨.ok accepted, elapsed⟩, driver') →
      Executes rest driver' moments final answer →
      Executes (sql :: rest) driver (c.changeMoments sql ⟨.ok accepted, elapsed⟩ ++ moments) final
        answer
  | failed {sql : String} {rest : List String} {driver driver' : σ} {e : Failure} {elapsed : Nat} :
      c.driver.execute { sql } driver = (⟨.error e, elapsed⟩, driver') →
      Executes (sql :: rest) driver (c.changeMoments sql ⟨.error e, elapsed⟩) driver'
        (.error (e.throughLayers c.layers { sql }))

variable {c}

theorem filterMap_request?_changeMoments (sql : String) (reply : Reply Bool)
    : (c.changeMoments sql reply).filterMap Moment.request? = [.execute { sql }] :=
  congrArg (Request.execute { sql } :: ·) (filterMap_request?_map_logged _)

/-- All the statements are sent, or those up to the first whose failure is the answer. -/
theorem Executes.requests {statements : List String} {driver final : σ} {moments : List Moment}
    {answer : Except Failure Unit} (h : c.Executes statements driver moments final answer)
    : ∃ sent unsent, statements = sent ++ unsent ∧
        moments.filterMap Moment.request? = sent.map (fun sql => .execute { sql }) ∧
        (answer = .ok () → unsent = []) := by
  induction h with
  | done driver => exact ⟨[], [], rfl, rfl, fun _ => rfl⟩
  | next _ _ ih =>
    obtain ⟨sent, unsent, rfl, hmoments, hall⟩ := ih
    refine ⟨_ :: sent, unsent, rfl, ?_, hall⟩
    rw [List.filterMap_append, filterMap_request?_changeMoments, hmoments]
    rfl
  | failed =>
    refine ⟨[_], _, rfl, ?_, nofun⟩
    exact filterMap_request?_changeMoments _ _

theorem executes_executeChanges (statements : List String) (run : Run σ)
    : ∃ moments final answer, c.Executes statements run.driver moments final answer ∧
        (c.executeChanges statements).run run =
          (answer, { driver := final, trace := run.trace ++ moments }) := by
  induction statements generalizing run with
  | nil =>
    refine ⟨[], run.driver, .ok (), .done _, ?_⟩
    rw [List.append_nil]
    rfl
  | cons sql rest ih =>
    let announced := run.log [.dispatched .schema sql none]
    have hdispatch : (dispatchSchema .schema sql).run run = (.ok (), announced) := rfl
    rw [executeChanges, Action.run_bind_of_ok hdispatch]
    rcases hreply : c.driver.execute { sql } run.driver with ⟨⟨result, elapsed⟩, driver'⟩
    have hsend : (c.execute .statement { sql }).run announced = _ :=
      c.run_send .statement { sql } (.execute { sql }) hreply
    cases result with
    | error e =>
      refine ⟨_, _, _, .failed hreply, ?_⟩
      rw [Action.run_bind_of_error hsend]
      simp [changeMoments, announced, Run.log]
    | ok accepted =>
      rw [Action.run_bind_of_ok hsend]
      obtain ⟨moments, final, answer, hrest, hrun⟩ := ih _
      refine ⟨_, _, _, .next hreply hrest, hrun.trans ?_⟩
      simp [changeMoments, announced, Run.log]

theorem run_build_of_error {b : Blueprint} {e : Failure} (h : b.statements c.grammar = .error e)
    (run : Run σ)
    : (c.build b).run run = (.error e, run) := by
  unfold build
  rw [h]
  exact Action.run_bind_of_error rfl

theorem run_build_of_ok {b : Blueprint} {statements : List String}
    (h : b.statements c.grammar = .ok statements) (run : Run σ)
    : (c.build b).run run = (c.executeChanges statements).run run := by
  unfold build
  rw [h]
  exact Action.run_bind_of_ok rfl

/--
A change is refused for the first of its commands that the dialect lacks something for, and then
nothing is sent. Otherwise its statements are sent in order, up to the first that fails.
-/
theorem build_sends_all_or_nothing (c : Connection σ) (b : Blueprint) (run : Run σ)
    : (∀ g e, b.statements g = .error e ↔
        g.dialect = .sqlite ∧
          ∃ feature, (b.allCommands .sqlite).findSome? (·.lacking? b.isCreating) = some feature ∧
            e = .unsupported .sqlite feature) ∧
      (∀ e, b.statements c.grammar = .error e → (c.build b).run run = (.error e, run)) ∧
      ∀ statements, b.statements c.grammar = .ok statements →
        ∃ moments final answer, c.Executes statements run.driver moments final answer ∧
          (c.build b).run run = (answer, { driver := final, trace := run.trace ++ moments }) ∧
          ∃ sent unsent, statements = sent ++ unsent ∧
            moments.filterMap Moment.request? = sent.map (fun sql => .execute { sql }) ∧
            (answer = .ok () → unsent = []) := by
  refine ⟨fun g e => Blueprint.statements_eq_error_iff, fun e h => run_build_of_error h run, ?_⟩
  intro statements h
  obtain ⟨moments, final, answer, hexecutes, hrun⟩ := executes_executeChanges statements run
  exact ⟨moments, final, answer, hexecutes, (run_build_of_ok h run).trans hrun, hexecutes.requests⟩

/-- A connection whose driver fails every statement but the first. -/
def failingLate : Connection Script where
  config := { dialect := .sqlite }
  driver := Script.driver

def failingLateRun : Run Script where
  driver := { rows := [], affected := 0, key := 0, failure := some (1, "disk full") }

/-- A column asks for an index that the dialect lacks. -/
def areas : Blueprint :=
  (failingLate.blueprint "areas").addColumn
    (({ name := "shape", type := .text } : Schema.Column).addIndex .spatial)

def shortened : Blueprint :=
  (failingLate.blueprint "tags").record (.dropColumns ["a", "b", "c"])

theorem areas_refused_shortened_stopped
    : (failingLate.build areas).run failingLateRun =
        (.error (.unsupported .sqlite .spatialIndexes), failingLateRun) ∧
      ∃ moments final answer,
        failingLate.Executes
          ["alter table \"tags\" drop column \"a\"", "alter table \"tags\" drop column \"b\"",
            "alter table \"tags\" drop column \"c\""]
          failingLateRun.driver moments final answer ∧
        (failingLate.build shortened).run failingLateRun =
          (answer, { driver := final, trace := moments }) := by
  obtain ⟨hrefused, hunsent, -⟩ := build_sends_all_or_nothing failingLate areas failingLateRun
  obtain ⟨-, -, hsent⟩ := build_sends_all_or_nothing failingLate shortened failingLateRun
  refine ⟨hunsent _ ((hrefused _ _).mpr ⟨rfl, _, rfl, rfl⟩), ?_⟩
  obtain ⟨moments, final, answer, hexecutes, hrun, -⟩ := hsent _ rfl
  exact ⟨moments, final, answer, hexecutes, hrun⟩

end SqlForge.Connection
