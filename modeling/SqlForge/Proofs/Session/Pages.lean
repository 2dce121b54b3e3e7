import SqlForge.Proofs.Select.Window
import SqlForge.Proofs.Session.Plan
import SqlForge.Session.Script

/-!
The walk over the pages of a query, told from the answers of the driver: which statements it sends,
which pages it hands over, and when and how it ends.
-/

namespace SqlForge

namespace Walk

/-- No page is asked for after this answer. -/
def Ends (size : Nat) (wanted : List Row → Bool) (answer : Except Failure (List Row)) : Prop :=
  (∃ e, answer = .error e) ∨
    ∃ rows, answer = .ok rows ∧ (rows = [] ∨ wanted rows = false ∨ rows.length < size)

/-- The answers that have rows. -/
def handed (answers : List (Except Failure (List Row))) : List (List Row) :=
  (answers.filterMap Except.toOption).filter (!·.isEmpty)

/-- What comes of a walk with its last answer. -/
def outcome (wanted : List Row → Bool) (answer : Except Failure (List Row)) : Except Failure Bool :=
  answer.map fun rows => rows.isEmpty || wanted rows

/-- The walk with pages that were handed over before. -/
def behind (pages : List (List Row)) (walk : Walk) : Walk :=
  { walk with pages := pages ++ walk.pages }

theorem behind_comp (pages more : List (List Row))
    : behind pages ∘ behind more = behind (pages ++ more) := by
  funext walk
  simp [behind]

variable {size : Nat} {wanted : List Row → Bool} {answer : Except Failure (List Row)}
  {answers : List (Except Failure (List Row))}

theorem ends_mapError (f : Failure → Failure)
    : Ends size wanted (answer.mapError f) ↔ Ends size wanted answer := by
  cases answer <;> simp [Ends, Except.mapError]

theorem not_ends_ok {rows : List Row}
    : ¬Ends size wanted (.ok rows) ↔ rows ≠ [] ∧ wanted rows = true ∧ size ≤ rows.length := by
  simp [Ends]

theorem handed_append (more : List (Except Failure (List Row)))
    : handed (answers ++ more) = handed answers ++ handed more := by
  simp [handed]

theorem handed_mapError (f : Failure → Failure)
    : handed [answer.mapError f] = handed [answer] := by
  cases answer <;> rfl

end Walk

namespace Driver

variable {σ : Type} (d : Driver σ) (pages : Nat → Statement) (state : σ)

/-- The driver when it has been asked for the first pages. -/
def after : Nat → σ
  | 0 => state
  | k + 1 => (d.select (pages k) (after k)).2

/-- The answer to a page when those before it have been asked for. -/
def answer (k : Nat) : Except Failure (List Row) :=
  (d.select (pages k) (d.after pages state k)).1.result

end Driver

namespace Connection

open Walk

variable {σ : Type} (c : Connection σ) {b : Builder} {s : Statement} {size fuel page : Nat}
  {accept : Nat → List Row → Bool} {run run' : Run σ} {answer : Except Failure (List Row)}

/-! ### One page -/

theorem run_get (h : b.statement = .ok s) (run : Run σ)
    : ∃ run', (c.get b).run run = ((c.driver.select s run.driver).1.result.mapError
          (·.throughLayers c.layers s), run') ∧
        run'.driver = (c.driver.select s run.driver).2 ∧
        run'.requests = run.requests ++ [.select s] := by
  let announced := run.log [.dispatched .select s.sql (some s.bindings.length)]
  have hget : (c.get b).run run = (c.select .select s).run announced := by
    unfold get
    rw [h]
    rfl
  match hanswer : c.driver.select s announced.driver with
  | (reply, driver) =>
    have hsend := c.run_send .select s (.select s) hanswer
    refine ⟨_, hget.trans hsend, rfl, ?_⟩
    simp only [Run.requests, announced, Run.log, List.map_singleton, List.append_assoc,
      List.filterMap_append, List.singleton_append, List.filterMap_cons, Moment.request?,
      filterMap_request?_map_logged]

theorem walkFrom_of_ends (hget : (c.get (b.forPage page size)).run run = (answer, run'))
    (h : Ends size (accept page) answer)
    : c.walkFrom b size accept (fuel + 1) page run
        = (⟨handed [answer], outcome (accept page) answer⟩, run') := by
  rw [walkFrom]
  dsimp only
  rw [hget]
  cases answer with
  | error e => rfl
  | ok rows =>
    cases rows with
    | nil => rfl
    | cons row rows =>
      cases hwanted : accept page (row :: rows) with
      | false => simp [handed, outcome, Except.map, Except.toOption, hwanted]
      | true =>
        have hshort : (row :: rows).length < size := by
          simpa [Ends, hwanted] using h
        simp only [List.isEmpty_cons, Bool.false_eq_true, if_false, hwanted, Bool.not_true,
          if_pos hshort, handed, outcome, Except.map]
        rfl

theorem walkFrom_of_not_ends (hget : (c.get (b.forPage page size)).run run = (answer, run'))
    (h : ¬Ends size (accept page) answer)
    : c.walkFrom b size accept (fuel + 1) page run
        = (c.walkFrom b size accept fuel (page + 1) run').map (behind (handed [answer])) id := by
  rw [walkFrom]
  dsimp only
  rw [hget]
  cases answer with
  | error e => exact absurd (.inl ⟨e, rfl⟩) h
  | ok rows =>
    obtain ⟨hrows, hwanted, hfull⟩ := not_ends_ok.mp h
    have hrows : rows.isEmpty = false := by simpa using hrows
    have hshort : ¬rows.length < size := by omega
    simp [handed, Except.toOption, hrows, hwanted, hshort]
    rfl

/-! ### Page after page -/

section

variable {pages : Nat → Statement} {state : σ} {n : Nat}

/-- As long as the walk goes on, a page is asked for and handed over after the other. -/
theorem walkFrom_after (hpages : ∀ k < n, (b.forPage (k + 1) size).statement = .ok (pages k))
    (hgoes : ∀ k < n, ¬Ends size (accept (k + 1)) (c.driver.answer pages state k))
    : ∃ run : Run σ, run.driver = c.driver.after pages state n ∧
        run.requests = (List.range n).map (fun k => .select (pages k)) ∧
        ∀ fuel, c.walkFrom b size accept (fuel + n) 1 { driver := state }
          = (c.walkFrom b size accept fuel (n + 1) run).map
              (behind (handed ((List.range n).map (c.driver.answer pages state)))) id := by
  induction n with
  | zero => exact ⟨{ driver := state }, rfl, rfl, fun fuel => rfl⟩
  | succ n ih =>
    obtain ⟨run, hdriver, hrequests, hwalk⟩ := ih (fun k hk => hpages k (by omega))
      (fun k hk => hgoes k (by omega))
    obtain ⟨run', hget, hdriver', hrequests'⟩ := c.run_get (hpages n (by omega)) run
    rw [hdriver] at hget hdriver'
    refine ⟨run', hdriver', ?_, ?_⟩
    . rw [hrequests', hrequests, List.range_succ, List.map_append]
      rfl
    . intro fuel
      have hgoes := (ends_mapError (·.throughLayers c.layers (pages n))).not.mpr
        (hgoes n (by omega))
      have hstep : c.walkFrom b size accept (fuel + 1) (n + 1) run = _ :=
        c.walkFrom_of_not_ends hget hgoes
      have hfuel : fuel + (n + 1) = fuel + 1 + n := by omega
      rw [hfuel, hwalk, hstep, handed_mapError, Prod.map_map, behind_comp, List.range_succ,
        List.map_append, handed_append]
      rfl

theorem requests_walkFrom_isPrefix (b : Builder) (size : Nat) (accept : Nat → List Row → Bool)
    (fuel page : Nat) (run : Run σ)
    : run.requests <+: (c.walkFrom b size accept fuel page run).2.requests := by
  obtain ⟨_, hfollows⟩ := exists_follows_chunkFrom c b size accept fuel page run
  exact hfollows.requests_isPrefix

/-- Page `n` is asked for if the walk goes on for so long, and the last one if it ends there. -/
theorem walkFrom_ends (hpages : ∀ k ≤ n, (b.forPage (k + 1) size).statement = .ok (pages k))
    (hgoes : ∀ k < n, ¬Ends size (accept (k + 1)) (c.driver.answer pages state k)) (fuel : Nat)
    : (List.range (n + 1)).map (fun k => .select (pages k)) <+:
          (c.walkFrom b size accept (fuel + 1 + n) 1 { driver := state }).2.requests ∧
        (Ends size (accept (n + 1)) (c.driver.answer pages state n) →
          ∃ run : Run σ, run.requests = (List.range (n + 1)).map (fun k => .select (pages k)) ∧
            c.walkFrom b size accept (fuel + 1 + n) 1 { driver := state }
              = (⟨handed ((List.range (n + 1)).map (c.driver.answer pages state)),
                  outcome (accept (n + 1)) ((c.driver.answer pages state n).mapError
                    (·.throughLayers c.layers (pages n)))⟩, run)) := by
  obtain ⟨run, hdriver, hrequests, hwalk⟩ := c.walkFrom_after (fun k hk => hpages k hk.le) hgoes
  obtain ⟨run', hget, -, hrequests'⟩ := c.run_get (hpages n le_rfl) run
  rw [hdriver] at hget
  have hsent : run'.requests = (List.range (n + 1)).map (fun k => .select (pages k)) := by
    rw [hrequests', hrequests, List.range_succ, List.map_append]
    rfl
  rw [hwalk, ← hsent]
  have hends : Ends size (accept (n + 1)) ((c.driver.answer pages state n).mapError
      (·.throughLayers c.layers (pages n))) ↔
        Ends size (accept (n + 1)) (c.driver.answer pages state n) :=
    ends_mapError _
  constructor
  . by_cases h : Ends size (accept (n + 1)) (c.driver.answer pages state n)
    . rw [c.walkFrom_of_ends hget (hends.mpr h)]
      exact List.prefix_rfl
    . rw [c.walkFrom_of_not_ends hget (hends.not.mpr h)]
      exact c.requests_walkFrom_isPrefix b size accept fuel (n + 1 + 1) run'
  . intro h
    refine ⟨run', rfl, ?_⟩
    rw [c.walkFrom_of_ends hget (hends.mpr h), handed_mapError, List.range_succ, List.map_append,
      handed_append]
    rfl

end

theorem add_one_le_lastPage {n : Nat} (hpos : 0 < size) (hfits : n * size ≤ Builder.maxRows)
    : n + 1 ≤ lastPage := by
  have hpage : n ≤ n * size := Nat.le_mul_of_pos_right n hpos
  have hmax : Builder.maxRows + 1 ≤ lastPage := by decide
  omega

/--
A walk sends the statement of the builder for one window after the other, with the same values. It
ends with the first answer that is a failure, has no rows or fewer than a page, or is declined, and
sends nothing after that. The answers that have rows are handed over in order.
-/
theorem walk_pages (hb : b.statement = .ok s) (hpos : 0 < size) (hsize : size ≤ Builder.maxRows)
    (accept : Nat → List Row → Bool) (state : σ)
    : ∃ pages : Nat → Statement,
        (∀ k, (b.window (k * size) size).statement = .ok (pages k) ∧
          (pages k).bindings = b.values) ∧
        (∃ head tail, ∀ k,
          (pages k).sql = head ++ Select.windowText (k * size) size ++ tail) ∧
        ∀ n, n * size ≤ Builder.maxRows →
          (∀ k < n, ¬Ends size (accept (k + 1)) (c.driver.answer pages state k)) →
          ∀ walk run, c.walk b size accept { driver := state } = (walk, run) →
            (List.range (n + 1)).map (fun k => .select (pages k)) <+: run.requests ∧
            (Ends size (accept (n + 1)) (c.driver.answer pages state n) →
              run.requests = (List.range (n + 1)).map (fun k => .select (pages k)) ∧
              walk.pages = handed ((List.range (n + 1)).map (c.driver.answer pages state)) ∧
              walk.complete = outcome (accept (n + 1)) ((c.driver.answer pages state n).mapError
                (·.throughLayers c.layers (pages n)))) := by
  obtain ⟨window, hwindow, head, tail, htext⟩ := Builder.exists_windows hb size
  refine ⟨fun k => window (k * size), fun k => hwindow (k * size),
    ⟨head, tail, fun k => htext (k * size)⟩, ?_⟩
  intro n hfits hgoes walk run hwalk
  have hpages : ∀ k ≤ n, (b.forPage (k + 1) size).statement = .ok (window (k * size)) := by
    intro k hk
    rw [Builder.forPage_eq_window ((Nat.mul_le_mul_right size hk).trans hfits) hsize]
    exact (hwindow (k * size)).1
  obtain ⟨fuel, hfuel⟩ := Nat.exists_eq_add_of_le' (add_one_le_lastPage hpos hfits)
  have hfuel : lastPage = fuel + 1 + n := by omega
  rw [Connection.walk, if_neg (Nat.ne_of_gt hpos), hfuel] at hwalk
  obtain ⟨hasked, hends⟩ := c.walkFrom_ends hpages hgoes fuel
  rw [hwalk] at hasked hends
  refine ⟨hasked, ?_⟩
  intro h
  obtain ⟨_, hrequests, heq⟩ := hends h
  cases heq
  exact ⟨hrequests, rfl, rfl⟩

/-- Three rows, in pages of two. -/
def threeRows : Script where
  rows := [[default, default], [default]]
  affected := 0
  key := 0
  failure := none

def scripted : Connection Script where
  config := { dialect := .sqlite }
  driver := Script.driver

theorem threeRows_walk
    : ∃ s, (Builder.ofTable ⟨.sqlite, ""⟩ (.name "t")).statement = .ok s ∧ 0 < 2 ∧
        2 ≤ Builder.maxRows ∧ 1 * 2 ≤ Builder.maxRows ∧
        ∃ pages : Nat → Statement,
          (∀ k < 1, ¬Ends 2 (fun _ => true) (scripted.driver.answer pages threeRows k)) ∧
          ∃ walk run, scripted.walk (.ofTable ⟨.sqlite, ""⟩ (.name "t")) 2 (fun _ _ => true)
              { driver := threeRows } = (walk, run) ∧
            run.requests = [.select (pages 0), .select (pages 1)] ∧
            (pages 1).sql = "SELECT * FROM \"t\" LIMIT 2 OFFSET 2" ∧
            walk.pages = [[default, default], [default]] ∧ walk.complete = .ok true := by
  obtain ⟨s, hs⟩ : ∃ s, (Builder.ofTable ⟨.sqlite, ""⟩ (.name "t")).statement = .ok s := ⟨_, rfl⟩
  have hsize : 2 ≤ Builder.maxRows := by decide
  obtain ⟨pages, hpages, -, hwalk⟩ := scripted.walk_pages hs (by decide) hsize (fun _ _ => true)
    threeRows
  have hgoes : ∀ k < 1, ¬Ends 2 (fun _ => true) (scripted.driver.answer pages threeRows k) := by
    intro k hk
    obtain rfl : k = 0 := by omega
    have hfirst : scripted.driver.answer pages threeRows 0 = .ok [default, default] := rfl
    rw [hfirst, not_ends_ok]
    simp
  have hlast : scripted.driver.answer pages threeRows 1 = .ok [default] := rfl
  have hends : Ends 2 (fun _ => true) (scripted.driver.answer pages threeRows 1) := by
    rw [hlast]
    simp [Ends]
  obtain ⟨-, hended⟩ := hwalk 1 hsize hgoes _ _ rfl
  obtain ⟨hrequests, hhanded, hcomplete⟩ := hended hends
  have hsecond : pages 1 = ⟨"SELECT * FROM \"t\" LIMIT 2 OFFSET 2", []⟩ :=
    Except.ok.inj ((hpages 1).1.symm.trans rfl)
  refine ⟨s, hs, by decide, hsize, hsize, pages, hgoes, _, _, rfl, hrequests, ?_, hhanded,
    hcomplete⟩
  rw [hsecond]

end Connection

end SqlForge
