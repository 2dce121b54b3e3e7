import SqlForge.Proofs.Builder.Locality
import SqlForge.Write.Change

/-!
Calls of different families may come in any order. Two sequences that agree family by family lead to
the same builder, so to the same statements with the same values.
-/

namespace SqlForge

open Builder

namespace Call

mutual
/-- The calls that are made in the end: a call under a condition stands for its own, if any. -/
def expand : Call → List Call
  | .when true calls => expandAll calls
  | .when false _ => []
  | call => [call]

def expandAll : List Call → List Call
  | [] => []
  | call :: calls => call.expand ++ expandAll calls
end

variable {call : Call} {calls calls' : List Call} {b : Builder}

mutual
theorem runAll_expand (call : Call) (b : Builder) : runAll call.expand b = call.run b := by
  cases call with
  | when condition calls =>
    cases condition with
    | true =>
      rw [expand, run, if_pos rfl]
      exact runAll_expandAll calls b
    | false =>
      rw [expand, run, runAll]
      rfl
  | _ =>
    rw [expand]
    . exact runAll_singleton _ b
    all_goals
      intro _ h
      cases h

theorem runAll_expandAll (calls : List Call) (b : Builder)
    : runAll (expandAll calls) b = runAll calls b := by
  cases calls with
  | nil => rw [expandAll]
  | cons call calls =>
    have hcall := runAll_expand call b
    rw [expandAll]
    cases hfailure : (call.run b).failure with
    | none =>
      rw [runAll_append_of_ok (hcall ▸ hfailure), hcall, runAll_cons_of_ok hfailure]
      exact runAll_expandAll calls (call.run b).builder
    | some e =>
      rw [runAll_append_of_failure (hcall ▸ hfailure), hcall, runAll_cons_of_failure hfailure]
end

/-- The calls of one family, in their order. -/
def ofFamily (f : Family) (calls : List Call) : List Call :=
  calls.filter fun call => call.family? = some f

theorem only_runAll_ofFamily (f : Family) (hcalls : ∀ call ∈ calls, call.family? ≠ none)
    (hok : (runAll calls b).failure = none)
    : (runAll calls b).builder.only f = (runAll (ofFamily f calls) b).builder.only f := by
  induction calls generalizing b with
  | nil => rfl
  | cons call calls ih =>
    have hrest : ∀ call ∈ calls, call.family? ≠ none := fun other hother =>
      hcalls other (List.mem_cons_of_mem call hother)
    obtain ⟨hcall, hok⟩ := failure_runAll_cons_eq_none.mp hok
    rw [runAll_cons_of_ok hcall, ih hrest hok]
    by_cases hf : call.family? = some f
    . have hfilter : ofFamily f (call :: calls) = call :: ofFamily f calls :=
        List.filter_cons_of_pos (by simpa using hf)
      rw [hfilter, runAll_cons_of_ok hcall]
    . have hfilter : ofFamily f (call :: calls) = ofFamily f calls :=
        List.filter_cons_of_neg (by simpa using hf)
      obtain ⟨l, hl⟩ := Option.ne_none_iff_exists'.mp (hcalls call List.mem_cons_self)
      have hne : l ≠ f := by
        intro heq
        exact hf (heq ▸ hl)
      -- The call is of another family, so the calls after it find the same part.
      rw [hfilter]
      exact (local_runAll (ofFamily f calls)).only_congr ((owned_run hl).others b hne)

theorem mem_of_failure_runAll {e : Failure} (h : (runAll calls b).failure = some e)
    : ∃ call ∈ calls, (call.run b).failure ≠ none := by
  induction calls generalizing b with
  | nil =>
    rw [runAll] at h
    contradiction
  | cons call calls ih =>
    cases hcall : (call.run b).failure with
    | some e => exact ⟨call, List.mem_cons_self, by simp [hcall]⟩
    | none =>
      rw [runAll_cons_of_ok hcall] at h
      obtain ⟨other, hother, hfailure⟩ := ih h
      refine ⟨other, List.mem_cons_of_mem call hother, ?_⟩
      rwa [(local_run other).failure ((local_run call).grammar b)] at hfailure

theorem failure_run_of_mem (h : (runAll calls b).failure = none) (hcall : call ∈ calls)
    : (call.run b).failure = none := by
  induction calls generalizing b with
  | nil => cases hcall
  | cons first calls ih =>
    obtain ⟨hfirst, hcalls⟩ := failure_runAll_cons_eq_none.mp h
    cases List.mem_cons.mp hcall with
    | inl heq => rwa [heq]
    | inr hmem =>
      rw [← (local_run call).failure ((local_run first).grammar b)]
      exact ih hcalls hmem

/--
The sequences have, family by family, the same calls in the same order, and no calls that are of no
family. What is called under a condition counts as called, or not, in its place.
-/
structure SameByFamily (calls calls' : List Call) : Prop where
  families : ∀ call ∈ expandAll calls ++ expandAll calls', call.family? ≠ none
  same : ∀ f, ofFamily f (expandAll calls) = ofFamily f (expandAll calls')

theorem SameByFamily.failure_runAll (h : SameByFamily calls calls')
    (hok : (runAll calls b).failure = none) : (runAll calls' b).failure = none := by
  rw [← runAll_expandAll] at hok ⊢
  cases hfailure : (runAll (expandAll calls') b).failure with
  | none => rfl
  | some e =>
    obtain ⟨call, hcall, hne⟩ := mem_of_failure_runAll hfailure
    obtain ⟨f, hf⟩ := Option.ne_none_iff_exists'.mp
      (h.families call (List.mem_append_right _ hcall))
    -- The call that fails is among the calls of the other sequence, where no call fails.
    have hmem : call ∈ ofFamily f (expandAll calls) := by
      rw [h.same f]
      exact List.mem_filter.mpr ⟨hcall, by simpa using hf⟩
    exact absurd (failure_run_of_mem hok (List.mem_filter.mp hmem).1) hne

theorem SameByFamily.builder_runAll (h : SameByFamily calls calls')
    (hok : (runAll calls b).failure = none)
    : (runAll calls b).builder = (runAll calls' b).builder := by
  have hok' := h.failure_runAll hok
  rw [← runAll_expandAll calls] at hok ⊢
  rw [← runAll_expandAll calls'] at hok' ⊢
  apply ext_only
  intro f
  have hcalls : ∀ call ∈ expandAll calls, call.family? ≠ none := fun call hcall =>
    h.families call (List.mem_append_left _ hcall)
  have hcalls' : ∀ call ∈ expandAll calls', call.family? ≠ none := fun call hcall =>
    h.families call (List.mem_append_right _ hcall)
  rw [only_runAll_ofFamily f hcalls hok, only_runAll_ofFamily f hcalls' hok', h.same f]

/--
Calls that succeed can be made in any order that keeps the order within each family: they succeed
again, and SELECT, UPDATE and DELETE come out the same, text, values and failures.
-/
theorem statements_of_sameByFamily (h : SameByFamily calls calls')
    (hok : (runAll calls b).failure = none)
    : (runAll calls' b).failure = none ∧
        (runAll calls b).builder.statement = (runAll calls' b).builder.statement ∧
        (∀ r, (runAll calls b).builder.update r = (runAll calls' b).builder.update r) ∧
        (runAll calls b).builder.delete = (runAll calls' b).builder.delete := by
  rw [h.builder_runAll hok]
  exact ⟨h.failure_runAll hok, rfl, fun _ => rfl, rfl⟩

/-- Against the order of the clauses, and the group before there is a source. -/
def lateSource : List Call := [
  .having .and (.name "total") ">" (.value (.int 4)),
  .filterGroup .and [
    .filterEqual .and (.name "a") (.value (.int 2)), .filterNull .or (.name "b") true],
  .join .inner (.name "posts") (.name "posts.user_id") "=" (.name "users.id"),
  .union false ⟨none, [.table (.name "old"), .filterRaw .and "x = ?" [.int 5]]⟩,
  .table (.name "users"),
  .joinWhere .left (.name "tags") (.name "tags.kind") "=" (.value (.int 1)),
  .when true [.filterAmong .or (.name "c") [.value (.int 3)] false, .orderBy (.name "id") .desc]]

def earlySource : List Call := [
  .table (.name "users"),
  .join .inner (.name "posts") (.name "posts.user_id") "=" (.name "users.id"),
  .joinWhere .left (.name "tags") (.name "tags.kind") "=" (.value (.int 1)),
  .filterGroup .and [
    .filterEqual .and (.name "a") (.value (.int 2)), .filterNull .or (.name "b") true],
  .when false [.filterNull .and (.name "d") false],
  .filterAmong .or (.name "c") [.value (.int 3)] false,
  .having .and (.name "total") ">" (.value (.int 4)),
  .union false ⟨none, [.table (.name "old"), .filterRaw .and "x = ?" [.int 5]]⟩,
  .orderBy (.name "id") .desc]

theorem lateSource_statements
    : SameByFamily lateSource earlySource ∧
        (runAll lateSource (.new ⟨.postgres, "p_"⟩)).failure = none ∧
        ∃ s, (runAll lateSource (.new ⟨.postgres, "p_"⟩)).builder.statement = .ok s ∧
          (runAll earlySource (.new ⟨.postgres, "p_"⟩)).builder.statement = .ok s ∧
          s.bindings = [.int 1, .int 2, .int 3, .int 4, .int 5] := by
  have hsame : SameByFamily lateSource earlySource := by
    constructor
    . simp [lateSource, earlySource, expandAll, expand, family?]
    . intro f
      cases f <;> rfl
  have hok : (runAll lateSource (.new ⟨.postgres, "p_"⟩)).failure = none := rfl
  obtain ⟨s, hs⟩ : ∃ s, (runAll lateSource (.new ⟨.postgres, "p_"⟩)).builder.statement = .ok s :=
    ⟨_, rfl⟩
  refine ⟨hsame, hok, s, hs, ?_, ?_⟩
  . rw [← (statements_of_sameByFamily hsame hok).2.1, hs]
  . obtain ⟨_, _, heq⟩ := bind_eq_ok.mp hs
    rw [← pure_eq_ok.mp heq]
    rfl

end Call

end SqlForge
