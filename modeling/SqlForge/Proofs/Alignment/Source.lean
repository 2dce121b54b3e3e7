import SqlForge.Proofs.Alignment.Aggregate
import SqlForge.Proofs.Alignment.Write
import SqlForge.Proofs.Builder.Interleaving

/-!
A source that is set in place of another. The values of the first one stay, and no part of the
statement is written with them, so every statement that binds the values of the source has them in
excess.
-/

namespace SqlForge

open Text Builder Outcome

/-! ### What the bucket of the source has -/

namespace Call

/-- The values that come with a source, if the call sets one. -/
def supplied? (g : Grammar) : Call → Option (List Value)
  | .table _ => some []
  | .sourceRaw _ values => some values
  | .sourceQuery query _ => (query.build g).toOption.map Prod.snd
  | _ => none

/-- What came with each source that was set, in order. The last one is the source in the end. -/
def supplied (g : Grammar) (calls : List Call) : List (List Value) :=
  (expandAll calls).filterMap (supplied? g)

/-- The values of the sources that were replaced. -/
def stale (g : Grammar) (calls : List Call) : List Value :=
  (supplied g calls).dropLast.flatten

variable {f : Family} {g : Grammar} {call : Call} {calls : List Call} {b : Builder}

theorem supplied?_of_ne (hf : call.family? = some f) (hne : f ≠ .source)
    : call.supplied? g = none := by
  cases call with
  | table t =>
    cases hf
    contradiction
  | sourceRaw template values =>
    cases hf
    contradiction
  | sourceQuery query label =>
    cases hf
    contradiction
  | _ => rfl

/-- The source is set, and its values are added to those that there are. -/
theorem source_run (hf : call.family? = some .source) (hok : (call.run b).failure = none)
    : ∃ source values, call.supplied? b.grammar = some values ∧
        (call.run b).builder = b.setSource source values := by
  cases call with
  | table t =>
    rw [run]
    exact ⟨_, _, rfl, rfl⟩
  | sourceRaw template values =>
    rw [run]
    exact ⟨_, _, rfl, rfl⟩
  | sourceQuery query label =>
    rw [run, failure_attempt_eq_none] at hok
    obtain ⟨⟨sql, values⟩, hquery, hb'⟩ := bind_eq_ok.mp hok
    rw [run, ← pure_eq_ok.mp hb', supplied?, hquery]
    exact ⟨_, values, rfl, rfl⟩
  | _ => cases hf

theorem sourceValues_run (hf : call.family? = some f) (hok : (call.run b).failure = none)
    : (call.run b).builder.bindings.source
        = b.bindings.source ++ (call.supplied? b.grammar).toList.flatten := by
  by_cases hsource : f = .source
  . subst hsource
    obtain ⟨source, values, hsupplied, hrun⟩ := source_run hf hok
    rw [hrun, hsupplied]
    exact (congrArg (b.bindings.source ++ ·) (List.append_nil values)).symm
  . have hpart := (owned_run hf).others b hsource
    have hsame : ((call.run b).builder.only .source).bindings.source
        = (b.only .source).bindings.source := by rw [hpart]
    change (call.run b).builder.bindings.source = b.bindings.source at hsame
    rw [hsame, supplied?_of_ne hf hsource]
    exact (List.append_nil _).symm

theorem sourceValues_runAll (hfamily : ∀ call ∈ calls, call.family? ≠ none)
    (hok : (runAll calls b).failure = none)
    : (runAll calls b).builder.bindings.source
        = b.bindings.source ++ (calls.filterMap (supplied? b.grammar)).flatten := by
  induction calls generalizing b with
  | nil =>
    rw [runAll]
    exact (List.append_nil _).symm
  | cons call calls ih =>
    have hrest := fun other hother => hfamily other (List.mem_cons_of_mem call hother)
    obtain ⟨f, hf⟩ := Option.ne_none_iff_exists'.mp (hfamily call List.mem_cons_self)
    obtain ⟨hcall, hcalls⟩ := failure_runAll_cons_eq_none.mp hok
    rw [runAll_cons_of_ok hcall, ih hrest hcalls, sourceValues_run hf hcall,
      (local_run call).grammar, List.filterMap_cons, List.append_assoc]
    cases call.supplied? b.grammar with
    | none => rfl
    | some values => rw [Option.toList_some, List.flatten_singleton, List.flatten_cons]

theorem flatten_eq_dropLast {α : Type} (lists : List (List α))
    : lists.flatten = lists.dropLast.flatten ++ lists.getLastD [] := by
  cases List.eq_nil_or_concat lists with
  | inl hnil =>
    rw [hnil]
    rfl
  | inr hconcat =>
    obtain ⟨before, last, rfl⟩ := hconcat
    simp

/-- The bucket has the values of every source that there was. -/
theorem sourceValues_new (hfamily : ∀ call ∈ expandAll calls, call.family? ≠ none)
    (hok : (runAll calls (.new g)).failure = none)
    : (runAll calls (.new g)).builder.bindings.source
        = stale g calls ++ (supplied g calls).getLastD [] := by
  rw [← runAll_expandAll] at hok ⊢
  rw [sourceValues_runAll hfamily hok, stale, ← flatten_eq_dropLast]
  rfl

end Call

/-! ### The rest of the builder -/

namespace Builder

variable {b b' : Builder}

def withoutSource (b : Builder) : Builder where
  grammar := b.grammar
  query := { b.query with source := none }
  bindings := b.bindings.clear .source

theorem only_withoutSource {f : Family} (b : Builder) (hf : f ≠ .source)
    : b.withoutSource.only f = b.only f := by
  cases f with
  | source => contradiction
  | _ => rfl

theorem withoutSource_congr (h : ∀ f, f ≠ .source → b.only f = b'.only f)
    : b.withoutSource = b'.withoutSource := by
  have hshell : b.shell = b'.shell := by
    rw [← shell_only .lock, h .lock (by decide), shell_only]
  apply ext_only
  intro f
  by_cases hf : f = .source
  . obtain ⟨hgrammar, haggregate⟩ := shell_eq_iff.mp hshell
    subst hf
    simp only [only, shell, withoutSource, hgrammar, haggregate]
    rfl
  . rw [only_withoutSource b hf, only_withoutSource b' hf, h f hf]

theorem complete_withoutSource (h : b.Complete) : b.withoutSource.Complete where
  grammar := h.grammar
  query := { h.query with source := by simp [withoutSource] }
  records k := by
    have hk := h.records k
    cases k with
    | source => rfl
    | _ => exact hk

/-- The builder is complete, but for values of the source that are no longer wanted. -/
structure Sourced (b : Builder) (values : List Value) : Prop where
  rest : b.withoutSource.Complete
  filled : ∀ source ∈ b.query.source, source.Filled
  slots : b.query.sourceSlots = values

theorem sourced_new {g : Grammar} (hg : g.Unmarked) : (new g).Sourced [] where
  rest := complete_withoutSource (complete_new hg)
  filled := by simp [new, Select.empty]
  slots := rfl

theorem Sourced.grammar {values : List Value} (h : b.Sourced values) : b.grammar.Unmarked :=
  h.rest.grammar

/-- The builder as it would be if the values of older sources were gone. -/
def refreshed (b : Builder) : Builder :=
  { b with bindings := b.bindings.set .source b.query.sourceSlots }

theorem Sourced.complete_refreshed {values : List Value} (h : b.Sourced values)
    : b.refreshed.Complete where
  grammar := h.rest.grammar
  query := { h.rest.query with source := h.filled }
  records k := by
    have hk := h.rest.records k
    cases k with
    | source => rfl
    | _ => exact hk

end Builder

namespace Call

variable {f : Family} {call : Call} {calls : List Call} {b b' : Builder}

/-- What a call does to the rest does not depend on the source. -/
theorem withoutSource_run (call : Call) (b : Builder)
    : (call.run b).builder.withoutSource = (call.run b.withoutSource).builder.withoutSource := by
  apply withoutSource_congr
  intro f hf
  exact (local_run call).only_congr (only_withoutSource b hf).symm

theorem fits_congr (hf : call.family? = some f) (hgrammar : b.grammar = b'.grammar)
    (hsource : b.query.source = b'.query.source) : call.Fits b ↔ call.Fits b' := by
  have hnested : b.nested = b'.nested := by
    unfold nested
    rw [hgrammar, hsource]
  have hslots : b.query.sourceSlots = b'.query.sourceSlots := by
    unfold Select.sourceSlots
    rw [hsource]
  cases call with
  | when condition calls => cases hf
  | _ => simp only [Call.Fits, hgrammar, hnested, hslots]

theorem rest_run (hf : call.family? = some f) (hfits : call.Fits (.new b.grammar))
    (hok : (call.run b).failure = none) (hb : b.withoutSource.Complete)
    : (call.run b).builder.withoutSource.Complete := by
  have hok' : (call.run b.withoutSource).failure = none := by
    rw [← hok]
    exact (local_run call).failure rfl
  have hsame : call.Fits (.new b.grammar) ↔ call.Fits b.withoutSource := fits_congr hf rfl rfl
  rw [withoutSource_run]
  exact complete_withoutSource (hb.keep (call.keeps_run hb.toSound (hsame.mp hfits) hok'))

theorem source_filled_run (hf : call.family? = some .source) (hg : b.grammar.Unmarked)
    (hfits : call.Fits (.new b.grammar)) (hok : (call.run b).failure = none)
    : ∃ source, (call.run b).builder.query.source = some source ∧ source.Filled ∧
        call.supplied? b.grammar = some source.slots := by
  cases call with
  | table t =>
    rw [Call.Fits] at hfits
    rw [run]
    exact ⟨.table t, rfl, hfits.1, rfl⟩
  | sourceRaw template values =>
    rw [Call.Fits] at hfits
    have hemits := Sql.emits_ofTemplate hfits.1
    rw [run, supplied?]
    exact ⟨.fragment (Sql.ofTemplate template values), rfl, hemits.filled,
      congrArg some hemits.values_eq.symm⟩
  | sourceQuery query label =>
    rw [Call.Fits] at hfits
    rw [run, failure_attempt_eq_none] at hok
    obtain ⟨⟨sql, values⟩, hquery, hb'⟩ := bind_eq_ok.mp hok
    have hemits := emits_aliasTable (sound_new hg) (Subquery.emits_build query hfits.1 hquery)
      hfits.2.1
    rw [run, ← pure_eq_ok.mp hb', supplied?, hquery]
    exact ⟨.fragment (b.aliasTable sql label), rfl, hemits.filled,
      congrArg some hemits.values_eq.symm⟩
  | _ => cases hf

theorem sourced_run {values : List Value} (hf : call.family? = some f)
    (hfits : call.Fits (.new b.grammar)) (hok : (call.run b).failure = none)
    (hb : b.Sourced values)
    : (call.run b).builder.Sourced ((call.supplied? b.grammar).getD values) := by
  have hrest := rest_run hf hfits hok hb.rest
  by_cases hsource : f = .source
  . subst hsource
    obtain ⟨source, hset, hfilled, hsupplied⟩ := source_filled_run hf hb.grammar hfits hok
    rw [hsupplied]
    refine ⟨hrest, ?_, ?_⟩
    . rw [hset]
      intro s hs
      cases hs
      exact hfilled
    . rw [Select.sourceSlots, hset]
      exact List.append_nil _
  . have hpart : ((call.run b).builder.only .source).query.source
        = (b.only .source).query.source := by
      rw [(owned_run hf).others b hsource]
    change (call.run b).builder.query.source = b.query.source at hpart
    rw [supplied?_of_ne hf hsource]
    refine ⟨hrest, ?_, ?_⟩
    . rw [hpart]
      exact hb.filled
    . rw [Select.sourceSlots, hpart]
      exact hb.slots

theorem sourced_runAll {values : List Value} (hfamily : ∀ call ∈ calls, call.family? ≠ none)
    (hfits : ∀ call ∈ calls, call.Fits (.new b.grammar)) (hok : (runAll calls b).failure = none)
    (hb : b.Sourced values)
    : (runAll calls b).builder.Sourced
        ((calls.filterMap (supplied? b.grammar)).getLastD values) := by
  induction calls generalizing b values with
  | nil =>
    rw [runAll]
    exact hb
  | cons call calls ih =>
    have hrest := fun other hother => hfamily other (List.mem_cons_of_mem call hother)
    have hgrammar := (local_run call).grammar b
    have hfits' : ∀ other ∈ calls, other.Fits (.new (call.run b).builder.grammar) := by
      rw [hgrammar]
      exact fun other hother => hfits other (List.mem_cons_of_mem call hother)
    obtain ⟨f, hf⟩ := Option.ne_none_iff_exists'.mp (hfamily call List.mem_cons_self)
    obtain ⟨hcall, hcalls⟩ := failure_runAll_cons_eq_none.mp hok
    have hfirst := sourced_run hf (hfits call List.mem_cons_self) hcall hb
    have hlast := ih hrest hfits' hcalls hfirst
    rw [hgrammar] at hlast
    rw [runAll_cons_of_ok hcall]
    cases hsupplied : call.supplied? b.grammar with
    | none =>
      rw [hsupplied] at hlast
      rw [List.filterMap_cons_none hsupplied]
      exact hlast
    | some found =>
      rw [hsupplied] at hlast
      rw [List.filterMap_cons_some hsupplied, List.getLastD_cons]
      exact hlast

end Call

/-! ### Statements -/

namespace Builder

variable {b : Builder} {stale : List Value}

theorem length_flattenWhere_refreshed (h : b.bindings.source = stale ++ b.query.sourceSlots)
    {keep : Bucket → Bool} (hkeep : keep .source)
    : (b.bindings.flattenWhere keep).length
        = stale.length + (b.refreshed.bindings.flattenWhere keep).length := by
  have hkept : Bucket.all.filter keep
      = [.select].filter keep ++ .source ::
          [.join, .filter, .having, .order, .union].filter keep := by
    rw [← List.filter_cons_of_pos hkeep, ← List.filter_append]
    rfl
  have hother : ∀ l : List Bucket, .source ∉ l →
      (l.filter keep).flatMap b.refreshed.bindings.get
        = (l.filter keep).flatMap b.bindings.get := by
    intro l hl
    apply List.flatMap_congr
    intro k hk
    apply Bindings.get_set_of_ne
    rintro rfl
    exact hl (List.mem_filter.mp hk).1
  have hbefore := hother [.select] (by decide)
  have hafter := hother [.join, .filter, .having, .order, .union] (by decide)
  have hset : b.refreshed.bindings.get .source = b.query.sourceSlots := rfl
  have hold : b.bindings.get .source = stale ++ b.query.sourceSlots := h
  simp only [Bindings.flattenWhere, hkept, List.flatMap_append, List.flatMap_cons, hbefore, hafter,
    hset, hold, List.length_append]
  omega

theorem length_values (h : b.bindings.source = stale ++ b.query.sourceSlots)
    : b.values.length = stale.length + b.refreshed.values.length := by
  have hbuckets : (b.bindings.flattenWhere fun _ => true).length
      = stale.length + (b.refreshed.bindings.flattenWhere fun _ => true).length :=
    length_flattenWhere_refreshed h rfl
  have hcarried : b.refreshed.query.carriedValues = b.query.carriedValues := rfl
  rw [values, values, List.length_append, List.length_append, hcarried, Bindings.flatten, hbuckets,
    Bindings.flatten, Nat.add_assoc]

theorem length_rowValues (h : b.bindings.source = stale ++ b.query.sourceSlots)
    : b.rowValues.length = stale.length + b.refreshed.rowValues.length := by
  have hcarried : b.refreshed.query.carriedValues = b.query.carriedValues := rfl
  rw [rowValues, rowValues, List.length_append, List.length_append, hcarried,
    Bindings.flattenExcept, length_flattenWhere_refreshed h rfl, Bindings.flattenExcept,
    Nat.add_assoc]

theorem flattenWhere_refreshed {keep : Bucket → Bool} (hkeep : keep .source = false)
    : b.refreshed.bindings.flattenWhere keep = b.bindings.flattenWhere keep := by
  apply List.flatMap_congr
  intro k hk
  apply Bindings.get_set_of_ne
  rintro rfl
  rw [List.mem_filter, hkeep] at hk
  cases hk.2

theorem length_updateValues (h : b.bindings.source = stale ++ b.query.sourceSlots) (r : Record)
    : (b.updateValues r).length = stale.length + (b.refreshed.updateValues r).length := by
  have hplain : b.refreshed.isPlain = b.isPlain := rfl
  have hgrammar : b.refreshed.grammar = b.grammar := rfl
  have hquery : b.refreshed.query = b.query := rfl
  have hfilter : b.refreshed.bindings.flattenOnly [.filter] = b.bindings.flattenOnly [.filter] :=
    flattenWhere_refreshed rfl
  have hpaged : b.refreshed.bindings.flattenOnly [.filter, .order]
      = b.bindings.flattenOnly [.filter, .order] := flattenWhere_refreshed rfl
  unfold updateValues
  rw [hplain, hgrammar, hquery]
  cases b.grammar.dialect with
  | mysql =>
    have hhead : (b.bindings.flattenOnly [.source, .join]).length
        = stale.length + (b.refreshed.bindings.flattenOnly [.source, .join]).length :=
      length_flattenWhere_refreshed h rfl
    dsimp only
    split
    . simp only [List.length_append, hhead, hpaged, Nat.add_assoc]
    . simp only [List.length_append, hhead, hfilter, Nat.add_assoc]
  | _ =>
    have hhead : (b.bindings.flattenOnly [.source]).length
        = stale.length + (b.refreshed.bindings.flattenOnly [.source]).length :=
      length_flattenWhere_refreshed h rfl
    dsimp only
    split
    . simp only [List.length_append, hhead, hfilter, Nat.add_assoc]
    . rw [List.length_append, List.length_append, length_rowValues h]
      omega

theorem length_deleteValues (h : b.bindings.source = stale ++ b.query.sourceSlots)
    : b.deleteValues.length = stale.length + b.refreshed.deleteValues.length := by
  have hplain : b.refreshed.isPlain = b.isPlain := rfl
  have hgrammar : b.refreshed.grammar = b.grammar := rfl
  have hquery : b.refreshed.query = b.query := rfl
  unfold deleteValues
  rw [hplain, hgrammar, hquery]
  cases b.grammar.dialect with
  | mysql =>
    dsimp only
    split
    . exact length_flattenWhere_refreshed h rfl
    . exact length_flattenWhere_refreshed h rfl
  | _ =>
    dsimp only
    split
    . exact length_flattenWhere_refreshed h rfl
    . exact length_rowValues h

theorem refreshed_of_nil (h : b.bindings.source = b.query.sourceSlots) : b.refreshed = b := by
  have hset : b.bindings.set .source b.bindings.source = b.bindings := rfl
  rw [refreshed, ← h, hset]

/-- What `values` gives is as long as it is without the values in excess just if there are none. -/
theorem aligned_iff_of_length (values : Builder → List Value) {sql : Sql}
    (h : b.bindings.source = stale ++ b.query.sourceSlots)
    (hlength : (values b).length = stale.length + (values b.refreshed).length)
    (hemits : sql.Emits (values b.refreshed))
    : Statement.Aligned ⟨sql.text, values b⟩ sql ↔ stale = [] := by
  rw [Statement.aligned_iff hemits]
  constructor
  . intro heq
    rw [heq] at hlength
    exact List.length_eq_zero_iff.mp (by omega)
  . intro hstale
    rw [hstale, List.nil_append] at h
    rw [refreshed_of_nil h]

end Builder

namespace Call

variable {g : Grammar} {calls : List Call} {b : Builder}

/--
The bucket of the source has the values of every source that was set, in order. These are the
values of the source that is set in the end just if no source that was replaced came with values;
if one did, SELECT, UPDATE and DELETE bind them in excess.
-/
theorem source_replaced_iff (hfamily : ∀ call ∈ expandAll calls, call.family? ≠ none)
    (hrun : (runAll calls (.new g)).toExcept = .ok b)
    : b.bindings.source = stale g calls ++ (supplied g calls).getLastD [] ∧
        (b.bindings.source = (supplied g calls).getLastD [] ↔ stale g calls = []) ∧
        (g.Unmarked → (∀ call ∈ expandAll calls, call.Fits (.new g)) →
          (∀ s, b.statement = .ok s → ∃ sql, b.sql = .ok sql ∧
            (s.Aligned sql ↔ stale g calls = [])) ∧
          (∀ (r : Record) s, r.Unmarked → b.update r = .ok s → ∃ sql, b.updateSql r = .ok sql ∧
            (s.Aligned sql ↔ stale g calls = [])) ∧
          (∀ name s, b.query.source = some (.table (.name name)) → b.delete = .ok s →
            ∃ sql, b.deleteSql = .ok sql ∧ (s.Aligned sql ↔ stale g calls = []))) := by
  obtain ⟨hok, rfl⟩ := toExcept_eq_ok.mp hrun
  have hvalues := sourceValues_new hfamily hok
  refine ⟨hvalues, ?_, ?_⟩
  . rw [hvalues, List.append_left_eq_self]
  . intro hg hfits
    have hsourced : (runAll calls (.new g)).builder.Sourced ((supplied g calls).getLastD []) := by
      rw [← runAll_expandAll] at hok ⊢
      exact sourced_runAll hfamily hfits hok (sourced_new hg)
    have hcomplete := hsourced.complete_refreshed
    rw [← hsourced.slots] at hvalues
    refine ⟨?_, ?_, ?_⟩
    . intro s hs
      obtain ⟨sql, hsql, hs⟩ := bind_eq_ok.mp hs
      have hemits := emits_sql hcomplete hsql
      rw [← pure_eq_ok.mp hs]
      exact ⟨sql, hsql, aligned_iff_of_length values hvalues (length_values hvalues) hemits⟩
    . intro r s hr hs
      obtain ⟨sql, hsql, hs⟩ := bind_eq_ok.mp hs
      have hemits := emits_updateSql hcomplete hr hsql
      rw [← pure_eq_ok.mp hs]
      exact ⟨sql, hsql, aligned_iff_of_length (fun b => b.updateValues r) hvalues
        (length_updateValues hvalues r) hemits⟩
    . intro name s hsource hs
      obtain ⟨sql, hsql, hs⟩ := bind_eq_ok.mp hs
      have hemits := emits_deleteSql hcomplete hsource hsql
      rw [← pure_eq_ok.mp hs]
      exact ⟨sql, hsql, aligned_iff_of_length deleteValues hvalues (length_deleteValues hvalues)
        hemits⟩

/-- A table gives way to a function of a value. -/
def movedSource : List Call := [
  .table (.name "old"),
  .filterEqual .and (.name "a") (.value (.int 2)),
  .when true [.sourceRaw "f(?)" [.int 1]]]

theorem movedSource_aligned
    : (∀ call ∈ expandAll movedSource, call.family? ≠ none) ∧
        ∃ b s sql, (runAll movedSource (.new ⟨.mysql, ""⟩)).toExcept = .ok b ∧
          b.bindings.source = [.int 1] ∧ b.statement = .ok s ∧
          s.sql = "SELECT * FROM f(?) WHERE `a` = ?" ∧ s.Aligned sql := by
  have hfamily : ∀ call ∈ expandAll movedSource, call.family? ≠ none := by
    simp [movedSource, expandAll, expand, family?]
  have hg : Grammar.Unmarked ⟨.mysql, ""⟩ := by decide
  have hfits : ∀ call ∈ expandAll movedSource, call.Fits (.new ⟨.mysql, ""⟩) := by
    simp only [movedSource, expandAll, expand, List.append_nil, List.cons_append, List.nil_append,
      List.forall_mem_cons, Call.Fits, Table.Unmarked, Column.Unmarked, Operand.Unmarked, Sql.Fits]
    refine ⟨⟨?_, rfl⟩, ⟨?_, trivial⟩, ⟨?_, rfl⟩, List.forall_mem_nil _⟩
    all_goals decide
  have hstale : stale ⟨.mysql, ""⟩ movedSource = [] := rfl
  obtain ⟨b, hb⟩ : ∃ b, (runAll movedSource (.new ⟨.mysql, ""⟩)).toExcept = .ok b := ⟨_, rfl⟩
  obtain ⟨-, hsource, haligned⟩ := source_replaced_iff hfamily hb
  obtain ⟨hstatement, -⟩ := haligned hg hfits
  cases hb
  obtain ⟨sql, -, hiff⟩ := hstatement _ rfl
  exact ⟨hfamily, _, _, sql, rfl, hsource.mpr hstale, rfl, by decide, hiff.mpr hstale⟩

/-- A function of a value gives way to a table. -/
def droppedSource : List Call := [
  .sourceRaw "f(?)" [.int 1],
  .table (.name "users")]

/-- A value for no question mark. -/
theorem droppedSource_misaligned
    : (∀ call ∈ expandAll droppedSource, call.family? ≠ none) ∧
        ∃ b s, (runAll droppedSource (.new ⟨.mysql, ""⟩)).toExcept = .ok b ∧
          (supplied ⟨.mysql, ""⟩ droppedSource).getLastD [] = [] ∧
          b.bindings.source = [.int 1] ∧ b.statement = .ok s ∧ s.sql = "SELECT * FROM `users`" ∧
          s.sql.toList.count '?' = 0 ∧ s.bindings = [.int 1] := by
  have hfamily : ∀ call ∈ expandAll droppedSource, call.family? ≠ none := by
    simp [droppedSource, expandAll, expand, family?]
  refine ⟨hfamily, _, _, rfl, rfl, rfl, rfl, ?_, ?_, rfl⟩
  . decide
  . decide

end Call

end SqlForge
