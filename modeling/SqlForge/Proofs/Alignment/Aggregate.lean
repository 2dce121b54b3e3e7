import SqlForge.Proofs.Alignment.Select

/-!
Values and placeholders of an aggregate. The values of the columns stay for the conditions on
groups, but of a statement without further members the columns themselves are never written.
-/

namespace SqlForge

open Text

theorem Statement.aligned_iff {sql : Sql} {placed values : List Value} (h : sql.Emits placed)
    : Aligned ⟨sql.text, values⟩ sql ↔ values = placed := by
  constructor
  . intro haligned
    have := h.symm.trans haligned.marks
    exact ((List.map_inj_right fun _ _ => Option.some.inj).mp this).symm
  . intro heq
    rw [heq]
    exact aligned_of_emits h

/-- The placeholders behind the column list. -/
def Select.bodySlots (q : Select) : List Value :=
  q.sourceSlots ++ joinSlots q.joins ++ clauseSlots q.wheres ++ clauseSlots q.havings ++
    q.orders.flatMap Ordering.slots ++ memberSlots q.unions ++ q.unionOrderSlots

theorem Select.slots_eq_bodySlots (q : Select) : q.slots = q.selectionSlots ++ q.bodySlots := by
  simp [slots_eq, bodySlots]

namespace Builder

variable {g : Grammar} {b : Builder} {function : String} {columns : List Column}

def keepsColumns (b : Builder) : Prop := b.query.unions ≠ [] ∨ b.query.havings ≠ []

theorem aggregate_of_keepsColumns (h : b.keepsColumns) (function : String) (columns : List Column)
    : b.aggregate function columns
        = { b with query := { b.query with aggregate := some ⟨function, columns⟩ } } := by
  have : (!b.query.unions.isEmpty || !b.query.havings.isEmpty) = true := by
    simpa [keepsColumns] using h
  simp [aggregate, this]

theorem aggregate_of_not_keepsColumns (h : ¬ b.keepsColumns) (function : String)
    (columns : List Column)
    : b.aggregate function columns
        = { b with
            query := { b.query with selections := [], aggregate := some ⟨function, columns⟩ }
            bindings := b.bindings.clear .select } := by
  have : (!b.query.unions.isEmpty || !b.query.havings.isEmpty) = false := by
    simpa [keepsColumns] using h
  simp [aggregate, this, without, withoutBindings, Select.without]

theorem filled_aggregate (h : b.query.FilledParts) (hfunction : Unmarked function)
    (hcolumns : ∀ c ∈ columns, c.Unmarked) : (b.aggregate function columns).query.FilledParts := by
  have haggregate : ∀ a ∈ some (⟨function, columns⟩ : Aggregate), a.Unmarked := by
    intro a ha
    cases ha
    exact ⟨hfunction, hcolumns⟩
  by_cases hkeeps : b.keepsColumns
  . rw [aggregate_of_keepsColumns hkeeps]
    exact { h with aggregate := haggregate }
  . rw [aggregate_of_not_keepsColumns hkeeps]
    exact { h with selections := by simp, aggregate := haggregate }

def bodyValues (b : Builder) : List Value :=
  b.bindings.flattenExcept [.select] ++ b.query.carriedValues

theorem values_eq_bodyValues (b : Builder) : b.values = b.bindings.select ++ b.bodyValues := by
  simp [values, bodyValues, Bindings.flatten, Bindings.flattenExcept, Bindings.flattenWhere,
    Bucket.all, Bindings.get]

theorem bodyValues_eq_bodySlots (h : b.Complete) : b.bodyValues = b.query.bodySlots := by
  rw [bodyValues, Bindings.flattenExcept, flattenWhere_eq h, carriedValues_eq h.query]
  simp [Bucket.all, Select.slotsOf, Select.bodySlots]

theorem bodyValues_aggregate (b : Builder) (function : String) (columns : List Column)
    : (b.aggregate function columns).bodyValues = b.bodyValues := by
  by_cases hkeeps : b.keepsColumns
  . rw [aggregate_of_keepsColumns hkeeps]
    rfl
  . rw [aggregate_of_not_keepsColumns hkeeps]
    rfl

theorem bodySlots_aggregate (b : Builder) (function : String) (columns : List Column)
    : (b.aggregate function columns).query.bodySlots = b.query.bodySlots := by
  by_cases hkeeps : b.keepsColumns
  . rw [aggregate_of_keepsColumns hkeeps]
    rfl
  . rw [aggregate_of_not_keepsColumns hkeeps]
    rfl

theorem grammar_aggregate (b : Builder) (function : String) (columns : List Column)
    : (b.aggregate function columns).grammar = b.grammar := by
  by_cases hkeeps : b.keepsColumns
  . rw [aggregate_of_keepsColumns hkeeps]
  . rw [aggregate_of_not_keepsColumns hkeeps]

/-- The values that the column list of the aggregate binds are written, or there are none. -/
theorem select_eq_selectionSlots_iff (h : b.Complete) (function : String) (columns : List Column)
    : (b.aggregate function columns).bindings.select
          = (b.aggregate function columns).query.selectionSlots ↔
        b.query.unions ≠ [] ∨ b.query.havings = [] ∨ b.bindings.select = [] := by
  have hselect : b.bindings.select = b.query.selections.flatMap Selection.slots := h.records .select
  by_cases hkeeps : b.keepsColumns
  . rw [aggregate_of_keepsColumns hkeeps]
    cases hunions : b.query.unions with
    | nil =>
      have hhavings : b.query.havings ≠ [] := by simpa [keepsColumns, hunions] using hkeeps
      simp [Select.selectionSlots, hunions, hhavings]
    | cons member members => simp [Select.selectionSlots, hunions, hselect]
  . rw [aggregate_of_not_keepsColumns hkeeps]
    have hhavings : b.query.havings = [] := by
      simp only [keepsColumns, not_or, not_not] at hkeeps
      exact hkeeps.2
    simp [Select.selectionSlots, hhavings, Bindings.clear, Bindings.set]

/--
An aggregate is aligned unless conditions on groups make it keep the values of the columns while
nothing makes it write the columns. Then these values come in addition, in front of the others.
-/
theorem aggregate_aligned_iff (hg : g.Unmarked) (hb : Reachable Call.Fits g b)
    (hfunction : Unmarked function) (hcolumns : ∀ c ∈ columns, c.Unmarked) {s : Statement}
    (hs : (b.aggregate function columns).statement = .ok s)
    : ∃ sql, (b.aggregate function columns).sql = .ok sql ∧
        (s.Aligned sql ↔
          b.query.unions ≠ [] ∨ b.query.havings = [] ∨ b.bindings.select = []) ∧
        (¬ s.Aligned sql →
          ∃ placed, sql.Emits placed ∧ s.bindings = b.bindings.select ++ placed) := by
  have hcomplete := hb.complete hg
  obtain ⟨sql, hsql, hs⟩ := bind_eq_ok.mp hs
  have hemits : sql.Emits (b.aggregate function columns).query.slots := by
    have hfilled := filled_aggregate hcomplete.query.toFilledParts hfunction hcolumns
    apply Select.emits_render _ _ (Select.filled_iff.mpr hfilled) hsql
    rw [grammar_aggregate]
    exact hcomplete.grammar
  have hvalues : (b.aggregate function columns).values
      = (b.aggregate function columns).bindings.select ++ b.query.bodySlots := by
    rw [values_eq_bodyValues, bodyValues_aggregate, bodyValues_eq_bodySlots hcomplete]
  rw [Select.slots_eq_bodySlots, bodySlots_aggregate] at hemits
  have haligned : s.Aligned sql ↔
      b.query.unions ≠ [] ∨ b.query.havings = [] ∨ b.bindings.select = [] := by
    -- Both lists end in what stands behind the columns, so the columns alone decide.
    rw [← pure_eq_ok.mp hs, Statement.aligned_iff hemits, hvalues, List.append_cancel_right_eq]
    exact select_eq_selectionSlots_iff hcomplete function columns
  refine ⟨sql, hsql, haligned, ?_⟩
  intro hmisaligned
  simp only [haligned, not_or, not_not] at hmisaligned
  obtain ⟨hunions, hhavings, _⟩ := hmisaligned
  have hkeeps : b.keepsColumns := .inr hhavings
  rw [aggregate_of_keepsColumns hkeeps] at hemits hvalues
  rw [← pure_eq_ok.mp hs, aggregate_of_keepsColumns hkeeps]
  refine ⟨b.query.bodySlots, ?_, hvalues⟩
  simpa [Select.selectionSlots, hunions] using hemits

theorem mixed_aggregate_aligned
    : Grammar.Unmarked ⟨.postgres, "p_"⟩ ∧
      Reachable Call.Fits ⟨.postgres, "p_"⟩ (mixed .postgres) ∧
      ∃ s sql, ((mixed .postgres).aggregate "count" [.name "*"]).statement = .ok s ∧
        s.Aligned sql ∧
        s.bindings = [.int 1, .int 2, .int 3, .int 4, .int 5, .int 6, .int 7, .int 8, .int 9] := by
  have hg : Grammar.Unmarked ⟨.postgres, "p_"⟩ := by decide
  have hb := reachable_mixed .postgres
  obtain ⟨text, hs⟩ : ∃ text, ((mixed .postgres).aggregate "count" [.name "*"]).statement
      = .ok ⟨text, [.int 1, .int 2, .int 3, .int 4, .int 5, .int 6, .int 7, .int 8, .int 9]⟩ :=
    ⟨_, rfl⟩
  obtain ⟨sql, _, haligned, _⟩ := aggregate_aligned_iff hg hb (by decide) (by decide) hs
  refine ⟨hg, hb, _, sql, hs, haligned.mpr (.inl ?_), rfl⟩
  intro h
  cases h

/-- Calls for a column with a value, and for a condition on groups. -/
def taggedCalls : List Call := [
  .selectRaw "? AS tag" [.text "t"],
  .having .and (.name "total") ">" (.value (.int 3))]

/-- Two values for a single question mark. -/
theorem tagged_aggregate_misaligned
    : ∃ b s, (Call.runAll taggedCalls (ofTable ⟨.mysql, ""⟩ (.name "users"))).toExcept = .ok b ∧
        Reachable Call.Fits ⟨.mysql, ""⟩ b ∧
        (b.aggregate "count" [.name "*"]).statement = .ok s ∧
        s.sql = "SELECT count(*) AS aggregate FROM `users` HAVING `total` > ?" ∧
        s.sql.toList.count '?' = 1 ∧ s.bindings = [.text "t", .int 3] := by
  let b := (Call.runAll taggedCalls (ofTable ⟨.mysql, ""⟩ (.name "users"))).builder
  refine ⟨b, _, rfl, ?_, rfl, ?_, ?_, rfl⟩
  . apply Reachable.runAll (.ofTable (.name "users") ?_)
    . simp only [taggedCalls, Call.AllFit, Call.Fits, Column.Unmarked, Operand.Unmarked, Sql.Fits]
      decide
    . rfl
    . rw [Call.Fits]
      exact ⟨by decide, rfl⟩
  . decide +kernel
  . decide +kernel

end Builder

end SqlForge
