import SqlForge.Proofs.Placeholder.Builder
import SqlForge.Write.Change

/-!
UPDATE and DELETE emit the values that they bind, in each of their shapes.
-/

namespace SqlForge

open Text

namespace Text

theorem dropWord?_subset {word cs rest : List Char} (h : dropWord? word cs = some rest)
    : rest ⊆ cs := by
  fun_induction dropWord? word cs with
  | case1 cs =>
    injection h with h
    rw [h]
    exact List.Subset.refl rest
  | case2 => contradiction
  | case3 ws c cs ih => exact List.subset_cons_of_subset c (ih h)
  | case4 => contradiction

theorem afterFirst?_subset {word cs rest : List Char} (h : afterFirst? word cs = some rest)
    : rest ⊆ cs := by
  induction cs with
  | nil => exact dropWord?_subset h
  | cons c cs ih =>
    rw [afterFirst?, Option.or_eq_some_iff] at h
    cases h with
    | inl h => exact dropWord?_subset h
    | inr h => exact List.subset_cons_of_subset c (ih h.2)

end Text

theorem unmarked_exposedName {table : String} (h : Unmarked table)
    : Unmarked (exposedName table) := by
  unfold exposedName
  split
  . next label hlabel =>
    apply h.of_subset
    rw [String.toList_ofList]
    exact afterFirst?_subset hlabel
  . exact h

/-- The columns and the raw operands of the record have no question mark. -/
def Record.Unmarked (r : Record) : Prop :=
  ∀ field ∈ r.fields, Text.Unmarked field.1 ∧ field.2.Unmarked

theorem emits_assignments {g : Grammar} (hg : g.Unmarked) {r : Record} (h : r.Unmarked)
    : (assignments g r).Emits r.bindings := by
  have hbindings : r.fields.flatMap (fun field => boundValues [field.2]) = r.bindings := by
    unfold Record.bindings Record.operands
    rw [← flatMap_boundValues, List.flatMap_map]
  rw [← hbindings]
  apply Sql.emits_join_map (by decide)
  intro field hfield
  obtain ⟨hcolumn, hoperand⟩ := h field hfield
  apply Sql.Emits.nil_append _ (Operand.emits_sql hoperand)
  apply Sql.Emits.append_text _ (by decide)
  apply Sql.emits_text
  split
  . exact Grammar.unmarked_wrap hg hcolumn
  . apply Grammar.unmarked_wrap hg
    exact hcolumn.of_subset (Identifier.lastSegment_subset field.1)
  . apply Grammar.unmarked_wrap hg
    exact hcolumn.of_subset (Identifier.lastSegment_subset field.1)

theorem Select.emits_renderWheres {g : Grammar} (hg : g.Unmarked) {q : Select} {sql : Sql}
    (h : ClausesFilled q.wheres) (hsql : q.renderWheres g = .ok sql)
    : sql.Emits (clauseSlots q.wheres) := by
  unfold renderWheres at hsql
  split at hsql
  . next hempty =>
    rw [← pure_eq_ok.mp hsql, List.isEmpty_iff.mp hempty, clauseSlots]
    exact Sql.emits_empty
  . obtain ⟨wheres, hwheres, hsql⟩ := bind_eq_ok.mp hsql
    rw [← pure_eq_ok.mp hsql]
    exact Sql.Emits.text_append (by decide) (emits_renderClauses hg q.wheres h hwheres)

theorem Dialect.unmarked_rowIdentity (d : Dialect) : Unmarked d.rowIdentity := by
  cases d <;> decide

namespace Builder

variable {b : Builder} {r : Record} {sql : Sql}

theorem emits_target (h : b.Complete) {t : Target} {table : Sql} (htable : b.target t = .ok table)
    : table.Emits b.query.sourceSlots := by
  unfold target at htable
  split at htable
  . next source hsource =>
    cases htable
    rw [Select.sourceSlots, hsource, Option.toList_some, List.flatMap_singleton]
    exact Source.emits_render h.grammar (h.query.source source hsource)
  . cases htable

/-! ### The identity of the rows -/

theorem sourceSlots_of_rowIdentities {q : Select} (hq : b.rowIdentities = .ok q)
    : b.query.sourceSlots = [] := by
  unfold rowIdentities at hq
  split at hq
  . next name hsource =>
    rw [Select.sourceSlots, hsource]
    rfl
  . cases hq

theorem unmarked_rowIdentityOf {label : String} (h : Unmarked label) (d : Dialect)
    : Column.Unmarked (.name (label ++ "." ++ d.rowIdentity)) := by
  have : Unmarked (label ++ "." ++ d.rowIdentity) := by
    rw [unmarked_append, unmarked_append]
    exact ⟨⟨h, by decide⟩, d.unmarked_rowIdentity⟩
  exact this

theorem filled_rowIdentities (h : b.Complete) {q : Select} (hq : b.rowIdentities = .ok q)
    : q.Filled := by
  unfold rowIdentities at hq
  split at hq
  . next name hsource =>
    have hname : Unmarked name := h.query.source _ hsource
    cases hsplit : Identifier.splitAlias? name with
    | none =>
      rw [hsplit] at hq
      cases hq
      apply Select.filled_iff.mpr
      exact { h.query.toFilledParts with
        selections := List.forall_mem_singleton.mpr (unmarked_rowIdentityOf hname _)
        aggregate := by simp }
    | some found =>
      have hlabel := hname.of_subset (Identifier.splitAlias?_subset hsplit).2
      rw [hsplit] at hq
      cases hq
      apply Select.filled_iff.mpr
      exact { h.query.toFilledParts with
        selections := List.forall_mem_singleton.mpr (unmarked_rowIdentityOf hlabel _)
        aggregate := by simp }
  . cases hq

theorem slots_rowIdentities (h : b.Complete) {q : Select} (hq : b.rowIdentities = .ok q)
    : q.slots = b.rowValues := by
  have hsource := sourceSlots_of_rowIdentities hq
  rw [rowValues, Bindings.flattenExcept, flattenWhere_eq h, carriedValues_eq h.query,
    Select.slots_eq]
  unfold rowIdentities at hq
  split at hq
  . cases hq
    rw [Select.sourceSlots] at hsource
    simp [Bucket.all, Select.slotsOf, Select.selectionSlots, Selection.slots, Select.sourceSlots,
      Select.unionOrderSlots, hsource]
  . cases hq

theorem emits_isRow (h : b.Complete) (hsql : b.isRow = .ok sql) : sql.Emits b.rowValues := by
  unfold isRow at hsql
  obtain ⟨q, hq, hsql⟩ := bind_eq_ok.mp hsql
  obtain ⟨rows, hrows, hsql⟩ := bind_eq_ok.mp hsql
  have hrows := Select.emits_render h.grammar q (filled_rowIdentities h hq) hrows
  have hidentity := Grammar.unmarked_wrap h.grammar (Dialect.unmarked_rowIdentity b.grammar.dialect)
  rw [← pure_eq_ok.mp hsql, ← slots_rowIdentities h hq]
  apply Sql.Emits.append_text _ (by decide)
  exact ((Sql.emits_text hidentity).append_text (by decide)).nil_append hrows

/-! ### The statements -/

theorem flattenOnly_eq (h : b.Complete) (keep : List Bucket)
    : b.bindings.flattenOnly keep = (Bucket.all.filter keep.contains).flatMap b.query.slotsOf :=
  flattenWhere_eq h keep.contains

theorem emits_where (h : b.Complete) {head : Sql} {values : List Value} (hhead : head.Emits values)
    (hsql : (do
      let wheres ← b.query.renderWheres b.grammar
      return Sql.words [head, wheres]) = .ok sql)
    : sql.Emits (values ++ b.bindings.flattenOnly [.filter]) := by
  obtain ⟨wheres, hwheres, hsql⟩ := bind_eq_ok.mp hsql
  have hwheres := Select.emits_renderWheres h.grammar h.query.wheres hwheres
  have := Sql.Emits.words_cons hhead (Sql.Emits.words_cons hwheres Sql.emits_words_nil)
  rw [← pure_eq_ok.mp hsql]
  simpa [flattenOnly_eq h, Bucket.all, Select.slotsOf] using this

theorem emits_whereRow (h : b.Complete) {head : Sql} {values : List Value}
    (hhead : head.Emits (b.query.sourceSlots ++ values))
    (hsql : (do
      let isRow ← b.isRow
      return head ++ " WHERE " ++ isRow) = .ok sql)
    : sql.Emits (values ++ b.rowValues) := by
  obtain ⟨isRow, hisRow, hsql⟩ := bind_eq_ok.mp hsql
  obtain ⟨q, hq, _⟩ := bind_eq_ok.mp hisRow
  rw [sourceSlots_of_rowIdentities hq, List.nil_append] at hhead
  rw [← pure_eq_ok.mp hsql]
  exact (hhead.append_text (by decide)).append (emits_isRow h hisRow)

theorem emits_updateSql (h : b.Complete) (hr : r.Unmarked) (hsql : b.updateSql r = .ok sql)
    : sql.Emits (b.updateValues r) := by
  have hset := Sql.Emits.text_append (s := "SET ") (by decide) (emits_assignments h.grammar hr)
  unfold updateSql at hsql
  obtain ⟨table, htable, hsql⟩ := bind_eq_ok.mp hsql
  have hupdate := (emits_target h htable).text_append (s := "UPDATE ") (by decide)
  unfold updateValues
  split at hsql
  . obtain ⟨joins, hjoins, hsql⟩ := bind_eq_ok.mp hsql
    obtain ⟨wheres, hwheres, hsql⟩ := bind_eq_ok.mp hsql
    have hjoins := emits_renderJoins h.grammar b.query.joins h.query.joins hjoins
    have hwheres := Select.emits_renderWheres h.grammar h.query.wheres hwheres
    rw [← pure_eq_ok.mp hsql]
    by_cases hempty : b.query.joins.isEmpty
    . have := Sql.Emits.words_cons hupdate (Sql.Emits.words_cons hjoins (Sql.Emits.words_cons hset
        (Sql.Emits.words_cons hwheres (Sql.Emits.words_cons
          (emits_renderOrders h.grammar h.query.orders) (Sql.Emits.words_cons
            (emits_renderLimit b.query.limit) Sql.emits_words_nil)))))
      simpa [hempty, flattenOnly_eq h, Bucket.all, Select.slotsOf] using this
    . have := Sql.Emits.words_cons hupdate (Sql.Emits.words_cons hjoins (Sql.Emits.words_cons hset
        (Sql.Emits.words_cons hwheres Sql.emits_words_nil)))
      simpa [hempty, flattenOnly_eq h, Bucket.all, Select.slotsOf] using this
  -- The other dialects share their shapes.
  all_goals
    have hhead := (hupdate.append_text (s := " ") (by decide)).append hset
    have hsource : b.bindings.flattenOnly [.source] = b.query.sourceSlots := by
      simp [flattenOnly_eq h, Bucket.all, Select.slotsOf]
    split at hsql
    . next hplain =>
      rw [if_pos hplain, hsource]
      exact emits_where h hhead hsql
    . next hplain =>
      rw [if_neg hplain]
      exact emits_whereRow h hhead hsql

/-- The rows of a joined DELETE, behind whatever names the table that they go from. -/
theorem emits_joinedRows (h : b.Complete) (hdialect : b.grammar.dialect = .mysql)
    (hjoined : ¬b.query.joins.isEmpty) {head table joins wheres : Sql} (hhead : head.Emits [])
    (htable : b.target .delete = .ok table)
    (hjoins : renderJoins b.grammar b.query.joins = .ok joins)
    (hwheres : b.query.renderWheres b.grammar = .ok wheres)
    : (Sql.words [head ++ table, joins, wheres]).Emits b.deleteValues := by
  have htable := hhead.append (emits_target h htable)
  have hjoins := emits_renderJoins h.grammar b.query.joins h.query.joins hjoins
  have hwheres := Select.emits_renderWheres h.grammar h.query.wheres hwheres
  have := Sql.Emits.words_cons htable (Sql.Emits.words_cons hjoins
    (Sql.Emits.words_cons hwheres Sql.emits_words_nil))
  rw [deleteValues, hdialect]
  dsimp only
  rw [if_neg hjoined]
  simpa [flattenOnly_eq h, Bucket.all, Select.slotsOf] using this

/-- A raw source would come twice where the statement names the table that it deletes from. -/
theorem emits_deleteSql (h : b.Complete) {name : String}
    (hsource : b.query.source = some (.table (.name name))) (hsql : b.deleteSql = .ok sql)
    : sql.Emits b.deleteValues := by
  have hslots : b.query.sourceSlots = [] := by
    rw [Select.sourceSlots, hsource]
    rfl
  unfold deleteSql at hsql
  obtain ⟨table, htarget, hsql⟩ := bind_eq_ok.mp hsql
  have htable := emits_target h htarget
  have hhead := htable.text_append (s := "DELETE FROM ") (by decide)
  unfold deleteValues
  split at hsql
  . next hdialect =>
    obtain ⟨joins, hjoins, hsql⟩ := bind_eq_ok.mp hsql
    obtain ⟨wheres, hwheres, hsql⟩ := bind_eq_ok.mp hsql
    split at hsql
    . next hempty =>
      have hwheres := Select.emits_renderWheres h.grammar h.query.wheres hwheres
      have := Sql.Emits.words_cons hhead (Sql.Emits.words_cons hwheres (Sql.Emits.words_cons
        (emits_renderOrders h.grammar h.query.orders) (Sql.Emits.words_cons
          (emits_renderLimit b.query.limit) Sql.emits_words_nil)))
      rw [← pure_eq_ok.mp hsql, if_pos hempty]
      simpa [flattenOnly_eq h, Bucket.all, Select.slotsOf] using this
    . next hempty =>
      have hexposed : Unmarked (exposedName table.text) := by
        rw [hslots] at htable
        exact unmarked_exposedName htable.unmarked
      have hnamed := (Sql.emits_text hexposed).text_append (s := "DELETE ") (by decide)
      have hnamed := hnamed.append_text (s := " FROM ") (by decide)
      have := emits_joinedRows h hdialect hempty hnamed htarget hjoins hwheres
      rw [← pure_eq_ok.mp hsql]
      simpa only [deleteValues, hdialect] using this
  -- The other dialects share their shapes.
  all_goals
    split at hsql
    . next hplain =>
      have := emits_where h hhead hsql
      rw [if_pos hplain]
      simpa [flattenOnly_eq h, Bucket.all, Select.slotsOf] using this
    . next hplain =>
      have hhead : ("DELETE FROM " ++ table).Emits (b.query.sourceSlots ++ []) := by
        rw [List.append_nil]
        exact hhead
      rw [if_neg hplain]
      exact emits_whereRow h hhead hsql

end Builder

end SqlForge
