import SqlForge.Proofs.Placeholder.Part

/-!
Writing filled clauses makes a question mark for each of their placeholders, in their order, and no
other.
-/

namespace SqlForge

open Text

variable {g : Grammar}

theorem emits_renderTable (hg : g.Unmarked) {source : Source} {inner : List Join} {joins : Sql}
    (hsource : source.Filled) (hjoins : joins.Emits (joinSlots inner))
    : (Join.renderTable g source inner joins).Emits (source.slots ++ joinSlots inner) := by
  have hsource := Source.emits_render hg hsource
  unfold Join.renderTable
  cases inner with
  | nil =>
    rw [joinSlots, List.append_nil]
    exact hsource
  | cons join inner =>
    apply Sql.Emits.append_text _ (by decide)
    exact ((Sql.Emits.text_append (by decide) hsource).append_text (by decide)).append hjoins

mutual

theorem Condition.emits_render (hg : g.Unmarked) {sql : Sql}
    : (condition : Condition) → condition.Filled → condition.render g = .ok sql →
      sql.Emits condition.slots
  | .compare column operator operand, h, hsql => by
    rw [Condition.Filled] at h
    obtain ⟨hcolumn, hoperator, hoperand⟩ := h
    rw [Condition.render] at hsql
    injection hsql with hsql
    rw [← hsql, Condition.slots]
    have hcompared := unmarked_comparedColumn hg hcolumn operator
    apply Sql.Emits.nil_append _ (Operand.emits_sql hoperand)
    apply Sql.Emits.append_text _ (by decide)
    exact ((Sql.emits_text hcompared).append_text (by decide)).append_text hoperator
  | .raw sql, h, hsql => by
    rw [Condition.Filled] at h
    rw [Condition.render] at hsql
    injection hsql with hsql
    rw [← hsql, Condition.slots]
    exact h
  | .among column [] negated, _, hsql => by
    -- Without operands the condition is a constant, and the column is not written.
    rw [Condition.render] at hsql
    injection hsql with hsql
    rw [← hsql, Condition.slots]
    apply Sql.emits_text
    cases negated <;> decide
  | .among column (operand :: operands) negated, h, hsql => by
    rw [Condition.Filled] at h
    obtain ⟨hcolumn, hoperands⟩ := h
    rw [Condition.render] at hsql
    . injection hsql with hsql
      rw [← hsql, Condition.slots]
      apply Sql.Emits.append_text _ (by decide)
      apply Sql.Emits.nil_append _ (emits_operandList hoperands)
      apply Sql.Emits.append_text _ (unmarked_membership negated)
      exact Sql.emits_text (Grammar.unmarked_column hg hcolumn)
    . simp
  | .amongRows column query negated, h, hsql => by
    rw [Condition.Filled] at h
    rw [Condition.render] at hsql
    simp only [bind_eq_ok, pure_eq_ok] at hsql
    obtain ⟨inner, hinner, hsql⟩ := hsql
    have hinner := Select.emits_render hg query h.2 hinner
    rw [← hsql, Condition.slots]
    apply Sql.Emits.append_text _ (by decide)
    apply Sql.Emits.nil_append _ hinner
    apply Sql.Emits.append_text _ (unmarked_membership negated)
    exact Sql.emits_text (Grammar.unmarked_column hg h.1)
  | .isNull column negated, h, hsql => by
    rw [Condition.Filled] at h
    rw [Condition.render] at hsql
    injection hsql with hsql
    rw [← hsql, Condition.slots]
    apply Sql.emits_text
    rw [unmarked_append]
    refine ⟨Grammar.unmarked_column hg h, ?_⟩
    cases negated <;> decide
  | .between column low high negated, h, hsql => by
    rw [Condition.Filled] at h
    obtain ⟨hcolumn, hlow, hhigh⟩ := h
    rw [Condition.render] at hsql
    injection hsql with hsql
    rw [← hsql, Condition.slots, ← flatMap_boundValues, List.flatMap_cons, List.flatMap_singleton]
    have hbetween : Unmarked (if negated then " NOT BETWEEN " else " BETWEEN ") := by
      cases negated <;> decide
    have hhead := (Sql.emits_text (Grammar.unmarked_column hg hcolumn)).append_text hbetween
    exact ((hhead.append (Operand.emits_sql hlow)).append_text (by decide)).append
      (Operand.emits_sql hhigh)
  | .group clauses, h, hsql => by
    rw [Condition.Filled] at h
    rw [Condition.render] at hsql
    simp only [bind_eq_ok, pure_eq_ok] at hsql
    obtain ⟨inner, hinner, hsql⟩ := hsql
    rw [← hsql, Condition.slots]
    apply Sql.Emits.append_text _ (by decide)
    exact Sql.Emits.text_append (by decide) (emits_renderClauses hg clauses h hinner)
  | .exists query negated, h, hsql => by
    rw [Condition.Filled] at h
    rw [Condition.render] at hsql
    simp only [bind_eq_ok, pure_eq_ok] at hsql
    obtain ⟨inner, hinner, hsql⟩ := hsql
    rw [← hsql, Condition.slots]
    apply Sql.Emits.append_text _ (by decide)
    apply Sql.Emits.text_append _ (Select.emits_render hg query h hinner)
    cases negated <;> decide
  | .compareColumns first operator second, h, hsql => by
    rw [Condition.Filled] at h
    obtain ⟨hfirst, hoperator, hsecond⟩ := h
    rw [Condition.render] at hsql
    injection hsql with hsql
    rw [← hsql, Condition.slots]
    apply Sql.emits_text
    simp only [unmarked_append]
    exact ⟨⟨⟨⟨Grammar.unmarked_column hg hfirst, by decide⟩, hoperator⟩, by decide⟩,
      Grammar.unmarked_column hg hsecond⟩
  | .compareQuery column operator query, h, hsql => by
    rw [Condition.Filled] at h
    obtain ⟨hcolumn, hoperator, hquery⟩ := h
    rw [Condition.render] at hsql
    simp only [bind_eq_ok, pure_eq_ok] at hsql
    obtain ⟨inner, hinner, hsql⟩ := hsql
    have hinner := Select.emits_render hg query hquery hinner
    have hhead := (Sql.emits_text (Grammar.unmarked_column hg hcolumn)).append_text
      (s := " ") (by decide)
    rw [← hsql, Condition.slots]
    apply Sql.Emits.append_text _ (by decide)
    exact ((hhead.append_text hoperator).append_text (by decide)).append hinner
  | .compareDate part column operator operand, h, hsql => by
    rw [Condition.Filled] at h
    obtain ⟨hcolumn, hoperator, hoperand⟩ := h
    rw [Condition.render] at hsql
    injection hsql with hsql
    rw [← hsql, Condition.slots]
    exact emits_renderDatePart g.dialect part (Grammar.unmarked_column hg hcolumn) hoperator
      (Operand.emits_sql hoperand)
  | .compareRow columns operator operands, h, hsql => by
    rw [Condition.Filled] at h
    obtain ⟨hcolumns, hoperator, hoperands⟩ := h
    rw [Condition.render] at hsql
    injection hsql with hsql
    rw [← hsql, Condition.slots]
    have hcolumns := Sql.emits_text (Grammar.unmarked_columnList hg hcolumns)
    apply Sql.Emits.append_text _ (by decide)
    apply Sql.Emits.nil_append _ (emits_operandList hoperands)
    apply Sql.Emits.append_text _ (by decide)
    apply Sql.Emits.append_text _ hoperator
    exact (Sql.Emits.text_append (by decide) hcolumns).append_text (by decide)
  | .jsonContains column operand negated, h, hsql => by
    rw [Condition.Filled] at h
    rw [Condition.render] at hsql
    rw [Condition.slots]
    exact emits_renderJsonContains hg h.1 h.2 hsql

theorem emits_renderClauses (hg : g.Unmarked) {sql : Sql}
    : (clauses : List Clause) → ClausesFilled clauses → renderClauses g clauses = .ok sql →
      sql.Emits (clauseSlots clauses)
  | [], _, hsql => by
    rw [renderClauses] at hsql
    injection hsql with hsql
    rw [← hsql, clauseSlots]
    exact Sql.emits_empty
  | ⟨c, condition⟩ :: clauses, h, hsql => by
    rw [ClausesFilled] at h
    obtain ⟨first, rest, hfirst, hrest, heq⟩ := renderClauses_cons_eq_ok.mp hsql
    rw [← heq, clauseSlots]
    exact (Condition.emits_render hg condition h.1 hfirst).append
      (emits_renderFurther hg clauses h.2 hrest)

theorem emits_renderFurther (hg : g.Unmarked) {sql : Sql}
    : (clauses : List Clause) → ClausesFilled clauses → renderFurther g clauses = .ok sql →
      sql.Emits (clauseSlots clauses)
  | [], _, hsql => by
    rw [renderFurther] at hsql
    injection hsql with hsql
    rw [← hsql, clauseSlots]
    exact Sql.emits_empty
  | ⟨c, condition⟩ :: clauses, h, hsql => by
    rw [ClausesFilled] at h
    obtain ⟨first, rest, hfirst, hrest, heq⟩ := renderFurther_cons_eq_ok.mp hsql
    rw [← heq, clauseSlots]
    have hconnective := (Sql.Emits.text_append (s := " ") (by decide)
      (Sql.emits_text c.unmarked_sql)).append_text (s := " ") (by decide)
    exact (hconnective.append (Condition.emits_render hg condition h.1 hfirst)).append
      (emits_renderFurther hg clauses h.2 hrest)

theorem Join.emits_render (hg : g.Unmarked) {sql : Sql}
    : (join : Join) → join.Filled → join.render g = .ok sql → sql.Emits join.slots
  | ⟨kind, source, inner, conditions⟩, h, hsql => by
    rw [Join.Filled] at h
    obtain ⟨joins, on, hjoins, hon, heq⟩ := Join.render_eq_ok.mp hsql
    have htable := emits_renderTable hg h.1 (emits_renderJoins hg inner h.2.1 hjoins)
    have hon : (headed " ON " conditions on).Emits (clauseSlots conditions) :=
      emits_headed (by decide) (emits_renderClauses hg conditions h.2.2 hon)
    have hkind := (Sql.emits_text kind.unmarked_sql).append_text (s := " JOIN ") (by decide)
    rw [← heq, Join.slots]
    exact (hkind.append htable).append hon

theorem emits_renderJoins (hg : g.Unmarked) {sql : Sql}
    : (joins : List Join) → JoinsFilled joins → renderJoins g joins = .ok sql →
      sql.Emits (joinSlots joins)
  | [], _, hsql => by
    rw [renderJoins] at hsql
    injection hsql with hsql
    rw [← hsql, joinSlots]
    exact Sql.emits_empty
  | [join], h, hsql => by
    rw [JoinsFilled] at h
    rw [renderJoins] at hsql
    rw [joinSlots, joinSlots, List.append_nil]
    exact Join.emits_render hg join h.1 hsql
  | join :: next :: joins, h, hsql => by
    rw [JoinsFilled] at h
    obtain ⟨first, rest, hfirst, hrest, heq⟩ := renderJoins_cons_cons_eq_ok.mp hsql
    rw [← heq, joinSlots]
    exact ((Join.emits_render hg join h.1 hfirst).append_text (by decide)).append
      (emits_renderJoins hg (next :: joins) h.2 hrest)

theorem words_renderMembers (hg : g.Unmarked) {sqls rest : List Sql} {vs : List Value}
    (hrest : (Sql.words rest).Emits vs)
    : (members : List UnionMember) → MembersFilled members → renderMembers g members = .ok sqls →
      (Sql.words (sqls ++ rest)).Emits (memberSlots members ++ vs)
  | [], _, hsqls => by
    rw [renderMembers] at hsqls
    injection hsqls with hsqls
    rw [← hsqls, memberSlots]
    exact hrest
  | ⟨all, query⟩ :: members, h, hsqls => by
    rw [MembersFilled] at h
    obtain ⟨first, further, hfirst, hfurther, heq⟩ := renderMembers_cons_eq_ok.mp hsqls
    have hmember := emits_encloseMember g.dialect (Select.emits_render hg query h.1 hfirst)
    rw [← heq, memberSlots, List.append_assoc]
    apply Sql.Emits.words_cons
    . apply Sql.Emits.text_append _ hmember
      split <;> decide
    . exact words_renderMembers hg hrest members h.2 hfurther

/-- A statement emits the values of its placeholders. -/
theorem Select.emits_render (hg : g.Unmarked) {sql : Sql}
    : (q : Select) → q.Filled → q.render g = .ok sql → sql.Emits q.slots
  | ⟨distinct, selections, source, joins, wheres, groups, havings, orders, limit, offset, unions,
      unionOrders, unionLimit, unionOffset, aggregate, lock⟩, h, hsql => by
    have hparts := Select.filled_iff.mp h
    obtain ⟨p, hjoins, hwheres, hhavings, hmembers, heq⟩ := Select.render_eq_ok.mp hsql
    rw [← heq]
    apply Select.emits_assemble hg hparts
    exact {
      joins := emits_renderJoins hg joins hparts.joins hjoins
      wheres := emits_renderClauses hg wheres hparts.wheres hwheres
      havings := emits_renderClauses hg havings hparts.havings hhavings
      members := fun hrest => words_renderMembers hg hrest unions hparts.unions hmembers }

end

theorem Select.emits_renderExists (hg : g.Unmarked) {q : Select} {sql : Sql} (h : q.Filled)
    (hsql : q.renderExists g = .ok sql) : sql.Emits q.slots := by
  unfold Select.renderExists at hsql
  simp only [bind_eq_ok, pure_eq_ok] at hsql
  obtain ⟨inner, hinner, hsql⟩ := hsql
  have hinner := Select.emits_render hg q h hinner
  have hlabel := Grammar.unmarked_wrap hg (s := "exists") (by decide)
  rw [← hsql]
  apply Sql.Emits.append_text _ hlabel
  exact (Sql.Emits.text_append (unmarked_literal (by decide)) hinner).append_text (by decide)

end SqlForge
