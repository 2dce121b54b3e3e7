import SqlForge.Proofs.Fragment.Part
import SqlForge.Proofs.Select.Render

/-!
Writing clauses weaves their fragments, in groups, joins, subqueries and further members alike.
-/

namespace SqlForge

variable {g : Grammar}

theorem weaves_renderTable (g : Grammar) {d : Dialect} (source : Source) {inner : List Join}
    {joins : Sql} (hjoins : joins.Part d (joinFragments inner))
    : Weaves d (Join.renderTable g source inner joins).text
        (source.fragments ++ joinFragments inner) := by
  have hsource := source.weaves g d
  unfold Join.renderTable
  cases inner with
  | nil =>
    rw [joinFragments, List.append_nil]
    exact hsource
  | cons join inner =>
    have hopened := hsource.text_append (s := "(") (by decide)
    simp only [List.isEmpty_cons, Bool.false_eq_true, if_false, Sql.text_append, Sql.text_coe]
    exact (hopened.glue separates_space hjoins.weaves).append_text (by decide)

theorem Weaves.append_on {d : Dialect} {a : String} {fragments : List Fragment}
    {conditions : List Clause} {on : Sql} (ha : Weaves d a fragments)
    (hon : Weaves d on.text (clauseFragments conditions))
    : Weaves d (a ++ (headed " ON " conditions on).text)
        (fragments ++ clauseFragments conditions) := by
  have hseparator : Separates " ON " := by
    constructor <;> decide
  unfold headed
  cases conditions with
  | nil =>
    rw [clauseFragments, List.append_nil]
    exact ha.append_text rfl
  | cons condition conditions =>
    have := ha.glue hseparator hon
    simpa [String.append_assoc] using this

mutual

theorem Condition.weaves_render {sql : Sql}
    : (condition : Condition) → condition.render g = .ok sql →
      Weaves g.dialect sql.text condition.fragments
  | .compare column operator operand, hsql => by
    rw [Condition.render] at hsql
    injection hsql with hsql
    rw [← hsql, Condition.fragments]
    simp only [Sql.text_append, Sql.text_coe]
    exact (weaves_comparedColumn g _ column operator).compare operator (operand.weaves _)
  | .raw sql, hsql => by
    rw [Condition.render] at hsql
    injection hsql with hsql
    rw [← hsql, Condition.fragments]
    exact Weaves.plain g.dialect sql.text
  | .among column [] negated, hsql => by
    -- Without operands the condition is a constant, and the column is not written.
    rw [Condition.fragments]
    exact Weaves.text g.dialect sql.text
  | .among column (operand :: operands) negated, hsql => by
    rw [Condition.render] at hsql
    . injection hsql with hsql
      rw [← hsql, Condition.fragments]
      . simp only [Sql.text_append, Sql.text_coe]
        exact ((column.weaves g _).glue (separates_membership negated)
          (weaves_operandList _ _)).append_text (by decide)
      . simp
    . simp
  | .amongRows column query negated, hsql => by
    rw [Condition.render] at hsql
    simp only [bind_eq_ok, pure_eq_ok] at hsql
    obtain ⟨inner, hinner, hsql⟩ := hsql
    have hinner := Select.weaves_render query hinner
    rw [← hsql, Condition.fragments]
    simp only [Sql.text_append, Sql.text_coe]
    exact ((column.weaves g _).glue (separates_membership negated) hinner).append_text (by decide)
  | .isNull column negated, hsql => by
    rw [Condition.render] at hsql
    injection hsql with hsql
    rw [← hsql, Condition.fragments, Sql.text_coe]
    apply (column.weaves g _).append_text
    cases negated <;> decide
  | .between column low high negated, hsql => by
    rw [Condition.render] at hsql
    injection hsql with hsql
    have hbetween : Separates (if negated then " NOT BETWEEN " else " BETWEEN ") := by
      cases negated <;> constructor <;> decide
    have hand : Separates " AND " := by
      constructor <;> decide
    rw [← hsql, Condition.fragments]
    simp only [Sql.text_append, Sql.text_coe]
    exact ((column.weaves g _).glue hbetween (low.weaves _)).glue hand (high.weaves _)
  | .group clauses, hsql => by
    rw [Condition.render] at hsql
    simp only [bind_eq_ok, pure_eq_ok] at hsql
    obtain ⟨inner, hinner, hsql⟩ := hsql
    have hinner := weaves_renderClauses clauses hinner
    rw [← hsql, Condition.fragments]
    simp only [Sql.text_append, Sql.text_coe]
    exact (hinner.text_append (by decide)).append_text (by decide)
  | .exists query negated, hsql => by
    rw [Condition.render] at hsql
    simp only [bind_eq_ok, pure_eq_ok] at hsql
    obtain ⟨inner, hinner, hsql⟩ := hsql
    have hinner := Select.weaves_render query hinner
    have hopens : opens (if negated then "NOT EXISTS (" else "EXISTS (") := by
      cases negated <;> decide
    rw [← hsql, Condition.fragments]
    simp only [Sql.text_append, Sql.text_coe]
    exact (hinner.text_append hopens).append_text (by decide)
  | .compareColumns first operator second, hsql => by
    rw [Condition.render] at hsql
    injection hsql with hsql
    rw [← hsql, Condition.fragments, Sql.text_coe]
    exact (first.weaves g _).compare operator (second.weaves g _)
  | .compareQuery column operator query, hsql => by
    rw [Condition.render] at hsql
    simp only [bind_eq_ok, pure_eq_ok] at hsql
    obtain ⟨inner, hinner, hsql⟩ := hsql
    have hinner := Select.weaves_render query hinner
    rw [← hsql, Condition.fragments]
    simp only [Sql.text_append, Sql.text_coe]
    exact ((column.weaves g _).glue_around (by decide) (by decide) operator (by decide) (by decide)
      hinner).append_text (by decide)
  | .compareDate part column operator operand, hsql => by
    rw [Condition.render] at hsql
    injection hsql with hsql
    rw [← hsql, Condition.fragments]
    exact weaves_renderDatePart g.dialect part operator (column.weaves g _) (operand.weaves _)
  | .compareRow columns operator operands, hsql => by
    rw [Condition.render] at hsql
    injection hsql with hsql
    have hcolumns := (weaves_columnList g g.dialect columns).text_append (s := "(") (by decide)
    rw [← hsql, Condition.fragments]
    simp only [Sql.text_append, Sql.text_coe]
    exact (hcolumns.glue_around (by decide) (by decide) operator (by decide) (by decide)
      (weaves_operandList _ operands)).append_text (by decide)
  | .jsonContains column operand negated, hsql => by
    rw [Condition.render] at hsql
    rw [Condition.fragments]
    exact weaves_renderJsonContains hsql

theorem weaves_renderClauses {sql : Sql}
    : (clauses : List Clause) → renderClauses g clauses = .ok sql →
      Weaves g.dialect sql.text (clauseFragments clauses)
  | [], hsql => by
    rw [clauseFragments]
    exact Weaves.text g.dialect sql.text
  | ⟨c, condition⟩ :: clauses, hsql => by
    obtain ⟨first, rest, hfirst, hrest, heq⟩ := renderClauses_cons_eq_ok.mp hsql
    rw [← heq, clauseFragments, Sql.text_append]
    exact weaves_renderFurther (Condition.weaves_render condition hfirst) clauses hrest

/-- Behind the conditions that come before them. -/
theorem weaves_renderFurther {sql : Sql} {before : String} {fragments : List Fragment}
    (hbefore : Weaves g.dialect before fragments)
    : (clauses : List Clause) → renderFurther g clauses = .ok sql →
      Weaves g.dialect (before ++ sql.text) (fragments ++ clauseFragments clauses)
  | [], hsql => by
    rw [renderFurther] at hsql
    injection hsql with hsql
    rw [← hsql, clauseFragments, List.append_nil]
    exact hbefore.append_text rfl
  | ⟨c, condition⟩ :: clauses, hsql => by
    obtain ⟨first, rest, hfirst, hrest, heq⟩ := renderFurther_cons_eq_ok.mp hsql
    have hjoined := hbefore.compare c.sql (Condition.weaves_render condition hfirst)
    have := weaves_renderFurther hjoined clauses hrest
    rw [← heq, clauseFragments]
    simpa [String.append_assoc] using this

theorem Join.weaves_render {sql : Sql}
    : (join : Join) → join.render g = .ok sql → sql.Part g.dialect join.fragments
  | ⟨kind, source, inner, conditions⟩, hsql => by
    obtain ⟨joins, on, hjoins, hon, heq⟩ := Join.render_eq_ok.mp hsql
    have htable := weaves_renderTable g source (part_renderJoins inner hjoins)
    have hopens : opens (kind.sql ++ " JOIN ") := opens_append_of_ne _ (by decide) (by decide)
    have hon := (htable.text_append hopens).append_on (weaves_renderClauses conditions hon)
    rw [← heq, Join.fragments]
    constructor
    . simpa using hon
    . intro hempty
      simp at hempty

theorem part_renderJoins {sql : Sql}
    : (joins : List Join) → renderJoins g joins = .ok sql →
      sql.Part g.dialect (joinFragments joins)
  | [], hsql => by
    rw [joinFragments]
    exact Sql.part_text g.dialect sql
  | [join], hsql => by
    rw [renderJoins] at hsql
    rw [joinFragments, joinFragments, List.append_nil]
    exact Join.weaves_render join hsql
  | join :: next :: joins, hsql => by
    obtain ⟨first, rest, hfirst, hrest, heq⟩ := renderJoins_cons_cons_eq_ok.mp hsql
    have hfirst := Join.weaves_render join hfirst
    have hrest := part_renderJoins (next :: joins) hrest
    rw [← heq, joinFragments]
    constructor
    . simpa using hfirst.weaves.glue separates_space hrest.weaves
    . intro hempty
      simp at hempty

theorem part_renderMembers {sqls rest : List Sql} {fragments : List Fragment}
    (hrest : (Sql.words rest).Part g.dialect fragments)
    : (members : List UnionMember) → renderMembers g members = .ok sqls →
      (Sql.words (sqls ++ rest)).Part g.dialect (memberFragments members ++ fragments)
  | [], hsqls => by
    rw [renderMembers] at hsqls
    injection hsqls with hsqls
    rw [← hsqls, memberFragments]
    exact hrest
  | ⟨all, query⟩ :: members, hsqls => by
    obtain ⟨first, further, hfirst, hfurther, heq⟩ := renderMembers_cons_eq_ok.mp hsqls
    have hmember := part_encloseMember g.dialect (Select.weaves_render query hfirst)
    rw [← heq, memberFragments, List.append_assoc]
    apply Sql.Part.words_cons
    . apply Sql.part_text_append _ _ hmember.weaves
      . cases all <;> decide
      . cases all <;> decide
    . exact part_renderMembers hrest members hfurther

/-- A statement is woven from the fragments of its clauses. -/
theorem Select.weaves_render {sql : Sql}
    : (q : Select) → q.render g = .ok sql → Weaves g.dialect sql.text q.fragments
  | ⟨distinct, selections, source, joins, wheres, groups, havings, orders, limit, offset, unions,
      unionOrders, unionLimit, unionOffset, aggregate, lock⟩, hsql => by
    obtain ⟨p, hjoins, hwheres, hhavings, hmembers, heq⟩ := Select.render_eq_ok.mp hsql
    rw [← heq]
    apply Select.weaves_assemble
    exact {
      joins := part_renderJoins joins hjoins
      wheres := weaves_renderClauses wheres hwheres
      havings := weaves_renderClauses havings hhavings
      members := fun hrest => part_renderMembers hrest unions hmembers }

end

theorem Select.weaves_renderExists {q : Select} {sql : Sql} (hsql : q.renderExists g = .ok sql)
    : Weaves g.dialect sql.text q.fragments := by
  unfold Select.renderExists at hsql
  simp only [bind_eq_ok, pure_eq_ok] at hsql
  obtain ⟨inner, hinner, hsql⟩ := hsql
  have hopened := (Select.weaves_render q hinner).text_append (s := "SELECT EXISTS(") (by decide)
  rw [← hsql]
  simp only [Sql.text_append, Sql.text_coe]
  exact hopened.append_text_append (by decide) (by decide) _

end SqlForge
