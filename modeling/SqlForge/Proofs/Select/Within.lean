import SqlForge.Proofs.Fragment.Part
import SqlForge.Proofs.Select.Parts
import SqlForge.Proofs.Select.Render

/-!
Where the conditions of a statement stand in its text. Each is there as it is written by itself, in
groups, joins, subqueries and further members alike.
-/

namespace SqlForge

/-- The rendering succeeds, and what it gives stands in the text. -/
def WrittenIn (text : String) (rendering : Except Failure Sql) : Prop :=
  ∃ sql, rendering = .ok sql ∧ Occurs sql.text text

/-- The conditions of the statement and its further members stand in the text. -/
structure Select.SpreadOver (g : Grammar) (text : String) (q : Select) : Prop where
  conditions : ∀ condition ∈ q.conditions, WrittenIn text (condition.render g)
  members : ∀ member ∈ q.unions, WrittenIn text (member.query.render g)

variable {g : Grammar} {sql : Sql} {s t inner text : String}

theorem WrittenIn.refl {rendering : Except Failure Sql} (h : rendering = .ok sql)
    : WrittenIn sql.text rendering :=
  ⟨sql, h, Occurs.refl _⟩

theorem WrittenIn.trans {rendering : Except Failure Sql} (h : WrittenIn inner rendering)
    (houter : Occurs inner text) : WrittenIn text rendering := by
  obtain ⟨sql, hsql, hoccurs⟩ := h
  exact ⟨sql, hsql, hoccurs.trans houter⟩

theorem writtenIn_words {rendering : Except Failure Sql} {part : Sql} {parts : List Sql}
    (h : part.text ≠ "" ∧ WrittenIn part.text rendering) (hpart : part ∈ parts)
    : WrittenIn (Sql.words parts).text rendering :=
  h.2.trans (Sql.occurs_words hpart h.1)

theorem Select.SpreadOver.trans {q : Select} (h : q.SpreadOver g inner) (houter : Occurs inner text)
    : q.SpreadOver g text where
  conditions condition hmem := (h.conditions condition hmem).trans houter
  members member hmem := (h.members member hmem).trans houter

theorem occurs_left (s : String) (ht : closes t) : Occurs s (s ++ t) :=
  ⟨"", t, by simp, rfl, ht⟩

theorem occurs_right (hs : opens s) (t : String) : Occurs t (s ++ t) :=
  ⟨s, "", by simp, hs, rfl⟩

theorem occurs_between (inner : String) (hs : opens s) (ht : closes t)
    : Occurs inner (s ++ inner ++ t) :=
  ⟨s, t, rfl, hs, ht⟩

/-! ### Conditions -/

theorem closes_renderFurther {clauses : List Clause} (h : renderFurther g clauses = .ok sql)
    : closes sql.text := by
  cases clauses with
  | nil =>
    rw [renderFurther] at h
    injection h with h
    rw [← h]
    rfl
  | cons clause clauses =>
    obtain ⟨c, condition⟩ := clause
    obtain ⟨first, rest, -, -, rfl⟩ := renderFurther_cons_eq_ok.mp h
    have hspace : closes " " := by decide
    simp only [Sql.text_append, Sql.text_coe, String.append_assoc]
    exact closes_append_of_ne hspace (by decide) _

mutual
theorem Condition.writtenIn_of_mem {found : Condition} {sql : Sql}
    : (condition : Condition) → found ∈ condition.conditions → condition.render g = .ok sql →
      WrittenIn sql.text (found.render g)
  | .group clauses, hmem, h => by
    rw [Condition.conditions] at hmem
    cases List.mem_cons.mp hmem with
    | inl heq =>
      rw [heq]
      exact .refl h
    | inr hmem =>
      rw [Condition.render] at h
      obtain ⟨inner, hinner, h⟩ := bind_eq_ok.mp h
      rw [← pure_eq_ok.mp h]
      apply (writtenIn_renderClauses clauses hmem hinner).trans
      simp only [Sql.text_append, Sql.text_coe]
      exact occurs_between _ (by decide) (by decide)
  | .compare .., hmem, h | .raw _, hmem, h | .among .., hmem, h | .amongRows .., hmem, h
  | .isNull .., hmem, h | .between .., hmem, h | .exists .., hmem, h | .compareColumns .., hmem, h
  | .compareQuery .., hmem, h | .compareDate .., hmem, h | .compareRow .., hmem, h
  | .jsonContains .., hmem, h => by
    rw [Condition.conditions] at hmem
    . rw [List.mem_singleton.mp hmem]
      exact .refl h
    . simp

theorem writtenIn_renderClauses {found : Condition} {sql : Sql}
    : (clauses : List Clause) → found ∈ clauseConditions clauses →
      renderClauses g clauses = .ok sql → WrittenIn sql.text (found.render g)
  | [], hmem, _ => by
    rw [clauseConditions] at hmem
    cases hmem
  | ⟨c, condition⟩ :: clauses, hmem, h => by
    obtain ⟨first, rest, hfirst, hrest, rfl⟩ := renderClauses_cons_eq_ok.mp h
    rw [clauseConditions] at hmem
    rw [Sql.text_append]
    cases List.mem_append.mp hmem with
    | inl hmem =>
      apply (Condition.writtenIn_of_mem condition hmem hfirst).trans
      exact occurs_left _ (closes_renderFurther hrest)
    | inr hmem => exact writtenIn_renderFurther clauses hmem hrest first.text

/-- Whatever stands before them. -/
theorem writtenIn_renderFurther {found : Condition} {sql : Sql}
    : (clauses : List Clause) → found ∈ clauseConditions clauses →
      renderFurther g clauses = .ok sql → (before : String) →
      WrittenIn (before ++ sql.text) (found.render g)
  | [], hmem, _, _ => by
    rw [clauseConditions] at hmem
    cases hmem
  | ⟨c, condition⟩ :: clauses, hmem, h, before => by
    obtain ⟨first, rest, hfirst, hrest, rfl⟩ := renderFurther_cons_eq_ok.mp h
    rw [clauseConditions] at hmem
    simp only [Sql.text_append, Sql.text_coe, ← String.append_assoc]
    cases List.mem_append.mp hmem with
    | inl hmem =>
      apply (Condition.writtenIn_of_mem condition hmem hfirst).trans
      apply occurs_between _ _ (closes_renderFurther hrest)
      exact opens_append_of_ne _ (by decide) (by decide)
    | inr hmem => exact writtenIn_renderFurther clauses hmem hrest _
end

theorem Condition.writtenIn_query {condition : Condition} {q : Select}
    (hquery : condition.query? = some q) (h : condition.render g = .ok sql)
    : WrittenIn sql.text (q.render g) := by
  have hclose : closes ")" := by decide
  unfold Condition.query? at hquery
  split at hquery
  . next column query negated =>
    cases hquery
    rw [Condition.render] at h
    obtain ⟨inner, hinner, h⟩ := bind_eq_ok.mp h
    rw [← pure_eq_ok.mp h]
    simp only [Sql.text_append, Sql.text_coe]
    have hopens : opens (g.column column ++ membership negated) := by
      have hmembership := separates_membership negated
      exact opens_append_of_ne _ hmembership.opens hmembership.nonempty
    exact ⟨inner, hinner, occurs_between _ hopens hclose⟩
  . next query negated =>
    cases hquery
    rw [Condition.render] at h
    obtain ⟨inner, hinner, h⟩ := bind_eq_ok.mp h
    rw [← pure_eq_ok.mp h]
    simp only [Sql.text_append, Sql.text_coe]
    have hopens : opens (if negated then "NOT EXISTS (" else "EXISTS (") := by
      cases negated <;> decide
    exact ⟨inner, hinner, occurs_between _ hopens hclose⟩
  . next column operator query =>
    cases hquery
    rw [Condition.render] at h
    obtain ⟨inner, hinner, h⟩ := bind_eq_ok.mp h
    rw [← pure_eq_ok.mp h]
    simp only [Sql.text_append, Sql.text_coe]
    have hopens : opens (g.column column ++ " " ++ operator ++ " (") :=
      opens_append_of_ne _ (by decide) (by decide)
    exact ⟨inner, hinner, occurs_between _ hopens hclose⟩
  . cases hquery

theorem not_isEmpty_of_mem {clauses : List Clause} {found : Condition}
    (hmem : found ∈ clauseConditions clauses) : ¬clauses.isEmpty := by
  intro hempty
  rw [List.isEmpty_iff.mp hempty, clauseConditions] at hmem
  cases hmem

/-- Conditions behind their keyword. -/
theorem writtenIn_headed {keyword : String} {clauses : List Clause} {found : Condition}
    (hkeyword : opens keyword) (hne : keyword ≠ "") (hmem : found ∈ clauseConditions clauses)
    (h : renderClauses g clauses = .ok sql)
    : (headed keyword clauses sql).text ≠ "" ∧
        WrittenIn (headed keyword clauses sql).text (found.render g) := by
  rw [headed, if_neg (not_isEmpty_of_mem hmem), Sql.text_append, Sql.text_coe]
  refine ⟨?_, (writtenIn_renderClauses clauses hmem h).trans (occurs_right hkeyword _)⟩
  intro hempty
  exact hne (String.append_eq_empty_iff.mp hempty).1

/-! ### Joins -/

mutual
theorem Join.writtenIn_of_mem {found : Join} {sql : Sql}
    : (join : Join) → found ∈ join.joins → join.render g = .ok sql →
      WrittenIn sql.text (found.render g)
  | ⟨kind, source, inner, conditions⟩, hmem, h => by
    rw [Join.joins] at hmem
    cases List.mem_cons.mp hmem with
    | inl heq =>
      rw [heq]
      exact .refl h
    | inr hmem =>
      obtain ⟨joins, on, hjoins, -, rfl⟩ := Join.render_eq_ok.mp h
      have hne : ¬inner.isEmpty := by
        intro hempty
        rw [List.isEmpty_iff.mp hempty, nestedJoins] at hmem
        cases hmem
      have hopens : opens (kind.sql ++ " JOIN " ++ "(" ++ (source.render g).text ++ " ") :=
        opens_append_of_ne _ (by decide) (by decide)
      have hcloses : closes (")" ++ (headed " ON " conditions on).text) :=
        closes_append_of_ne (by decide) (by decide) _
      have hoccurs := occurs_between joins.text hopens hcloses
      apply (writtenIn_renderJoins inner hmem hjoins).trans
      rw [Join.renderTable, if_neg hne]
      simpa only [Sql.text_append, Sql.text_coe, String.append_assoc] using hoccurs

theorem writtenIn_renderJoins {found : Join} {sql : Sql}
    : (joins : List Join) → found ∈ nestedJoins joins → renderJoins g joins = .ok sql →
      WrittenIn sql.text (found.render g)
  | [], hmem, _ => by
    rw [nestedJoins] at hmem
    cases hmem
  | [join], hmem, h => by
    rw [nestedJoins, nestedJoins, List.append_nil] at hmem
    rw [renderJoins] at h
    exact Join.writtenIn_of_mem join hmem h
  | join :: next :: joins, hmem, h => by
    obtain ⟨first, rest, hfirst, hrest, rfl⟩ := renderJoins_cons_cons_eq_ok.mp h
    rw [nestedJoins] at hmem
    simp only [Sql.text_append, Sql.text_coe]
    cases List.mem_append.mp hmem with
    | inl hmem =>
      apply (Join.writtenIn_of_mem join hmem hfirst).trans
      rw [String.append_assoc]
      exact occurs_left _ (closes_append_of_ne (by decide) (by decide) _)
    | inr hmem =>
      apply (writtenIn_renderJoins (next :: joins) hmem hrest).trans
      exact occurs_right (opens_append_of_ne _ (by decide) (by decide)) _
end

theorem Join.text_ne_empty {join : Join} (h : join.render g = .ok sql) : sql.text ≠ "" := by
  obtain ⟨kind, source, inner, conditions⟩ := join
  obtain ⟨joins, on, -, -, rfl⟩ := Join.render_eq_ok.mp h
  simp

theorem Join.writtenIn_condition {join : Join} {found : Condition}
    (hmem : found ∈ clauseConditions join.conditions) (h : join.render g = .ok sql)
    : WrittenIn sql.text (found.render g) := by
  obtain ⟨kind, source, inner, conditions⟩ := join
  obtain ⟨joins, on, -, hon, rfl⟩ := Join.render_eq_ok.mp h
  refine (writtenIn_renderClauses conditions hmem hon).trans ?_
  rw [headed, if_neg (not_isEmpty_of_mem hmem)]
  simp only [Sql.text_append, Sql.text_coe, ← String.append_assoc]
  exact occurs_right (opens_append_of_ne _ (by decide) (by decide)) _

/-- A condition of a join among others, whatever that leaves of the text of the joins. -/
theorem writtenIn_nestedJoins {joins : List Join} {join : Join} {found : Condition}
    (hjoin : join ∈ nestedJoins joins) (hmem : found ∈ clauseConditions join.conditions)
    (h : renderJoins g joins = .ok sql)
    : sql.text ≠ "" ∧ WrittenIn sql.text (found.render g) := by
  obtain ⟨joinSql, hrender, hoccurs⟩ := writtenIn_renderJoins joins hjoin h
  exact ⟨hoccurs.ne_empty (Join.text_ne_empty hrender),
    (Join.writtenIn_condition hmem hrender).trans hoccurs⟩

/-! ### Statements -/

theorem occurs_encloseMember (d : Dialect) (sql : Sql)
    : Occurs sql.text (encloseMember d sql).text := by
  cases d <;> simp only [encloseMember, Sql.text_append, Sql.text_coe]
  . exact occurs_between _ (by decide) (by decide)
  . exact occurs_between _ (by decide) (by decide)
  . exact occurs_between _ (by decide) (by decide)

theorem writtenIn_renderMembers {member : UnionMember} {members : List UnionMember}
    {sqls : List Sql} (hmem : member ∈ members) (h : renderMembers g members = .ok sqls)
    : ∃ part ∈ sqls, part.text ≠ "" ∧ WrittenIn part.text (member.query.render g) := by
  induction members generalizing sqls with
  | nil => cases hmem
  | cons first members ih =>
    obtain ⟨all, query⟩ := first
    obtain ⟨firstSql, rest, hfirst, hrest, rfl⟩ := renderMembers_cons_eq_ok.mp h
    cases List.mem_cons.mp hmem with
    | inl heq =>
      rw [heq]
      have hopens : opens (if all then "UNION ALL " else "UNION ") := by
        cases all <;> decide
      refine ⟨_, .head _, ?_, ?_⟩
      . cases all <;> simp
      . rw [Sql.text_append, Sql.text_coe]
        exact ⟨firstSql, hfirst, (occurs_encloseMember _ _).trans (occurs_right hopens _)⟩
    | inr hmem =>
      obtain ⟨part, hpart, hshown, hwritten⟩ := ih hmem hrest
      exact ⟨part, List.mem_cons_of_mem _ hpart, hshown, hwritten⟩

namespace Select

variable {q : Select} {p : Parts} {part : Sql} {a : Option Aggregate}

theorem occurs_renderWhole (hshown : part.text ≠ "")
    (hpart : Occurs part.text (q.renderSingle g a p).text ∨ part ∈ p.members ∧ q.unions ≠ [])
    : Occurs part.text (q.renderWhole g a p).text := by
  unfold renderWhole
  split
  . next hunions =>
    cases hpart with
    | inl hsingle => exact hsingle
    | inr hmember => exact absurd (List.isEmpty_iff.mp hunions) hmember.2
  . simp only [Sql.text_append, Sql.text_coe]
    cases hpart with
    | inl hsingle =>
      rw [String.append_assoc]
      apply (hsingle.trans (occurs_encloseMember _ _)).trans
      exact occurs_left _ (closes_append_of_ne (by decide) (by decide) _)
    | inr hmember =>
      apply (Sql.occurs_words (List.mem_append_left _ hmember.1) hshown).trans
      exact occurs_right (opens_append_of_ne _ (by decide) (by decide)) _

theorem occurs_assemble (hshown : part.text ≠ "")
    (hpart : (∀ a, Occurs part.text (q.renderSingle g a p).text) ∨
      part ∈ p.members ∧ q.unions ≠ [])
    : Occurs part.text (q.assemble g p).text := by
  have hbody (a : Option Aggregate) : Occurs part.text (q.renderBody g a p).text := by
    have hwhole : Occurs part.text (q.renderWhole g a p).text :=
      occurs_renderWhole hshown (hpart.imp_left fun h => h a)
    exact hwhole.trans (Sql.occurs_words (.head _) (hwhole.ne_empty hshown))
  unfold assemble
  split
  . split
    . exact hbody _
    . next a _ _ =>
      simp only [Sql.text_append, Sql.text_coe]
      rw [String.append_assoc]
      apply (hbody none).trans
      apply occurs_between
      . exact opens_append_of_ne _ (by decide) (by decide)
      . exact closes_append_of_ne (by decide) (by decide) _
  . exact hbody none

/-- A statement is spread over its text. -/
theorem spreadOver_render (h : q.render g = .ok sql) : q.SpreadOver g sql.text := by
  obtain ⟨p, hjoins, hwheres, hhavings, hmembers, rfl⟩ := render_eq_ok.mp h
  have hsingle {part : Sql} (hshown : part.text ≠ "")
      (hpart : part ∈ [p.joins, headed "WHERE " q.wheres p.wheres,
        headed "HAVING " q.havings p.havings]) (a : Option Aggregate)
      : Occurs part.text (q.renderSingle g a p).text := by
    apply Sql.occurs_words _ hshown
    simp only [List.mem_cons, List.not_mem_nil, or_false] at hpart ⊢
    grind
  have hclause {part : Sql} {found : Condition}
      (h : part.text ≠ "" ∧ WrittenIn part.text (found.render g))
      (hpart : part ∈ [p.joins, headed "WHERE " q.wheres p.wheres,
        headed "HAVING " q.havings p.havings])
      : WrittenIn (q.assemble g p).text (found.render g) :=
    h.2.trans (occurs_assemble h.1 (.inl (hsingle h.1 hpart)))
  constructor
  . intro condition hmem
    unfold conditions at hmem
    simp only [List.mem_append, List.mem_flatMap] at hmem
    rcases hmem with (hmem | hmem) | ⟨join, hjoin, hmem⟩
    . exact hclause (writtenIn_headed (by decide) (by decide) hmem hwheres) (.tail _ (.head _))
    . exact hclause (writtenIn_headed (by decide) (by decide) hmem hhavings)
        (.tail _ (.tail _ (.head _)))
    . exact hclause (writtenIn_nestedJoins hjoin hmem hjoins) (.head _)
  . intro member hmem
    obtain ⟨part, hpart, hshown, hwritten⟩ := writtenIn_renderMembers hmem hmembers
    exact hwritten.trans (occurs_assemble hshown (.inr ⟨hpart, List.ne_nil_of_mem hmem⟩))

/-- So is what stands inside it. -/
theorem SpreadOver.of_part {inner : Select} (h : q.SpreadOver g text) (hpart : q.Part inner)
    : inner.SpreadOver g text := by
  induction hpart with
  | self => exact h
  | subquery _ hmem ih =>
    suffices hwritten : WrittenIn text (Select.render g _) by
      obtain ⟨sql, hsql, hoccurs⟩ := hwritten
      exact (spreadOver_render hsql).trans hoccurs
    unfold subqueries at hmem
    cases List.mem_append.mp hmem with
    | inl hmem =>
      obtain ⟨condition, hcondition, hquery⟩ := List.mem_filterMap.mp hmem
      obtain ⟨sql, hsql, hoccurs⟩ := ih.conditions condition hcondition
      exact (Condition.writtenIn_query hquery hsql).trans hoccurs
    | inr hmem =>
      obtain ⟨member, hmember, rfl⟩ := List.mem_map.mp hmem
      exact ih.members member hmember

end Select

end SqlForge
