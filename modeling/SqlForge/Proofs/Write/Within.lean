import SqlForge.Proofs.Select.Within
import SqlForge.Write.Change

/-!
What an UPDATE and a DELETE write of the query of their builder.
-/

namespace SqlForge

variable {g : Grammar} {sql : Sql} {text : String}

theorem Select.renderWheres_eq_ok {q : Select}
    : q.renderWheres g = .ok sql ↔
      ∃ wheres, renderClauses g q.wheres = .ok wheres ∧ headed "WHERE " q.wheres wheres = sql := by
  unfold renderWheres headed
  cases hempty : q.wheres.isEmpty with
  | true =>
    rw [List.isEmpty_iff.mp hempty, renderClauses]
    simp [pure_eq_ok]
  | false => simp [map_eq_ok]

namespace Builder

variable {b : Builder}

/--
The part of the query that is written. Where a statement has no place for joins and limits, a query
that has them is written as a whole.
-/
def targeted (b : Builder) : Select :=
  if b.grammar.dialect = .mysql ∨ b.isPlain then
    { Select.empty with joins := b.query.joins, wheres := b.query.wheres }
  else b.query

/-- Joins and conditions on rows that stand in the text are all that the part has. -/
theorem spreadOver_targeted (htargeted : b.grammar.dialect = .mysql ∨ b.isPlain)
    (hjoins : ∀ join ∈ nestedJoins b.query.joins, ∀ found ∈ clauseConditions join.conditions,
      WrittenIn text (found.render g))
    (hwheres : ∀ found ∈ clauseConditions b.query.wheres, WrittenIn text (found.render g))
    : b.targeted.SpreadOver g text := by
  rw [targeted, if_pos htargeted]
  constructor
  . intro found hmem
    simp only [Select.conditions, Select.empty, clauseConditions, List.append_nil, List.mem_append,
      List.mem_flatMap] at hmem
    rcases hmem with hmem | ⟨join, hjoin, hmem⟩
    . exact hwheres found hmem
    . exact hjoins join hjoin found hmem
  . intro member hmem
    cases hmem

theorem writtenIn_wheres {q : Select} {parts : List Sql} (h : q.renderWheres g = .ok sql)
    (hpart : sql ∈ parts) {found : Condition} (hmem : found ∈ clauseConditions q.wheres)
    : WrittenIn (Sql.words parts).text (found.render g) := by
  obtain ⟨wheres, hwheres, rfl⟩ := Select.renderWheres_eq_ok.mp h
  exact writtenIn_words (writtenIn_headed (by decide) (by decide) hmem hwheres) hpart

/-- In place of the rows stands a query over their identity with the clauses of the builder. -/
theorem spreadOver_isRow (h : b.isRow = .ok sql) : b.query.SpreadOver b.grammar sql.text := by
  rw [isRow] at h
  obtain ⟨identities, hidentities, h⟩ := bind_eq_ok.mp h
  obtain ⟨rows, hrows, h⟩ := bind_eq_ok.mp h
  have hspread := Select.spreadOver_render hrows
  have hopens : opens (b.grammar.wrap b.grammar.dialect.rowIdentity ++ " IN (") :=
    opens_append_of_ne _ (by decide) (by decide)
  have hcloses : closes ")" := by decide
  have hquery : b.query.SpreadOver b.grammar rows.text := by
    unfold rowIdentities at hidentities
    split at hidentities
    . cases hidentities
      exact ⟨hspread.conditions, hspread.members⟩
    . cases hidentities
  rw [← pure_eq_ok.mp h]
  apply hquery.trans
  simp only [Sql.text_append, Sql.text_coe]
  exact occurs_between _ hopens hcloses

/-- A statement whose rows are named by the conditions alone, or by a query over their identity. -/
theorem spreadOver_rows {opening first : Sql}
    (hdialect : b.grammar.dialect ≠ .mysql)
    (h : (if b.isPlain then do
        let wheres ← b.query.renderWheres b.grammar
        return Sql.words [first, wheres]
      else do
        let isRow ← b.isRow
        return opening ++ " WHERE " ++ isRow : Except Failure Sql) = .ok sql)
    : b.targeted.SpreadOver b.grammar sql.text := by
  split at h
  . next hplain =>
    obtain ⟨wheres, hwheres, h⟩ := bind_eq_ok.mp h
    rw [← pure_eq_ok.mp h]
    apply spreadOver_targeted (.inr hplain)
    . intro join hjoin
      have hnone : b.query.joins = [] := by
        rw [isPlain, Bool.and_eq_true] at hplain
        exact List.isEmpty_iff.mp hplain.1
      rw [hnone, nestedJoins] at hjoin
      cases hjoin
    . intro found hmem
      exact writtenIn_wheres hwheres (by simp) hmem
  . next hplain =>
    obtain ⟨isRow, hisRow, h⟩ := bind_eq_ok.mp h
    have hwhole : b.targeted = b.query := if_neg (by simp [hdialect, hplain])
    rw [← pure_eq_ok.mp h, hwhole, Sql.text_append, Sql.text_append, Sql.text_coe]
    apply (spreadOver_isRow hisRow).trans
    exact occurs_right (opens_append_of_ne _ (by decide) (by decide)) _

theorem spreadOver_updateSql {r : Record} (h : b.updateSql r = .ok sql)
    : b.targeted.SpreadOver b.grammar sql.text := by
  unfold updateSql at h
  obtain ⟨table, -, h⟩ := bind_eq_ok.mp h
  dsimp only at h
  split at h
  . next hdialect =>
    obtain ⟨joins, hjoins, h⟩ := bind_eq_ok.mp h
    obtain ⟨wheres, hwheres, h⟩ := bind_eq_ok.mp h
    rw [← pure_eq_ok.mp h]
    apply spreadOver_targeted (.inl hdialect)
    . intro join hjoin found hmem
      exact writtenIn_words (writtenIn_nestedJoins hjoin hmem hjoins) (by simp)
    . intro found hmem
      exact writtenIn_wheres hwheres (by simp) hmem
  . next hdialect => exact spreadOver_rows (by simp [hdialect]) h
  . next hdialect => exact spreadOver_rows (by simp [hdialect]) h

theorem spreadOver_deleteSql (h : b.deleteSql = .ok sql)
    : b.targeted.SpreadOver b.grammar sql.text := by
  unfold deleteSql at h
  obtain ⟨table, -, h⟩ := bind_eq_ok.mp h
  split at h
  . next hdialect =>
    obtain ⟨joins, hjoins, h⟩ := bind_eq_ok.mp h
    obtain ⟨wheres, hwheres, h⟩ := bind_eq_ok.mp h
    split at h
    . next hnone =>
      rw [← pure_eq_ok.mp h]
      apply spreadOver_targeted (.inl hdialect)
      . intro join hjoin
        rw [List.isEmpty_iff.mp hnone, nestedJoins] at hjoin
        cases hjoin
      . intro found hmem
        exact writtenIn_wheres hwheres (by simp) hmem
    . rw [← pure_eq_ok.mp h]
      apply spreadOver_targeted (.inl hdialect)
      . intro join hjoin found hmem
        exact writtenIn_words (writtenIn_nestedJoins hjoin hmem hjoins) (by simp)
      . intro found hmem
        exact writtenIn_wheres hwheres (by simp) hmem
  . next hdialect => exact spreadOver_rows (by simp [hdialect]) h
  . next hdialect => exact spreadOver_rows (by simp [hdialect]) h

end Builder

end SqlForge
