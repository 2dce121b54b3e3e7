import SqlForge.Proofs.Except
import SqlForge.Select.Render

/-!
What a rendering that succeeds is put together from.
-/

namespace SqlForge

variable {g : Grammar} {sql : Sql}

theorem renderClauses_cons_eq_ok {c : Connective} {condition : Condition} {clauses : List Clause}
    : renderClauses g (⟨c, condition⟩ :: clauses) = .ok sql ↔
      ∃ first rest, condition.render g = .ok first ∧ renderFurther g clauses = .ok rest ∧
        first ++ rest = sql := by
  rw [renderClauses]
  simp only [bind_eq_ok, pure_eq_ok, exists_and_left]

theorem renderFurther_cons_eq_ok {c : Connective} {condition : Condition} {clauses : List Clause}
    : renderFurther g (⟨c, condition⟩ :: clauses) = .ok sql ↔
      ∃ first rest, condition.render g = .ok first ∧ renderFurther g clauses = .ok rest ∧
        " " ++ c.sql ++ " " ++ first ++ rest = sql := by
  rw [renderFurther]
  simp only [bind_eq_ok, pure_eq_ok, exists_and_left]

namespace Join

/-- The source of the join, with the joins between it and its neighbours. -/
def renderTable (g : Grammar) (source : Source) (inner : List Join) (joins : Sql) : Sql :=
  if inner.isEmpty then source.render g else "(" ++ source.render g ++ " " ++ joins ++ ")"

theorem render_eq_ok {kind : JoinKind} {source : Source} {inner : List Join}
    {conditions : List Clause}
    : render g ⟨kind, source, inner, conditions⟩ = .ok sql ↔
      ∃ joins on, renderJoins g inner = .ok joins ∧ renderClauses g conditions = .ok on ∧
        kind.sql ++ " JOIN " ++ renderTable g source inner joins ++ headed " ON " conditions on
          = sql := by
  rw [Join.render]
  simp only [bind_eq_ok, pure_eq_ok, exists_and_left]
  rfl

end Join

theorem renderJoins_cons_cons_eq_ok {join next : Join} {joins : List Join}
    : renderJoins g (join :: next :: joins) = .ok sql ↔
      ∃ first rest, join.render g = .ok first ∧ renderJoins g (next :: joins) = .ok rest ∧
        first ++ " " ++ rest = sql := by
  rw [renderJoins]
  . simp only [bind_eq_ok, pure_eq_ok, exists_and_left]
  . simp

theorem renderMembers_cons_eq_ok {all : Bool} {query : Select} {members : List UnionMember}
    {sqls : List Sql}
    : renderMembers g (⟨all, query⟩ :: members) = .ok sqls ↔
      ∃ first rest, query.render g = .ok first ∧ renderMembers g members = .ok rest ∧
        ((if all then "UNION ALL " else "UNION " : String) ++ encloseMember g.dialect first) :: rest
          = sqls := by
  rw [renderMembers]
  simp only [bind_eq_ok, pure_eq_ok, exists_and_left]

theorem Select.render_eq_ok {q : Select}
    : q.render g = .ok sql ↔
      ∃ p : Parts, renderJoins g q.joins = .ok p.joins ∧ renderClauses g q.wheres = .ok p.wheres ∧
        renderClauses g q.havings = .ok p.havings ∧ renderMembers g q.unions = .ok p.members ∧
        q.assemble g p = sql := by
  cases q
  rw [Select.render]
  simp only [bind_eq_ok, pure_eq_ok]
  constructor
  . rintro ⟨joins, hjoins, wheres, hwheres, havings, hhavings, members, hmembers, h⟩
    exact ⟨⟨joins, wheres, havings, members⟩, hjoins, hwheres, hhavings, hmembers, h⟩
  . rintro ⟨⟨joins, wheres, havings, members⟩, hjoins, hwheres, hhavings, hmembers, h⟩
    exact ⟨joins, hjoins, wheres, hwheres, havings, hhavings, members, hmembers, h⟩

end SqlForge
