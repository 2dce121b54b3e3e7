import SqlForge.Select.Basic

/-!
What stands inside a statement: its conditions and joins, to any depth of groups and joins, and the
statements that its conditions and its further members hold.
-/

namespace SqlForge

mutual
/-- The condition, and those of its group if it is one. -/
def Condition.conditions : Condition → List Condition
  | .group clauses => .group clauses :: clauseConditions clauses
  | condition => [condition]

def clauseConditions : List Clause → List Condition
  | [] => []
  | { condition, .. } :: clauses => condition.conditions ++ clauseConditions clauses
end

def Condition.query? : Condition → Option Select
  | .amongRows _ query _ | .exists query _ | .compareQuery _ _ query => some query
  | _ => none

mutual
/-- The join, and those between its source and the neighbours of that. -/
def Join.joins : Join → List Join
  | ⟨kind, source, inner, conditions⟩ => ⟨kind, source, inner, conditions⟩ :: nestedJoins inner

def nestedJoins : List Join → List Join
  | [] => []
  | join :: joins => join.joins ++ nestedJoins joins
end

@[simp]
theorem clauseConditions_cons (clause : Clause) (clauses : List Clause)
    : clauseConditions (clause :: clauses)
      = clause.condition.conditions ++ clauseConditions clauses := by
  cases clause
  rw [clauseConditions]

@[simp]
theorem clauseConditions_append (clauses more : List Clause)
    : clauseConditions (clauses ++ more) = clauseConditions clauses ++ clauseConditions more := by
  induction clauses with
  | nil => rw [List.nil_append, clauseConditions, List.nil_append]
  | cons clause clauses ih =>
    rw [List.cons_append, clauseConditions_cons, clauseConditions_cons, ih, List.append_assoc]

@[simp]
theorem nestedJoins_append (joins more : List Join)
    : nestedJoins (joins ++ more) = nestedJoins joins ++ nestedJoins more := by
  induction joins with
  | nil => rw [List.nil_append, nestedJoins, List.nil_append]
  | cons join joins ih =>
    rw [List.cons_append, nestedJoins, nestedJoins, ih, List.append_assoc]

mutual
theorem Condition.clauseConditions_subset (condition : Condition) {clauses : List Clause}
    (h : .group clauses ∈ condition.conditions)
    : clauseConditions clauses ⊆ condition.conditions := by
  cases condition with
  | group inner =>
    rw [Condition.conditions] at h ⊢
    cases List.mem_cons.mp h with
    | inl heq =>
      cases heq
      exact List.subset_cons_self _ _
    | inr hmem =>
      exact List.subset_cons_of_subset _ (SqlForge.clauseConditions_subset inner hmem)
  | _ =>
    rw [Condition.conditions] at h
    . cases List.mem_singleton.mp h
    . intro _ hgroup
      cases hgroup

theorem clauseConditions_subset (all : List Clause) {clauses : List Clause}
    (h : .group clauses ∈ clauseConditions all)
    : clauseConditions clauses ⊆ clauseConditions all := by
  cases all with
  | nil =>
    rw [clauseConditions] at h
    cases h
  | cons first rest =>
    obtain ⟨connective, condition⟩ := first
    rw [clauseConditions_cons] at h ⊢
    cases List.mem_append.mp h with
    | inl hfirst =>
      exact List.subset_append_of_subset_left _ (Condition.clauseConditions_subset condition hfirst)
    | inr hrest => exact List.subset_append_of_subset_right _ (clauseConditions_subset rest hrest)
end

namespace Select

/-- The conditions on rows and groups and those of the joins. -/
def conditions (q : Select) : List Condition :=
  clauseConditions q.wheres ++ clauseConditions q.havings ++
    (nestedJoins q.joins).flatMap fun join => clauseConditions join.conditions

/-- The statements that stand in conditions, and the further members. -/
def subqueries (q : Select) : List Select :=
  q.conditions.filterMap Condition.query? ++ q.unions.map UnionMember.query

/-- `q` is the statement, or stands in it to some depth. -/
inductive Part (root : Select) : Select → Prop where
  | self : Part root root
  | subquery {q inner : Select} : Part root q → inner ∈ q.subqueries → Part root inner

/-- The list of conditions stands as one in the statement: at the top, in a join or in a group. -/
inductive Tree (q : Select) : List Clause → Prop where
  | wheres : Tree q q.wheres
  | havings : Tree q q.havings
  | on {join : Join} : join ∈ nestedJoins q.joins → Tree q join.conditions
  | group {clauses : List Clause} : .group clauses ∈ q.conditions → Tree q clauses

theorem Tree.subset {q : Select} {clauses : List Clause} (h : q.Tree clauses)
    : clauseConditions clauses ⊆ q.conditions := by
  cases h with
  | wheres => exact List.subset_append_of_subset_left _ (List.subset_append_left _ _)
  | havings => exact List.subset_append_of_subset_left _ (List.subset_append_right _ _)
  | on hjoin =>
    apply List.subset_append_of_subset_right
    intro condition hcondition
    exact List.mem_flatMap.mpr ⟨_, hjoin, hcondition⟩
  | group hgroup =>
    intro condition hcondition
    unfold conditions at hgroup ⊢
    simp only [List.mem_append, List.mem_flatMap] at hgroup ⊢
    rcases hgroup with (hwheres | hhavings) | ⟨join, hjoin, hon⟩
    . exact .inl (.inl (clauseConditions_subset q.wheres hwheres hcondition))
    . exact .inl (.inr (clauseConditions_subset q.havings hhavings hcondition))
    . exact .inr ⟨join, hjoin, clauseConditions_subset join.conditions hon hcondition⟩

end Select

end SqlForge
