import SqlForge.Proofs.Builder.Family
import SqlForge.Proofs.Builder.Outcome
import SqlForge.Proofs.Fragment.Render

/-!
The steps of a builder put the fragments that they come with into the clauses of their family. These
are written as long as no aggregate stands in place of the column list.
-/

namespace SqlForge

theorem Sql.text_ofTemplate (template : String) (values : List Value)
    : (ofTemplate template values).text = template := by
  have hprepend (c : Char) (pieces : List Piece)
      : String.join ((prependChar c pieces).map Piece.toString)
          = c.toString ++ String.join (pieces.map Piece.toString) := by
    unfold prependChar
    split <;> simp [Piece.toString, String.append_assoc]
  have hgo (cs : List Char) (values : List Value)
      : (String.join ((ofTemplate.go cs values).map Piece.toString)).toList = cs := by
    fun_induction ofTemplate.go cs values with
    | case1 => rfl
    | case2 c cs ih => simp [hprepend, ih]
    | case3 cs v values ih => simpa [Piece.toString] using ih
    | case4 c cs v values _ ih => simp [hprepend, ih]
  rw [← String.toList_inj]
  exact hgo template.toList values

theorem clauseFragments_append (a b : List Clause)
    : clauseFragments (a ++ b) = clauseFragments a ++ clauseFragments b := by
  induction a with
  | nil => simp [clauseFragments]
  | cons clause a ih =>
    cases clause
    simp [clauseFragments, ih]

theorem joinFragments_append (a b : List Join)
    : joinFragments (a ++ b) = joinFragments a ++ joinFragments b := by
  induction a with
  | nil => simp [joinFragments]
  | cons join a ih => simp [joinFragments, ih]

theorem memberFragments_append (a b : List UnionMember)
    : memberFragments (a ++ b) = memberFragments a ++ memberFragments b := by
  induction a with
  | nil => simp [memberFragments]
  | cons member a ih =>
    cases member
    simp [memberFragments, ih]

namespace Select

/-- The fragments of the clauses that the calls of one family write. -/
def fragmentsOf (q : Select) : Family → List Fragment
  | .columns => q.selections.flatMap Selection.fragments
  | .source => q.source.toList.flatMap Source.fragments
  | .joins => joinFragments q.joins
  | .wheres => clauseFragments q.wheres
  | .groups => q.groups.flatMap Column.fragments
  | .havings => clauseFragments q.havings
  | .orders =>
    q.orders.flatMap Ordering.fragments ++
      if q.unions.isEmpty then []
      else memberFragments q.unions ++ q.unionOrders.flatMap Ordering.fragments
  | .distinct | .lock => []

theorem fragmentsOf_subset {q : Select} (h : q.aggregate = none) (f : Family)
    : q.fragmentsOf f ⊆ q.fragments := by
  rw [fragments_eq, arrange, h]
  intro fragment hmem
  unfold wholeFragments singleFragments headFragments held
  cases f <;> grind [fragmentsOf]

end Select

namespace Builder

variable (b : Builder)

theorem subset_filter (c : Connective) (bound : Bound)
    : bound.condition.fragments ⊆ (b.filter c bound).query.fragmentsOf .wheres := by
  simp [filter, Select.fragmentsOf, clauseFragments_append, clauseFragments]

theorem subset_having (c : Connective) (bound : Bound)
    : bound.condition.fragments ⊆ (b.having c bound).query.fragmentsOf .havings := by
  simp [having, Select.fragmentsOf, clauseFragments_append, clauseFragments]

theorem subset_addJoin (kind : JoinKind) (source : Source) (inner : Builder)
    : source.fragments ++ inner.query.fragmentsOf .joins ++ inner.query.fragmentsOf .wheres
        ⊆ (b.addJoin kind source inner).query.fragmentsOf .joins := by
  simp [addJoin, Select.fragmentsOf, joinFragments_append, joinFragments, Join.fragments]

theorem subset_crossJoin (source : Source)
    : source.fragments ⊆ (b.crossJoin source).query.fragmentsOf .joins := by
  have hsubset := subset_addJoin b .cross source (.new b.grammar)
  exact fun f hf => hsubset (List.mem_append_left _ (List.mem_append_left _ hf))

theorem subset_select (columns : List Column)
    : columns.flatMap Column.fragments ⊆ (b.select columns).query.fragmentsOf .columns := by
  simp [select, Select.fragmentsOf, List.flatMap_map, Selection.fragments]

theorem subset_addSelections (selections : List Selection) (values : List Value)
    : selections.flatMap Selection.fragments
        ⊆ (b.addSelections selections values).query.fragmentsOf .columns := by
  simp [addSelections, Select.fragmentsOf]

theorem subset_setSource (source : Source) (values : List Value)
    : source.fragments ⊆ (b.setSource source values).query.fragmentsOf .source := by
  simp [setSource, Select.fragmentsOf]

theorem subset_groupBy (columns : List Column)
    : columns.flatMap Column.fragments ⊆ (b.groupBy columns).query.fragmentsOf .groups := by
  simp [groupBy, Select.fragmentsOf]

theorem subset_addOrdering (o : Ordering)
    : o.fragments ⊆ (b.addOrdering o).query.fragmentsOf .orders := by
  intro f hf
  unfold addOrdering
  split
  . next hcompound =>
    have hunions : b.query.unions ≠ [] := by simpa [isCompound] using hcompound
    simp [Select.fragmentsOf, hunions, hf]
  . simp [Select.fragmentsOf, hf]

theorem subset_addUnion (all : Bool) (member : Builder)
    : member.query.fragments ⊆ (b.addUnion all member).query.fragmentsOf .orders := by
  intro f hf
  simp [addUnion, Select.fragmentsOf, memberFragments_append, memberFragments, hf]

end Builder

end SqlForge
