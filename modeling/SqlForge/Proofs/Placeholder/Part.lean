import SqlForge.Proofs.Placeholder.Clause
import SqlForge.Proofs.Select.Arrow

/-!
The parts of a statement emit the values of their placeholders, and so does what is put together
from parts that do.
-/

namespace SqlForge

open Text

variable {g : Grammar}

/-! ### Parts without conditions -/

theorem Operand.emits_sql {operand : Operand} (h : operand.Unmarked)
    : operand.sql.Emits (boundValues [operand]) := by
  cases operand with
  | value v => exact Sql.emits_slot v
  | raw sql => exact Sql.emits_text h

theorem flatMap_boundValues (operands : List Operand)
    : operands.flatMap (fun operand => boundValues [operand]) = boundValues operands := by
  induction operands with
  | nil => rfl
  | cons operand rest ih =>
    rw [List.flatMap_cons, ih]
    exact List.filterMap_append.symm

theorem emits_operandList {operands : List Operand} (h : ∀ operand ∈ operands, operand.Unmarked)
    : (operandList operands).Emits (boundValues operands) := by
  rw [← flatMap_boundValues]
  apply Sql.emits_join_map (by decide)
  intro operand hoperand
  exact Operand.emits_sql (h operand hoperand)

theorem Selection.emits_render (hg : g.Unmarked) {s : Selection} (h : s.Filled)
    : (s.render g).Emits s.slots := by
  cases s with
  | column c => exact Sql.emits_text (Grammar.unmarked_column hg h)
  | fragment sql => exact h

theorem emits_selectionList (hg : g.Unmarked) {selections : List Selection}
    (h : ∀ s ∈ selections, s.Filled)
    : (selectionList g selections).Emits (selections.flatMap Selection.slots) := by
  unfold selectionList
  split
  . exact Sql.emits_literal (by decide)
  . apply Sql.emits_join_map (by decide)
    intro s hs
    exact Selection.emits_render hg (h s hs)

theorem Source.emits_render (hg : g.Unmarked) {s : Source} (h : s.Filled)
    : (s.render g).Emits s.slots := by
  cases s with
  | table t => exact Sql.emits_text (Grammar.unmarked_table hg h)
  | fragment sql => exact h

theorem Ordering.emits_render (hg : g.Unmarked) {o : Ordering} (h : o.Filled)
    : (o.render g).Emits o.slots := by
  cases o with
  | column c direction =>
    apply Sql.Emits.append_text
    . apply Sql.Emits.append_text
      . exact Sql.emits_text (Grammar.unmarked_column hg h)
      . decide
    . cases direction <;> decide
  | raw sql carried => exact h

theorem emits_renderOrders (hg : g.Unmarked) {orders : List Ordering} (h : ∀ o ∈ orders, o.Filled)
    : (renderOrders g orders).Emits (orders.flatMap Ordering.slots) := by
  unfold renderOrders
  split
  . exact Sql.emits_empty
  . apply Sql.Emits.text_append (unmarked_literal (by decide))
    apply Sql.emits_join_map (by decide)
    intro o ho
    exact Ordering.emits_render hg (h o ho)

theorem emits_renderLimit (n : Option Nat) : (renderLimit n).Emits [] := by
  unfold renderLimit
  split
  . apply Sql.Emits.append_text
    . exact Sql.emits_literal (by decide)
    . exact unmarked_toString _
  . exact Sql.emits_empty

theorem emits_renderOffset (limited : Bool) (n : Option Nat)
    : (renderOffset g limited n).Emits [] := by
  unfold renderOffset
  split
  . exact Sql.emits_empty
  . next n =>
    have hoffset : Unmarked ("OFFSET " ++ toString n) := by
      rw [unmarked_append]
      exact ⟨unmarked_literal (by decide), unmarked_toString n⟩
    dsimp only
    split
    . exact Sql.emits_text hoffset
    . split
      . exact Sql.Emits.append_text (Sql.emits_literal (by decide)) hoffset
      . exact Sql.emits_text hoffset
      . exact Sql.Emits.append_text (Sql.emits_literal (by decide)) hoffset

theorem Lock.emits_render (d : Dialect) {lock : Lock} (h : lock.Unmarked)
    : (lock.render d).Emits [] := by
  unfold Lock.render
  split
  . exact Sql.emits_empty
  . exact Sql.emits_literal (by decide)
  . exact Sql.emits_literal (by decide)
  . exact Sql.emits_literal (by decide)
  . exact Sql.emits_literal (by decide)
  . exact Sql.emits_text h

theorem Aggregate.emits_render (hg : g.Unmarked) (distinct : Bool) {a : Aggregate}
    (h : a.Unmarked) : (a.render g distinct).Emits [] := by
  unfold Aggregate.render
  have := Grammar.unmarked_columnList hg h.columns
  apply Sql.Emits.append_text
  . apply Sql.Emits.append_text
    . apply Sql.Emits.append_text
      . apply Sql.Emits.append_text
        . exact Sql.emits_literal (by decide)
        . exact h.function
      . decide
    . split
      . rw [unmarked_append]
        exact ⟨unmarked_literal (by decide), this⟩
      . exact this
  . exact unmarked_literal (by decide)

theorem emits_encloseMember (d : Dialect) {sql : Sql} {values : List Value} (h : sql.Emits values)
    : (encloseMember d sql).Emits values := by
  unfold encloseMember
  split
  . exact Sql.Emits.append_text (Sql.Emits.text_append (by decide) h) (by decide)
  . exact Sql.Emits.append_text (Sql.Emits.text_append (by decide) h) (by decide)
  . exact Sql.Emits.append_text (Sql.Emits.text_append (unmarked_literal (by decide)) h) (by decide)

theorem Connective.unmarked_sql (c : Connective) : Unmarked c.sql := by
  cases c <;> decide

theorem JoinKind.unmarked_sql (kind : JoinKind) : Unmarked kind.sql := by
  cases kind <;> decide

theorem unmarked_membership (negated : Bool) : Unmarked (membership negated) := by
  cases negated <;> decide

theorem unmarked_comparedColumn (hg : g.Unmarked) {column : Column} (h : column.Unmarked)
    (operator : String) : Unmarked (comparedColumn g column operator) := by
  have := Grammar.unmarked_column hg h
  unfold comparedColumn
  split
  . rw [unmarked_append]
    exact ⟨this, by decide⟩
  . exact this

theorem emits_renderDatePart (d : Dialect) (part : DatePart) {column operator : String}
    {operand : Sql} {vs : List Value} (hcolumn : Unmarked column) (hoperator : Unmarked operator)
    (hoperand : operand.Emits vs)
    : (renderDatePart d part column operator operand).Emits vs := by
  unfold Sql.Emits at *
  cases d <;> cases part <;>
    simp (disch := first | assumption | exact unmarked_literal (by decide)) only [renderDatePart,
      Sql.marks_append, Sql.marks_text, List.nil_append, List.append_nil, hoperand]

theorem emits_jsonContainsCall {not field : String} {operand path : Sql} {vs : List Value}
    (hnot : Unmarked not) (hfield : Unmarked field) (hoperand : operand.Emits vs)
    (hpath : path.Emits [])
    : (not ++ "json_contains(" ++ field ++ ", " ++ operand ++ path ++ ")" : Sql).Emits vs := by
  unfold Sql.Emits at *
  simp (disch := first | assumption | exact unmarked_literal (by decide)) only
    [Sql.marks_append, Sql.marks_text, hoperand, hpath, List.nil_append, List.append_nil,
      List.map_nil]

theorem emits_renderJsonContains (hg : g.Unmarked) {column : Column} {operand : Operand}
    {negated : Bool} {sql : Sql} (hcolumn : column.Unmarked) (hoperand : operand.Unmarked)
    (h : renderJsonContains g column operand negated = .ok sql)
    : sql.Emits (boundValues [operand]) := by
  have hoperand := Operand.emits_sql hoperand
  have hnot : Unmarked (if negated then "NOT " else "") := by
    cases negated <;> decide
  unfold renderJsonContains at h
  generalize (if negated then "NOT " else "") = not at h hnot
  dsimp only at h
  split at h
  . injection h with h
    rw [← h]
    split
    . next n =>
      split
      . next field path hsplit =>
        have hsubset := Identifier.splitJson?_subset hsplit
        have hfield := Grammar.unmarked_wrap hg (hcolumn.of_subset hsubset.1)
        apply emits_jsonContainsCall hnot hfield hoperand
        apply Sql.Emits.text_append (by decide)
        apply Sql.emits_text
        apply Grammar.unmarked_jsonPath
        intro key hkey
        exact hcolumn.of_subset (hsubset.2 key hkey)
      . have hname := Grammar.unmarked_wrap hg hcolumn
        exact emits_jsonContainsCall hnot hname hoperand Sql.emits_empty
    . exact emits_jsonContainsCall hnot hcolumn hoperand Sql.emits_empty
  . injection h with h
    rw [← h]
    have hfield : Unmarked (String.ofList (documentArrows (g.column column).toList)) := by
      rw [unmarked_ofList]
      intro hmark
      exact Grammar.unmarked_column hg hcolumn (documentArrows_subset _ hmark)
    unfold Sql.Emits at *
    simp (disch := first | assumption | exact unmarked_literal (by decide)) only
      [Sql.marks_append, Sql.marks_text, hoperand, List.nil_append]
  . contradiction

theorem emits_headed {keyword : String} {clauses : List Clause} {sql : Sql}
    (hkeyword : Unmarked keyword) (h : sql.Emits (clauseSlots clauses))
    : (headed keyword clauses sql).Emits (clauseSlots clauses) := by
  unfold headed
  cases clauses with
  | nil => exact Sql.emits_empty
  | cons clause clauses => exact Sql.Emits.text_append hkeyword h

/-! ### Statements from their parts -/

namespace Select

variable {q : Select} {a : Option Aggregate} {p : Parts}

/-- The values of the column list, unless the aggregate `a` stands in its place. -/
def headSlots (q : Select) (a : Option Aggregate) : List Value :=
  if a.isSome then [] else q.selections.flatMap Selection.slots

theorem emits_renderHead (hg : g.Unmarked) (ha : ∀ a' ∈ a, a'.Unmarked)
    (h : ∀ s ∈ q.selections, s.Filled) : (q.renderHead g a).Emits (q.headSlots a) := by
  cases a with
  | some a => exact Aggregate.emits_render hg q.distinct (ha a rfl)
  | none =>
    apply Sql.Emits.text_append
    . split <;> exact unmarked_literal (by decide)
    . exact emits_selectionList hg h

theorem emits_renderSource (hg : g.Unmarked) (h : ∀ s ∈ q.source, s.Filled)
    : (q.renderSource g).Emits q.sourceSlots := by
  unfold renderSource sourceSlots
  cases hsource : q.source with
  | none => exact Sql.emits_empty
  | some source =>
    rw [Option.toList_some, List.flatMap_singleton]
    exact Sql.Emits.text_append (by decide) (Source.emits_render hg (h source hsource))

theorem emits_renderGroups (hg : g.Unmarked) (h : ∀ c ∈ q.groups, c.Unmarked)
    : (q.renderGroups g).Emits [] := by
  unfold renderGroups
  split
  . exact Sql.emits_empty
  . exact Sql.Emits.append_text (Sql.emits_literal (by decide)) (Grammar.unmarked_columnList hg h)

theorem emits_renderLock (h : ∀ l ∈ q.lock, l.Unmarked) : (q.renderLock g).Emits [] := by
  unfold renderLock
  cases hlock : q.lock with
  | none => exact Sql.emits_empty
  | some lock => exact Lock.emits_render g.dialect (h lock hlock)

structure Written (q : Select) (p : Parts) : Prop where
  joins : p.joins.Emits (joinSlots q.joins)
  wheres : p.wheres.Emits (clauseSlots q.wheres)
  havings : p.havings.Emits (clauseSlots q.havings)
  members : ∀ {rest : List Sql} {vs : List Value}, (Sql.words rest).Emits vs →
    (Sql.words (p.members ++ rest)).Emits (memberSlots q.unions ++ vs)

def singleSlots (q : Select) (a : Option Aggregate) : List Value :=
  q.headSlots a ++ q.sourceSlots ++ joinSlots q.joins ++ clauseSlots q.wheres ++
    clauseSlots q.havings ++ q.orders.flatMap Ordering.slots

def wholeSlots (q : Select) (a : Option Aggregate) : List Value :=
  q.singleSlots a ++ memberSlots q.unions ++ q.unionOrderSlots

theorem emits_renderSingle (hg : g.Unmarked) (ha : ∀ a' ∈ a, a'.Unmarked) (h : q.FilledParts)
    (hp : q.Written p) : (q.renderSingle g a p).Emits (q.singleSlots a) := by
  suffices (q.renderSingle g a p).Emits (q.headSlots a ++ (q.sourceSlots ++ (joinSlots q.joins ++
      (clauseSlots q.wheres ++ ([] ++ (clauseSlots q.havings ++
        (q.orders.flatMap Ordering.slots ++ ([] ++ ([] ++ []))))))))) by
    simpa [singleSlots] using this
  apply Sql.Emits.words_cons (emits_renderHead hg ha h.selections)
  apply Sql.Emits.words_cons (emits_renderSource hg h.source)
  apply Sql.Emits.words_cons hp.joins
  apply Sql.Emits.words_cons (emits_headed (by decide) hp.wheres)
  apply Sql.Emits.words_cons (emits_renderGroups hg h.groups)
  apply Sql.Emits.words_cons (emits_headed (by decide) hp.havings)
  apply Sql.Emits.words_cons (emits_renderOrders hg h.orders)
  apply Sql.Emits.words_cons (emits_renderLimit q.limit)
  exact Sql.Emits.words_cons (emits_renderOffset _ q.offset) Sql.emits_words_nil

theorem emits_renderWhole (hg : g.Unmarked) (ha : ∀ a' ∈ a, a'.Unmarked) (h : q.FilledParts)
    (hp : q.Written p) : (q.renderWhole g a p).Emits (q.wholeSlots a) := by
  have hsingle := emits_renderSingle hg ha h hp
  unfold renderWhole wholeSlots unionOrderSlots
  split
  -- Without further members the orderings of the whole are not written, if there are any.
  . next hunions =>
    rw [List.isEmpty_iff.mp hunions, memberSlots, List.append_nil, List.append_nil]
    exact hsingle
  . have hmembers : (Sql.words (p.members ++ [renderOrders g q.unionOrders,
        renderLimit q.unionLimit, renderOffset g q.unionLimit.isSome q.unionOffset])).Emits
        (memberSlots q.unions ++
          (q.unionOrders.flatMap Ordering.slots ++ ([] ++ ([] ++ [])))) := by
      apply hp.members
      apply Sql.Emits.words_cons (emits_renderOrders hg h.unionOrders)
      apply Sql.Emits.words_cons (emits_renderLimit q.unionLimit)
      exact Sql.Emits.words_cons (emits_renderOffset _ q.unionOffset) Sql.emits_words_nil
    rw [List.append_assoc]
    simpa using ((emits_encloseMember g.dialect hsingle).append_text (by decide)).append hmembers

theorem emits_renderBody (hg : g.Unmarked) (ha : ∀ a' ∈ a, a'.Unmarked) (h : q.FilledParts)
    (hp : q.Written p) : (q.renderBody g a p).Emits (q.wholeSlots a) := by
  have := Sql.Emits.words_cons (emits_renderWhole hg ha h hp)
    (Sql.Emits.words_cons (emits_renderLock (g := g) h.lock) Sql.emits_words_nil)
  simpa [renderBody] using this

theorem slots_eq_wholeSlots (q : Select)
    : q.slots = q.wholeSlots (if q.unions.isEmpty then q.aggregate else none) := by
  rw [slots_eq, wholeSlots, singleSlots, selectionSlots, headSlots]
  cases q.unions.isEmpty with
  | false => simp
  | true => simp

theorem emits_assemble (hg : g.Unmarked) (h : q.FilledParts) (hp : q.Written p)
    : (q.assemble g p).Emits q.slots := by
  have hnone : ∀ a ∈ (none : Option Aggregate), a.Unmarked := by
    intro a ha
    contradiction
  rw [slots_eq_wholeSlots]
  unfold assemble
  split
  . next a hsome =>
    split
    . rw [hsome]
      apply emits_renderBody hg _ h hp
      rw [← hsome]
      exact h.aggregate
    . have haggregate := Aggregate.emits_render hg q.distinct (h.aggregate a hsome)
      have hbody := emits_renderBody hg hnone h hp
      have hlabel := Grammar.unmarked_wrapTable hg (s := "temp_table") (by decide)
      apply Sql.Emits.append_text _ hlabel
      apply Sql.Emits.append_text _ (by decide)
      exact (haggregate.append_text (by decide)).append hbody
  . next hsome =>
    rw [hsome, ite_self]
    exact emits_renderBody hg hnone h hp

end Select

end SqlForge
