import SqlForge.Builder.Clause
import SqlForge.Proofs.Placeholder.Bound

/-!
The steps of a builder keep it sound, and each bucket in line with its clause.
-/

namespace SqlForge

open Text

namespace Builder

variable {b inner : Builder} {bound : Bound}

/-! ### Conditions -/

theorem keeps_filter (c : Connective) (h : bound.Filled) : Keeps b (b.filter c bound) := by
  apply keeps_extend
  . intro hq
    have : ClausesFilled (b.query.wheres ++ [⟨c, bound.condition⟩]) := by
      simp [clausesFilled_append, ClausesFilled, hq.wheres, h.condition]
    exact { hq with wheres := this }
  . simp [Select.slotsOf, clauseSlots_append, clauseSlots, h.values]
  . intro l hl
    cases l <;> first | rfl | contradiction

theorem keeps_having (c : Connective) (h : bound.Filled) : Keeps b (b.having c bound) := by
  apply keeps_extend
  . intro hq
    have : ClausesFilled (b.query.havings ++ [⟨c, bound.condition⟩]) := by
      simp [clausesFilled_append, ClausesFilled, hq.havings, h.condition]
    exact { hq with havings := this }
  . simp [Select.slotsOf, clauseSlots_append, clauseSlots, h.values]
  . intro l hl
    cases l <;> first | rfl | contradiction

theorem keeps_filterGroup (c : Connective) (hinner : inner.Sound) (hfilter : inner.Records .filter)
    : Keeps b (b.filterGroup c inner) := by
  unfold filterGroup
  split
  . exact Keeps.refl b
  . apply keeps_filter
    constructor
    . rw [Condition.Filled]
      exact hinner.query.wheres
    . rw [Condition.slots]
      exact hfilter

theorem keeps_foldl_filter {pairs : List (Column × Operand)}
    (h : ∀ pair ∈ pairs, pair.1.Unmarked ∧ pair.2.Unmarked) (b : Builder)
    : Keeps b (pairs.foldl (fun inner (column, operand) =>
        inner.filter .and (.equal column operand)) b) := by
  induction pairs generalizing b with
  | nil => exact Keeps.refl b
  | cons pair pairs ih =>
    have hpair := h pair List.mem_cons_self
    rw [List.foldl_cons]
    apply Keeps.trans (keeps_filter .and (Bound.filled_equal hpair.1 hpair.2))
    apply ih
    intro other hother
    exact h other (List.mem_cons_of_mem pair hother)

theorem keeps_filterGroup_nested (c : Connective) (hb : b.Sound) (h : Keeps b.nested inner)
    : Keeps b (b.filterGroup c inner) :=
  keeps_filterGroup c (h.sound (sound_nested hb)) (h.records (records_nested b (by decide)))

theorem keeps_filterPairs {pairs : List (Column × Operand)} (hb : b.Sound)
    (h : ∀ pair ∈ pairs, pair.1.Unmarked ∧ pair.2.Unmarked) : Keeps b (b.filterPairs pairs) :=
  keeps_filterGroup_nested .and hb (keeps_foldl_filter h b.nested)

/-! ### Columns, source, groups -/

theorem keeps_select {columns : List Column} (h : ∀ c ∈ columns, c.Unmarked)
    : Keeps b (b.select columns) := by
  apply keeps_set
  . intro hq
    have : ∀ s ∈ columns.map Selection.column, s.Filled := by simpa [Selection.Filled] using h
    exact { hq with selections := this }
  . intro _
    simp [Select.slotsOf, Selection.slots, List.flatMap_map]
  . intro l hl
    cases l <;> first | rfl | contradiction

theorem keeps_addSelections {selections : List Selection} {values : List Value}
    (h : ∀ s ∈ selections, s.Filled) (hvalues : selections.flatMap Selection.slots = values)
    : Keeps b (b.addSelections selections values) := by
  apply keeps_extend
  . intro hq
    exact { hq with selections := List.forall_mem_append.mpr ⟨hq.selections, h⟩ }
  . rw [Select.slotsOf, List.flatMap_append, hvalues]
    rfl
  . intro l hl
    cases l <;> first | rfl | contradiction

theorem keeps_addSelect {columns : List Column} (h : ∀ c ∈ columns, c.Unmarked)
    : Keeps b (b.addSelect columns) := by
  apply keeps_addSelections
  . simpa [Selection.Filled] using h
  . simp [Selection.slots, List.flatMap_map]

theorem keeps_addFragment {sql : Sql} {values : List Value} (h : sql.Emits values)
    : Keeps b (b.addSelections [.fragment sql] values) := by
  apply keeps_addSelections
  . simpa [Selection.Filled] using h.filled
  . simp [Selection.slots, h.values_eq]

theorem emits_aliasColumn (hb : b.Sound) {sql : Sql} {values : List Value} {label : String}
    (h : sql.Emits values) (hlabel : Unmarked label)
    : (b.aliasColumn sql label).Emits values := by
  apply Sql.Emits.append_text _ (Grammar.unmarked_wrap hb.grammar hlabel)
  exact (Sql.Emits.text_append (by decide) h).append_text (by decide)

theorem emits_aliasTable (hb : b.Sound) {sql : Sql} {values : List Value} {label : String}
    (h : sql.Emits values) (hlabel : Unmarked label) : (b.aliasTable sql label).Emits values := by
  apply Sql.Emits.append_text _ (Grammar.unmarked_wrapTable hb.grammar hlabel)
  exact (Sql.Emits.text_append (by decide) h).append_text (by decide)

theorem keeps_setSource {source : Source} {values : List Value} (h : source.Filled)
    (hvalues : source.slots = values) (hold : b.query.sourceSlots = [])
    : Keeps b (b.setSource source values) := by
  apply keeps_extend
  . intro hq
    have : ∀ s ∈ some source, s.Filled := by simpa using h
    exact { hq with source := this }
  -- The values of an older source would stay, so there must not be any.
  . rw [Select.slotsOf, Select.slotsOf, hold, ← hvalues]
    simp [Select.sourceSlots]
  . intro l hl
    cases l <;> first | rfl | contradiction

theorem keeps_fragmentSource {sql : Sql} {values : List Value} (h : sql.Emits values)
    (hold : b.query.sourceSlots = []) : Keeps b (b.setSource (.fragment sql) values) :=
  keeps_setSource h.filled h.values_eq hold

theorem keeps_groupBy {columns : List Column} (h : ∀ c ∈ columns, c.Unmarked)
    : Keeps b (b.groupBy columns) := by
  apply keeps_query
  . intro hq
    exact { hq with groups := List.forall_mem_append.mpr ⟨hq.groups, h⟩ }
  . intro k
    cases k <;> rfl

/-! ### Joins -/

theorem keeps_addJoin (kind : JoinKind) {source : Source} {values : List Value}
    (h : source.Filled) (hvalues : source.slots = values) (hinner : inner.Complete)
    : Keeps b ((b.bind .join values).addJoin kind source inner) := by
  let join : Join := ⟨kind, source, inner.query.joins, inner.query.wheres⟩
  have hfilled : join.Filled := by
    rw [Join.Filled]
    exact ⟨h, hinner.query.joins, hinner.query.wheres⟩
  have hslots : join.slots = values ++ inner.bindings.flattenOnly [.join, .filter] := by
    have hflatten : inner.bindings.flattenOnly [.join, .filter]
        = inner.bindings.get .join ++ inner.bindings.get .filter := by
      simp [Bindings.flattenOnly, Bindings.flattenWhere, Bucket.all, List.filter]
    rw [Join.slots, hvalues, hflatten, hinner.records .join, hinner.records .filter,
      List.append_assoc]
    rfl
  -- The values of the source are in the bucket already, in front of those of `inner`.
  have heq : (b.bind .join values).addJoin kind source inner
      = { b with
          query := { b.query with joins := b.query.joins ++ [join] }
          bindings := b.bindings.extend .join join.slots } := by
    rw [hslots, ← Bindings.extend_extend]
    rfl
  rw [heq]
  apply keeps_extend
  . intro hq
    have : JoinsFilled (b.query.joins ++ [join]) := by
      simp [joinsFilled_append, JoinsFilled, hq.joins, hfilled]
    exact { hq with joins := this }
  . simp [Select.slotsOf, joinSlots_append, joinSlots]
  . intro l hl
    cases l <;> first | rfl | contradiction

theorem keeps_addJoin_table (kind : JoinKind) {t : Table} (h : t.Unmarked) (hinner : inner.Complete)
    : Keeps b (b.addJoin kind (.table t) inner) := by
  have hfilled : (Source.table t).Filled := h
  have hslots : (Source.table t).slots = [] := rfl
  have := keeps_addJoin (b := b) kind hfilled hslots hinner
  rwa [bind_nil] at this

theorem keeps_joinOn {b' : Builder} (kind : JoinKind) {source : Source} {values : List Value}
    {bound : Except Failure Bound} (hb : b.Sound) (h : source.Filled)
    (hvalues : source.slots = values) (hbound : ∀ found, bound = .ok found → found.Filled)
    (hok : (b.bind .join values).joinOn kind source bound = .ok b') : Keeps b b' := by
  unfold joinOn at hok
  obtain ⟨found, hfound, hok⟩ := bind_eq_ok.mp hok
  rw [← pure_eq_ok.mp hok]
  have hinner : Keeps (new b.grammar) ((new b.grammar).filter .and found) :=
    keeps_filter .and (hbound found hfound)
  exact keeps_addJoin kind h hvalues ((complete_new hb.grammar).keep hinner)

theorem keeps_crossJoin {source : Source} {values : List Value} (hb : b.Sound) (h : source.Filled)
    (hvalues : source.slots = values) : Keeps b ((b.bind .join values).crossJoin source) :=
  keeps_addJoin .cross h hvalues (complete_new hb.grammar)

/-! ### Orderings, paging, compound statements, locks -/

theorem keeps_order {o : Ordering} {values : List Value} (h : o.Filled) (hvalues : o.slots = values)
    : Keeps b (bind { b with query := { b.query with orders := b.query.orders ++ [o] } } .order
        values) := by
  apply keeps_extend
  . intro hq
    have : ∀ o' ∈ b.query.orders ++ [o], o'.Filled :=
      List.forall_mem_append.mpr ⟨hq.orders, by simpa using h⟩
    exact { hq with orders := this }
  . simp [Select.slotsOf, hvalues]
  . intro l hl
    cases l <;> first | rfl | contradiction

theorem keeps_unionOrder {o : Ordering} (hb : b.isCompound) (h : o.Filled)
    (hcarried : o.carried = o.slots)
    : Keeps b { b with query := { b.query with unionOrders := b.query.unionOrders ++ [o] } } := by
  apply keeps_query
  . intro hq
    have hunions : b.query.unions ≠ [] := by simpa [isCompound] using hb
    have hfilled : ∀ o' ∈ b.query.unionOrders ++ [o], o'.Filled :=
      List.forall_mem_append.mpr ⟨hq.unionOrders, by simpa using h⟩
    have hcarried : ∀ o' ∈ b.query.unionOrders ++ [o], o'.carried = o'.slots :=
      List.forall_mem_append.mpr ⟨hq.carried, by simpa using hcarried⟩
    exact { hq with
      unionOrders := hfilled
      carried := hcarried
      single := fun hnil => absurd hnil hunions }
  . intro k
    cases k <;> rfl

theorem keeps_orderBy {column : Column} (direction : Direction) (h : column.Unmarked)
    : Keeps b (b.orderBy column direction) := by
  unfold orderBy addOrdering
  split
  . next hcompound => exact keeps_unionOrder hcompound h rfl
  . have := keeps_order (b := b) (o := .column column direction) h rfl
    rwa [Ordering.slots, bind_nil] at this

theorem keeps_orderByRaw {template : String} {values : List Value} (h : Sql.Fits template values)
    : Keeps b (b.orderByRaw template values) := by
  have hsql := Sql.emits_ofTemplate h
  unfold orderByRaw addOrdering
  dsimp only
  split
  . next hcompound => exact keeps_unionOrder hcompound hsql.filled hsql.values_eq.symm
  . exact keeps_order hsql.filled hsql.values_eq

theorem keeps_inRandomOrder (seed : Option Nat) : Keeps b (b.inRandomOrder seed) := by
  apply keeps_orderByRaw
  exact List.count_eq_zero.mpr (Grammar.unmarked_randomOrder seed)

theorem keeps_reorder : Keeps b b.reorder := by
  apply keeps_set
  . intro hq
    exact { hq with
      orders := by simp
      unionOrders := by simp
      carried := by simp
      single := fun _ => rfl }
  . intro _
    rfl
  . intro l hl
    cases l <;> first | rfl | contradiction

theorem keeps_limit (n : Int) : Keeps b (b.limit n) := by
  unfold limit
  split
  . exact Keeps.refl b
  . split
    . exact keeps_query (fun hq => { hq with }) fun k => by cases k <;> rfl
    . exact keeps_query (fun hq => { hq with }) fun k => by cases k <;> rfl

theorem keeps_offset (n : Int) : Keeps b (b.offset n) := by
  unfold offset
  split
  . exact keeps_query (fun hq => { hq with }) fun k => by cases k <;> rfl
  . exact keeps_query (fun hq => { hq with }) fun k => by cases k <;> rfl

theorem keeps_forPage (page perPage : Nat) : Keeps b (b.forPage page perPage) :=
  (keeps_offset _).trans (keeps_limit _)

theorem keeps_addUnion (all : Bool) {member : Builder} (h : member.Complete)
    : Keeps b (b.addUnion all member) := by
  apply keeps_extend
  . intro hq
    have hmember : member.query.Filled := Select.filled_iff.mpr h.query.toFilledParts
    have : MembersFilled (b.query.unions ++ [⟨all, member.query⟩]) := by
      simp [membersFilled_append, MembersFilled, hq.unions, hmember]
    exact { hq with
      unions := this
      single := by simp }
  . simp [Select.slotsOf, memberSlots_append, memberSlots, values_eq_slots h]
  . intro l hl
    cases l <;> first | rfl | contradiction

theorem keeps_lock {l : Lock} (h : l.Unmarked) : Keeps b (b.lock l) := by
  apply keeps_query
  . intro hq
    have : ∀ l' ∈ some l, l'.Unmarked := by simpa using h
    exact { hq with lock := this }
  . intro k
    cases k <;> rfl

theorem keeps_distinct : Keeps b b.distinct :=
  keeps_query (fun hq => { hq with }) fun k => by cases k <;> rfl

end Builder

end SqlForge
