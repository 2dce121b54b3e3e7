import SqlForge.Proofs.Dialect.Alike
import SqlForge.Proofs.Placeholder.Step

/-!
A step of a builder, made on two builders that are alike, leaves them alike.
-/

namespace SqlForge

open Text

namespace Builder

variable {b b' c c' inner inner' : Builder} {bound bound' : Bound} {legible : Prop}

theorem Alike.filter (h : Alike legible b b') (c : Connective) (hbound : bound.Alike legible bound')
    : Alike legible (b.filter c bound) (b'.filter c bound') where
  bindings := by
    change b.bindings.extend .filter bound.values = b'.bindings.extend .filter bound'.values
    rw [h.bindings, hbound.values]
  carried := h.carried
  compound := h.compound
  filtered := by
    have hmore : ∀ (b : Builder) (bound : Bound),
        (b.filter c bound).query.wheres.isEmpty = false := by
      simp [Builder.filter]
    rw [hmore, hmore]
  placed hlegible := by
    have hcondition := hbound.condition hlegible
    have hkeeps : Keeps b.aligned (b.aligned.filter c bound.aligned) :=
      keeps_filter c (Bound.filled_aligned hcondition.left)
    have hkeeps' : Keeps b'.aligned (b'.aligned.filter c bound'.aligned) :=
      keeps_filter c (Bound.filled_aligned hcondition.right)
    apply (h.placed hlegible).of_keeps hkeeps hkeeps'
    exact fun hplaced => congrArg₂ (Bindings.extend · .filter ·) hplaced hcondition.slots

theorem Alike.having (h : Alike legible b b') (c : Connective) (hbound : bound.Alike legible bound')
    : Alike legible (b.having c bound) (b'.having c bound') where
  bindings := by
    change b.bindings.extend .having bound.values = b'.bindings.extend .having bound'.values
    rw [h.bindings, hbound.values]
  carried := h.carried
  compound := h.compound
  filtered := h.filtered
  placed hlegible := by
    have hcondition := hbound.condition hlegible
    have hkeeps : Keeps b.aligned (b.aligned.having c bound.aligned) :=
      keeps_having c (Bound.filled_aligned hcondition.left)
    have hkeeps' : Keeps b'.aligned (b'.aligned.having c bound'.aligned) :=
      keeps_having c (Bound.filled_aligned hcondition.right)
    apply (h.placed hlegible).of_keeps hkeeps hkeeps'
    exact fun hplaced => congrArg₂ (Bindings.extend · .having ·) hplaced hcondition.slots

theorem Alike.filterGroup (h : Alike legible b b') (c : Connective)
    (hinner : Alike legible inner inner')
    : Alike legible (b.filterGroup c inner) (b'.filterGroup c inner') := by
  unfold Builder.filterGroup
  rw [← hinner.filtered]
  split
  . exact h
  . apply h.filter c
    constructor
    . exact congrArg Bindings.filter hinner.bindings
    . intro hlegible
      have hplaced := hinner.placed hlegible
      constructor
      . rw [Condition.Filled]
        exact hplaced.left.query.wheres
      . rw [Condition.Filled]
        exact hplaced.right.query.wheres
      . rw [Condition.slots, Condition.slots]
        exact congrArg Bindings.filter hplaced.slots

theorem Alike.filterPairs (h : Alike legible b b') {pairs : List (Column × Operand)}
    (hpairs : legible → ∀ pair ∈ pairs, pair.1.Unmarked ∧ pair.2.Unmarked)
    : Alike legible (b.filterPairs pairs) (b'.filterPairs pairs) := by
  apply h.filterGroup .and
  have hnested := h.nested
  generalize b.nested = inner, b'.nested = inner' at hnested
  induction pairs generalizing inner inner' with
  | nil => exact hnested
  | cons pair pairs ih =>
    rw [List.foldl_cons, List.foldl_cons]
    apply ih
    . exact fun hlegible other hother => hpairs hlegible other (List.mem_cons_of_mem pair hother)
    . apply hnested.filter .and
      apply Bound.alike_self
      intro hlegible
      have hpair := hpairs hlegible pair List.mem_cons_self
      exact Bound.filled_equal hpair.1 hpair.2

/-! ### Columns and source -/

theorem Alike.select (h : Alike legible b b') {columns : List Column}
    (hcolumns : legible → ∀ column ∈ columns, column.Unmarked)
    : Alike legible (b.select columns) (b'.select columns) where
  bindings := congrArg (Bindings.clear · .select) h.bindings
  carried := h.carried
  compound := h.compound
  filtered := h.filtered
  placed hlegible := by
    have hkeeps : Keeps b.aligned (b.aligned.select columns) := keeps_select (hcolumns hlegible)
    have hkeeps' : Keeps b'.aligned (b'.aligned.select columns) := keeps_select (hcolumns hlegible)
    apply (h.placed hlegible).of_keeps hkeeps hkeeps'
    exact congrArg (Bindings.clear · .select)

theorem Alike.addSelections (h : Alike legible b b') {selections selections' : List Selection}
    (values : List Value)
    (hselections : legible →
      Matched (fun l => ∀ s ∈ l, s.Filled) (fun l => l.flatMap Selection.slots) selections
        selections')
    : Alike legible (b.addSelections selections values) (b'.addSelections selections' values) where
  bindings := congrArg (Bindings.extend · .select values) h.bindings
  carried := h.carried
  compound := h.compound
  filtered := h.filtered
  placed hlegible := by
    have hmatched := hselections hlegible
    have hkeeps := keeps_addSelections (b := b.aligned) hmatched.left rfl
    have hkeeps' := keeps_addSelections (b := b'.aligned) hmatched.right rfl
    apply (h.placed hlegible).of_keeps hkeeps hkeeps'
    exact fun hplaced => congrArg₂ (Bindings.extend · .select ·) hplaced hmatched.slots

/-- The values of an older source stay, but its placeholders do not. -/
theorem Alike.setSource (h : Alike legible b b') {source source' : Source} (values : List Value)
    (hsource : legible → Matched Source.Filled Source.slots source source')
    : Alike legible (b.setSource source values) (b'.setSource source' values) where
  bindings := congrArg (Bindings.extend · .source values) h.bindings
  carried := h.carried
  compound := h.compound
  filtered := h.filtered
  placed hlegible := by
    have hmatched := hsource hlegible
    have hplaced := h.placed hlegible
    have hfilled : ∀ s ∈ some source, s.Filled := by simpa using hmatched.left
    have hfilled' : ∀ s ∈ some source', s.Filled := by simpa using hmatched.right
    have hset : ∀ (b : Builder) (s : Source), (b.setSource s values).query.placed
        = b.query.placed.set .source (s.slots ++ []) := fun _ _ => rfl
    constructor
    . exact ⟨hplaced.left.grammar, { hplaced.left.query with source := hfilled }⟩
    . exact ⟨hplaced.right.grammar, { hplaced.right.query with source := hfilled' }⟩
    . have hslots : b.query.placed = b'.query.placed := hplaced.slots
      rw [hset, hset, hslots, hmatched.slots]

section
variable {sql sql' : Sql} {label : String}
  (hsql : legible → Matched Sql.Filled Sql.values sql sql') (hlabel : legible → Unmarked label)
include hsql hlabel

theorem Alike.aliasColumn (h : Alike legible b b') (hlegible : legible)
    : Matched Sql.Filled Sql.values (b.aliasColumn sql label) (b'.aliasColumn sql' label) := by
  have hplaced := h.placed hlegible
  have hmatched := hsql hlegible
  have hemits := emits_aliasColumn hplaced.left hmatched.left (hlabel hlegible)
  have hemits' := emits_aliasColumn hplaced.right hmatched.right (hlabel hlegible)
  constructor
  . exact hemits.filled
  . exact hemits'.filled
  . rw [hemits.values_eq, hemits'.values_eq, hmatched.slots]

theorem Alike.aliasTable (h : Alike legible b b') (hlegible : legible)
    : Matched Sql.Filled Sql.values (b.aliasTable sql label) (b'.aliasTable sql' label) := by
  have hplaced := h.placed hlegible
  have hmatched := hsql hlegible
  have hemits := emits_aliasTable hplaced.left hmatched.left (hlabel hlegible)
  have hemits' := emits_aliasTable hplaced.right hmatched.right (hlabel hlegible)
  constructor
  . exact hemits.filled
  . exact hemits'.filled
  . rw [hemits.values_eq, hemits'.values_eq, hmatched.slots]

end

theorem Alike.addFragment (h : Alike legible b b') {sql sql' : Sql} (values : List Value)
    (hsql : legible → Matched Sql.Filled Sql.values sql sql')
    : Alike legible (b.addSelections [.fragment sql] values)
        (b'.addSelections [.fragment sql'] values) := by
  apply h.addSelections values
  intro hlegible
  have hmatched := hsql hlegible
  constructor
  . simpa [Selection.Filled] using hmatched.left
  . simpa [Selection.Filled] using hmatched.right
  . simpa [Selection.slots] using hmatched.slots

theorem Alike.addSelect (h : Alike legible b b') {columns : List Column}
    (hcolumns : legible → ∀ column ∈ columns, column.Unmarked)
    : Alike legible (b.addSelect columns) (b'.addSelect columns) := by
  apply h.addSelections []
  intro hlegible
  apply Matched.refl
  simpa [Selection.Filled] using hcolumns hlegible

/-! ### Joins -/

theorem Alike.addJoin (h : Alike legible b b') (kind : JoinKind) {source source' : Source}
    (values : List Value) (hsource : legible → Matched Source.Filled Source.slots source source')
    (hinner : Alike legible inner inner')
    : Alike legible ((b.bind .join values).addJoin kind source inner)
        ((b'.bind .join values).addJoin kind source' inner') where
  bindings := by
    change (b.bindings.extend .join values).extend .join
        (inner.bindings.flattenOnly [.join, .filter])
      = (b'.bindings.extend .join values).extend .join
          (inner'.bindings.flattenOnly [.join, .filter])
    rw [h.bindings, hinner.bindings]
  carried := h.carried
  compound := h.compound
  filtered := h.filtered
  placed hlegible := by
    have hmatched := hsource hlegible
    have hjoined := hinner.placed hlegible
    have hkeeps := keeps_addJoin (b := b.aligned) kind hmatched.left rfl
      (complete_aligned hjoined.left)
    have hkeeps' := keeps_addJoin (b := b'.aligned) kind hmatched.right rfl
      (complete_aligned hjoined.right)
    apply (h.placed hlegible).of_keeps hkeeps hkeeps'
    intro hplaced
    have hslots : inner.query.placed = inner'.query.placed := hjoined.slots
    change (b.query.placed.extend .join source.slots).extend .join
        (inner.query.placed.flattenOnly [.join, .filter])
      = (b'.query.placed.extend .join source'.slots).extend .join
          (inner'.query.placed.flattenOnly [.join, .filter])
    rw [hplaced, hmatched.slots, hslots]

theorem Alike.crossJoin (h : Alike legible b b') {source source' : Source} (values : List Value)
    (hsource : legible → Matched Source.Filled Source.slots source source')
    : Alike legible ((b.bind .join values).crossJoin source)
        ((b'.bind .join values).crossJoin source') :=
  h.addJoin .cross values hsource (alike_new h.grammars)

theorem Alike.joinOn (h : Alike legible b b') (kind : JoinKind) {source source' : Source}
    (values : List Value) (hsource : legible → Matched Source.Filled Source.slots source source')
    {x x' : Except Failure Bound} (hbound : Agree (Bound.Alike legible) x x')
    : Agree (Alike legible) ((b.bind .join values).joinOn kind source x)
        ((b'.bind .join values).joinOn kind source' x') := by
  refine hbound.bind ?_
  intro bound bound' hbound
  exact agree_ok (h.addJoin kind values hsource ((alike_new h.grammars).filter .and hbound))

/-! ### Orderings, paging, compound statements, locks -/

/-- A step that has nothing to do with values. -/
structure Idle (legible : Prop) (b c : Builder) : Prop where
  bindings : c.bindings = b.bindings
  carried : c.query.carriedValues = b.query.carriedValues
  compound : c.isCompound = b.isCompound
  filtered : c.query.wheres = b.query.wheres
  placed : c.query.placed = b.query.placed
  sound : legible → b.Sound → c.Sound

theorem Idle.trans {d : Builder} (h : Idle legible b c) (h' : Idle legible c d)
    : Idle legible b d where
  bindings := h'.bindings.trans h.bindings
  carried := h'.carried.trans h.carried
  compound := h'.compound.trans h.compound
  filtered := h'.filtered.trans h.filtered
  placed := h'.placed.trans h.placed
  sound hlegible hb := h'.sound hlegible (h.sound hlegible hb)

theorem Alike.idle (h : Alike legible b b') (hc : Idle legible b c) (hc' : Idle legible b' c')
    : Alike legible c c' where
  bindings := by rw [hc.bindings, hc'.bindings, h.bindings]
  carried := by rw [hc.carried, hc'.carried, h.carried]
  compound := by rw [hc.compound, hc'.compound, h.compound]
  filtered := by rw [hc.filtered, hc'.filtered, h.filtered]
  placed hlegible := by
    have hplaced := h.placed hlegible
    constructor
    . exact hc.sound hlegible hplaced.left
    . exact hc'.sound hlegible hplaced.right
    . have hslots : b.query.placed = b'.query.placed := hplaced.slots
      rw [hc.placed, hc'.placed, hslots]

theorem idle_groupBy (b : Builder) {columns : List Column}
    (h : legible → ∀ column ∈ columns, column.Unmarked) : Idle legible b (b.groupBy columns) :=
  ⟨rfl, rfl, rfl, rfl, rfl, fun hlegible => (keeps_groupBy (h hlegible)).sound⟩

theorem idle_distinct (b : Builder) : Idle legible b b.distinct :=
  ⟨rfl, rfl, rfl, rfl, rfl, fun _ => keeps_distinct.sound⟩

theorem idle_lock (b : Builder) {l : Lock} (h : legible → l.Unmarked) : Idle legible b (b.lock l) :=
  ⟨rfl, rfl, rfl, rfl, rfl, fun hlegible => (keeps_lock (h hlegible)).sound⟩

theorem idle_limit (b : Builder) (n : Int) : Idle legible b (b.limit n) := by
  unfold limit
  split
  . exact ⟨rfl, rfl, rfl, rfl, rfl, fun _ => id⟩
  . split
    . exact ⟨rfl, rfl, rfl, rfl, rfl, fun _ hb => ⟨hb.grammar, { hb.query with }⟩⟩
    . exact ⟨rfl, rfl, rfl, rfl, rfl, fun _ hb => ⟨hb.grammar, { hb.query with }⟩⟩

theorem idle_offset (b : Builder) (n : Int) : Idle legible b (b.offset n) := by
  unfold offset
  split
  . exact ⟨rfl, rfl, rfl, rfl, rfl, fun _ hb => ⟨hb.grammar, { hb.query with }⟩⟩
  . exact ⟨rfl, rfl, rfl, rfl, rfl, fun _ hb => ⟨hb.grammar, { hb.query with }⟩⟩

theorem idle_forPage (b : Builder) (page perPage : Nat) : Idle legible b (b.forPage page perPage) :=
  (idle_offset b _).trans (idle_limit _ _)

section
variable {o o' : Ordering} (horder : legible → Matched Ordering.Filled Ordering.slots o o')
include horder

theorem Alike.order (h : Alike legible b b') (values : List Value)
    : Alike legible
        (bind { b with query := { b.query with orders := b.query.orders ++ [o] } } .order values)
        (bind { b' with query := { b'.query with orders := b'.query.orders ++ [o'] } } .order
          values) where
  bindings := congrArg (Bindings.extend · .order values) h.bindings
  carried := h.carried
  compound := h.compound
  filtered := h.filtered
  placed hlegible := by
    have hmatched := horder hlegible
    have hkeeps := keeps_order (b := b.aligned) hmatched.left rfl
    have hkeeps' := keeps_order (b := b'.aligned) hmatched.right rfl
    apply (h.placed hlegible).of_keeps hkeeps hkeeps'
    exact fun hplaced => congrArg₂ (Bindings.extend · .order ·) hplaced hmatched.slots

theorem Alike.unionOrder (h : Alike legible b b') (hcompound : b.isCompound)
    (hcarried : o.carried = o'.carried)
    (hslots : legible → o.carried = o.slots ∧ o'.carried = o'.slots)
    : Alike legible
        { b with query := { b.query with unionOrders := b.query.unionOrders ++ [o] } }
        { b' with query := { b'.query with unionOrders := b'.query.unionOrders ++ [o'] } } where
  bindings := h.bindings
  carried := by
    have hbefore : b.query.unionOrders.flatMap Ordering.carried
        = b'.query.unionOrders.flatMap Ordering.carried := h.carried
    simp only [Select.carriedValues, List.flatMap_append, List.flatMap_singleton, hbefore, hcarried]
  compound := h.compound
  filtered := h.filtered
  placed hlegible := by
    have hmatched := horder hlegible
    have hcompound' : b'.isCompound := h.compound ▸ hcompound
    have hkeeps := keeps_unionOrder (b := b.aligned) hcompound hmatched.left (hslots hlegible).1
    have hkeeps' := keeps_unionOrder (b := b'.aligned) hcompound' hmatched.right (hslots hlegible).2
    exact (h.placed hlegible).of_keeps hkeeps hkeeps' id _ _

end

theorem Alike.orderBy (h : Alike legible b b') {column : Column} (direction : Direction)
    (hcolumn : legible → column.Unmarked)
    : Alike legible (b.orderBy column direction) (b'.orderBy column direction) := by
  have horder : legible → Matched Ordering.Filled Ordering.slots (.column column direction)
      (.column column direction) := fun hlegible => .refl (hcolumn hlegible)
  unfold Builder.orderBy addOrdering
  rw [← h.compound]
  split
  . next hcompound => exact h.unionOrder horder hcompound rfl fun _ => ⟨rfl, rfl⟩
  . have := h.order horder []
    rwa [bind_nil, bind_nil] at this

/-- The order of rows at random is written in each dialect in its own way. -/
theorem Alike.orderByRaw (h : Alike legible b b') {template template' : String}
    {values : List Value} (hfits : legible → Sql.Fits template values ∧ Sql.Fits template' values)
    : Alike legible (b.orderByRaw template values) (b'.orderByRaw template' values) := by
  have hsql : legible → (Sql.ofTemplate template values).Emits values ∧
      (Sql.ofTemplate template' values).Emits values := fun hlegible =>
    ⟨Sql.emits_ofTemplate (hfits hlegible).1, Sql.emits_ofTemplate (hfits hlegible).2⟩
  have horder : ∀ carried, legible → Matched Ordering.Filled Ordering.slots
      (.raw (Sql.ofTemplate template values) carried)
      (.raw (Sql.ofTemplate template' values) carried) := by
    intro carried hlegible
    obtain ⟨hemits, hemits'⟩ := hsql hlegible
    exact ⟨hemits.filled, hemits'.filled, hemits.values_eq.trans hemits'.values_eq.symm⟩
  unfold Builder.orderByRaw addOrdering
  dsimp only
  rw [← h.compound]
  split
  . next hcompound =>
    apply h.unionOrder (horder values) hcompound rfl
    intro hlegible
    obtain ⟨hemits, hemits'⟩ := hsql hlegible
    exact ⟨hemits.values_eq.symm, hemits'.values_eq.symm⟩
  . exact h.order (horder []) values

theorem Alike.inRandomOrder (h : Alike legible b b') (seed : Option Nat)
    : Alike legible (b.inRandomOrder seed) (b'.inRandomOrder seed) := by
  apply h.orderByRaw
  intro _
  exact ⟨List.count_eq_zero.mpr (Grammar.unmarked_randomOrder seed),
    List.count_eq_zero.mpr (Grammar.unmarked_randomOrder seed)⟩

theorem Alike.reorder (h : Alike legible b b') : Alike legible b.reorder b'.reorder where
  bindings := congrArg (Bindings.clear · .order) h.bindings
  carried := rfl
  compound := h.compound
  filtered := h.filtered
  placed hlegible := by
    have hkeeps := keeps_reorder (b := b.aligned)
    have hkeeps' := keeps_reorder (b := b'.aligned)
    apply (h.placed hlegible).of_keeps hkeeps hkeeps'
    exact congrArg (Bindings.clear · .order)

theorem Alike.addUnion (h : Alike legible b b') (all : Bool) {member member' : Builder}
    (hmember : Alike legible member member')
    : Alike legible (b.addUnion all member) (b'.addUnion all member') where
  bindings := congrArg₂ (Bindings.extend · .union ·) h.bindings hmember.values
  carried := h.carried
  compound := by
    have hmore : ∀ b member : Builder, (b.addUnion all member).isCompound := by
      simp [isCompound, Builder.addUnion]
    rw [hmore, hmore]
  filtered := h.filtered
  placed hlegible := by
    have hjoined := hmember.placed hlegible
    have hkeeps := keeps_addUnion (b := b.aligned) all (complete_aligned hjoined.left)
    have hkeeps' := keeps_addUnion (b := b'.aligned) all (complete_aligned hjoined.right)
    apply (h.placed hlegible).of_keeps hkeeps hkeeps'
    intro hplaced
    have hslots : member.aligned.values = member'.aligned.values := by
      rw [values_eq_slots (complete_aligned hjoined.left),
        values_eq_slots (complete_aligned hjoined.right)]
      exact (hmember.query hlegible).slots
    exact congrArg₂ (Bindings.extend · .union ·) hplaced hslots

/-! ### Values by hand -/

theorem Alike.withBindings (h : Alike legible b b') (values : Bindings)
    : Alike legible { b with bindings := values } { b' with bindings := values } where
  bindings := rfl
  carried := h.carried
  compound := h.compound
  filtered := h.filtered
  placed hlegible := by
    have hplaced := h.placed hlegible
    exact ⟨⟨hplaced.left.grammar, hplaced.left.query⟩, ⟨hplaced.right.grammar, hplaced.right.query⟩,
      hplaced.slots⟩

end Builder

end SqlForge
