import SqlForge.Builder.Clause
import SqlForge.Proofs.Placeholder.Bound

/-!
Two builders that the same calls were made on, in grammars of their own. What they would write
differs, and so may the text of their subqueries by now. They agree in the values they have, in what
decides where further values go, and in the values that their clauses have placeholders for.
-/

namespace SqlForge

open Text

/-! ### Two computations -/

section
variable {α α' β β' : Type} {R : α → α' → Prop} {S : β → β' → Prop}
  {x : Except Failure α} {x' : Except Failure α'}

/-- If both succeed, `R` holds of what they give. -/
def Agree (R : α → α' → Prop) (x : Except Failure α) (x' : Except Failure α') : Prop :=
  ∀ a a', x = .ok a → x' = .ok a' → R a a'

theorem agree_ok {a : α} {a' : α'} (h : R a a') : Agree R (.ok a) (.ok a') := by
  intro _ _ ha ha'
  cases ha
  cases ha'
  exact h

theorem Agree.bind {k : α → Except Failure β} {k' : α' → Except Failure β'} (h : Agree R x x')
    (hk : ∀ a a', R a a' → Agree S (k a) (k' a')) : Agree S (x >>= k) (x' >>= k') := by
  intro b b' hb hb'
  obtain ⟨a, ha, hb⟩ := bind_eq_ok.mp hb
  obtain ⟨a', ha', hb'⟩ := bind_eq_ok.mp hb'
  exact hk a a' (h a a' ha ha') b b' hb hb'

theorem Agree.map {f : α → β} {f' : α' → β'} (h : Agree R x x')
    (hf : ∀ a a', R a a' → S (f a) (f' a')) : Agree S (f <$> x) (f' <$> x') := by
  intro b b' hb hb'
  obtain ⟨a, ha, rfl⟩ := map_eq_ok.mp hb
  obtain ⟨a', ha', rfl⟩ := map_eq_ok.mp hb'
  exact hf a a' (h a a' ha ha')

theorem agree_refl {R : α → α → Prop} (h : ∀ a, x = .ok a → R a a) : Agree R x x := by
  intro a a' ha ha'
  cases Except.ok.inj (ha.symm.trans ha')
  exact h a ha

theorem agree_any : Agree (fun _ _ => True) x x' :=
  fun _ _ _ _ => trivial

end

/-- `P` holds of both, and `slots` gives the same for both. -/
structure Matched {α β : Type} (P : α → Prop) (slots : α → β) (a a' : α) : Prop where
  left : P a
  right : P a'
  slots : slots a = slots a'

theorem Matched.refl {α β : Type} {P : α → Prop} {slots : α → β} {a : α} (h : P a)
    : Matched P slots a a :=
  ⟨h, h, rfl⟩

/-! ### The relation -/

/-- What the buckets would have if they had just the values that there are placeholders for. -/
def Select.placed (q : Select) : Bindings where
  select := q.slotsOf .select
  source := q.slotsOf .source
  join := q.slotsOf .join
  filter := q.slotsOf .filter
  having := q.slotsOf .having
  order := q.slotsOf .order
  union := q.slotsOf .union

theorem Select.get_placed (q : Select) (k : Bucket) : q.placed.get k = q.slotsOf k := by
  cases k <;> rfl

namespace Builder

def aligned (b : Builder) : Builder :=
  { b with bindings := b.query.placed }

def Placed (b b' : Builder) : Prop :=
  Matched Sound (fun b => b.query.placed) b b'

/-- The placeholders are compared only if the calls are `legible`. -/
structure Alike (legible : Prop) (b b' : Builder) : Prop where
  bindings : b.bindings = b'.bindings
  carried : b.query.carriedValues = b'.query.carriedValues
  compound : b.isCompound = b'.isCompound
  filtered : b.query.wheres.isEmpty = b'.query.wheres.isEmpty
  placed : legible → Placed b b'

variable {b b' c c' : Builder} {legible : Prop}

theorem complete_aligned (h : b.Sound) : b.aligned.Complete where
  grammar := h.grammar
  query := h.query
  records := b.query.get_placed

theorem bindings_of_complete (h : b.Complete) : b.bindings = b.query.placed := by
  have hselect := h.records .select
  have hsource := h.records .source
  have hjoin := h.records .join
  have hfilter := h.records .filter
  have hhaving := h.records .having
  have horder := h.records .order
  have hunion := h.records .union
  unfold Records Bindings.get at *
  unfold Select.placed
  rw [← hselect, ← hsource, ← hjoin, ← hfilter, ← hhaving, ← horder, ← hunion]

/-- A step that keeps builders in line with their placeholders keeps the placeholders alike. -/
theorem Placed.of_keeps (h : Placed b b') (hc : Keeps b.aligned c) (hc' : Keeps b'.aligned c')
    (hbindings : b.query.placed = b'.query.placed → c.bindings = c'.bindings)
    (values values' : Bindings)
    : Placed { c with bindings := values } { c' with bindings := values' } := by
  have hcomplete := (complete_aligned h.left).keep hc
  have hcomplete' := (complete_aligned h.right).keep hc'
  constructor
  . exact ⟨hcomplete.grammar, hcomplete.query⟩
  . exact ⟨hcomplete'.grammar, hcomplete'.query⟩
  . have := hbindings h.slots
    rwa [bindings_of_complete hcomplete, bindings_of_complete hcomplete'] at this

theorem slots_eq_placed (h : b.Sound)
    : b.query.slots = b.query.placed.flatten ++ b.query.carriedValues :=
  (values_eq_slots (complete_aligned h)).symm

theorem filled_query (h : b.Sound) : b.query.Filled :=
  Select.filled_iff.mpr h.query.toFilledParts

theorem Alike.values (h : Alike legible b b') : b.values = b'.values := by
  rw [Builder.values, Builder.values, h.bindings, h.carried]

theorem Alike.query (h : Alike legible b b') (hlegible : legible)
    : Matched Select.Filled Select.slots b.query b'.query := by
  have hplaced := h.placed hlegible
  constructor
  . exact filled_query hplaced.left
  . exact filled_query hplaced.right
  . have hslots : b.query.placed = b'.query.placed := hplaced.slots
    rw [slots_eq_placed hplaced.left, slots_eq_placed hplaced.right, hslots, h.carried]

/-- What they are written as has the same question marks, and each stands for the same value. -/
theorem Alike.matched_sql (h : Alike legible b b') {sql sql' : Sql} (hsql : b.sql = .ok sql)
    (hsql' : b'.sql = .ok sql') (hlegible : legible) : Matched Sql.Filled Sql.values sql sql' := by
  have hplaced := h.placed hlegible
  have hquery := h.query hlegible
  have hemits := Select.emits_render hplaced.left.grammar b.query hquery.left hsql
  have hemits' := Select.emits_render hplaced.right.grammar b'.query hquery.right hsql'
  constructor
  . exact hemits.filled
  . exact hemits'.filled
  . rw [hemits.values_eq, hemits'.values_eq, hquery.slots]

theorem alike_new {g g' : Grammar} (hg : legible → g.Unmarked ∧ g'.Unmarked)
    : Alike legible (new g) (new g') where
  bindings := rfl
  carried := rfl
  compound := rfl
  filtered := rfl
  placed hlegible := ⟨sound_new (hg hlegible).1, sound_new (hg hlegible).2, rfl⟩

theorem Alike.grammars (h : Alike legible b b') (hlegible : legible)
    : b.grammar.Unmarked ∧ b'.grammar.Unmarked :=
  ⟨(h.placed hlegible).left.grammar, (h.placed hlegible).right.grammar⟩

theorem Alike.nested (h : Alike legible b b') : Alike legible b.nested b'.nested where
  bindings := rfl
  carried := rfl
  compound := rfl
  filtered := rfl
  placed hlegible := by
    have hplaced := h.placed hlegible
    constructor
    . exact sound_nested hplaced.left
    . exact sound_nested hplaced.right
    -- Of the placeholders only those of the source are taken over.
    . have hsource : b.query.sourceSlots = b'.query.sourceSlots :=
        congrArg Bindings.source hplaced.slots
      exact congrArg (fun values : List Value => ({ source := values } : Bindings)) hsource

end Builder

/-! ### Conditions -/

/-- A condition with its values, as it is added to either builder. -/
structure Bound.Alike (legible : Prop) (bound bound' : Bound) : Prop where
  values : bound.values = bound'.values
  condition : legible → Matched Condition.Filled Condition.slots bound.condition bound'.condition

/-- With the values of its placeholders in place of the values that were bound. -/
def Bound.aligned (bound : Bound) : Bound :=
  { bound with values := bound.condition.slots }

theorem Bound.filled_aligned {bound : Bound} (h : bound.condition.Filled) : bound.aligned.Filled :=
  ⟨h, rfl⟩

namespace Bound

variable {legible : Prop} {g g' : Grammar} {bound bound' : Bound} {column : Column}
  {operand : Operand} {operator : String}

theorem alike_self (h : legible → bound.Filled) : Bound.Alike legible bound bound where
  values := rfl
  condition hlegible := .refl (h hlegible).condition

/-- A grammar only has to accept the operator. -/
theorem eq_of_checked {x : Except Failure Bound}
    (h : (g.checkOperator operator >>= fun _ => x) = .ok bound)
    (h' : (g'.checkOperator operator >>= fun _ => x) = .ok bound') : bound = bound' :=
  Except.ok.inj ((Grammar.checkOperator_bind_eq_ok.mp h).2.symm.trans
    (Grammar.checkOperator_bind_eq_ok.mp h').2)

theorem agree_compare (h : legible → column.Unmarked ∧ operand.Unmarked)
    : Agree (Bound.Alike legible) (compare g column operator operand)
        (compare g' column operator operand) := by
  intro bound bound' hbound hbound'
  cases eq_of_checked hbound hbound'
  apply alike_self
  intro hlegible
  exact filled_compare (h hlegible).1 (h hlegible).2 hbound

theorem agree_compareDate {part : DatePart} (h : legible → column.Unmarked ∧ operand.Unmarked)
    : Agree (Bound.Alike legible) (compareDate g part column operator operand)
        (compareDate g' part column operator operand) := by
  intro bound bound' hbound hbound'
  cases eq_of_checked hbound hbound'
  apply alike_self
  intro hlegible
  exact filled_compareDate (h hlegible).1 (h hlegible).2 hbound

theorem agree_compareColumns {first second : Column}
    (h : legible → first.Unmarked ∧ second.Unmarked)
    : Agree (Bound.Alike legible) (compareColumns g first operator second)
        (compareColumns g' first operator second) := by
  intro bound bound' hbound hbound'
  cases eq_of_checked hbound hbound'
  apply alike_self
  intro hlegible
  exact filled_compareColumns (h hlegible).1 (h hlegible).2 hbound

theorem agree_compareRow {columns : List Column} {operands : List Operand}
    (h : legible → (∀ column ∈ columns, column.Unmarked) ∧ ∀ operand ∈ operands, operand.Unmarked)
    : Agree (Bound.Alike legible) (compareRow g columns operator operands)
        (compareRow g' columns operator operands) := by
  intro bound bound' hbound hbound'
  obtain ⟨_, _, rfl⟩ := compareRow_eq_ok.mp hbound'
  obtain ⟨_, _, rfl⟩ := compareRow_eq_ok.mp hbound
  apply alike_self
  intro hlegible
  exact filled_compareRow (h hlegible).1 (h hlegible).2 hbound

section
variable {query query' : Builder} (hquery : query.Alike legible query')
include hquery

theorem alike_amongRows (negated : Bool) (h : legible → column.Unmarked)
    : Bound.Alike legible (amongRows column query negated) (amongRows column query' negated) where
  values := hquery.values
  condition hlegible := by
    have hmatched := hquery.query hlegible
    unfold amongRows
    constructor
    . rw [Condition.Filled]
      exact ⟨h hlegible, hmatched.left⟩
    . rw [Condition.Filled]
      exact ⟨h hlegible, hmatched.right⟩
    . rw [Condition.slots, Condition.slots]
      exact hmatched.slots

theorem alike_rowsExist (negated : Bool)
    : Bound.Alike legible (rowsExist query negated) (rowsExist query' negated) where
  values := hquery.values
  condition hlegible := by
    have hmatched := hquery.query hlegible
    unfold rowsExist
    constructor
    . rw [Condition.Filled]
      exact hmatched.left
    . rw [Condition.Filled]
      exact hmatched.right
    . rw [Condition.slots, Condition.slots]
      exact hmatched.slots

theorem agree_compareQuery (h : legible → column.Unmarked)
    : Agree (Bound.Alike legible) (compareQuery g column operator query)
        (compareQuery g' column operator query') := by
  intro bound bound' hbound hbound'
  obtain ⟨haccepts, rfl⟩ := compareQuery_eq_ok.mp hbound
  obtain ⟨_, rfl⟩ := compareQuery_eq_ok.mp hbound'
  refine ⟨hquery.values, fun hlegible => ?_⟩
  have hoperator := Dialect.unmarked_of_accepts haccepts
  have hmatched := hquery.query hlegible
  constructor
  . rw [Condition.Filled]
    exact ⟨h hlegible, hoperator, hmatched.left⟩
  . rw [Condition.Filled]
    exact ⟨h hlegible, hoperator, hmatched.right⟩
  . rw [Condition.slots, Condition.slots]
    exact hmatched.slots

end

end Bound

end SqlForge
