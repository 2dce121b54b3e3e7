import Mathlib.Data.List.Basic
import SqlForge.Builder.Filter
import SqlForge.Proofs.Placeholder.Render

/-!
A builder that records its clauses has in each bucket the values of the placeholders of one clause.
The steps of a builder keep it so, bucket by bucket: the builder of a group starts from a source
whose values it does not have, and only its conditions are used.
-/

namespace SqlForge

open Text

/-- The placeholders of the clause that the bucket belongs to. -/
def Select.slotsOf (q : Select) : Bucket → List Value
  | .select => q.selections.flatMap Selection.slots
  | .source => q.sourceSlots
  | .join => joinSlots q.joins
  | .filter => clauseSlots q.wheres
  | .having => clauseSlots q.havings
  | .order => q.orders.flatMap Ordering.slots
  | .union => memberSlots q.unions

structure Select.Sound (q : Select) : Prop extends q.FilledParts where
  plain : q.aggregate = none
  -- The values of these orderings are in no bucket, so the orderings have to carry them.
  carried : ∀ o ∈ q.unionOrders, o.carried = o.slots
  single : q.unions = [] → q.unionOrders = []

theorem Bindings.extend_extend (b : Bindings) (k : Bucket) (values more : List Value)
    : (b.extend k values).extend k more = b.extend k (values ++ more) := by
  unfold extend
  rw [get_set_self, ← List.append_assoc]
  cases k <;> rfl

theorem Bindings.extend_nil (b : Bindings) (k : Bucket) : b.extend k [] = b := by
  unfold extend
  rw [List.append_nil]
  cases k <;> rfl

namespace Builder

structure Sound (b : Builder) : Prop where
  grammar : b.grammar.Unmarked
  query : b.query.Sound

/-- The bucket has the values of the clause that it belongs to. -/
def Records (b : Builder) (k : Bucket) : Prop :=
  b.bindings.get k = b.query.slotsOf k

structure Complete (b : Builder) : Prop extends b.Sound where
  records : ∀ k, b.Records k

/-- Whatever holds of `b` holds of `b'`. -/
structure Keeps (b b' : Builder) : Prop where
  sound : b.Sound → b'.Sound
  records : ∀ {k : Bucket}, b.Records k → b'.Records k

variable {b b' : Builder}

theorem Keeps.refl (b : Builder) : Keeps b b where
  sound := id
  records := id

theorem Keeps.trans {b'' : Builder} (h : Keeps b b') (h' : Keeps b' b'') : Keeps b b'' where
  sound hb := h'.sound (h.sound hb)
  records hb := h'.records (h.records hb)

theorem Complete.keep (hb : b.Complete) (h : Keeps b b') : b'.Complete where
  toSound := h.sound hb.toSound
  records k := h.records (hb.records k)

theorem keeps_query {q : Select} (hsound : b.query.Sound → q.Sound)
    (hslots : ∀ k, q.slotsOf k = b.query.slotsOf k) : Keeps b { b with query := q } where
  sound hb := ⟨hb.grammar, hsound hb.query⟩
  records {k} hb := by
    unfold Records at *
    rw [hslots k]
    exact hb

theorem keeps_set {q : Select} {k : Bucket} {values : List Value}
    (hsound : b.query.Sound → q.Sound) (hself : b.Records k → values = q.slotsOf k)
    (hother : ∀ l, k ≠ l → q.slotsOf l = b.query.slotsOf l)
    : Keeps b { b with query := q, bindings := b.bindings.set k values } where
  sound hb := ⟨hb.grammar, hsound hb.query⟩
  records {l} hb := by
    by_cases h : k = l
    . subst h
      exact (Bindings.get_set_self b.bindings k values).trans (hself hb)
    . unfold Records at *
      rw [hother l h]
      exact (Bindings.get_set_of_ne b.bindings values h).trans hb

theorem keeps_extend {q : Select} {k : Bucket} {values : List Value}
    (hsound : b.query.Sound → q.Sound) (hself : q.slotsOf k = b.query.slotsOf k ++ values)
    (hother : ∀ l, k ≠ l → q.slotsOf l = b.query.slotsOf l)
    : Keeps b { b with query := q, bindings := b.bindings.extend k values } := by
  apply keeps_set hsound _ hother
  intro hb
  rw [hself, ← hb]

theorem bind_nil (b : Builder) (k : Bucket) : b.bind k [] = b := by
  unfold bind
  rw [Bindings.extend_nil]

/-! ### Builders that ask for nothing but a source -/

theorem sound_ofSource {source : Option Source} (h : ∀ s ∈ source, s.Filled)
    : Select.Sound { Select.empty with source := source } where
  selections := by simp [Select.empty]
  source := h
  joins := by simp [Select.empty, JoinsFilled]
  wheres := by simp [Select.empty, ClausesFilled]
  groups := by simp [Select.empty]
  havings := by simp [Select.empty, ClausesFilled]
  orders := by simp [Select.empty]
  unions := by simp [Select.empty, MembersFilled]
  unionOrders := by simp [Select.empty]
  aggregate := by simp [Select.empty]
  lock := by simp [Select.empty]
  plain := rfl
  carried := by simp [Select.empty]
  single _ := rfl

theorem sound_new {g : Grammar} (hg : g.Unmarked) : (new g).Sound :=
  ⟨hg, sound_ofSource (by simp)⟩

theorem records_new (g : Grammar) (k : Bucket) : (new g).Records k := by
  cases k <;> simp [Records, new, Select.empty, Bindings.get, Select.slotsOf, Select.sourceSlots,
    joinSlots, clauseSlots, memberSlots]

theorem complete_new {g : Grammar} (hg : g.Unmarked) : (new g).Complete :=
  ⟨sound_new hg, records_new g⟩

theorem sound_ofTable {g : Grammar} (hg : g.Unmarked) {t : Table} (ht : t.Unmarked)
    : (ofTable g t).Sound :=
  ⟨hg, sound_ofSource (by simpa [Source.Filled] using ht)⟩

theorem records_ofTable (g : Grammar) (t : Table) (k : Bucket) : (ofTable g t).Records k := by
  cases k <;> simp [Records, ofTable, Select.empty, Bindings.get, Select.slotsOf,
    Select.sourceSlots, Source.slots, joinSlots, clauseSlots, memberSlots]

theorem complete_ofTable {g : Grammar} (hg : g.Unmarked) {t : Table} (ht : t.Unmarked)
    : (ofTable g t).Complete :=
  ⟨sound_ofTable hg ht, records_ofTable g t⟩

theorem sound_nested (h : b.Sound) : b.nested.Sound :=
  ⟨h.grammar, sound_ofSource h.query.source⟩

theorem records_nested (b : Builder) {k : Bucket} (h : k ≠ .source) : b.nested.Records k := by
  cases k <;> simp_all [Records, nested, Select.empty, Bindings.get, Select.slotsOf,
    joinSlots, clauseSlots, memberSlots]

/-! ### The values of a builder -/

theorem carriedValues_eq (h : b.query.Sound) : b.query.carriedValues = b.query.unionOrderSlots := by
  unfold Select.carriedValues Select.unionOrderSlots
  split
  . next hunions =>
    rw [h.single (List.isEmpty_iff.mp hunions)]
    rfl
  . apply List.flatMap_congr
    exact h.carried

theorem flattenWhere_eq (h : b.Complete) (keep : Bucket → Bool)
    : b.bindings.flattenWhere keep = (Bucket.all.filter keep).flatMap b.query.slotsOf := by
  unfold Bindings.flattenWhere
  exact List.flatMap_congr fun k _ => h.records k

/-- The values are handed out in the order of their placeholders. -/
theorem values_eq_slots (h : b.Complete) : b.values = b.query.slots := by
  rw [values, Bindings.flatten, flattenWhere_eq h, carriedValues_eq h.query, Select.slots_eq]
  simp [Bucket.all, Select.slotsOf, Select.selectionSlots, h.query.plain]

theorem emits_sql {sql : Sql} (h : b.Complete) (hsql : b.sql = .ok sql) : sql.Emits b.values := by
  rw [values_eq_slots h]
  exact Select.emits_render h.grammar b.query (Select.filled_iff.mpr h.query.toFilledParts) hsql

end Builder

end SqlForge
