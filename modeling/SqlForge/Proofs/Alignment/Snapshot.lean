import SqlForge.Proofs.Alignment.Select
import SqlForge.Proofs.Select.Containment

/-!
Builders that lack some of their clauses and the values of these. What is left stays aligned, and
keeps its values in their order.
-/

namespace SqlForge

/-- The part of a statement that is written with the values of the bucket. -/
def Bucket.component : Bucket → Component
  | .select => .columns
  | .source => .source
  | .join => .joins
  | .filter => .wheres
  | .having => .havings
  | .order => .orders
  | .union => .unions

theorem Bindings.get_foldl_clear (b : Bindings) (buckets : List Bucket) (k : Bucket)
    : (buckets.foldl clear b).get k = if k ∈ buckets then [] else b.get k := by
  induction buckets generalizing b with
  | nil => simp
  | cons l buckets ih =>
    rw [List.foldl_cons, ih, clear]
    by_cases h : l = k
    . subst h
      simp
    . rw [get_set_of_ne b [] h]
      simp [Ne.symm h]

/-! ### Statements that lack a part -/

namespace Select

variable {q : Select}

theorem sound_without (h : q.Sound) (c : Component) : (q.without c).Sound := by
  cases c with
  | aggregate =>
    exact { h with
      aggregate := by simp [without]
      plain := rfl }
  | columns => exact { h with selections := by simp [without] }
  | source => exact { h with source := by simp [without] }
  | joins => exact { h with joins := by simp [without, JoinsFilled] }
  | wheres => exact { h with wheres := by simp [without, ClausesFilled] }
  | groups => exact { h with groups := by simp [without] }
  | havings => exact { h with havings := by simp [without, ClausesFilled] }
  | orders => exact { h with orders := by simp [without] }
  | limit => exact { h with }
  | offset => exact { h with }
  | unions =>
    exact { h with
      unions := by simp [without, MembersFilled]
      unionOrders := by simp [without]
      carried := by simp [without]
      single := by simp [without] }
  | lock => exact { h with lock := by simp [without] }

theorem slotsOf_without (q : Select) (c : Component) (k : Bucket)
    : (q.without c).slotsOf k = if k.component = c then [] else q.slotsOf k := by
  cases c <;> cases k <;>
    simp [without, slotsOf, Bucket.component, sourceSlots, joinSlots, clauseSlots, memberSlots]

theorem carriedValues_without (q : Select) (c : Component)
    : (q.without c).carriedValues = if c = .unions then [] else q.carriedValues := by
  cases c <;> rfl

theorem hasContainment_without {c : Component} (h : (q.without c).HasContainment)
    : q.HasContainment := by
  have hconditions : (q.without c).conditions ⊆ q.conditions := by
    cases c <;> simp [without, conditions, clauseConditions, nestedJoins]
  have hunions : (q.without c).unions ⊆ q.unions := by
    cases c <;> simp [without]
  rw [hasContainment_iff] at h ⊢
  rcases h with ⟨condition, hmem, hcondition⟩ | ⟨member, hmem, hmember⟩
  . exact .inl ⟨condition, hconditions hmem, hcondition⟩
  . exact .inr ⟨member, hunions hmem, hmember⟩

section
variable (components : List Component)

theorem sound_foldl_without (h : q.Sound) : (components.foldl without q).Sound := by
  induction components generalizing q with
  | nil => exact h
  | cons c components ih => exact ih (sound_without h c)

theorem slotsOf_foldl_without (q : Select) (k : Bucket)
    : (components.foldl without q).slotsOf k
        = if k.component ∈ components then [] else q.slotsOf k := by
  induction components generalizing q with
  | nil => simp
  | cons c components ih =>
    rw [List.foldl_cons, ih, slotsOf_without]
    by_cases h : k.component = c
    . simp [h]
    . simp [h]

theorem carriedValues_foldl_without (q : Select)
    : (components.foldl without q).carriedValues
        = if .unions ∈ components then [] else q.carriedValues := by
  induction components generalizing q with
  | nil => simp
  | cons c components ih =>
    rw [List.foldl_cons, ih, carriedValues_without]
    by_cases h : c = .unions
    . simp [h]
    . simp [h, Ne.symm h]

theorem hasContainment_foldl_without (h : (components.foldl without q).HasContainment)
    : q.HasContainment := by
  induction components generalizing q with
  | nil => exact h
  | cons c components ih => exact hasContainment_without (ih h)

end

end Select

namespace Builder

variable {g : Grammar} {b : Builder} {components : List Component} {buckets : List Bucket}

/--
The values of the builder, each list with the part that is written with it. Orderings of a compound
statement go with its members.
-/
def valuesByPart (b : Builder) : List (Component × List Value) :=
  Bucket.all.map (fun k => (k.component, b.bindings.get k)) ++ [(.unions, b.query.carriedValues)]

theorem values_eq_valuesByPart (b : Builder) : b.values = b.valuesByPart.flatMap Prod.snd := by
  simp [values, valuesByPart, Bindings.flatten, Bindings.flattenWhere, List.flatMap_map]

/-- The builder without the parts, and without the values in the buckets. -/
def snapshot (b : Builder) (components : List Component) (buckets : List Bucket) : Builder :=
  (b.without components).withoutBindings buckets

theorem complete_snapshot (h : b.Complete) (hpaired : ∀ k, k ∈ buckets ↔ k.component ∈ components)
    : (b.snapshot components buckets).Complete where
  grammar := h.grammar
  query := Select.sound_foldl_without components h.query
  records k := by
    have hget := Bindings.get_foldl_clear b.bindings buckets k
    have hslots := Select.slotsOf_foldl_without components b.query k
    apply hget.trans
    apply Eq.trans _ hslots.symm
    rw [h.records k]
    simp only [hpaired]

theorem valuesByPart_snapshot (hpaired : ∀ k, k ∈ buckets ↔ k.component ∈ components)
    : (b.snapshot components buckets).valuesByPart
        = b.valuesByPart.map fun (c, values) => (c, if c ∈ components then [] else values) := by
  have hcarried := Select.carriedValues_foldl_without components b.query
  unfold valuesByPart snapshot without withoutBindings
  simp [Bindings.get_foldl_clear, hpaired, hcarried]

theorem values_snapshot (hpaired : ∀ k, k ∈ buckets ↔ k.component ∈ components)
    : (b.snapshot components buckets).values
        = (b.valuesByPart.filter fun (c, _) => c ∉ components).flatMap Prod.snd := by
  rw [values_eq_valuesByPart, valuesByPart_snapshot hpaired]
  induction b.valuesByPart with
  | nil => rfl
  | cons entry rest ih =>
    obtain ⟨c, values⟩ := entry
    by_cases h : c ∈ components
    . simpa [h] using ih
    . simpa [h] using ih

theorem exists_statement_snapshot {s : Statement} (hs : b.statement = .ok s)
    (components : List Component) (buckets : List Bucket)
    : ∃ s', (b.snapshot components buckets).statement = .ok s' := by
  obtain ⟨sql, hsql, -⟩ := bind_eq_ok.mp hs
  cases hsnapshot : (b.snapshot components buckets).sql with
  | ok sql' =>
    unfold statement
    rw [hsnapshot]
    exact ⟨_, rfl⟩
  | error e =>
    -- What stands in the way of the rest stands in the way of the whole.
    obtain ⟨⟨hdialect, hfound⟩, -⟩ := (Select.failsFor_render _ _ e).mp hsnapshot
    have hwhole := Select.hasContainment_foldl_without components hfound
    have hfails : b.sql = .error _ :=
      (Select.failsFor_render b.grammar b.query _).mpr ⟨⟨hdialect, hwhole⟩, rfl⟩
    rw [hfails] at hsql
    contradiction

/--
Dropping parts of a statement together with their values leaves a builder that is aligned. Its
values are those of the parts that are left, in the same order, and it can be written if the whole
can.
-/
theorem snapshot_aligned (hg : g.Unmarked) (hb : Reachable Call.Fits g b)
    (hpaired : ∀ k, k ∈ buckets ↔ k.component ∈ components)
    : (∀ s, (b.snapshot components buckets).statement = .ok s →
          s.bindings = (b.snapshot components buckets).values ∧
            ∃ sql, (b.snapshot components buckets).sql = .ok sql ∧ s.Aligned sql) ∧
        (∀ s, b.statement = .ok s → ∃ s', (b.snapshot components buckets).statement = .ok s') ∧
        b.values = b.valuesByPart.flatMap Prod.snd ∧
        (b.snapshot components buckets).values
          = (b.valuesByPart.filter fun (c, _) => c ∉ components).flatMap Prod.snd := by
  have hcomplete := complete_snapshot (hb.complete hg) hpaired
  refine ⟨?_, ?_, values_eq_valuesByPart b, values_snapshot hpaired⟩
  . intro s hs
    obtain ⟨sql, hsql, hs⟩ := bind_eq_ok.mp hs
    rw [← pure_eq_ok.mp hs]
    exact ⟨rfl, sql, hsql, Statement.aligned_of_emits (emits_sql hcomplete hsql)⟩
  . intro s hs
    exact exists_statement_snapshot hs components buckets

/-- Without the columns and the further members, and without the values that came with them. -/
theorem mixed_snapshot_aligned
    : Grammar.Unmarked ⟨.sqlite, "p_"⟩ ∧ Reachable Call.Fits ⟨.sqlite, "p_"⟩ (mixed .sqlite) ∧
        (∀ k, k ∈ [Bucket.union, .select] ↔ k.component ∈ [Component.lock, .columns, .unions]) ∧
        ∃ s sql, ((mixed .sqlite).snapshot [.lock, .columns, .unions] [.union, .select]).statement
            = .ok s ∧
          s.Aligned sql ∧
          (mixed .sqlite).values
            = [.int 1, .int 2, .int 3, .int 4, .int 5, .int 6, .int 7, .int 8, .int 9] ∧
          s.bindings = [.int 2, .int 3, .int 4, .int 5, .int 6, .int 7] := by
  have hg : Grammar.Unmarked ⟨.sqlite, "p_"⟩ := by decide
  have hpaired : ∀ k, k ∈ [Bucket.union, .select] ↔
      k.component ∈ [Component.lock, .columns, .unions] := by
    intro k
    cases k <;> decide
  obtain ⟨haligned, hwritten, hwhole, hrest⟩ :=
    snapshot_aligned hg (reachable_mixed .sqlite) hpaired
  obtain ⟨s, hs⟩ := hwritten _ rfl
  obtain ⟨hvalues, sql, -, hsql⟩ := haligned s hs
  refine ⟨hg, reachable_mixed .sqlite, hpaired, s, sql, hs, hsql, hwhole, ?_⟩
  rw [hvalues, hrest]
  rfl

end Builder

end SqlForge
