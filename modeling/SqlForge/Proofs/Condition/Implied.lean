import SqlForge.Proofs.Condition.Meaning

/-!
A condition that is added at the end by AND. It is implied by all of the conditions together just
if none of those before it starts a run of its own, for the last run alone is narrowed.
-/

namespace SqlForge

/-! ### Lists that are put together -/

theorem clauseLeaves_append (clauses more : List Clause)
    : clauseLeaves (clauses ++ more) = clauseLeaves clauses ++ clauseLeaves more := by
  induction clauses with
  | nil => rw [List.nil_append, clauseLeaves, List.nil_append]
  | cons clause clauses ih =>
    obtain ⟨c, condition⟩ := clause
    rw [List.cons_append, clauseLeaves, clauseLeaves, ih, List.append_assoc]

theorem clauseValues_append (σ : Nat → Bool) (n : Nat) (clauses more : List Clause)
    : clauseValues σ n (clauses ++ more)
        = clauseValues σ n clauses ++ clauseValues σ (n + (clauseLeaves clauses).length) more := by
  induction clauses generalizing n with
  | nil =>
    rw [List.nil_append, clauseValues, List.nil_append, clauseLeaves]
    rfl
  | cons clause clauses ih =>
    obtain ⟨c, condition⟩ := clause
    rw [List.cons_append, clauseValues, clauseValues, clauseLeaves, ih, List.length_append,
      List.cons_append, Nat.add_assoc]

theorem map_fst_clauseValues (σ : Nat → Bool) (n : Nat) (clauses : List Clause)
    : (clauseValues σ n clauses).map Prod.fst = clauses.map Clause.connective := by
  induction clauses generalizing n with
  | nil => rfl
  | cons clause clauses ih =>
    obtain ⟨c, condition⟩ := clause
    rw [clauseValues, List.map_cons, List.map_cons, ih]

/-! ### Runs -/

namespace Frame

variable {values : List (Connective × Bool)}

/-- Without an OR there is one run, and it holds if all of its conditions do. -/
theorem foldl_extend_of_and (frame : Frame) (h : ∀ v ∈ values, v.1 = .and)
    : values.foldl extend frame = ⟨frame.earlier, frame.run && values.all (·.2)⟩ := by
  induction values generalizing frame with
  | nil => rw [List.foldl_nil, List.all_nil, Bool.and_true]
  | cons v values ih =>
    obtain ⟨c, value⟩ := v
    have hc : c = .and := h (c, value) List.mem_cons_self
    have hvalues := fun v hv => h v (List.mem_cons_of_mem _ hv)
    rw [List.foldl_cons, ih _ hvalues, hc, List.all_cons]
    simp only [extend, and, Bool.and_assoc]

/-- Of conditions that all hold, every run holds. -/
theorem foldl_extend_of_true (frame : Frame) (hrun : frame.run = true)
    (h : ∀ v ∈ values, v.2 = true)
    : values.foldl extend frame = ⟨frame.earlier || values.any (·.1 = .or), true⟩ := by
  induction values generalizing frame with
  | nil => rw [List.foldl_nil, List.any_nil, Bool.or_false, ← hrun]
  | cons v values ih =>
    obtain ⟨c, value⟩ := v
    have hvalue : value = true := h (c, value) List.mem_cons_self
    have hvalues := fun v hv => h v (List.mem_cons_of_mem _ hv)
    cases c with
    | and =>
      have hextended : frame.extend (.and, value) = frame := by
        rw [extend, and, hvalue, Bool.and_true]
      rw [List.foldl_cons, hextended, ih frame hrun hvalues, List.any_cons]
      rfl
    | or =>
      have hextended : frame.extend (.or, value) = ⟨true, true⟩ := by
        rw [extend, or, Frame.value, hrun, Bool.or_true, hvalue]
        rfl
      rw [List.foldl_cons, hextended, ih _ rfl hvalues, List.any_cons, Bool.true_or]
      simp only [decide_true, Bool.true_or, Bool.or_true]

end Frame

/-- The condition at the end narrows the last run only. -/
theorem anyRun_append_and (c : Connective) (value last : Bool)
    (values : List (Connective × Bool))
    : anyRun ((c, value) :: values ++ [(.and, last)])
        = let frame := values.foldl Frame.extend (Frame.start.and value)
          (frame.earlier || frame.run && last) := by
  rw [List.cons_append, anyRun_cons, List.foldl_append]
  rfl

theorem last_of_anyRun {c : Connective} {value last : Bool} {values : List (Connective × Bool)}
    (hand : ∀ connective ∈ values.map Prod.fst, connective = .and)
    (h : anyRun ((c, value) :: values ++ [(.and, last)]) = true) : last = true := by
  rw [List.forall_mem_map] at hand
  rw [anyRun_append_and, Frame.foldl_extend_of_and _ hand] at h
  exact (Bool.and_eq_true_iff.mp h).2

/-- The run before the OR holds without the condition at the end. -/
theorem anyRun_of_or {c : Connective} {values : List (Connective × Bool)} (last : Bool)
    (htrue : ∀ v ∈ values, v.2 = true) (hor : .or ∈ values.map Prod.fst)
    : anyRun ((c, true) :: values ++ [(.and, last)]) = true := by
  obtain ⟨v, hv, hv'⟩ := List.mem_map.mp hor
  have hany : values.any (·.1 = .or) = true := List.any_eq_true.mpr ⟨v, hv, decide_eq_true hv'⟩
  rw [anyRun_append_and, Frame.foldl_extend_of_true _ rfl htrue, hany, Bool.or_true, Bool.true_or]

/-! ### Conditions that all hold -/

mutual
theorem Condition.holds_of_leaves {σ : Nat → Bool} (condition : Condition) (n : Nat)
    (hgroups : ∀ inner, .group inner ∈ condition.conditions → inner ≠ [])
    (h : ∀ m < n + condition.leaves.length, σ m = true) : condition.holds σ n = true := by
  cases condition with
  | group clauses =>
    rw [Condition.conditions] at hgroups
    have hne := hgroups clauses List.mem_cons_self
    have hinner := fun inner hmem => hgroups inner (List.mem_cons_of_mem _ hmem)
    rw [Condition.leaves] at h
    have hvalues := clauseValues_of_leaves clauses n hinner h
    obtain ⟨⟨c, condition⟩, clauses, rfl⟩ := List.exists_cons_of_ne_nil hne
    rw [Condition.holds, clauseValues, anyRun_cons]
    rw [clauseValues] at hvalues
    have hfirst := hvalues _ List.mem_cons_self
    have hrest := fun v hv => hvalues v (List.mem_cons_of_mem _ hv)
    rw [Frame.foldl_extend_of_true _ hfirst hrest, Frame.value, Bool.or_true]
  | _ =>
    rw [Condition.holds]
    . apply h
      rw [Condition.leaves]
      . exact Nat.lt_succ_self n
      all_goals
        intro _ hgroup
        cases hgroup
    all_goals
      intro _ hgroup
      cases hgroup

theorem clauseValues_of_leaves {σ : Nat → Bool} (clauses : List Clause) (n : Nat)
    (hgroups : ∀ inner, .group inner ∈ clauseConditions clauses → inner ≠ [])
    (h : ∀ m < n + (clauseLeaves clauses).length, σ m = true)
    : ∀ v ∈ clauseValues σ n clauses, v.2 = true := by
  cases clauses with
  | nil =>
    intro v hv
    cases hv
  | cons clause clauses =>
    obtain ⟨c, condition⟩ := clause
    rw [clauseConditions_cons] at hgroups
    rw [clauseLeaves, List.length_append] at h
    have hfirst := condition.holds_of_leaves n
      (fun inner hmem => hgroups inner (List.mem_append_left _ hmem)) fun m hm => h m (by omega)
    have hrest := clauseValues_of_leaves clauses (n + condition.leaves.length)
      (fun inner hmem => hgroups inner (List.mem_append_right _ hmem)) fun m hm => h m (by omega)
    intro v hv
    rw [clauseValues] at hv
    cases hv with
    | head => exact hfirst
    | tail _ hv => exact hrest v hv
end

/-! ### What the condition at the end is worth -/

/-- A condition that is no group counts as one. -/
def Condition.IsLeaf (condition : Condition) : Prop :=
  ∀ clauses, condition ≠ .group clauses

theorem Condition.IsLeaf.leaves {leaf : Condition} (h : leaf.IsLeaf) : leaf.leaves = [leaf] := by
  rw [Condition.leaves]
  exact h

theorem Condition.IsLeaf.holds {leaf : Condition} (h : leaf.IsLeaf) (σ : Nat → Bool) (n : Nat)
    : leaf.holds σ n = σ n := by
  rw [Condition.holds]
  exact h

theorem clauseValues_append_leaf {leaf : Condition} (hleaf : leaf.IsLeaf) (σ : Nat → Bool)
    (clauses : List Clause)
    : clauseValues σ 0 (clauses ++ [⟨.and, leaf⟩])
        = clauseValues σ 0 clauses ++ [(.and, σ (clauseLeaves clauses).length)] := by
  rw [clauseValues_append, clauseValues, clauseValues, hleaf.holds, Nat.zero_add]

/--
The condition that is added at the end holds whenever all of them together do, just if every
condition before it is added by AND too. The first connective is not written.
-/
theorem anyRun_implies_last_iff {clauses : List Clause} {leaf : Condition} (hleaf : leaf.IsLeaf)
    (hgroups : ∀ inner, .group inner ∈ clauseConditions clauses → inner ≠ [])
    : (∀ σ, anyRun (clauseValues σ 0 (clauses ++ [⟨.and, leaf⟩])) = true →
          σ (clauseLeaves clauses).length = true) ↔
        ∀ clause ∈ clauses.tail, clause.connective = .and := by
  simp only [clauseValues_append_leaf hleaf]
  cases clauses with
  | nil => simp [clauseValues, anyRun_cons, Frame.start, Frame.and, Frame.value]
  | cons clause clauses =>
    obtain ⟨c, condition⟩ := clause
    rw [List.tail_cons]
    constructor
    . intro h
      by_contra hconnectives
      simp only [not_forall] at hconnectives
      obtain ⟨clause, hclause, hne⟩ := hconnectives
      -- All conditions hold but the last.
      let σ : Nat → Bool := fun m => m < (clauseLeaves (⟨c, condition⟩ :: clauses)).length
      have hσ : ∀ m < 0 + (clauseLeaves (⟨c, condition⟩ :: clauses)).length, σ m = true := by
        simp [σ]
      have hvalues := clauseValues_of_leaves (⟨c, condition⟩ :: clauses) 0 hgroups hσ
      rw [clauseValues, List.forall_mem_cons] at hvalues
      obtain ⟨(hfirst : condition.holds σ 0 = true), hrest⟩ := hvalues
      have hor : .or ∈ (clauseValues σ (0 + condition.leaves.length) clauses).map Prod.fst := by
        rw [map_fst_clauseValues]
        cases hc : clause.connective with
        | and => contradiction
        | or => exact hc ▸ List.mem_map_of_mem hclause
      have hlast := h σ
      rw [clauseValues, hfirst] at hlast
      simpa [σ] using hlast (anyRun_of_or _ hrest hor)
    . intro hand σ h
      rw [clauseValues] at h
      apply last_of_anyRun _ h
      rw [map_fst_clauseValues, List.forall_mem_map]
      exact hand

end SqlForge
