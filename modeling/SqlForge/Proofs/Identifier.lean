import SqlForge.Identifier

/-!
The parts that a name is split into hold no character that the name does not hold.
-/

namespace SqlForge

namespace Text

theorem trim_subset (cs : List Char) : trim cs ⊆ cs := by
  intro c hc
  unfold trim trimEnd trimStart at hc
  rw [List.mem_reverse] at hc
  have hc := (List.dropWhile_suffix _).subset hc
  rw [List.mem_reverse] at hc
  exact (List.dropWhile_suffix _).subset hc

theorem mem_dropBlanks {c : Char} {cs : List Char} (hmem : c ∈ cs) (hc : isBlank c = false)
    : c ∈ cs.dropWhile isBlank := by
  induction cs with
  | nil => contradiction
  | cons d cs ih =>
    rw [List.dropWhile_cons]
    split
    . next hd =>
      cases List.mem_cons.mp hmem with
      | inl h => rw [h, hd] at hc; contradiction
      | inr h => exact ih h
    . exact hmem

theorem mem_trim {c : Char} {cs : List Char} (hmem : c ∈ cs) (hc : isBlank c = false)
    : c ∈ trim cs := by
  unfold trim trimEnd trimStart
  rw [List.mem_reverse]
  apply mem_dropBlanks
  . rw [List.mem_reverse]
    exact mem_dropBlanks hmem hc
  . exact hc

end Text

namespace Identifier

theorem splitDots_subset {cs part : List Char} (h : part ∈ splitDots cs) : part ⊆ cs := by
  induction cs generalizing part with
  | nil =>
    rw [splitDots, List.mem_singleton] at h
    simp [h]
  | cons c cs ih =>
    unfold splitDots at h
    split at h
    . cases List.mem_cons.mp h with
      | inl h => simp [h]
      | inr h => exact List.subset_cons_of_subset c (ih h)
    . split at h
      . rw [List.mem_singleton] at h
        simp [h]
      . next first rest hcs =>
        rw [hcs] at ih
        cases List.mem_cons.mp h with
        | inl h =>
          rw [h]
          exact List.cons_subset_cons c (ih List.mem_cons_self)
        | inr h => exact List.subset_cons_of_subset c (ih (List.mem_cons_of_mem first h))

theorem splitArrows_subset {cs part : List Char} (h : part ∈ splitArrows cs) : part ⊆ cs := by
  fun_induction splitArrows cs generalizing part with
  | case1 =>
    rw [List.mem_singleton] at h
    simp [h]
  | case2 cs ih =>
    cases List.mem_cons.mp h with
    | inl h => simp [h]
    | inr h =>
      apply List.subset_cons_of_subset
      apply List.subset_cons_of_subset
      exact ih h
  | case3 c cs _ hcs =>
    rw [List.mem_singleton] at h
    simp [h]
  | case4 c cs _ first rest hcs ih =>
    rw [hcs] at ih
    cases List.mem_cons.mp h with
    | inl h =>
      rw [h]
      exact List.cons_subset_cons c (ih List.mem_cons_self)
    | inr h => exact List.subset_cons_of_subset c (ih (List.mem_cons_of_mem first h))

theorem afterAs?_subset {cs rest : List Char} (h : afterAs? cs = some rest) : rest ⊆ cs := by
  unfold afterAs? at h
  split at h
  . contradiction
  . next c cs =>
    split at h
    . split at h
      . next a s b tail hcs =>
        split at h
        . simp only [Option.some.injEq] at h
          rw [← h]
          intro x hx
          have : x ∈ cs.dropWhile Text.isBlank := by simp [hcs, hx]
          exact List.mem_cons_of_mem c ((List.dropWhile_suffix _).subset this)
        . contradiction
      . contradiction
    . contradiction

theorem splitAs?_subset {cs before rest : List Char} (h : splitAs? cs = some (before, rest))
    : before ⊆ cs ∧ rest ⊆ cs := by
  induction cs generalizing before with
  | nil => contradiction
  | cons c cs ih =>
    unfold splitAs? at h
    rw [Option.or_eq_some_iff] at h
    cases h with
    | inl h =>
      obtain ⟨tail, htail, heq⟩ := Option.map_eq_some_iff.mp h
      cases heq
      exact ⟨List.nil_subset _, afterAs?_subset htail⟩
    | inr h =>
      obtain ⟨⟨start, tail⟩, htail, heq⟩ := Option.map_eq_some_iff.mp h.2
      cases heq
      have := ih htail
      exact ⟨List.cons_subset_cons c this.1, List.subset_cons_of_subset c this.2⟩

theorem splitAlias?_subset {s target label : String} (h : splitAlias? s = some (target, label))
    : target.toList ⊆ s.toList ∧ label.toList ⊆ s.toList := by
  unfold splitAlias? at h
  split at h
  . next before rest hsplit =>
    dsimp at h
    split at h
    . contradiction
    . cases h
      have := splitAs?_subset hsplit
      rw [String.toList_ofList, String.toList_ofList]
      exact ⟨List.Subset.trans (Text.trim_subset _) this.1,
        List.Subset.trans (Text.trim_subset _) this.2⟩
  . contradiction

theorem splitJson?_subset {s column : String} {path : List String}
    (h : splitJson? s = some (column, path))
    : column.toList ⊆ s.toList ∧ ∀ key ∈ path, key.toList ⊆ s.toList := by
  unfold splitJson? at h
  split at h
  . next first key keys hsplit =>
    cases h
    have hpart {part} (h : part ∈ first :: key :: keys) : part ⊆ s.toList := by
      apply splitArrows_subset
      rw [hsplit]
      exact h
    constructor
    . rw [String.toList_ofList]
      exact hpart List.mem_cons_self
    . intro k hk
      obtain ⟨part, hmem, heq⟩ := List.mem_map.mp hk
      rw [← heq, String.toList_ofList]
      intro x hx
      exact hpart (List.mem_cons_of_mem first hmem) ((List.dropWhile_suffix _).subset hx)
  . contradiction

theorem segments_subset {s segment : String} (h : segment ∈ segments s)
    : segment.toList ⊆ s.toList := by
  obtain ⟨part, hmem, heq⟩ := List.mem_map.mp h
  rw [← heq, String.toList_ofList]
  exact splitDots_subset hmem

theorem lastSegment_subset (s : String) : (lastSegment s).toList ⊆ s.toList := by
  unfold lastSegment
  rw [List.getLastD_eq_getLast?]
  cases h : (segments s).getLast? with
  | none => simp
  | some segment => exact segments_subset (List.mem_of_getLast? h)

@[simp]
theorem mem_double {quote c : Char} {cs : List Char} : c ∈ double quote cs ↔ c ∈ cs := by
  induction cs with
  | nil => simp [double]
  | cons d cs ih =>
    unfold double
    split
    . next h => simp [ih, h]
    . simp [ih]

end Identifier

end SqlForge
