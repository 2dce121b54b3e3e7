import SqlForge.Proofs.Identifier

/-!
The parts of a name are not split again: neither the target of an alias nor the column of a path has
an alias, and the column has no path.
-/

namespace SqlForge

namespace Text

theorem isInfix_trim (cs : List Char) : trim cs <:+: cs := by
  have hstart : trimStart cs <:+ cs := List.dropWhile_suffix _
  have hend : trim cs <+: trimStart cs := by
    unfold trim trimEnd
    rw [← List.reverse_suffix, List.reverse_reverse]
    exact List.dropWhile_suffix _
  exact hend.isInfix.trans hstart.isInfix

end Text

namespace Identifier

open Text

variable {cs before rest : List Char}

/-! ### Aliases -/

theorem length_of_afterAs? {c : Char} (h : afterAs? (c :: cs) = some rest)
    : isBlank c ∧ 3 ≤ (cs.dropWhile isBlank).length := by
  rw [afterAs?] at h
  split at h
  . next hblank =>
    split at h
    . next hcs => simp [hblank, hcs]
    . contradiction
  . contradiction

/-- Whether there is a match is settled by the three characters after the blanks. -/
theorem afterAs?_append_of_length {c : Char} (h : 3 ≤ (cs.dropWhile isBlank).length)
    (more : List Char)
    : afterAs? (c :: cs ++ more) = (afterAs? (c :: cs)).map (· ++ more) := by
  have hne : (cs.dropWhile isBlank).isEmpty = false := by
    cases hcs : cs.dropWhile isBlank with
    | nil => simp [hcs] at h
    | cons => rfl
  rw [List.cons_append, afterAs?, afterAs?, List.dropWhile_append, hne]
  match cs.dropWhile isBlank, h with
  | a :: s :: b :: tail, _ =>
    simp only [List.cons_append, Bool.false_eq_true, if_false]
    split
    . split <;> rfl
    . rfl

theorem afterAs?_append (h : afterAs? cs = some rest) (more : List Char)
    : afterAs? (cs ++ more) = some (rest ++ more) := by
  cases cs with
  | nil => contradiction
  | cons c cs => rw [afterAs?_append_of_length (length_of_afterAs? h).2, h, Option.map_some]

theorem splitAs?_cons_eq_some {c : Char}
    : splitAs? (c :: cs) = some (before, rest) ↔
      (before = [] ∧ afterAs? (c :: cs) = some rest) ∨
        ∃ start, before = c :: start ∧ afterAs? (c :: cs) = none ∧
          splitAs? cs = some (start, rest) := by
  rw [splitAs?, Option.or_eq_some_iff]
  cases hhere : afterAs? (c :: cs) with
  | none =>
    simp only [Option.map_none, reduceCtorEq, false_or, true_and, and_false]
    constructor
    . intro h
      obtain ⟨⟨start, tail⟩, hsplit, heq⟩ := Option.map_eq_some_iff.mp h
      cases heq
      exact ⟨start, rfl, hsplit⟩
    . rintro ⟨start, rfl, hsplit⟩
      rw [hsplit]
      rfl
  | some tail => simp [eq_comm]

/-- The match that counts, and that there is none further to the left. -/
theorem splitAs?_eq_some (h : splitAs? cs = some (before, rest))
    : ∃ found, cs = before ++ found ∧ afterAs? found = some rest ∧
        ∀ a b, cs = a ++ b → a.length < before.length → afterAs? b = none := by
  induction cs generalizing before with
  | nil => contradiction
  | cons c cs ih =>
    rcases splitAs?_cons_eq_some.mp h with ⟨rfl, hhere⟩ | ⟨start, rfl, hhere, hsplit⟩
    . exact ⟨c :: cs, rfl, hhere, nofun⟩
    . obtain ⟨found, hcs, hfound, hfirst⟩ := ih hsplit
      refine ⟨found, by rw [hcs, List.cons_append], hfound, ?_⟩
      intro a b hab hlength
      cases a with
      | nil =>
        rw [List.nil_append] at hab
        rw [← hab]
        exact hhere
      | cons d a =>
        cases hab
        exact hfirst a b rfl (by simpa using hlength)

theorem splitAs?_of_isInfix {part : List Char} (h : splitAs? cs = some (before, rest))
    (hpart : part <:+: before) : splitAs? part = none := by
  cases hsplit : splitAs? part with
  | none => rfl
  | some pair =>
    obtain ⟨start, tail⟩ := pair
    obtain ⟨front, back, hbefore⟩ := hpart
    obtain ⟨found, hcs, _, hfirst⟩ := splitAs?_eq_some h
    obtain ⟨within, heq, hwithin, _⟩ := splitAs?_eq_some hsplit
    have hne : within ≠ [] := by
      intro hnil
      rw [hnil] at hwithin
      contradiction
    have hlength : (front ++ start).length < before.length := by
      have := List.length_pos_iff.mpr hne
      rw [← hbefore, heq]
      simp only [List.length_append]
      omega
    have hnone := hfirst (front ++ start) (within ++ (back ++ found))
      (by rw [hcs, ← hbefore, heq]; simp only [List.append_assoc]) hlength
    rw [afterAs?_append hwithin] at hnone
    contradiction

theorem length_of_splitAs? (h : splitAs? cs = some (before, rest))
    : 3 ≤ (cs.dropWhile isBlank).length := by
  induction cs generalizing before with
  | nil => contradiction
  | cons c cs ih =>
    rcases splitAs?_cons_eq_some.mp h with ⟨_, hhere⟩ | ⟨start, _, _, hsplit⟩
    . obtain ⟨hblank, hlength⟩ := length_of_afterAs? hhere
      rwa [List.dropWhile_cons_of_pos hblank]
    . have hlength := ih hsplit
      have hle : (cs.dropWhile isBlank).length ≤ cs.length := (List.dropWhile_suffix _).length_le
      rw [List.dropWhile_cons]
      split
      . exact hlength
      . rw [List.length_cons]
        omega

theorem splitAs?_append (h : splitAs? cs = some (before, rest)) (more : List Char)
    : splitAs? (cs ++ more) = some (before, rest ++ more) := by
  induction cs generalizing before with
  | nil => contradiction
  | cons c cs ih =>
    rcases splitAs?_cons_eq_some.mp h with ⟨rfl, hhere⟩ | ⟨start, rfl, hhere, hsplit⟩
    . exact splitAs?_cons_eq_some.mpr (.inl ⟨rfl, afterAs?_append hhere more⟩)
    . refine splitAs?_cons_eq_some.mpr (.inr ⟨start, rfl, ?_, ih hsplit⟩)
      change afterAs? (c :: cs ++ more) = none
      rw [afterAs?_append_of_length (length_of_splitAs? hsplit), hhere]
      rfl

/-! ### Paths -/

theorem isPrefix_splitArrows {first : List Char} {parts : List (List Char)}
    (h : splitArrows cs = first :: parts) : first <+: cs := by
  fun_induction splitArrows cs generalizing first parts with
  | case1 =>
    cases h
    exact List.prefix_rfl
  | case2 cs =>
    cases h
    exact List.nil_prefix
  | case3 c cs _ hcs =>
    cases h
    exact ⟨cs, rfl⟩
  | case4 c cs _ part parts hcs ih =>
    cases h
    exact (List.prefix_cons_inj c).mpr (ih hcs)

theorem splitArrows_first {first : List Char} {parts : List (List Char)}
    (h : splitArrows cs = first :: parts) : splitArrows first = [first] := by
  fun_induction splitArrows cs generalizing first parts with
  | case1 =>
    cases h
    rfl
  | case2 cs =>
    cases h
    rfl
  | case3 c cs _ hcs =>
    cases h
    rw [splitArrows]
    . rfl
    . nofun
  | case4 c cs hno part parts hcs ih =>
    cases h
    rw [splitArrows, ih hcs]
    intro tail hc hpart
    have hfront := isPrefix_splitArrows hcs
    rw [hpart] at hfront
    obtain ⟨more, rfl⟩ := hfront
    exact hno _ hc rfl

theorem splitArrows_cons_cons {first next : List Char} {parts : List (List Char)}
    (h : splitArrows cs = first :: next :: parts) : ∃ more, cs = first ++ '-' :: '>' :: more := by
  fun_induction splitArrows cs generalizing first with
  | case1 => cases h
  | case2 cs =>
    rw [← (List.cons.inj h).1]
    exact ⟨cs, rfl⟩
  | case3 c cs _ hcs => cases h
  | case4 c cs _ part parts hcs ih =>
    cases h
    obtain ⟨more, heq⟩ := ih hcs
    exact ⟨more, by rw [heq, List.cons_append]⟩

/-! ### Names -/

variable {s column target label : String} {path : List String}

theorem splitAlias?_piece (h : splitAlias? s = some (target, label))
    : target.toList <:+: s.toList ∧ splitAs? target.toList = none := by
  unfold splitAlias? at h
  split at h
  . next before rest hsplit =>
    obtain ⟨found, hs, -⟩ := splitAs?_eq_some hsplit
    have htrim := isInfix_trim before
    dsimp only at h
    split at h
    . contradiction
    . cases h
      rw [String.toList_ofList, hs]
      exact ⟨List.infix_append_of_infix_left htrim, splitAs?_of_isInfix hsplit htrim⟩
  . contradiction

theorem splitAlias?_target (h : splitAlias? s = some (target, label))
    : splitAlias? target = none := by
  rw [splitAlias?, (splitAlias?_piece h).2]

theorem splitJson?_eq_some (h : splitJson? s = some (column, path))
    : splitArrows column.toList = [column.toList] ∧
        ∃ more, s.toList = column.toList ++ '-' :: '>' :: more := by
  unfold splitJson? at h
  split at h
  . next first key keys hsplit =>
    cases h
    rw [String.toList_ofList]
    exact ⟨splitArrows_first hsplit, splitArrows_cons_cons hsplit⟩
  . contradiction

theorem splitJson?_column (h : splitJson? s = some (column, path)) : splitJson? column = none := by
  rw [splitJson?, (splitJson?_eq_some h).1]

theorem splitAlias?_column (hs : splitAlias? s = none) (h : splitJson? s = some (column, path))
    : splitAlias? column = none := by
  obtain ⟨_, more, heq⟩ := splitJson?_eq_some h
  cases hsplit : splitAs? column.toList with
  | none => rw [splitAlias?, hsplit]
  | some found =>
    -- Its match counts for the whole name, where the arrow follows, so the target must be blank.
    obtain ⟨before, rest⟩ := found
    have hwhole := splitAs?_append hsplit ('-' :: '>' :: more)
    have hrest : trim (rest ++ '-' :: '>' :: more) ≠ [] := by
      apply List.ne_nil_of_mem
      exact mem_trim (List.mem_append_right _ List.mem_cons_self) (by decide)
    by_cases htarget : trim before = []
    . simp [splitAlias?, hsplit, htarget]
    . simp [splitAlias?, heq, hwhole, htarget, hrest] at hs

end Identifier

end SqlForge
