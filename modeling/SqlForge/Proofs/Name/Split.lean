import SqlForge.Proofs.Name.Parse

/-!
How a name is split that is put together from others: at a dot between them, or behind a prefix.
-/

namespace SqlForge.Identifier

open Text

variable {cs ds : List Char}

/-! ### Dots -/

theorem splitDots_eq_splitOn (cs : List Char) : splitDots cs = cs.splitOn '.' := by
  induction cs with
  | nil => rfl
  | cons c cs ih =>
    rw [splitDots, List.splitOn_cons_eq_if_modifyHead, ← ih]
    by_cases hc : c = '.'
    . simp [hc]
    . have hne : splitDots cs ≠ [] := by
        rw [ih]
        exact List.splitOn_ne_nil '.' cs
      obtain ⟨first, rest, hcs⟩ := List.exists_cons_of_ne_nil hne
      simp [hc, hcs]

theorem splitDots_ne_nil (cs : List Char) : splitDots cs ≠ [] := by
  rw [splitDots_eq_splitOn]
  exact List.splitOn_ne_nil '.' cs

theorem intercalate_splitDots (cs : List Char) : List.intercalate ['.'] (splitDots cs) = cs := by
  rw [splitDots_eq_splitOn]
  exact List.intercalate_splitOn '.'

theorem infix_intercalate {α : Type} {part : List α} {parts : List (List α)} (h : part ∈ parts)
    (separator : List α) : part <:+: separator.intercalate parts := by
  induction parts with
  | nil => cases h
  | cons first rest ih =>
    cases rest with
    | nil =>
      simp [List.mem_singleton.mp h, List.intercalate_singleton]
    | cons next rest =>
      rw [List.intercalate_cons_cons, List.append_assoc]
      cases List.mem_cons.mp h with
      | inl h =>
        rw [h]
        exact List.infix_append_left
      | inr h =>
        apply List.infix_append_of_infix_right
        exact List.infix_append_of_infix_right (ih h)

theorem infix_of_mem_splitDots {part : List Char} (h : part ∈ splitDots cs) : part <:+: cs := by
  have hpiece := infix_intercalate h ['.']
  rwa [intercalate_splitDots] at hpiece

theorem splitDots_cons_of_ne {c : Char} {first : List Char} {rest : List (List Char)}
    (hc : c ≠ '.') (h : splitDots cs = first :: rest)
    : splitDots (c :: cs) = (c :: first) :: rest := by
  rw [splitDots, if_neg hc, h]

theorem splitDots_dot_cons (cs : List Char) : splitDots ('.' :: cs) = [] :: splitDots cs := by
  rw [splitDots, if_pos rfl]

theorem splitDots_append_dot (cs ds : List Char)
    : splitDots (cs ++ '.' :: ds) = splitDots cs ++ splitDots ds := by
  rw [splitDots_eq_splitOn, splitDots_eq_splitOn, splitDots_eq_splitOn]
  exact List.splitOn_append_cons_self cs ds

/-- A text without dots becomes part of the first segment of what follows it. -/
theorem splitDots_append (hcs : '.' ∉ cs) {first : List Char} {rest : List (List Char)}
    (h : splitDots ds = first :: rest) : splitDots (cs ++ ds) = (cs ++ first) :: rest := by
  induction cs with
  | nil => exact h
  | cons c cs ih =>
    rw [List.mem_cons, not_or] at hcs
    exact splitDots_cons_of_ne (Ne.symm hcs.1) (ih hcs.2)

theorem splitDots_of_dotless (hcs : '.' ∉ cs) : splitDots cs = [cs] := by
  rw [splitDots_eq_splitOn]
  exact List.splitOn_eq_singleton hcs

theorem length_splitDots (cs : List Char) : (splitDots cs).length = cs.count '.' + 1 := by
  induction cs with
  | nil => rfl
  | cons c cs ih =>
    by_cases hc : c = '.'
    . rw [hc, splitDots_dot_cons, List.length_cons, ih, List.count_cons_self]
    . obtain ⟨first, rest, hcs⟩ := List.exists_cons_of_ne_nil (splitDots_ne_nil cs)
      rw [hcs] at ih
      rw [splitDots_cons_of_ne hc hcs, List.count_cons_of_ne hc]
      exact ih

theorem dotless_of_mem_splitDots {part : List Char} (h : part ∈ splitDots cs) : '.' ∉ part := by
  induction cs generalizing part with
  | nil =>
    rw [splitDots, List.mem_singleton] at h
    simp [h]
  | cons c cs ih =>
    by_cases hc : c = '.'
    . rw [hc, splitDots_dot_cons] at h
      cases List.mem_cons.mp h with
      | inl h => simp [h]
      | inr h => exact ih h
    . obtain ⟨first, rest, hcs⟩ := List.exists_cons_of_ne_nil (splitDots_ne_nil cs)
      rw [splitDots_cons_of_ne hc hcs] at h
      rw [hcs] at ih
      cases List.mem_cons.mp h with
      | inl h =>
        rw [h, List.mem_cons, not_or]
        exact ⟨Ne.symm hc, ih List.mem_cons_self⟩
      | inr h => exact ih (List.mem_cons_of_mem first h)

/-! ### Arrows -/

/-- No arrow starts a path in the text. -/
def Arrowless (cs : List Char) : Prop :=
  ¬['-', '>'] <:+: cs

theorem infix_of_append_cons {c : Char} {part : List Char} (hc : c ∉ part)
    (h : part <:+: cs ++ c :: ds) : part <:+: cs ∨ part <:+: ds := by
  rcases List.infix_append_iff.mp h with h | h | ⟨front, back, rfl, hfront, hback⟩
  . exact .inl h
  . rcases List.infix_cons_iff.mp h with h | h
    . cases List.prefix_cons_iff.mp h with
      | inl hnil =>
        rw [hnil]
        exact .inl List.nil_infix
      | inr hcons =>
        obtain ⟨tail, rfl, -⟩ := hcons
        exact absurd List.mem_cons_self hc
    . exact .inr h
  . cases List.prefix_cons_iff.mp hback with
    | inl hnil =>
      rw [hnil, List.append_nil]
      exact .inl hfront.isInfix
    | inr hcons =>
      obtain ⟨tail, rfl, -⟩ := hcons
      exact absurd (List.mem_append_right _ List.mem_cons_self) hc

theorem Arrowless.append_dot (hcs : Arrowless cs) (hds : Arrowless ds)
    : Arrowless (cs ++ '.' :: ds) := by
  intro h
  cases infix_of_append_cons (by decide) h with
  | inl h => exact hcs h
  | inr h => exact hds h

theorem splitArrows_ne_nil (cs : List Char) : splitArrows cs ≠ [] := by
  unfold splitArrows
  split
  . exact List.cons_ne_nil _ _
  . exact List.cons_ne_nil _ _
  . split <;> exact List.cons_ne_nil _ _

theorem eq_of_splitArrows_eq_singleton {first : List Char} (h : splitArrows cs = [first])
    : first = cs := by
  fun_induction splitArrows cs generalizing first with
  | case1 =>
    cases h
    rfl
  | case2 cs ih => exact absurd (List.cons.inj h).2 (splitArrows_ne_nil cs)
  | case3 c cs _ hcs => exact absurd hcs (splitArrows_ne_nil cs)
  | case4 c cs hno part parts hcs ih =>
    cases h
    rw [ih hcs]

theorem splitArrows_eq_singleton_iff : splitArrows cs = [cs] ↔ Arrowless cs := by
  unfold Arrowless
  fun_induction splitArrows cs with
  | case1 => simp
  | case2 cs ih =>
    apply iff_of_false
    . intro h
      cases h
    . exact not_not_intro ⟨[], cs, rfl⟩
  | case3 c cs _ hcs => exact absurd hcs (splitArrows_ne_nil cs)
  | case4 c cs hno first rest hcs ih =>
    have hstart : ¬['-', '>'] <+: c :: cs := by
      rintro ⟨after, h⟩
      cases h
      exact hno after rfl rfl
    rw [hcs] at ih
    rw [List.infix_cons_iff, not_or, ← ih]
    simp [hstart]

theorem splitArrows_append_arrow (hcs : Arrowless cs) (ds : List Char)
    : splitArrows (cs ++ '-' :: '>' :: ds) = cs :: splitArrows ds := by
  induction cs with
  | nil => rw [List.nil_append, splitArrows]
  | cons c cs ih =>
    have htail : Arrowless cs := fun h => hcs (List.infix_cons h)
    rw [List.cons_append, splitArrows, ih htail]
    intro rest hc hrest
    cases cs with
    | nil => cases hrest
    | cons d cs =>
      cases hrest
      exact hcs ⟨[], cs, by rw [hc]; rfl⟩

/-! ### Blanks -/

/-- No blank parts the text, or stands at an end of it. -/
def Blankless (cs : List Char) : Prop :=
  ∀ c ∈ cs, isBlank c = false

-- Over the members of the list: the search would go through every character there is.
instance (cs : List Char) : Decidable (Blankless cs) :=
  List.decidableBAll _ cs

theorem Blankless.append (hcs : Blankless cs) (hds : Blankless ds) : Blankless (cs ++ ds) :=
  List.forall_mem_append.mpr ⟨hcs, hds⟩

theorem splitAs?_append_of_blankless (h : Blankless cs) (ds : List Char)
    : splitAs? (cs ++ ds) = (splitAs? ds).map fun (before, rest) => (cs ++ before, rest) := by
  induction cs with
  | nil => simp
  | cons c cs ih =>
    obtain ⟨hc, hcs⟩ := List.forall_mem_cons.mp h
    rw [List.cons_append, splitAs?, ih hcs, afterAs?, hc]
    simp [Function.comp_def]

/-- No word `as` stands between blanks. -/
def Unlabelled (cs : List Char) : Prop :=
  ∀ before a s after, isBlank before → isLetterA a → isLetterS s → isBlank after →
    ¬[before, a, s, after] <:+: cs

/-- What follows blanks follows one blank. -/
theorem infix_of_dropBlanks {c : Char} {word rest : List Char} (hc : isBlank c)
    (h : cs.dropWhile isBlank = word ++ rest) : ∃ blank, isBlank blank ∧ blank :: word <:+: c :: cs := by
  induction cs generalizing c with
  | nil =>
    obtain ⟨rfl, -⟩ := List.append_eq_nil_iff.mp h.symm
    exact ⟨c, hc, List.infix_rfl⟩
  | cons d cs ih =>
    rw [List.dropWhile_cons] at h
    split at h
    . next hd =>
      obtain ⟨blank, hblank, hpiece⟩ := ih hd h
      exact ⟨blank, hblank, List.infix_cons hpiece⟩
    . rw [h]
      exact ⟨c, hc, [], rest, rfl⟩

theorem infix_of_afterAs? {found rest : List Char} (h : afterAs? found = some rest)
    : ∃ before a s after, isBlank before ∧ isLetterA a ∧ isLetterS s ∧ isBlank after ∧
        [before, a, s, after] <:+: found := by
  cases found with
  | nil => cases h
  | cons c cs =>
    rw [afterAs?] at h
    split at h
    . next hc =>
      split at h
      . next a s after tail hcs =>
        split at h
        . next hword =>
          simp only [Bool.and_eq_true] at hword
          have hcs : cs.dropWhile isBlank = [a, s, after] ++ tail := hcs
          obtain ⟨before, hbefore, hpiece⟩ := infix_of_dropBlanks hc hcs
          exact ⟨before, a, s, after, hbefore, hword.1.1, hword.1.2, hword.2, hpiece⟩
        . cases h
      . cases h
    . cases h

theorem isBlank_of_isLetterA {a : Char} (ha : isLetterA a) : isBlank a = false := by
  unfold isLetterA at ha
  rw [Bool.or_eq_true, decide_eq_true_eq, decide_eq_true_eq] at ha
  cases ha with
  | inl ha =>
    rw [ha]
    rfl
  | inr ha =>
    rw [ha]
    rfl

theorem splitAs?_eq_none_iff : splitAs? cs = none ↔ Unlabelled cs := by
  constructor
  . intro h before a s after hbefore ha hs hafter hpiece
    obtain ⟨front, rest, rfl⟩ := hpiece
    have hfound : afterAs? (before :: a :: s :: after :: rest) = some rest := by
      simp [afterAs?, hbefore, isBlank_of_isLetterA ha, ha, hs, hafter]
    have hsplit : splitAs? (before :: a :: s :: after :: rest) = some ([], rest) :=
      splitAs?_cons_eq_some.mpr (.inl ⟨rfl, hfound⟩)
    induction front with
    | nil =>
      simp only [List.nil_append, List.cons_append] at h
      rw [hsplit] at h
      cases h
    | cons c front ih =>
      apply ih
      simp only [List.cons_append] at h ⊢
      rw [splitAs?, Option.or_eq_none_iff, Option.map_eq_none_iff, Option.map_eq_none_iff] at h
      exact h.2
  . intro h
    rw [Option.eq_none_iff_forall_ne_some]
    rintro ⟨before, rest⟩ hsplit
    obtain ⟨found, rfl, hfound, -⟩ := splitAs?_eq_some hsplit
    obtain ⟨front, a, s, after, hfront, ha, hs, hafter, hpiece⟩ := infix_of_afterAs? hfound
    exact h front a s after hfront ha hs hafter (List.infix_append_of_infix_right hpiece)

instance (cs : List Char) : Decidable (Unlabelled cs) :=
  decidable_of_iff _ splitAs?_eq_none_iff

theorem Unlabelled.append_cons {c : Char} (hcs : Unlabelled cs) (hds : Unlabelled ds)
    (hblank : isBlank c = false) (hc : isLetterA c = false ∧ isLetterS c = false)
    : Unlabelled (cs ++ c :: ds) := by
  intro before a s after hbefore ha hs hafter hpiece
  have hnot : c ∉ [before, a, s, after] := by
    simp only [List.mem_cons, List.not_mem_nil, or_false]
    rintro (rfl | rfl | rfl | rfl) <;> simp_all
  cases infix_of_append_cons hnot hpiece with
  | inl h => exact hcs before a s after hbefore ha hs hafter h
  | inr h => exact hds before a s after hbefore ha hs hafter h

theorem Unlabelled.append_arrow (hcs : Unlabelled cs) (hds : Unlabelled ds)
    : Unlabelled (cs ++ '-' :: '>' :: ds) := by
  have hnil : Unlabelled [] := splitAs?_eq_none_iff.mp rfl
  have hhead : Unlabelled ([] ++ '>' :: ds) := hnil.append_cons hds rfl ⟨rfl, rfl⟩
  exact hcs.append_cons hhead rfl ⟨rfl, rfl⟩

theorem Blankless.unlabelled (h : Blankless cs) : Unlabelled cs := by
  intro before a s after hbefore _ _ _ hfound
  have hmem : before ∈ cs := hfound.subset List.mem_cons_self
  rw [h before hmem] at hbefore
  contradiction

theorem dropBlanks_of_blankless (h : Blankless cs)
    : cs.dropWhile isBlank = cs := by
  cases cs with
  | nil => rfl
  | cons c cs =>
    apply List.dropWhile_cons_of_neg
    rw [h c List.mem_cons_self]
    nofun

theorem trim_of_blankless (h : Blankless cs) : trim cs = cs := by
  unfold trim trimEnd trimStart
  rw [dropBlanks_of_blankless h, dropBlanks_of_blankless, List.reverse_reverse]
  intro c hc
  exact h c (List.mem_reverse.mp hc)

/-! ### Names that are not split -/

instance (cs : List Char) : Decidable (Arrowless cs) :=
  decidable_of_iff _ splitArrows_eq_singleton_iff

/-- A name with neither an alias nor a path. -/
structure Bare (s : String) : Prop where
  arrowless : Arrowless s.toList
  unlabelled : Unlabelled s.toList

theorem bare_iff {s : String} : Bare s ↔ Arrowless s.toList ∧ Unlabelled s.toList :=
  ⟨fun h => ⟨h.arrowless, h.unlabelled⟩, fun ⟨h₁, h₂⟩ => ⟨h₁, h₂⟩⟩

instance (s : String) : Decidable (Bare s) := decidable_of_iff _ bare_iff.symm

/-- A piece of a name that is not split is not split either. -/
theorem Bare.of_infix {s t : String} (h : Bare s) (hpiece : t.toList <:+: s.toList) : Bare t where
  arrowless harrow := h.arrowless (harrow.trans hpiece)
  unlabelled before a letter after hbefore ha hletter hafter hfound :=
    h.unlabelled before a letter after hbefore ha hletter hafter (hfound.trans hpiece)

theorem splitAlias?_of_unlabelled {s : String} (h : Unlabelled s.toList)
    : splitAlias? s = none := by
  rw [splitAlias?, splitAs?_eq_none_iff.mpr h]

theorem splitJson?_eq_none_iff {s : String} : splitJson? s = none ↔ Arrowless s.toList := by
  rw [← splitArrows_eq_singleton_iff, splitJson?]
  obtain ⟨column, keys, hsplit⟩ := List.exists_cons_of_ne_nil (splitArrows_ne_nil s.toList)
  cases keys with
  | nil =>
    rw [hsplit, eq_of_splitArrows_eq_singleton hsplit]
    exact iff_of_true rfl rfl
  | cons key keys => simp [hsplit]

end SqlForge.Identifier
