import Mathlib.Data.Nat.Digits.Defs
import SqlForge.Uuid

/-!
Identifiers are read back from their hyphenated texts, which no quote may enclose.
-/

namespace SqlForge.Uuid

/-! ### Hexadecimal digits -/

/-- What is written for a digit below sixteen. -/
def IsHexDigit (c : Char) : Prop :=
  ∃ d < 16, c = Nat.digitChar d

def valueOfHex (values : List Nat) : Nat :=
  values.foldl (fun n d => 16 * n + d) 0

variable {c : Char} {n : Nat}

theorem hexValue?_digitChar {d : Nat} (h : d < 16)
    : Json.hexValue? (Nat.digitChar d) = some d := by
  have hall : ∀ d < 16, Json.hexValue? (Nat.digitChar d) = some d := by decide
  exact hall d h

/-- Hexadecimal digits are no hyphen, no brace, and no letter of `urn`. -/
theorem IsHexDigit.ne (h : IsHexDigit c) : c ≠ '-' ∧ c ≠ '\x7b' ∧ c.toLower ≠ 'u' := by
  obtain ⟨d, hd, rfl⟩ := h
  have hall : ∀ d < 16, Nat.digitChar d ≠ '-' ∧ Nat.digitChar d ≠ '\x7b' ∧
      (Nat.digitChar d).toLower ≠ 'u' := by decide
  exact hall d hd

theorem toDigits_sixteen (n : Nat)
    : (∀ c ∈ Nat.toDigits 16 n, IsHexDigit c) ∧
      ∃ values, (Nat.toDigits 16 n).mapM Json.hexValue? = some values ∧ valueOfHex values = n := by
  induction n using Nat.strongRecOn with
  | ind n ih =>
    by_cases hn : n < 16
    . rw [Nat.toDigits_of_lt_base hn]
      refine ⟨?_, [n], ?_, ?_⟩
      . intro c hc
        exact ⟨n, hn, List.mem_singleton.mp hc⟩
      . simp [hexValue?_digitChar hn]
      . simp [valueOfHex]
    . have hmod : n % 16 < 16 := Nat.mod_lt n (by decide)
      obtain ⟨hdigits, values, hvalues, hvalue⟩ := ih (n / 16) (by omega)
      rw [Nat.toDigits_of_base_le (by decide) (by omega)]
      refine ⟨?_, values ++ [n % 16], ?_, ?_⟩
      . intro c hc
        cases List.mem_append.mp hc with
        | inl hc => exact hdigits c hc
        | inr hc => exact ⟨n % 16, hmod, List.mem_singleton.mp hc⟩
      . rw [List.mapM_append, hvalues]
        simp [hexValue?_digitChar hmod]
      . unfold valueOfHex at *
        rw [List.foldl_append, hvalue]
        simp
        omega

theorem length_hexText (u : Uuid) : u.hexText.length = 32 := by
  have hlength : (Nat.toDigits 16 u.bits.toNat).length ≤ 32 := by
    rw [Nat.length_toDigits_le_iff (by decide) (by decide)]
    exact u.bits.isLt
  unfold hexText
  dsimp only
  rw [List.length_append, List.length_replicate, Nat.sub_add_cancel hlength]

theorem isHexDigit_of_mem_hexText {u : Uuid} (h : c ∈ u.hexText) : IsHexDigit c := by
  unfold hexText at h
  dsimp only at h
  cases List.mem_append.mp h with
  | inl h => exact ⟨0, by decide, List.eq_of_mem_replicate h⟩
  | inr h => exact (toDigits_sixteen _).1 c h

theorem ofHex?_hexText (u : Uuid) : ofHex? u.hexText = some u := by
  obtain ⟨-, values, hvalues, hvalue⟩ := toDigits_sixteen u.bits.toNat
  have hzeros (k : Nat)
      : (List.replicate k '0').mapM Json.hexValue? = some (List.replicate k 0) := by
    induction k with
    | zero => rfl
    | succ k ih =>
      have hzero : Json.hexValue? '0' = some 0 := by decide
      rw [List.replicate_succ, List.mapM_cons, hzero, ih]
      rfl
  have hfold (k : Nat) : valueOfHex (List.replicate k 0) = 0 := by
    induction k with
    | zero => rfl
    | succ k ih => exact ih
  unfold ofHex? hexText
  dsimp only
  rw [List.mapM_append, hzeros, hvalues]
  simp only [Option.pure_def, Option.bind_eq_bind, Option.bind_some, Option.map_some,
    List.foldl_append]
  unfold valueOfHex at hfold hvalue
  rw [hfold, hvalue, BitVec.ofNat_toNat, BitVec.setWidth_eq]

/-! ### Groups -/

/-- The digits in groups of the given lengths. -/
def hyphenated (digits : List Char) : List Nat → List Char
  | [] => []
  | [n] => digits.take n
  | n :: ns => digits.take n ++ '-' :: hyphenated (digits.drop n) ns

theorem readGroups?_hyphenated {digits : List Char} {lengths : List Nat}
    (h : digits.length = lengths.sum)
    : readGroups? (hyphenated digits lengths) lengths = some digits := by
  induction lengths generalizing digits with
  | nil =>
    rw [List.eq_nil_of_length_eq_zero h]
    rfl
  | cons n lengths ih =>
    rw [List.sum_cons] at h
    cases lengths with
    | nil =>
      have hall : digits.take n = digits := List.take_of_length_le (by simp [h])
      simp only [hyphenated, readGroups?, hall]
      rw [if_pos (by simpa using h)]
    | cons k lengths =>
      have hgroup : (digits.take n).length = n := by
        rw [List.length_take]
        omega
      have hrest : (digits.drop n).length = (k :: lengths).sum := by
        rw [List.length_drop]
        omega
      have hsplit : (digits.take n ++ '-' :: hyphenated (digits.drop n) (k :: lengths)).drop n =
          '-' :: hyphenated (digits.drop n) (k :: lengths) := List.drop_left' hgroup
      have hfirst : (digits.take n ++ '-' :: hyphenated (digits.drop n) (k :: lengths)).take n =
          digits.take n := List.take_left' hgroup
      have hread : readGroups? (hyphenated digits (n :: k :: lengths)) (n :: k :: lengths) =
          (readGroups? (hyphenated (digits.drop n) (k :: lengths)) (k :: lengths)).map
            (digits.take n ++ ·) := by
        rw [hyphenated.eq_def, readGroups?.eq_def]
        dsimp only
        rw [hsplit, hfirst]
        rfl
      rw [hread, ih hrest, Option.map_some, List.take_append_drop]

theorem text_toList (u : Uuid) : u.text.toList = hyphenated u.hexText groups := by
  have htext : u.text = "-".intercalate [String.ofList (u.hexText.take 8),
      String.ofList ((u.hexText.drop 8).take 4), String.ofList (((u.hexText.drop 8).drop 4).take 4),
      String.ofList ((((u.hexText.drop 8).drop 4).drop 4).take 4),
      String.ofList (((((u.hexText.drop 8).drop 4).drop 4).drop 4).take 12)] := rfl
  rw [htext]
  simp [hyphenated, groups, String.intercalate_cons_cons]

theorem length_text (u : Uuid) : u.text.toList.length = 36 := by
  rw [text_toList]
  simp [hyphenated, groups, length_hexText]

theorem exists_text_cons (u : Uuid) : ∃ c cs, u.text.toList = c :: cs ∧ IsHexDigit c := by
  have hne : u.hexText ≠ [] := List.ne_nil_of_length_eq_add_one u.length_hexText
  obtain ⟨c, cs, hcons⟩ := List.exists_cons_of_ne_nil hne
  have hdigit : IsHexDigit c := isHexDigit_of_mem_hexText (by rw [hcons]; exact List.mem_cons_self)
  rw [text_toList, hcons]
  exact ⟨c, _, rfl, hdigit⟩

/-- Neither the short form nor one with something around it is looked for. -/
theorem read?_of_head {s : String} {cs : List Char} (hs : s.toList = c :: cs)
    (hlength : s.toList.length ≠ 32) (hbrace : c ≠ '\x7b') (hletter : c.toLower ≠ 'u')
    : read? s = ofHyphenated? s.toList := by
  have hprefix : (s.toList.take 9).map Char.toLower ≠ "urn:uuid:".toList := by
    rw [hs]
    intro heq
    exact hletter (List.cons.inj heq).1
  unfold read?
  dsimp only
  rw [if_neg hlength, if_neg hprefix, hs]
  split
  . next heq =>
    cases heq
    contradiction
  . rfl

theorem read?_text (u : Uuid) : read? u.text = some u := by
  obtain ⟨c, cs, hcons, hdigit⟩ := u.exists_text_cons
  have hlength : u.text.toList.length ≠ 32 := by
    rw [length_text]
    decide
  have hgroups : u.hexText.length = groups.sum := u.length_hexText
  rw [read?_of_head hcons hlength hdigit.ne.2.1 hdigit.ne.2.2, ofHyphenated?, text_toList,
    readGroups?_hyphenated hgroups, Option.bind_some, ofHex?_hexText]

/-- A quote in front of the digits leaves no hyphen in its place. -/
theorem read?_quoted (u : Uuid) : read? ("'" ++ u.text ++ "'") = none := by
  have hseven : 7 < u.hexText.length := by
    rw [length_hexText]
    decide
  have hdigit : IsHexDigit u.hexText[7] := isHexDigit_of_mem_hexText (List.getElem_mem hseven)
  have hlength : ("'" ++ u.text ++ "'").toList.length ≠ 32 := by
    have htext := u.length_text
    simp only [String.toList_append, List.length_append, htext]
    decide
  have htext : ("'" ++ u.text ++ "'").toList = '\x27' :: (u.text.toList ++ ['\x27']) := by simp
  have hdrop : ("'" ++ u.text ++ "'").toList.drop 8 = u.hexText[7] :: '-' ::
      (hyphenated (u.hexText.drop 8) [4, 4, 4, 12] ++ ['\x27']) := by
    have hgroup : u.hexText.take 8 = u.hexText.take 7 ++ [u.hexText[7]] :=
      (List.take_append_getElem hseven).symm
    have hfirst : ('\x27' :: u.hexText.take 7).length = 8 := by
      rw [List.length_cons, List.length_take]
      omega
    have hsplit : ("'" ++ u.text ++ "'").toList = ('\x27' :: u.hexText.take 7) ++
        u.hexText[7] :: '-' :: (hyphenated (u.hexText.drop 8) [4, 4, 4, 12] ++ ['\x27']) := by
      have hyphen : hyphenated u.hexText groups =
          u.hexText.take 8 ++ '-' :: hyphenated (u.hexText.drop 8) [4, 4, 4, 12] := rfl
      rw [htext, text_toList, hyphen, hgroup]
      simp only [List.append_assoc, List.cons_append, List.nil_append]
    rw [hsplit, List.drop_left' hfirst]
  rw [read?_of_head htext hlength (by decide) (by decide), ofHyphenated?]
  have hnone : readGroups? ("'" ++ u.text ++ "'").toList groups = none := by
    unfold groups
    rw [readGroups?.eq_def]
    dsimp only
    rw [hdrop]
    split
    . next heq => exact absurd (List.cons.inj heq).1 hdigit.ne.1
    . rfl
  rw [hnone, Option.bind_none]

end SqlForge.Uuid
