import SqlForge.Config

/-!
Texts that are cut at a byte budget. What is kept is the longest start of the text within the
budget, and it ends where a search over the bytes ends that goes down from the budget to the first
position between two characters.
-/

namespace SqlForge

open String.Pos.Raw

namespace Text

/-- The longest start of a text of at most `budget` bytes. -/
def cut (budget : Nat) (s : String) : String :=
  String.ofList (takeBytes budget s.toList)

/-- The first position from `n` downwards that splits no character. -/
def boundaryBelow (s : String) : Nat → Nat
  | 0 => 0
  | n + 1 => if isValid s ⟨n + 1⟩ then n + 1 else boundaryBelow s n

/-- The text starts with `part`, which fits the budget, and with nothing longer that does. -/
structure LongestWithin (budget : Nat) (s part : String) : Prop where
  isPrefix : part.toList <+: s.toList
  size_le : part.utf8ByteSize ≤ budget
  longest : ∀ p : String, p.toList <+: s.toList → p.utf8ByteSize ≤ budget → p.toList <+: part.toList

variable {budget n : Nat} {cs part : List Char} {s : String}

theorem byteLength_eq (cs : List Char) : byteLength cs = (String.ofList cs).utf8ByteSize := by
  induction cs with
  | nil => rfl
  | cons c cs ih =>
    have hcons : String.ofList (c :: cs) = String.singleton c ++ String.ofList cs := by
      rw [String.singleton_eq_ofList, ← String.ofList_append, List.singleton_append]
    rw [hcons, String.utf8ByteSize_append, String.utf8ByteSize_singleton, ← ih]
    rfl

theorem takeBytes_isPrefix (budget : Nat) (cs : List Char) : takeBytes budget cs <+: cs := by
  induction cs generalizing budget with
  | nil => exact List.nil_prefix
  | cons c cs ih =>
    unfold takeBytes
    split
    . exact List.cons_prefix_cons.mpr ⟨rfl, ih (budget - c.utf8Size)⟩
    . exact List.nil_prefix

theorem isPrefix_takeBytes (h : part <+: cs) (hfits : byteLength part ≤ budget)
    : part <+: takeBytes budget cs := by
  induction cs generalizing budget part with
  | nil => exact h
  | cons c cs ih =>
    cases part with
    | nil => exact List.nil_prefix
    | cons c' part =>
      obtain ⟨rfl, hrest⟩ := List.cons_prefix_cons.mp h
      have hsize : byteLength (c' :: part) = c'.utf8Size + byteLength part := rfl
      rw [takeBytes, if_pos (by omega)]
      exact List.cons_prefix_cons.mpr ⟨rfl, ih hrest (by omega)⟩

theorem cut_longestWithin (budget : Nat) (s : String) : LongestWithin budget s (cut budget s) where
  isPrefix := by
    rw [cut, String.toList_ofList]
    exact takeBytes_isPrefix budget s.toList
  size_le := by
    rw [cut, ← byteLength_eq]
    exact byteLength_takeBytes_le budget s.toList
  longest := by
    intro p hp hfits
    rw [cut, String.toList_ofList]
    rw [← String.ofList_toList (s := p), ← byteLength_eq] at hfits
    exact isPrefix_takeBytes hp hfits

theorem LongestWithin.eq_self_iff {part : String} (h : LongestWithin budget s part)
    : part = s ↔ s.utf8ByteSize ≤ budget := by
  constructor
  . rintro rfl
    exact h.size_le
  . intro hfits
    have hall := h.longest s List.prefix_rfl hfits
    exact String.toList_injective (h.isPrefix.eq_of_length_le hall.length_le)

/-! ### Positions -/

theorem isValid_iff : isValid s ⟨n⟩ ↔ ∃ p : String, p.toList <+: s.toList ∧ p.utf8ByteSize = n := by
  rw [isValid_eq_true_iff, isValid_iff_exists_append]
  constructor
  . rintro ⟨p, rest, rfl, hn⟩
    exact ⟨p, by simp, (congrArg byteIdx hn).symm⟩
  . rintro ⟨p, ⟨rest, hrest⟩, rfl⟩
    refine ⟨p, String.ofList rest, ?_, rfl⟩
    apply String.toList_injective
    rw [String.toList_append, String.toList_ofList, hrest]

theorem boundaryBelow_le (s : String) (n : Nat) : boundaryBelow s n ≤ n := by
  induction n with
  | zero => exact Nat.le_refl 0
  | succ n ih =>
    unfold boundaryBelow
    split
    . exact Nat.le_refl (n + 1)
    . omega

theorem isValid_boundaryBelow (s : String) (n : Nat) : isValid s ⟨boundaryBelow s n⟩ := by
  induction n with
  | zero => exact isValid_iff.mpr ⟨"", List.nil_prefix, rfl⟩
  | succ n ih =>
    unfold boundaryBelow
    split
    . next h => exact h
    . exact ih

theorem le_boundaryBelow {m : Nat} (hvalid : isValid s ⟨m⟩) (hle : m ≤ n)
    : m ≤ boundaryBelow s n := by
  induction n with
  | zero => exact hle
  | succ n ih =>
    unfold boundaryBelow
    split
    . exact hle
    . next hnot =>
      have hne : m ≠ n + 1 := by
        rintro rfl
        exact hnot hvalid
      exact ih (by omega)

/-- The longest start ends where the search ends. -/
theorem LongestWithin.size_eq {part : String} (h : LongestWithin budget s part)
    : part.utf8ByteSize = boundaryBelow s budget := by
  apply Nat.le_antisymm
  . exact le_boundaryBelow (isValid_iff.mpr ⟨part, h.isPrefix, rfl⟩) h.size_le
  . obtain ⟨p, hp, hsize⟩ := isValid_iff.mp (isValid_boundaryBelow s budget)
    have hle := boundaryBelow_le s budget
    obtain ⟨rest, hrest⟩ := h.longest p hp (by omega)
    rw [← hsize, ← String.ofList_toList (s := part), ← hrest, String.ofList_append,
      String.utf8ByteSize_append, String.ofList_toList]
    omega

theorem LongestWithin.bytes_eq {part : String} (h : LongestWithin budget s part)
    : part.toByteArray = s.toByteArray.extract 0 (boundaryBelow s budget) := by
  obtain ⟨rest, hrest⟩ := h.isPrefix
  have hs : s = part ++ String.ofList rest := by
    apply String.toList_injective
    rw [String.toList_append, String.toList_ofList, hrest]
  rw [← h.size_eq, hs, String.toByteArray_append]
  exact (ByteArray.extract_append_eq_left rfl).symm

end Text

namespace LogConfig

theorem shorten_eq (c : LogConfig) (sql : String)
    : c.shorten sql =
      match c.maxLength with
      | none => sql
      | some max => if sql.utf8ByteSize ≤ max then sql else Text.cut max sql ++ "..." := by
  unfold shorten
  cases c.maxLength with
  | none => rfl
  | some max =>
    dsimp only
    rw [Text.byteLength_eq, String.ofList_toList]
    rfl

/--
A text is cut to its longest start within the budget: all of it if it fits, and otherwise the bytes
up to the first position from the budget downwards that splits no character. A statement is logged
as it is if there is no limit or it fits, and otherwise cut, with dots behind it.
-/
theorem shorten_longest (c : LogConfig) (sql : String)
    : (∀ max, Text.LongestWithin max sql (Text.cut max sql) ∧
        (Text.cut max sql = sql ↔ sql.utf8ByteSize ≤ max) ∧
        (Text.cut max sql).toByteArray =
          sql.toByteArray.extract 0 (Text.boundaryBelow sql max)) ∧
      ((∀ max ∈ c.maxLength, sql.utf8ByteSize ≤ max) → c.shorten sql = sql) ∧
      ∀ max ∈ c.maxLength, max < sql.utf8ByteSize →
        c.shorten sql = Text.cut max sql ++ "..." := by
  refine ⟨fun max => ?_, fun hfits => ?_, fun max hmax hlong => ?_⟩
  . have hlongest := Text.cut_longestWithin max sql
    exact ⟨hlongest, hlongest.eq_self_iff, hlongest.bytes_eq⟩
  . rw [shorten_eq]
    cases hmax : c.maxLength with
    | none => rfl
    | some max => exact if_pos (hfits max hmax)
  . have hmax : c.maxLength = some max := hmax
    rw [shorten_eq, hmax]
    exact if_neg (by omega)

end LogConfig

end SqlForge
