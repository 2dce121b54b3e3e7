import SqlForge.Proofs.Except
import SqlForge.Proofs.Number.Integer

/-!
Whole numbers read from values. What is read is the number that the value denotes, but for a float
beyond the words of 64 bits, for which the end of the words is read.
-/

namespace SqlForge

open SqlForge.Number

namespace IntegerKind

def int64 : IntegerKind := ⟨"i64", true, 64⟩

/-- The number is in the range of the kind. -/
def Holds (k : IntegerKind) (n : Int) : Prop :=
  k.low ≤ n ∧ n ≤ k.high

instance (k : IntegerKind) (n : Int) : Decidable (k.Holds n) := by
  unfold Holds; infer_instance

theorem int64_holds_iff {n : Int} : int64.Holds n ↔ IsWord n := by
  have hlow : int64.low = Int64.minValue.toInt := by decide
  have hhigh : int64.high = Int64.maxValue.toInt := by decide
  rw [Holds, IsWord, hlow, hhigh]

end IntegerKind

namespace Value

variable {v : Value} {n : Int} {w : Int64} {k : IntegerKind}

/-- The number that the value is, or is the text of. -/
def Denotes : Value → Int → Prop
  | .int w, n => w.toInt = n
  | .text s, n => IsNumeral (Text.trim s.toList) n
  | .float x, n => x.decode.value? = some (n : ℚ)
  | _, _ => False

/-- The value is a float beyond the words, and this is the end of them. -/
def Clamps (v : Value) (n : Int) : Prop :=
  ∃ x m, v = .float x ∧ v.Denotes m ∧ ¬IsWord m ∧ (clampInt64 m).toInt = n

/-- An end of the words is in the range of the kind, and is read in place of the number. -/
def Saturates (v : Value) (k : IntegerKind) : Prop :=
  ∃ n, v.Clamps n ∧ k.Holds n

theorem Denotes.unique {m : Int} (hn : v.Denotes n) (hm : v.Denotes m) : n = m := by
  cases v with
  | int w => exact hn.symm.trans hm
  | text s =>
    have hn := integer?_eq_some_iff.mpr hn
    rw [integer?_eq_some_iff.mpr hm] at hn
    exact (Option.some.inj hn).symm
  | float x => exact Int.cast_injective (Option.some.inj (hn.symm.trans hm))
  | _ => cases hn

theorem Clamps.not_denotes (h : v.Clamps n) : ¬v.Denotes n := by
  obtain ⟨x, m, rfl, hm, hword, rfl⟩ := h
  intro hn
  exact hword (clampInt64_eq_iff.mp (hn.unique hm))

theorem Clamps.isWord (h : v.Clamps n) : IsWord n := by
  obtain ⟨-, m, -, -, -, rfl⟩ := h
  exact isWord_toInt _

theorem readInt64_eq_ok_iff : v.readInt64 = .ok w ↔ v.Denotes w.toInt ∨ v.Clamps w.toInt := by
  cases v with
  | int m =>
    have hnot : ¬(int m).Clamps w.toInt := by
      rintro ⟨x, -, hfloat, -⟩
      cases hfloat
    have hread : (int m).readInt64 = .ok m := rfl
    rw [or_iff_left hnot, hread, Except.ok.injEq, ← Int64.toInt_inj]
    rfl
  | text s =>
    have hnot : ¬(text s).Clamps w.toInt := by
      rintro ⟨x, -, hfloat, -⟩
      cases hfloat
    have hread : (text s).readInt64 = .ok w ↔ int64? (Text.trim s.toList) = some w := by
      unfold readInt64
      dsimp only
      cases int64? (Text.trim s.toList) <;> simp
    rw [or_iff_left hnot, hread]
    exact int64?_eq_some_iff
  | float x =>
    have hread : (float x).readInt64 = .ok w ↔ ∃ m, x.toInt? = some m ∧ clampInt64 m = w := by
      rw [← Option.map_eq_some_iff]
      unfold readInt64
      dsimp only
      cases x.toInt?.map clampInt64 <;> simp
    rw [hread]
    constructor
    . rintro ⟨m, hm, rfl⟩
      have hdenotes : (float x).Denotes m := Binary.toInt?_eq_some_iff.mp hm
      by_cases hword : IsWord m
      . rw [clampInt64_of_isWord hword]
        exact .inl hdenotes
      . exact .inr ⟨x, m, rfl, hdenotes, hword, rfl⟩
    . rintro (hdenotes | ⟨_, m, -, hdenotes, -, hclamp⟩)
      . refine ⟨w.toInt, Binary.toInt?_eq_some_iff.mpr hdenotes, ?_⟩
        exact Int64.toInt_inj.mp (clampInt64_of_isWord (isWord_toInt w))
      . exact ⟨m, Binary.toInt?_eq_some_iff.mpr hdenotes, Int64.toInt_inj.mp hclamp⟩
  | null | bytes | json | date | dateTime | uuid =>
    refine iff_of_false ?_ ?_
    . intro hread
      contradiction
    . rintro (hdenotes | ⟨x, -, hfloat, -⟩)
      . cases hdenotes
      . cases hfloat

theorem readInteger_eq_ok_iff
    : v.readInteger k = .ok n ↔ ((v.Denotes n ∧ IsWord n) ∨ v.Clamps n) ∧ k.Holds n := by
  have hread : v.readInteger k = .ok n ↔ ∃ w, v.readInt64 = .ok w ∧ w.toInt = n ∧ k.Holds n := by
    unfold readInteger
    rw [bind_eq_ok]
    refine exists_congr fun w => and_congr_right fun _ => ?_
    dsimp only
    split
    . next hholds =>
      rw [pure_eq_ok]
      constructor
      . rintro rfl
        exact ⟨rfl, hholds⟩
      . exact And.left
    . next hholds =>
      refine iff_of_false ?_ ?_
      . intro hthrown
        contradiction
      . rintro ⟨rfl, hn⟩
        exact hholds hn
  rw [hread]
  constructor
  . rintro ⟨w, hw, rfl, hholds⟩
    exact ⟨(readInt64_eq_ok_iff.mp hw).imp_left fun h => ⟨h, isWord_toInt w⟩, hholds⟩
  . rintro ⟨hfound, hholds⟩
    have hword : IsWord n := hfound.elim And.right Clamps.isWord
    refine ⟨.ofInt n, readInt64_eq_ok_iff.mpr ?_, toInt_ofInt_of_isWord hword, hholds⟩
    rw [toInt_ofInt_of_isWord hword]
    exact hfound.imp_left And.left

theorem readInt64_eq_readInteger : v.readInt64 = .ok w ↔ v.readInteger .int64 = .ok w.toInt := by
  rw [readInteger_eq_ok_iff, readInt64_eq_ok_iff, IntegerKind.int64_holds_iff]
  have hword := isWord_toInt w
  tauto

/-- Nothing but what the value denotes is read, if and only if the reading does not saturate. -/
theorem readInteger_denotes_iff
    : (∀ n, v.readInteger k = .ok n → v.Denotes n) ↔ ¬v.Saturates k := by
  simp only [readInteger_eq_ok_iff]
  constructor
  . rintro h ⟨n, hclamps, hholds⟩
    exact hclamps.not_denotes (h n ⟨.inr hclamps, hholds⟩)
  . rintro h n ⟨hdenotes | hclamps, hholds⟩
    . exact hdenotes.1
    . exact absurd ⟨n, hclamps, hholds⟩ h

theorem readInteger_of_not_saturates (h : ¬v.Saturates k)
    : v.readInteger k = .ok n ↔ v.Denotes n ∧ IsWord n ∧ k.Holds n := by
  rw [readInteger_eq_ok_iff]
  constructor
  . rintro ⟨hdenotes | hclamps, hholds⟩
    . exact ⟨hdenotes.1, hdenotes.2, hholds⟩
    . exact absurd ⟨n, hclamps, hholds⟩ h
  . rintro ⟨hdenotes, hword, hholds⟩
    exact ⟨.inl ⟨hdenotes, hword⟩, hholds⟩

/-- The narrower kinds hold no end of the words. -/
theorem Saturates.bits_eq (hk : k ∈ IntegerKind.all) (h : v.Saturates k) : k.bits = 64 := by
  obtain ⟨n, ⟨x, m, -, -, hword, rfl⟩, hholds⟩ := h
  have hend : k.Holds Int64.minValue.toInt ∨ k.Holds Int64.maxValue.toInt := by
    obtain ⟨-, hclamp⟩ | ⟨-, hclamp⟩ := clampInt64_of_not_isWord hword
    . rw [hclamp] at hholds
      exact .inl hholds
    . rw [hclamp] at hholds
      exact .inr hholds
  have hall : ∀ k ∈ IntegerKind.all,
      k.Holds Int64.minValue.toInt ∨ k.Holds Int64.maxValue.toInt → k.bits = 64 := by
    decide
  exact hall k hk hend

end Value

end SqlForge
