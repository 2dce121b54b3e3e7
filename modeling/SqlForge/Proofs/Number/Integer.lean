import Mathlib.Data.Rat.Cast.Order
import Mathlib.Algebra.Order.Field.Basic
import SqlForge.Proofs.Number.Digits
import SqlForge.Row.Decode

/-!
Whole numbers that fit a word, from decimal digits and from binary patterns. A pattern is said by
the fraction that it stands for, apart from how it is read.
-/

namespace SqlForge.Number

/-- The fraction that a pattern stands for, if it stands for a number. -/
def Datum.value? : Datum → Option ℚ
  | .finite negative significand exponent =>
    some ((if negative then -1 else 1) * significand * 2 ^ exponent)
  | .nan | .infinite _ => none

/-- The whole numbers that a signed word of 64 bits can hold. -/
def IsWord (n : Int) : Prop :=
  Int64.minValue.toInt ≤ n ∧ n ≤ Int64.maxValue.toInt

instance (n : Int) : Decidable (IsWord n) := by
  unfold IsWord; infer_instance

variable {cs : List Char} {n : Int} {w : Int64}

/-! ### Words -/

theorem isWord_toInt (w : Int64) : IsWord w.toInt :=
  ⟨w.minValue_le_toInt, w.toInt_le⟩

theorem toInt_ofInt_of_isWord (h : IsWord n) : (Int64.ofInt n).toInt = n := by
  obtain ⟨hlow, hhigh⟩ := h
  rw [Int64.toInt_minValue] at hlow
  rw [Int64.toInt_maxValue] at hhigh
  exact Int64.toInt_ofInt_of_le hlow (by omega)

theorem ofInt_eq_iff (h : IsWord n) : Int64.ofInt n = w ↔ n = w.toInt := by
  rw [← Int64.toInt_inj, toInt_ofInt_of_isWord h]

theorem int64?_eq_some_iff : int64? cs = some w ↔ IsNumeral cs w.toInt := by
  rw [← integer?_eq_some_iff]
  unfold int64?
  cases hcs : integer? cs with
  | none => simp
  | some n =>
    dsimp only
    rw [Option.some.injEq]
    split
    . next hword => rw [Option.some.injEq, ofInt_eq_iff hword]
    . next hword =>
      constructor
      . intro h
        contradiction
      . rintro rfl
        exact absurd (isWord_toInt w) hword

/-! ### Binary patterns -/

theorem clampInt64_of_isWord (h : IsWord n) : (clampInt64 n).toInt = n := by
  obtain ⟨hlow, hhigh⟩ := h
  rw [clampInt64, if_neg (by omega), if_neg (by omega), toInt_ofInt_of_isWord ⟨hlow, hhigh⟩]

theorem clampInt64_of_not_isWord (h : ¬IsWord n)
    : n < Int64.minValue.toInt ∧ clampInt64 n = Int64.minValue ∨
      Int64.maxValue.toInt < n ∧ clampInt64 n = Int64.maxValue := by
  unfold IsWord at h
  unfold clampInt64
  by_cases hlow : n < Int64.minValue.toInt
  . exact .inl ⟨hlow, if_pos hlow⟩
  . have hhigh : Int64.maxValue.toInt < n := by omega
    exact .inr ⟨hhigh, by rw [if_neg hlow, if_pos hhigh]⟩

theorem clampInt64_eq_iff : (clampInt64 n).toInt = n ↔ IsWord n := by
  constructor
  . intro h
    rw [← h]
    exact isWord_toInt _
  . exact clampInt64_of_isWord

theorem value_ratio (significand : Nat) (exponent : Int)
    : (significand * 2 ^ exponent : ℚ) =
      (Binary.ratio significand exponent).1 / (Binary.ratio significand exponent).2 := by
  unfold Binary.ratio
  simp only [Nat.pow_eq, Nat.cast_mul, Nat.cast_pow, Nat.cast_ofNat]
  cases exponent with
  | ofNat e => simp
  | negSucc e => simp [zpow_negSucc, div_eq_mul_inv]

/-- A fraction is a whole number if nothing remains. -/
theorem div_eq_intCast_iff {num den : Nat} (hden : den ≠ 0)
    : (num / den : ℚ) = n ↔ num % den = 0 ∧ (num / den : Nat) = n := by
  have hrat : (den : ℚ) ≠ 0 := Nat.cast_ne_zero.mpr hden
  rw [div_eq_iff hrat]
  constructor
  . intro h
    have hint : (num : Int) = n * den := by exact_mod_cast h
    have hdvd : den ∣ num := Int.natCast_dvd_natCast.mp ⟨n, by rw [hint, mul_comm]⟩
    refine ⟨Nat.mod_eq_zero_of_dvd hdvd, ?_⟩
    rw [Int.natCast_div, hint, Int.mul_ediv_cancel n (by exact_mod_cast hden)]
  . rintro ⟨hmod, rfl⟩
    have hnum := Nat.div_add_mod num den
    rw [hmod, Nat.add_zero, mul_comm] at hnum
    exact_mod_cast hnum.symm

/-- A pattern gives a whole number if that is what it stands for. -/
theorem Binary.toInt?_eq_some_iff {f : Format} {x : Binary f}
    : x.toInt? = some n ↔ x.decode.value? = some (n : ℚ) := by
  unfold Binary.toInt?
  cases x.decode with
  | nan => simp [Datum.value?]
  | infinite negative => simp [Datum.value?]
  | finite negative significand exponent =>
    have hden : (ratio significand exponent).2 ≠ 0 := by
      unfold ratio
      simp [Nat.pow_eq]
    have hvalue := value_ratio significand exponent
    dsimp only [Datum.value?]
    rw [Option.some.injEq, mul_assoc, hvalue]
    cases negative with
    | false =>
      simp only [Bool.false_eq_true, if_false, one_mul]
      rw [div_eq_intCast_iff hden]
      split
      . next hmod => simp [hmod]
      . next hmod => simp [hmod]
    | true =>
      simp only [if_true, neg_one_mul]
      rw [neg_eq_iff_eq_neg, ← Int.cast_neg, div_eq_intCast_iff hden]
      split
      . next hmod => simp [hmod, neg_eq_iff_eq_neg]
      . next hmod => simp [hmod]

end SqlForge.Number
