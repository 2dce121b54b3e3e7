/-!
Unsigned words whose arithmetic stops at the ends of their range instead of going around.
-/

namespace SqlForge.Word

/-- The difference, or zero where there is none. -/
def satSub (a b : UInt64) : UInt64 :=
  .ofNatClamp (a.toNat - b.toNat)

/-- The product, or the largest word where it is larger. -/
def satMul (a b : UInt64) : UInt64 :=
  .ofNatClamp (a.toNat * b.toNat)

/-- The signed word of the same number, or the largest one. -/
def toSigned (a : UInt64) : Int64 :=
  .ofIntClamp a.toNat

theorem toNat_ofNatClamp (n : Nat)
    : (UInt64.ofNatClamp n).toNat = min n (UInt64.size - 1) := by
  by_cases h : n < UInt64.size
  . rw [UInt64.toNat_ofNatClamp_of_lt h, Nat.min_eq_left (Nat.le_sub_one_of_lt h)]
  . have hsize : UInt64.size ≤ n := Nat.le_of_not_lt h
    rw [UInt64.toNat_ofNatClamp_of_le hsize, Nat.min_eq_right (Nat.le_trans (Nat.sub_le _ _) hsize)]

theorem toNat_satSub (a b : UInt64) : (satSub a b).toNat = a.toNat - b.toNat := by
  have ha : a.toNat - b.toNat < UInt64.size := Nat.lt_of_le_of_lt (Nat.sub_le _ _) a.toNat_lt_size
  exact UInt64.toNat_ofNatClamp_of_lt ha

theorem toNat_satMul (a b : UInt64)
    : (satMul a b).toNat = min (a.toNat * b.toNat) (UInt64.size - 1) :=
  toNat_ofNatClamp _

theorem toInt_toSigned (a : UInt64)
    : (toSigned a).toInt = (min a.toNat Int64.maxValue.toNatClampNeg : Nat) := by
  have hlow : Int64.minValue.toInt ≤ a.toNat := Int.le_trans (by decide) (Int.natCast_nonneg _)
  have hmax : Int64.maxValue.toInt = Int64.maxValue.toNatClampNeg := by decide
  unfold toSigned Int64.ofIntClamp
  rw [dif_pos hlow]
  split
  . next h =>
    rw [Int64.toInt_ofIntLE, Nat.min_eq_left (by omega)]
  . next h =>
    rw [hmax, Nat.min_eq_right (by omega)]

end SqlForge.Word
