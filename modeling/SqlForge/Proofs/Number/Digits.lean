import Mathlib.Data.Nat.Digits.Defs
import Mathlib.Tactic.Ring
import SqlForge.Number.Digits

/-!
A numeral is said by the places of its digits, apart from how it is read; what is written in
decimal digits is read as the number again.
-/

namespace SqlForge.Number

/-- The number in which every digit counts by its place. -/
def placeValue (digits : List Char) : Nat :=
  Nat.ofDigits 10 (digits.map digitValue).reverse

/-- An optional sign, and digits that count by their places. -/
def IsNumeral (cs : List Char) (n : Int) : Prop :=
  ∃ sign digits, cs = sign ++ digits ∧ (sign = [] ∨ sign = ['+'] ∨ sign = ['-']) ∧
    digits ≠ [] ∧ (∀ c ∈ digits, c.isDigit) ∧
    n = (if sign = ['-'] then -1 else 1) * (placeValue digits : Int)

section

variable {cs digits : List Char} {n : Int}

theorem valueOfDigits_eq (start : Nat) (digits : List Char)
    : valueOfDigits start digits = start * 10 ^ digits.length + placeValue digits := by
  unfold placeValue
  induction digits generalizing start with
  | nil => simp [valueOfDigits]
  | cons c digits ih =>
    have hstep : valueOfDigits start (c :: digits) =
        valueOfDigits (10 * start + digitValue c) digits := rfl
    rw [hstep, ih, List.map_cons, List.reverse_cons, Nat.ofDigits_append, Nat.ofDigits_singleton,
      List.length_reverse, List.length_map, List.length_cons, Nat.pow_succ]
    ring

theorem takeSign_eq (cs : List Char)
    : ∃ sign, cs = sign ++ (takeSign cs).2 ∧ (sign = [] ∨ sign = ['+'] ∨ sign = ['-']) ∧
        ((takeSign cs).1 = true ↔ sign = ['-']) := by
  unfold takeSign
  split
  . exact ⟨['-'], rfl, by simp, by simp⟩
  . exact ⟨['+'], rfl, by simp, by simp⟩
  . exact ⟨[], rfl, by simp, by simp⟩

theorem takeSign_digits (hne : digits ≠ []) (hdigits : ∀ c ∈ digits, c.isDigit)
    : takeSign digits = (false, digits) := by
  obtain ⟨first, rest, rfl⟩ := List.exists_cons_of_ne_nil hne
  have hfirst := hdigits first List.mem_cons_self
  unfold takeSign
  split
  . next heq =>
    cases heq
    contradiction
  . next heq =>
    cases heq
    contradiction
  . rfl

theorem integer?_eq_some_iff : integer? cs = some n ↔ IsNumeral cs n := by
  constructor
  . intro h
    obtain ⟨sign, hcs, hsign, hnegative⟩ := takeSign_eq cs
    unfold integer? at h
    dsimp only at h
    split at h
    . contradiction
    . next hok =>
      simp only [Bool.or_eq_true, Bool.not_eq_true', not_or, List.isEmpty_iff, Bool.not_eq_false,
        List.all_eq_true] at hok
      refine ⟨sign, (takeSign cs).2, hcs, hsign, hok.1, hok.2, ?_⟩
      rw [valueOfDigits_eq, Nat.zero_mul, Nat.zero_add] at h
      by_cases hminus : sign = ['-']
      . rw [if_pos (hnegative.mpr hminus)] at h
        rw [if_pos hminus, ← Option.some.inj h, neg_one_mul]
      . rw [if_neg (hnegative.not.mpr hminus)] at h
        rw [if_neg hminus, ← Option.some.inj h, one_mul]
  . rintro ⟨sign, digits, rfl, hsign, hne, hdigits, rfl⟩
    have hok : (digits.isEmpty || !digits.all Char.isDigit) = false := by
      simp [hne, List.all_eq_true.mpr hdigits]
    have hread (negative : Bool) (hsplit : takeSign (sign ++ digits) = (negative, digits))
        : integer? (sign ++ digits) =
          some (if negative then -(placeValue digits : Int) else placeValue digits) := by
      unfold integer?
      rw [hsplit]
      dsimp only
      rw [hok, if_neg Bool.false_ne_true, valueOfDigits_eq, Nat.zero_mul, Nat.zero_add]
    rcases hsign with rfl | rfl | rfl
    . rw [hread false (takeSign_digits hne hdigits)]
      simp
    . rw [hread false rfl]
      simp
    . rw [hread true rfl]
      simp

end

section

variable {width n : Nat}

theorem valueOfDigits_eq_ofDigitChars (start : Nat) (digits : List Char)
    : valueOfDigits start digits = Nat.ofDigitChars 10 digits start :=
  rfl

theorem padded_toList (width n : Nat)
    : (padded width n).toList =
      List.replicate (width - (Nat.toDigits 10 n).length) '0' ++ Nat.toDigits 10 n := by
  rw [padded, String.toList_append, String.toList_ofList, Nat.toString_eq_ofList_toDigits,
    String.length_ofList, String.toList_ofList]

theorem valueOfDigits_padded (width n : Nat) : valueOfDigits 0 (padded width n).toList = n := by
  rw [padded_toList, valueOfDigits_eq_ofDigitChars, Nat.ofDigitChars_append,
    Nat.ofDigitChars_replicate_zero, Nat.mul_zero, Nat.ofDigitChars_ten_toDigits]

theorem isDigit_padded (width n : Nat) : ∀ c ∈ (padded width n).toList, c.isDigit := by
  intro c hc
  rw [padded_toList] at hc
  cases List.mem_append.mp hc with
  | inl hc =>
    rw [List.eq_of_mem_replicate hc]
    rfl
  | inr hc => exact Nat.isDigit_of_mem_toDigits (by decide) (by decide) hc

theorem padded_ne_nil (width n : Nat) : (padded width n).toList ≠ [] := by
  rw [padded_toList]
  exact List.append_ne_nil_of_right_ne_nil _ Nat.toDigits_ne_nil

theorem length_padded (hwidth : 0 < width) (h : n < 10 ^ width)
    : (padded width n).toList.length = width := by
  have hlength := (Nat.length_toDigits_le_iff (by decide) hwidth).mpr h
  rw [padded_toList, List.length_append, List.length_replicate, Nat.sub_add_cancel hlength]

theorem placeValue_toDigits (n : Nat) : placeValue (Nat.toDigits 10 n) = n := by
  have hvalue := valueOfDigits_eq 0 (Nat.toDigits 10 n)
  rw [valueOfDigits_eq_ofDigitChars, Nat.ofDigitChars_ten_toDigits, Nat.zero_mul,
    Nat.zero_add] at hvalue
  exact hvalue.symm

theorem isNumeral_toString (n : Int) : IsNumeral (toString n).toList n := by
  have hdigits (m : Nat) : ∀ c ∈ Nat.toDigits 10 m, c.isDigit := fun c hc =>
    Nat.isDigit_of_mem_toDigits (by decide) (by decide) hc
  rw [Int.toString_eq_repr, Int.repr_eq_if]
  split
  . next hsign =>
    rw [Nat.repr_eq_ofList_toDigits, String.toList_ofList]
    refine ⟨[], Nat.toDigits 10 n.toNat, rfl, .inl rfl, Nat.toDigits_ne_nil, hdigits _, ?_⟩
    rw [placeValue_toDigits, Int.toNat_of_nonneg hsign]
    simp
  . next hsign =>
    rw [String.toList_append, Nat.repr_eq_ofList_toDigits, String.toList_ofList,
      String.toList_ofList]
    refine ⟨['-'], Nat.toDigits 10 (-n).toNat, rfl, .inr (.inr rfl), Nat.toDigits_ne_nil,
      hdigits _, ?_⟩
    rw [placeValue_toDigits, Int.toNat_of_nonneg (by omega)]
    simp

end

end SqlForge.Number
