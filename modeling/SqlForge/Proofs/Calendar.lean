import Mathlib.Data.List.TakeWhile
import SqlForge.Calendar
import SqlForge.Proofs.Number.Digits

/-!
Dates and times are read back from the texts that they are written as.
-/

namespace SqlForge

open SqlForge.Number

section

variable {digits rest : List Char} {most n : Nat}

/-- All of the digits are taken, and nothing of what follows them. -/
theorem readDigits?_append (hne : digits ≠ []) (hdigits : ∀ c ∈ digits, c.isDigit)
    (hmost : digits.length ≤ most)
    (hrest : digits.length = most ∨ ∀ c ∈ rest.head?, c.isDigit = false)
    : readDigits? most (digits ++ rest) = some (valueOfDigits 0 digits, rest) := by
  have htaken : ((digits ++ rest).take most).takeWhile Char.isDigit = digits := by
    rw [List.take_append, List.take_of_length_le hmost, List.takeWhile_append_of_pos hdigits]
    cases hrest with
    | inl hlength => rw [hlength, Nat.sub_self, List.take_zero, List.takeWhile_nil, List.append_nil]
    | inr hrest =>
      have hnone : (rest.take (most - digits.length)).takeWhile Char.isDigit = [] := by
        cases rest with
        | nil => rw [List.take_nil, List.takeWhile_nil]
        | cons c cs =>
          cases most - digits.length with
          | zero => rfl
          | succ k =>
            have hc := hrest c rfl
            rw [List.take_succ_cons, List.takeWhile_cons_of_neg (by simp [hc])]
      rw [hnone, List.append_nil]
  unfold readDigits?
  dsimp only
  rw [htaken, if_neg (by simpa using hne), List.drop_left]

theorem isBlank_of_isDigit {c : Char} (h : c.isDigit) : Text.isBlank c = false := by
  have hrange : 48 ≤ c.toNat ∧ c.toNat ≤ 57 := by
    simpa [Char.isDigit, UInt32.le_iff_toNat_le] using h
  simp [Text.isBlank]
  omega

theorem trimStart_digits (hne : digits ≠ []) (hdigits : ∀ c ∈ digits, c.isDigit)
    (rest : List Char)
    : Text.trimStart (digits ++ rest) = digits ++ rest := by
  obtain ⟨first, digits, rfl⟩ := List.exists_cons_of_ne_nil hne
  have hblank := isBlank_of_isDigit (hdigits first List.mem_cons_self)
  rw [Text.trimStart, List.cons_append, List.dropWhile_cons_of_neg (by simp [hblank])]

theorem readField?_padded (hn : n < 100) (rest : List Char)
    : readField? ((padded 2 n).toList ++ rest) = some (n, rest) := by
  have hdigits := isDigit_padded 2 n
  have hlength : (padded 2 n).toList.length = 2 := length_padded Nat.two_pos hn
  rw [readField?, trimStart_digits (padded_ne_nil 2 n) hdigits,
    readDigits?_append (padded_ne_nil 2 n) hdigits hlength.le (.inl hlength), valueOfDigits_padded]

theorem readYear?_digits (hdigits : ∀ c ∈ digits, c.isDigit) (hlength : digits.length = 4)
    (rest : List Char)
    : readYear? (digits ++ rest) = some ((valueOfDigits 0 digits : Int), rest) := by
  have hne : digits ≠ [] := List.ne_nil_of_length_eq_add_one hlength
  have hread : readDigits? 4 (digits ++ rest) = some (valueOfDigits 0 digits, rest) :=
    readDigits?_append hne hdigits hlength.le (.inl hlength)
  have htrim := trimStart_digits hne hdigits rest
  obtain ⟨first, digits, rfl⟩ := List.exists_cons_of_ne_nil hne
  have hfirst := hdigits first List.mem_cons_self
  unfold readYear?
  rw [htrim]
  split
  . next heq =>
    cases heq
    contradiction
  . next heq =>
    cases heq
    contradiction
  . rw [hread]
    rfl

theorem readYear?_signed {sign : Char} (hsign : sign = '-' ∨ sign = '+') (hne : digits ≠ [])
    (hdigits : ∀ c ∈ digits, c.isDigit) (hrest : ∀ c ∈ rest.head?, c.isDigit = false)
    : readYear? (sign :: (digits ++ rest)) =
      some ((if sign = '-' then -1 else 1) * (valueOfDigits 0 digits : Int), rest) := by
  have hmost : digits.length ≤ (digits ++ rest).length := by
    rw [List.length_append]
    exact Nat.le_add_right _ _
  have hread := readDigits?_append hne hdigits hmost (.inr hrest)
  rcases hsign with rfl | rfl
  . have hminus : readYear? ('-' :: (digits ++ rest)) =
        (readDigits? (digits ++ rest).length (digits ++ rest)).map
          fun read => (-(read.1 : Int), read.2) := rfl
    rw [hminus, hread]
    simp
  . have hplus : readYear? ('+' :: (digits ++ rest)) =
        (readDigits? (digits ++ rest).length (digits ++ rest)).map
          fun read => ((read.1 : Int), read.2) := rfl
    rw [hplus, hread]
    simp

theorem readYear?_yearText (year : Int) (hrest : ∀ c ∈ rest.head?, c.isDigit = false)
    : readYear? ((Date.yearText year).toList ++ rest) = some (year, rest) := by
  have hdigits := isDigit_padded 4 year.natAbs
  have hne := padded_ne_nil 4 year.natAbs
  unfold Date.yearText
  split
  . next hyear =>
    have hlength : (padded 4 year.natAbs).toList.length = 4 := length_padded (by decide) (by omega)
    rw [readYear?_digits hdigits hlength, valueOfDigits_padded, Int.natAbs_of_nonneg hyear.1]
  . next hyear =>
    split
    . next hsign =>
      have hread := readYear?_signed (.inl rfl) hne hdigits hrest
      have hvalue : -1 * (year.natAbs : Int) = year := by omega
      rw [valueOfDigits_padded, if_pos rfl, hvalue] at hread
      have htext : ("-" ++ padded 4 year.natAbs).toList = '-' :: (padded 4 year.natAbs).toList := by
        simp
      rw [htext, List.cons_append]
      exact hread
    . next hsign =>
      have hread := readYear?_signed (.inr rfl) hne hdigits hrest
      have hvalue : 1 * (year.natAbs : Int) = year := by omega
      rw [valueOfDigits_padded, if_neg (by decide), hvalue] at hread
      have htext : ("+" ++ padded 4 year.natAbs).toList = '+' :: (padded 4 year.natAbs).toList := by
        simp
      rw [htext, List.cons_append]
      exact hread

end

theorem daysInMonth_le (year : Int) (month : Nat) : daysInMonth year month ≤ 31 := by
  unfold daysInMonth
  split
  . split <;> decide
  . split <;> decide

theorem Date.read_text (d : Date) (rest : List Char)
    : Date.read (d.text.toList ++ rest) = some (d, rest) := by
  obtain ⟨year, month, day, hdate⟩ := d
  obtain ⟨-, -, -, hmonth, -, hday⟩ := id hdate
  have hmost := daysInMonth_le year month
  have htext : (Date.text ⟨year, month, day, hdate⟩).toList ++ rest =
      (yearText year).toList ++ '-' :: ((padded 2 month).toList ++
        '-' :: ((padded 2 day).toList ++ rest)) := by
    simp [Date.text]
  have hhyphen : ∀ c ∈ ('-' :: ((padded 2 month).toList ++
      '-' :: ((padded 2 day).toList ++ rest))).head?, c.isDigit = false := by
    rintro _ ⟨⟩
    rfl
  have hyear := readYear?_yearText year hhyphen
  unfold Date.read
  rw [htext, hyear]
  have hm := readField?_padded (by omega : month < 100) ('-' :: ((padded 2 day).toList ++ rest))
  have hd := readField?_padded (by omega : day < 100) rest
  simp [dropChar?, hm, hd, ofParts?, hdate]

/-- A quote is not passed over. -/
theorem Date.read_quoted (cs : List Char) : Date.read ('\x27' :: cs) = none := by
  have hyear : readYear? ('\x27' :: cs) = none := rfl
  unfold Date.read
  rw [hyear]
  rfl

theorem Date.read?_text (d : Date) : Date.read? d.text = some d := by
  have hread := d.read_text []
  rw [List.append_nil] at hread
  unfold Date.read?
  rw [hread]
  rfl

theorem readFraction?_padded {width n : Nat} (hwidth : 0 < width) (hmost : width ≤ 9)
    (hn : n < 10 ^ width)
    : readFraction? ('.' :: (padded width n).toList) = some (n * 10 ^ (9 - width), []) := by
  have hdigits := isDigit_padded width n
  have hlength := length_padded hwidth hn
  have htaken : ((padded width n).toList.take 9).takeWhile Char.isDigit =
      (padded width n).toList := by
    rw [List.take_of_length_le (by omega), List.takeWhile_eq_self_iff.mpr hdigits]
  have hdropped : (padded width n).toList.dropWhile Char.isDigit = [] :=
    List.dropWhile_eq_nil_iff.mpr hdigits
  simp only [readFraction?]
  rw [htaken, if_neg (by simpa using padded_ne_nil width n), valueOfDigits_padded, hdropped,
    hlength, Nat.pow_eq]

theorem DateTime.readFraction?_fractionText {n : Nat} (hn : n < 1000000000)
    : readFraction? (fractionText n).toList = some (n, []) := by
  have htext (s : String) : ("." ++ s).toList = '.' :: s.toList := by simp
  unfold fractionText
  split
  . next hzero =>
    rw [hzero]
    rfl
  . split
    . next hmilli =>
      rw [htext, readFraction?_padded (by decide) (by decide) (by omega)]
      simp only [Option.some.injEq, Prod.mk.injEq, and_true]
      omega
    . split
      . next hmicro =>
        rw [htext, readFraction?_padded (by decide) (by decide) (by omega)]
        simp only [Option.some.injEq, Prod.mk.injEq, and_true]
        omega
      . rw [htext, readFraction?_padded (by decide) (by decide) (by omega)]
        simp

theorem DateTime.read?_text (t : DateTime) : DateTime.read? t.text = some t := by
  obtain ⟨date, hour, minute, second, nanosecond, hhour, hminute, hsecond, hnanosecond⟩ := t
  have htext : (DateTime.text ⟨date, hour, minute, second, nanosecond, hhour, hminute, hsecond,
        hnanosecond⟩).toList =
      date.text.toList ++ ' ' :: ((padded 2 hour).toList ++ ':' :: ((padded 2 minute).toList ++
        ':' :: ((padded 2 second).toList ++ (fractionText nanosecond).toList))) := by
    simp [DateTime.text, timeText]
  have hgap (rest : List Char) : Text.trimStart (' ' :: ((padded 2 hour).toList ++ rest)) =
      (padded 2 hour).toList ++ rest := by
    have hblank : Text.isBlank ' ' := by decide
    have hrest := trimStart_digits (padded_ne_nil 2 hour) (isDigit_padded 2 hour) rest
    rw [Text.trimStart, List.dropWhile_cons_of_pos hblank]
    exact hrest
  have hfields : hour < 24 ∧ minute < 60 ∧ second ≤ 60 ∧ nanosecond < 1000000000 :=
    ⟨hhour, hminute, hsecond, hnanosecond⟩
  have hh := readField?_padded (by omega : hour < 100)
  have hm := readField?_padded (by omega : minute < 100)
  have hs := readField?_padded (by omega : second < 100)
  have hf := readFraction?_fractionText hnanosecond
  unfold DateTime.read? readWith?
  rw [htext, date.read_text]
  simp [hgap, dropChar?, hh, hm, hs, hf, ofParts?, hfields]

end SqlForge
