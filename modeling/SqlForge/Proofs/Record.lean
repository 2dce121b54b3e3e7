import Mathlib.Data.List.Forall2
import Mathlib.Data.List.Induction
import SqlForge.Proofs.Except
import SqlForge.Record

/-!
Records, told from the assignments that were made to them: which columns they have, what each column
is assigned in the end, and when several of them share one list of columns.
-/

namespace SqlForge

/-- The assignments of a record, in the order in which they are made. -/
abbrev Assignments := List (String × Operand)

namespace Assignments

variable {fields other : Assignments} {column c : String} {operand o : Operand}

/-- No assignment to the column comes after the one that gives it the operand. -/
def Last (fields : Assignments) (column : String) (operand : Operand) : Prop :=
  ∃ before after, fields = before ++ (column, operand) :: after ∧ column ∉ after.map Prod.fst

/-- Both assign to the same columns, in whatever order. -/
def SameColumns (fields other : Assignments) : Prop :=
  ∀ column, column ∈ fields.map Prod.fst ↔ column ∈ other.map Prod.fst

/-- All assign to the same columns. -/
def Uniform (records : List Assignments) : Prop :=
  ∀ fields ∈ records, ∀ other ∈ records, fields.SameColumns other

/-- `other` is the record at the index, and the first one with other columns than record 0. -/
def DiffersAt (records : List Assignments) (index : Nat) (first other : Assignments) : Prop :=
  ∃ before after, records = first :: (before ++ other :: after) ∧ index = before.length + 1 ∧
    (∀ fields ∈ before, first.SameColumns fields) ∧ ¬first.SameColumns other

theorem uniform_cons {first : Assignments} {rest : List Assignments}
    : Uniform (first :: rest) ↔ ∀ fields ∈ rest, first.SameColumns fields := by
  constructor
  . intro h fields hfields
    exact h first List.mem_cons_self fields (List.mem_cons_of_mem first hfields)
  . intro h
    have hfirst : ∀ fields ∈ first :: rest, first.SameColumns fields :=
      List.forall_mem_cons.mpr ⟨fun _ => .rfl, h⟩
    intro fields hfields other hother column
    exact (hfirst fields hfields column).symm.trans (hfirst other hother column)

theorem not_uniform_iff {records : List Assignments}
    : ¬Uniform records ↔ ∃ index first other, DiffersAt records index first other := by
  classical
  cases records with
  | nil => simp [Uniform, DiffersAt]
  | cons first rest =>
    rw [uniform_cons]
    constructor
    . intro h
      obtain ⟨other, hfound⟩ : ∃ other, rest.find? (¬first.SameColumns ·) = some other := by
        apply Option.ne_none_iff_exists'.mp
        simpa using h
      obtain ⟨hother, before, after, rfl, hbefore⟩ := List.find?_eq_some_iff_append.mp hfound
      simp only [decide_eq_true_eq, Bool.not_eq_true', decide_eq_false_iff_not, not_not]
        at hother hbefore
      exact ⟨_, first, other, before, after, rfl, rfl, hbefore, hother⟩
    . rintro ⟨index, _, other, before, after, heq, -, -, hother⟩ h
      cases heq
      exact hother (h other (by simp))

theorem not_last_nil : ¬Last [] column operand := by
  simp [Last]

theorem last_concat
    : Last (fields ++ [(c, o)]) column operand ↔
        (column = c ∧ operand = o) ∨ (column ≠ c ∧ fields.Last column operand) := by
  constructor
  . rintro ⟨before, after, heq, hafter⟩
    cases after using List.reverseRecOn with
    | nil =>
      obtain ⟨-, hlast⟩ := List.append_inj' heq rfl
      cases hlast
      exact .inl ⟨rfl, rfl⟩
    | append_singleton after last _ =>
      rw [← List.cons_append, ← List.append_assoc] at heq
      obtain ⟨hfields, hlast⟩ := List.append_inj' heq rfl
      cases hlast
      simp only [List.map_append, List.mem_append, not_or, List.map_cons, List.map_nil,
        List.mem_singleton] at hafter
      exact .inr ⟨hafter.2, before, after, hfields, hafter.1⟩
  . rintro (⟨rfl, rfl⟩ | ⟨hne, before, after, rfl, hafter⟩)
    . exact ⟨fields, [], rfl, by simp⟩
    . exact ⟨before, after ++ [(c, o)], by simp, by simpa [hne] using hafter⟩

theorem Last.mem (h : fields.Last column operand) : (column, operand) ∈ fields := by
  obtain ⟨before, after, rfl, -⟩ := h
  simp

end Assignments

/-! ### One record -/

theorem mem_setEntry {α : Type} {key k : String} {value v : α} {entries : List (String × α)}
    (h : (entries.map Prod.fst).Nodup)
    : (k, v) ∈ setEntry key value entries ↔
        (k = key ∧ v = value) ∨ (k ≠ key ∧ (k, v) ∈ entries) := by
  induction entries with
  | nil => simp [setEntry]
  | cons entry rest ih =>
    obtain ⟨k', v'⟩ := entry
    rw [List.map_cons, List.nodup_cons] at h
    by_cases hkey : k' = key
    . have hrest : (key, v) ∉ rest := by
        intro hmem
        apply h.1
        rw [hkey]
        exact List.mem_map.mpr ⟨(key, v), hmem, rfl⟩
      rw [setEntry, if_pos hkey]
      grind
    . rw [setEntry, if_neg hkey, List.mem_cons, ih h.2]
      grind

namespace Record

open Assignments

variable {fields : Assignments} {column : String} {operand : Operand} {r r' : Record}

theorem ofList_concat (fields : Assignments) (column : String) (operand : Operand)
    : ofList (fields ++ [(column, operand)]) = (ofList fields).set column operand := by
  simp [ofList]

/-- A record holds what was assigned to each column last. -/
theorem mem_ofList : (column, operand) ∈ (ofList fields).fields ↔ fields.Last column operand := by
  induction fields using List.reverseRecOn with
  | nil => exact iff_of_false List.not_mem_nil not_last_nil
  | append_singleton fields field ih =>
    obtain ⟨c, o⟩ := field
    rw [ofList_concat, last_concat, ← ih]
    exact mem_setEntry (ofList fields).nodup

theorem mem_columns_ofList : column ∈ (ofList fields).columns ↔ column ∈ fields.map Prod.fst := by
  induction fields using List.reverseRecOn with
  | nil => rfl
  | append_singleton fields field ih =>
    obtain ⟨c, o⟩ := field
    rw [ofList_concat, List.map_append, List.mem_append, ← ih, or_comm, List.map_singleton,
      List.mem_singleton]
    exact mem_keys_setEntry

theorem perm_sorted (r : Record) : r.sorted.fields.Perm r.fields :=
  List.mergeSort_perm ..

theorem perm_columns_sorted (r : Record) : r.sorted.columns.Perm r.columns :=
  r.perm_sorted.map Prod.fst

theorem pairwise_columns_sorted (r : Record) : r.sorted.columns.Pairwise (· ≤ ·) := by
  unfold columns
  rw [List.pairwise_map]
  apply (List.pairwise_mergeSort _ _ r.fields).imp
  . intro a b h
    simpa only [Bool.not_eq_true', decide_eq_false_iff_not, String.not_lt] using h
  . intro a b c hab hbc
    simp only [Bool.not_eq_true', decide_eq_false_iff_not, String.not_lt] at *
    exact String.le_trans hab hbc
  . intro a b
    simp only [Bool.or_eq_true, Bool.not_eq_true', decide_eq_false_iff_not, String.not_lt]
    exact String.le_total a.1 b.1

/-- Records agree on their sorted columns just if they have the same columns. -/
theorem columns_sorted_eq_iff
    : r.sorted.columns = r'.sorted.columns ↔
        ∀ column, column ∈ r.columns ↔ column ∈ r'.columns := by
  constructor
  . intro h column
    rw [← r.perm_columns_sorted.mem_iff, h, r'.perm_columns_sorted.mem_iff]
  . intro h
    have hperm := (List.perm_ext_iff_of_nodup r.nodup r'.nodup).mpr h
    apply List.Perm.eq_of_pairwise _ r.pairwise_columns_sorted r'.pairwise_columns_sorted
    . exact (r.perm_columns_sorted.trans hperm).trans r'.perm_columns_sorted.symm
    . intro a b _ _ hab hba
      exact String.le_antisymm hab hba

theorem columns_sorted_ofList_eq_iff {other : Assignments}
    : (ofList other).sorted.columns = (ofList fields).sorted.columns ↔
        fields.SameColumns other := by
  rw [columns_sorted_eq_iff]
  unfold SameColumns
  simp only [mem_columns_ofList]
  exact forall_congr' fun _ => iff_comm

/-! ### Merged records -/

theorem lookup_cons_of_ne {α : Type} {key k : String} {value : α} {entries : List (String × α)}
    (h : k ≠ key) : ((key, value) :: entries).lookup k = entries.lookup k := by
  have hne : (k == key) = false := by simpa using h
  rw [List.lookup_cons, hne]

theorem lookup_eq_none_of_notMem {α : Type} {key : String} {entries : List (String × α)}
    (h : key ∉ entries.map Prod.fst) : entries.lookup key = none := by
  rw [List.lookup_eq_none_iff]
  intro entry hentry
  have hne : key ≠ entry.1 := by
    rintro rfl
    exact h (List.mem_map_of_mem hentry)
  simpa using hne

theorem setEntry_of_mem {α : Type} {key : String} {value : α} {entries : List (String × α)}
    (hnodup : (entries.map Prod.fst).Nodup) (h : key ∈ entries.map Prod.fst)
    : setEntry key value entries
      = entries.map fun entry => (entry.1, if entry.1 = key then value else entry.2) := by
  induction entries with
  | nil => cases h
  | cons entry rest ih =>
    obtain ⟨k, v⟩ := entry
    rw [List.map_cons, List.nodup_cons] at hnodup
    rw [setEntry, List.map_cons]
    by_cases hk : k = key
    . have hrest : ∀ entry ∈ rest, entry.1 ≠ key := by
        intro entry hentry hkey
        apply hnodup.1
        exact List.mem_map.mpr ⟨entry, hentry, hkey.trans hk.symm⟩
      have hsame : rest.map (fun entry => (entry.1, if entry.1 = key then value else entry.2))
          = rest := by
        refine (List.map_congr_left ?_).trans (List.map_id' rest)
        intro entry hentry
        simp [hrest entry hentry]
      rw [if_pos hk, if_pos hk, hsame]
    . rw [if_neg hk, if_neg hk, ih hnodup.2]
      rw [List.map_cons, List.mem_cons] at h
      exact h.resolve_left (Ne.symm hk)

theorem setEntry_of_notMem {α : Type} {key : String} {value : α} {entries : List (String × α)}
    (h : key ∉ entries.map Prod.fst) : setEntry key value entries = entries ++ [(key, value)] := by
  induction entries with
  | nil => rfl
  | cons entry rest ih =>
    rw [List.map_cons, List.mem_cons, not_or] at h
    rw [setEntry, if_neg (Ne.symm h.1), ih h.2]
    rfl

theorem fields_set_of_mem (h : column ∈ r.columns) (operand : Operand)
    : (r.set column operand).fields
      = r.fields.map fun field => (field.1, if field.1 = column then operand else field.2) :=
  setEntry_of_mem r.nodup h

theorem columns_set_of_mem (h : column ∈ r.columns) (operand : Operand)
    : (r.set column operand).columns = r.columns := by
  rw [columns, fields_set_of_mem h, List.map_map]
  rfl

theorem fields_set_of_notMem (h : column ∉ r.columns) (operand : Operand)
    : (r.set column operand).fields = r.fields ++ [(column, operand)] :=
  setEntry_of_notMem h

theorem columns_set_of_notMem (h : column ∉ r.columns) (operand : Operand)
    : (r.set column operand).columns = r.columns ++ [column] := by
  rw [columns, fields_set_of_notMem h, List.map_append]
  rfl

/-- The columns of the record keep their places, with the operands of the other where it has any. -/
theorem fields_merge (r other : Record)
    : (r.merge other).fields
      = r.fields.map (fun field => (field.1, (other.fields.lookup field.1).getD field.2)) ++
          other.fields.filter (fun field => field.1 ∉ r.columns) := by
  obtain ⟨fields, hnodup⟩ := other
  unfold merge
  dsimp only
  induction fields generalizing r with
  | nil => simp
  | cons field rest ih =>
    obtain ⟨column, operand⟩ := field
    rw [List.map_cons, List.nodup_cons] at hnodup
    have hlast : rest.lookup column = none := lookup_eq_none_of_notMem hnodup.1
    rw [List.foldl_cons, ih (r.set column operand) hnodup.2]
    by_cases hmem : column ∈ r.columns
    . rw [fields_set_of_mem hmem, columns_set_of_mem hmem, List.map_map,
        List.filter_cons_of_neg (by simpa using hmem)]
      congr 1
      apply List.map_congr_left
      intro field _
      by_cases hcolumn : field.1 = column
      . simp [hcolumn, hlast]
      . simp [hcolumn, lookup_cons_of_ne hcolumn]
    . have hother : ∀ field ∈ rest, field.1 ≠ column := by
        intro field hfield hcolumn
        exact hnodup.1 (List.mem_map.mpr ⟨field, hfield, hcolumn⟩)
      have hfilter : rest.filter (fun field => field.1 ∉ r.columns ++ [column])
          = rest.filter (fun field => field.1 ∉ r.columns) := by
        apply List.filter_congr
        intro field hfield
        simp [hother field hfield]
      have hkept : r.fields.map (fun field => (field.1, (rest.lookup field.1).getD field.2))
          = r.fields.map (fun field =>
              (field.1, (((column, operand) :: rest).lookup field.1).getD field.2)) := by
        apply List.map_congr_left
        intro field hfield
        have hne : field.1 ≠ column := by
          intro hcolumn
          exact hmem (List.mem_map.mpr ⟨field, hfield, hcolumn⟩)
        rw [lookup_cons_of_ne hne]
      rw [fields_set_of_notMem hmem, columns_set_of_notMem hmem, hfilter, List.map_append, hkept,
        List.append_assoc, List.filter_cons_of_pos (by simpa using hmem)]
      simp [hlast]

/-! ### Several records -/

/-- The first record with other columns than expected is at fault. -/
theorem checkColumns_map_eq_error_iff {α : Type} {f : α → Record} {expected : List String}
    {index : Nat} {l : List α} {e : Failure}
    : checkColumns expected index (l.map f) = .error e ↔
        ∃ before a after, l = before ++ a :: after ∧ (∀ a' ∈ before, (f a').columns = expected) ∧
          (f a).columns ≠ expected ∧
          e = .mismatchedRecord (index + before.length) expected (f a).columns := by
  induction l generalizing index with
  | nil => simp [checkColumns]
  | cons first rest ih =>
    rw [List.map_cons, checkColumns]
    by_cases h : (f first).columns = expected
    . rw [if_pos h, ih]
      constructor
      . rintro ⟨before, a, after, rfl, hbefore, ha, rfl⟩
        refine ⟨first :: before, a, after, rfl, List.forall_mem_cons.mpr ⟨h, hbefore⟩, ha, ?_⟩
        rw [List.length_cons, Nat.add_assoc, Nat.add_comm 1]
      . rintro ⟨before, a, after, heq, hbefore, ha, rfl⟩
        cases before with
        | nil =>
          cases heq
          exact absurd h ha
        | cons head before =>
          cases heq
          refine ⟨before, a, after, rfl, (List.forall_mem_cons.mp hbefore).2, ha, ?_⟩
          rw [List.length_cons, Nat.add_assoc, Nat.add_comm 1]
    . rw [if_neg h]
      constructor
      . intro heq
        cases heq
        exact ⟨[], first, rest, rfl, by simp, h, rfl⟩
      . rintro ⟨before, a, after, heq, hbefore, ha, rfl⟩
        cases before with
        | nil =>
          cases heq
          rfl
        | cons head before =>
          cases heq
          exact absurd (hbefore _ List.mem_cons_self) h

theorem checkColumns_eq_ok_iff {expected : List String} {index : Nat} {l : List Record}
    : checkColumns expected index l = .ok () ↔ ∀ r ∈ l, r.columns = expected := by
  induction l generalizing index with
  | nil => simp [checkColumns]
  | cons first rest ih =>
    rw [checkColumns, List.forall_mem_cons]
    by_cases h : first.columns = expected
    . simp [h, ih]
    . simp [h]

/-- Records that are aligned are rearranged at most, and then name the same columns in one order. -/
theorem exists_of_aligned {records rows : List Record} (h : aligned records = .ok rows)
    : ∃ arrange : Record → Record, rows = records.map arrange ∧
        (∀ r, (arrange r).fields.Perm r.fields) ∧
        ∃ columns, ∀ r ∈ rows, r.columns = columns := by
  unfold aligned at h
  split at h
  . next first second rest =>
    obtain ⟨_, hcheck, h⟩ := bind_eq_ok.mp h
    rw [← pure_eq_ok.mp h]
    refine ⟨sorted, rfl, perm_sorted, first.sorted.columns, ?_⟩
    rw [List.map_cons, List.forall_mem_cons]
    exact ⟨rfl, checkColumns_eq_ok_iff.mp hcheck⟩
  . next hshort =>
    cases h
    refine ⟨id, by simp, fun _ => .rfl, ?_⟩
    cases records with
    | nil => simp
    | cons first rest =>
      cases rest with
      | nil => simp
      | cons second rest => exact absurd rfl (hshort first second rest)

/-- Several records have to have the columns of the first one. -/
theorem aligned_ofList_eq_error_iff {records : List Assignments} {e : Failure}
    : aligned (records.map ofList) = .error e ↔
        ∃ index first other, DiffersAt records index first other ∧
          e = .mismatchedRecord index (ofList first).sorted.columns
            (ofList other).sorted.columns := by
  cases records with
  | nil => simp [aligned, DiffersAt]
  | cons first rest =>
    have hcheck : aligned ((first :: rest).map ofList) = .error e ↔
        checkColumns (ofList first).sorted.columns 1 (rest.map fun r => (ofList r).sorted)
          = .error e := by
      cases rest with
      | nil => simp [aligned, checkColumns]
      | cons second rest =>
        simp only [List.map_cons, aligned, bind_pure_eq_error, List.map_map]
        rfl
    rw [hcheck, checkColumns_map_eq_error_iff]
    simp only [ne_eq, columns_sorted_ofList_eq_iff, Nat.add_comm 1]
    constructor
    . rintro ⟨before, other, after, rfl, hbefore, hother, rfl⟩
      exact ⟨_, first, other, ⟨before, after, rfl, rfl, hbefore, hother⟩, rfl⟩
    . rintro ⟨_, _, other, ⟨before, after, heq, rfl, hbefore, hother⟩, rfl⟩
      cases heq
      exact ⟨before, other, after, rfl, hbefore, hother, rfl⟩

theorem exists_aligned_ofList_iff {records : List Assignments}
    : (∃ rows, aligned (records.map ofList) = .ok rows) ↔ Uniform records := by
  rw [← not_iff_not, not_uniform_iff]
  cases haligned : aligned (records.map ofList) with
  | error e =>
    obtain ⟨index, first, other, hdiffers, -⟩ := aligned_ofList_eq_error_iff.mp haligned
    exact iff_of_true (by simp) ⟨index, first, other, hdiffers⟩
  | ok rows =>
    apply iff_of_false
    . simp
    . rintro ⟨index, first, other, hdiffers⟩
      have := aligned_ofList_eq_error_iff.mpr ⟨index, first, other, hdiffers, rfl⟩
      rw [haligned] at this
      cases this

end Record

end SqlForge
