import Mathlib.Data.Nat.SuccPred
import Mathlib.Order.CompletePartialOrder
import Mathlib.Order.Lattice.Nat
import Mathlib.Order.SuccPred.IntervalSucc
import SqlForge.Proofs.Session.Reads

/-!
The pages of a query, one after the other: what a page asks for, and that the pages from the first
on lie side by side and leave no row out, as far as a limit and an offset can name rows.
-/

namespace SqlForge

/-- Windows from one border to the next make up what lies between the outermost borders. -/
theorem iUnion_windows {border : Nat → Nat} (hmono : Monotone border) (n : Nat)
    : ⋃ k < n, Set.Ico (border k) (border (k + 1)) = Set.Ico (border 0) (border n) := by
  induction n with
  | zero => simp
  | succ n ih =>
    rw [Set.biUnion_lt_succ, ih]
    exact Set.Ico_union_Ico_eq_Ico (hmono (Nat.zero_le n)) (hmono (Nat.le_succ n))

/-! ### What a paging shows -/

namespace Select

variable {α : Type} {q : Select} {rows : List α} {skipped count : Nat}

/-- What the paging of the statement shows of the rows that there are. -/
def shown (q : Select) (rows : List α) : List α :=
  pageOf q.ownLimit q.ownOffset rows

/-- The rows that the paging shows, by their numbers from zero, if only there are enough. -/
def rowNumbers (q : Select) : Set Nat :=
  {i | ∃ n, i ∈ q.shown (List.range n)}

theorem shown_window : (q.window skipped count).shown rows = (rows.drop skipped).take count := by
  unfold shown ownLimit ownOffset window
  cases hunions : q.unions.isEmpty with
  | true => simp [hunions, pageOf]
  | false => simp [hunions, pageOf]

theorem rowNumbers_window
    : (q.window skipped count).rowNumbers = Set.Ico skipped (skipped + count) := by
  ext i
  simp only [rowNumbers, shown_window, Set.mem_ofPred_eq, Set.mem_Ico]
  constructor
  . rintro ⟨n, h⟩
    obtain ⟨j, hj, rfl⟩ := List.mem_take_iff_getElem.mp h
    simp only [List.getElem_drop, List.getElem_range]
    omega
  . rintro ⟨hlow, hhigh⟩
    refine ⟨i + 1, List.mem_take_iff_getElem.mpr ⟨i - skipped, ?_, ?_⟩⟩
    . simp only [List.length_drop, List.length_range]
      omega
    . simp only [List.getElem_drop, List.getElem_range]
      omega

end Select

/-! ### Pages -/

namespace Builder

variable {b : Builder} {page size : Nat}

theorem le_maxRows_of_lt {k : Nat} (hfits : page * size ≤ maxRows) (hk : k < page)
    : (k + 1) * size ≤ maxRows :=
  (Nat.mul_le_mul_right size hk).trans hfits

/-- A page that lies within the rows that can be named is what its number says. -/
theorem forPage_eq_window_of_fits {k : Nat} (hfits : (k + 1) * size ≤ maxRows)
    : b.forPage (k + 1) size = b.window (k * size) size := by
  have hsize : size ≤ (k + 1) * size := Nat.le_mul_of_pos_left size k.succ_pos
  have hskipped : k * size ≤ (k + 1) * size := Nat.mul_le_mul_right size k.le_succ
  exact forPage_eq_window (hskipped.trans hfits) (hsize.trans hfits)

theorem rowNumbers_forPage {k : Nat} (hfits : (k + 1) * size ≤ maxRows)
    : (b.forPage (k + 1) size).query.rowNumbers = Set.Ico (k * size) ((k + 1) * size) := by
  rw [forPage_eq_window_of_fits hfits, Nat.succ_mul]
  exact Select.rowNumbers_window

theorem shown_forPage {k : Nat} (hfits : (k + 1) * size ≤ maxRows) (rows : List Row)
    : (b.forPage (k + 1) size).query.shown rows = nthPage rows size k := by
  rw [forPage_eq_window_of_fits hfits]
  exact Select.shown_window

/--
A page skips the pages before it, number zero being the first page too, and asks for as many rows
as a page has; both stop at the largest number that can be asked for, and nothing else changes. Up
to there the pages lie one behind the other, have no row in common, and are all of the rows before
their end.
-/
theorem pages_tile (b : Builder) (page size : Nat)
    : b.forPage page size = b.window (min ((max page 1 - 1) * size) maxRows) (min size maxRows) ∧
        (page * size ≤ maxRows →
          (∀ k < page, (b.forPage (k + 1) size).query.rowNumbers
            = Set.Ico (k * size) ((k + 1) * size)) ∧
          (∀ j < page, ∀ k < page, j ≠ k → Disjoint (b.forPage (j + 1) size).query.rowNumbers
            (b.forPage (k + 1) size).query.rowNumbers) ∧
          ⋃ k < page, (b.forPage (k + 1) size).query.rowNumbers = Set.Iio (page * size) ∧
          ∀ rows : List Row,
            ((List.range page).map fun k => (b.forPage (k + 1) size).query.shown rows).flatten
              = rows.take (page * size)) := by
  have hpage : max page 1 - 1 = page - 1 := by omega
  refine ⟨by rw [hpage, forPage_eq_window_clamped], ?_⟩
  intro hfits
  have hmono : Monotone fun k => k * size := fun _ _ h => Nat.mul_le_mul_right size h
  have hwindow : ∀ k < page, (b.forPage (k + 1) size).query.rowNumbers
      = Set.Ico (k * size) ((k + 1) * size) :=
    fun k hk => rowNumbers_forPage (le_maxRows_of_lt hfits hk)
  refine ⟨hwindow, ?_, ?_, ?_⟩
  . intro j hj k hk hne
    rw [hwindow j hj, hwindow k hk]
    exact hmono.pairwise_disjoint_on_Ico_succ hne
  . rw [Set.iUnion₂_congr hwindow, iUnion_windows hmono, Nat.zero_mul]
    exact Set.Ico_bot
  . intro rows
    have hshown : (List.range page).map (fun k => (b.forPage (k + 1) size).query.shown rows)
        = (List.range page).map (nthPage rows size) := by
      apply List.map_congr_left
      intro k hk
      exact shown_forPage (le_maxRows_of_lt hfits (List.mem_range.mp hk)) rows
    rw [hshown, flatten_nthPages]

/-- Two tables as one statement. -/
def twoTables : Builder :=
  (ofTable ⟨.sqlite, ""⟩ (.name "t")).addUnion true (.ofTable ⟨.sqlite, ""⟩ (.name "u"))

/-- Three pages that leave out only one of the rows that can be named. -/
theorem largestPages_tile
    : 3 * 3074457345618258602 ≤ maxRows ∧
        (twoTables.forPage 3 3074457345618258602).query.unionOffset = some 6148914691236517204 ∧
        (twoTables.forPage 3 3074457345618258602).query.unionLimit = some 3074457345618258602 ∧
        (twoTables.forPage 3 3074457345618258602).query.offset = none ∧
        ⋃ k < 3, (twoTables.forPage (k + 1) 3074457345618258602).query.rowNumbers
          = Set.Iio 9223372036854775806 := by
  have hfits : 3 * 3074457345618258602 ≤ maxRows := by decide
  obtain ⟨hpage, htile⟩ := pages_tile twoTables 3 3074457345618258602
  obtain ⟨-, -, hcover, -⟩ := htile hfits
  refine ⟨hfits, ?_, ?_, ?_, hcover⟩
  . rw [hpage]
    rfl
  . rw [hpage]
    rfl
  . rw [hpage]
    rfl

/-- Beyond the rows that can be named, a page may be the same as the one before. -/
example (b : Builder) : b.forPage 3 maxRows = b.forPage 2 maxRows := rfl

end Builder

end SqlForge
