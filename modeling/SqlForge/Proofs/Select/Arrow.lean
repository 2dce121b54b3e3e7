import Mathlib.Data.List.Infix
import SqlForge.Select.Render

/-!
The arrows of a selector that give text, where a document is wanted.
-/

namespace SqlForge

theorem documentArrows_subset (cs : List Char) : documentArrows cs ⊆ cs := by
  fun_induction documentArrows cs with
  | case1 cs ih => grind
  | case2 c cs _ ih => grind
  | case3 => simp

theorem length_documentArrows_le (cs : List Char) : (documentArrows cs).length ≤ cs.length := by
  fun_induction documentArrows cs with
  | case1 cs ih =>
    simp only [List.length_cons]
    omega
  | case2 c cs _ ih =>
    simp only [List.length_cons]
    omega
  | case3 => exact Nat.le_refl 0

theorem documentArrows_eq_self_iff {cs : List Char}
    : documentArrows cs = cs ↔ ¬['-', '>', '>'] <:+: cs := by
  fun_induction documentArrows cs with
  | case1 cs _ =>
    apply iff_of_false
    . intro heq
      have hlength := congrArg List.length heq
      have hle := length_documentArrows_le cs
      simp only [List.length_cons] at hlength
      omega
    . rw [not_not]
      exact (List.prefix_append ['-', '>', '>'] cs).isInfix
  | case2 c cs hne ih =>
    have hprefix : ¬['-', '>', '>'] <+: c :: cs := by
      rintro ⟨rest, hrest⟩
      cases hrest
      exact hne rest rfl rfl
    rw [List.cons.injEq, List.infix_cons_iff, or_iff_right hprefix, ← ih]
    simp
  | case3 => simp

end SqlForge
