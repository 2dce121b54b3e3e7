import SqlForge.Proofs.Identifier
import SqlForge.Grammar

/-!
Writing a name makes no question mark: neither quotes, prefixes, aliases and selectors nor the
operators that a dialect takes have one.
-/

namespace SqlForge

namespace Text

def Unmarked (s : String) : Prop := '?' ∉ s.toList

instance (s : String) : Decidable (Unmarked s) :=
  inferInstanceAs (Decidable ('?' ∉ s.toList))

@[simp]
theorem unmarked_append (s t : String) : Unmarked (s ++ t) ↔ Unmarked s ∧ Unmarked t := by
  simp [Unmarked]

@[simp]
theorem unmarked_ofList (cs : List Char) : Unmarked (String.ofList cs) ↔ '?' ∉ cs := by
  simp [Unmarked]

/-- A literal is checked character by character, without reading its encoding. -/
theorem unmarked_literal {cs : List Char} (h : '?' ∉ cs) : Unmarked (String.ofList cs) :=
  (unmarked_ofList cs).mpr h

theorem Unmarked.of_subset {s t : String} (ht : Unmarked t) (h : s.toList ⊆ t.toList)
    : Unmarked s := by
  intro hs
  exact ht (h hs)

theorem unmarked_intercalate {separator : String} {parts : List String}
    (hseparator : Unmarked separator) (hparts : ∀ part ∈ parts, Unmarked part)
    : Unmarked (separator.intercalate parts) := by
  induction parts with
  | nil =>
    rw [String.intercalate_nil]
    decide
  | cons part rest ih =>
    cases rest with
    | nil =>
      rw [String.intercalate_singleton]
      exact hparts part List.mem_cons_self
    | cons next rest =>
      rw [String.intercalate_cons_cons, unmarked_append, unmarked_append]
      refine ⟨⟨hparts part List.mem_cons_self, hseparator⟩, ih ?_⟩
      intro other hother
      exact hparts other (List.mem_cons_of_mem part hother)

@[simp]
theorem unmarked_toString (n : Nat) : Unmarked (toString n) := by
  unfold Unmarked
  rw [Nat.toString_eq_ofList_toDigits, String.toList_ofList]
  intro h
  have : '?'.isDigit = true := Nat.isDigit_of_mem_toDigits (by decide) (by decide) h
  contradiction

theorem unmarked_of_asciiLower_trimmed {s : String} (h : Unmarked (asciiLower (trimmed s)))
    : Unmarked s := by
  unfold asciiLower trimmed at h
  rw [unmarked_ofList, String.toList_ofList] at h
  intro hs
  apply h
  have : '?' ∈ trim s.toList := mem_trim hs (by decide)
  exact List.mem_map.mpr ⟨'?', this, by decide⟩

end Text

open Text

namespace Identifier

variable {quote : Char} {s : String}

theorem unmarked_quoted (hquote : quote ≠ '?') (hs : Unmarked s) : Unmarked (quoted quote s) := by
  simp only [quoted, unmarked_ofList, List.mem_append, List.mem_cons, mem_double,
    List.not_mem_nil, or_false, not_or]
  exact ⟨⟨hquote.symm, hs⟩, hquote.symm⟩

theorem unmarked_quoteSegment (hquote : quote ≠ '?') (hs : Unmarked s)
    : Unmarked (quoteSegment quote s) := by
  unfold quoteSegment
  split
  . decide
  . exact unmarked_quoted hquote hs

theorem unmarked_quoteText (hs : Unmarked s) : Unmarked (quoteText s) :=
  unmarked_quoted (by decide) hs

end Identifier

theorem Dialect.quote_ne_mark (d : Dialect) : d.quote ≠ '?' := by
  cases d <;> decide

theorem Dialect.unmarked_of_accepts {d : Dialect} {operator : String} (h : d.accepts operator)
    : Unmarked operator := by
  -- The operator is looked up without its blanks and in lower case, but written as it was given.
  apply unmarked_of_asciiLower_trimmed
  unfold Dialect.accepts at h
  simp only [Bool.or_eq_true, List.contains_iff_mem] at h
  have hcommon : ∀ op ∈ Dialect.commonOperators, Unmarked op := by decide +kernel
  have hextra : ∀ op ∈ d.extraOperators, Unmarked op := by cases d <;> decide +kernel
  cases h with
  | inl h => exact hcommon _ h
  | inr h => exact hextra _ h

def Column.Unmarked : Column → Prop
  | .name n => Text.Unmarked n
  | .raw sql => Text.Unmarked sql

def Table.Unmarked : Table → Prop
  | .name n => Text.Unmarked n
  | .raw sql => Text.Unmarked sql

instance (c : Column) : Decidable c.Unmarked := by
  cases c <;> exact inferInstanceAs (Decidable (Text.Unmarked _))

instance (t : Table) : Decidable t.Unmarked := by
  cases t <;> exact inferInstanceAs (Decidable (Text.Unmarked _))

namespace Grammar

/-- The prefix is a part of every table name. -/
def Unmarked (g : Grammar) : Prop := Text.Unmarked g.tablePrefix

instance (g : Grammar) : Decidable g.Unmarked :=
  inferInstanceAs (Decidable (Text.Unmarked g.tablePrefix))

theorem unmarked_jsonPath {path : List String} (h : ∀ key ∈ path, Text.Unmarked key)
    : Text.Unmarked (jsonPath path) := by
  unfold jsonPath
  dsimp only
  rw [unmarked_append, unmarked_append]
  refine ⟨⟨by decide, ?_⟩, by decide⟩
  apply unmarked_intercalate (by decide)
  intro part hpart
  obtain ⟨key, hkey, heq⟩ := List.mem_map.mp hpart
  rw [← heq, unmarked_append, unmarked_append]
  refine ⟨⟨by decide, ?_⟩, by decide⟩
  rw [unmarked_ofList, Identifier.mem_double]
  exact h key hkey

theorem unmarked_jsonStep {key : String} (h : Text.Unmarked key)
    : Text.Unmarked (jsonStep key) := by
  unfold jsonStep
  split
  . exact h
  . exact Identifier.unmarked_quoteText h

theorem unmarked_jsonArrows {path : List String} (h : ∀ key ∈ path, Text.Unmarked key)
    : Text.Unmarked (jsonArrows path) := by
  fun_induction jsonArrows path with
  | case1 => decide
  | case2 key =>
    rw [unmarked_append]
    exact ⟨by decide, unmarked_jsonStep (h key List.mem_cons_self)⟩
  | case3 key keys _ ih =>
    rw [unmarked_append, unmarked_append]
    refine ⟨⟨by decide, unmarked_jsonStep (h key List.mem_cons_self)⟩, ih ?_⟩
    intro other hother
    exact h other (List.mem_cons_of_mem key hother)

theorem unmarked_jsonSelector {d : Dialect} {field : String} {path : List String}
    (hfield : Text.Unmarked field) (hpath : ∀ key ∈ path, Text.Unmarked key)
    : Text.Unmarked (jsonSelector d field path) := by
  have hpath' := unmarked_jsonPath hpath
  unfold jsonSelector
  split
  . simp only [unmarked_append]
    exact ⟨⟨⟨⟨unmarked_literal (by decide), hfield⟩, by decide⟩, hpath'⟩, by decide⟩
  . simp only [unmarked_append]
    exact ⟨⟨⟨⟨unmarked_literal (by decide), hfield⟩, by decide⟩, hpath'⟩, by decide⟩
  . rw [unmarked_append]
    exact ⟨hfield, unmarked_jsonArrows hpath⟩

variable {g : Grammar} {s : String} {asTable : Bool}

theorem unmarked_wrapSegment (hs : Text.Unmarked s) : Text.Unmarked (g.wrapSegment s) :=
  Identifier.unmarked_quoteSegment g.dialect.quote_ne_mark hs

theorem unmarked_wrapSegments (hg : g.Unmarked) {segments : List String}
    (h : ∀ segment ∈ segments, Text.Unmarked segment)
    : Text.Unmarked (g.wrapSegments asTable segments) := by
  unfold wrapSegments
  split
  . decide
  . next segment => exact unmarked_wrapSegment (h segment List.mem_cons_self)
  . next first rest _ =>
    have hfirst := h first List.mem_cons_self
    apply unmarked_intercalate (by decide)
    intro part hpart
    cases List.mem_cons.mp hpart with
    | inl heq =>
      rw [heq]
      split
      . exact unmarked_wrapSegment hfirst
      . apply Identifier.unmarked_quoted g.dialect.quote_ne_mark
        rw [unmarked_append]
        exact ⟨hg, hfirst⟩
    | inr hmem =>
      obtain ⟨segment, hsegment, heq⟩ := List.mem_map.mp hmem
      rw [← heq]
      exact unmarked_wrapSegment (h segment (List.mem_cons_of_mem first hsegment))

theorem unmarked_wrapDotted (hg : g.Unmarked) (hs : Text.Unmarked s)
    : Text.Unmarked (g.wrapDotted asTable s) := by
  unfold wrapDotted
  split
  . decide
  . apply unmarked_wrapSegments hg
    intro segment hsegment
    exact hs.of_subset (Identifier.segments_subset hsegment)

theorem unmarked_wrapTarget (hg : g.Unmarked) (hs : Text.Unmarked s)
    : Text.Unmarked (g.wrapTarget asTable s) := by
  unfold wrapTarget
  split
  . next column path hsplit =>
    have := Identifier.splitJson?_subset hsplit
    apply unmarked_jsonSelector
    . exact unmarked_wrapDotted hg (hs.of_subset this.1)
    . intro key hkey
      exact hs.of_subset (this.2 key hkey)
  . exact unmarked_wrapDotted hg hs

theorem unmarked_wrapName (hg : g.Unmarked) (hs : Text.Unmarked s)
    : Text.Unmarked (g.wrapName asTable s) := by
  unfold wrapName
  split
  . next target label hsplit =>
    have := Identifier.splitAlias?_subset hsplit
    have hlabel := hs.of_subset this.2
    rw [unmarked_append, unmarked_append]
    refine ⟨⟨unmarked_wrapTarget hg (hs.of_subset this.1), by decide⟩, unmarked_wrapSegment ?_⟩
    split
    . rw [unmarked_append]
      exact ⟨hg, hlabel⟩
    . exact hlabel
  . exact unmarked_wrapTarget hg hs

theorem unmarked_wrap (hg : g.Unmarked) (hs : Text.Unmarked s) : Text.Unmarked (g.wrap s) :=
  unmarked_wrapName hg hs

theorem unmarked_wrapTable (hg : g.Unmarked) (hs : Text.Unmarked s)
    : Text.Unmarked (g.wrapTable s) := by
  apply unmarked_wrapName hg
  rw [unmarked_append]
  exact ⟨hg, hs⟩

theorem unmarked_column (hg : g.Unmarked) {c : Column} (hc : c.Unmarked)
    : Text.Unmarked (g.column c) := by
  cases c with
  | name n => exact unmarked_wrap hg hc
  | raw sql => exact hc

theorem unmarked_table (hg : g.Unmarked) {t : Table} (ht : t.Unmarked)
    : Text.Unmarked (g.table t) := by
  cases t with
  | name n => exact unmarked_wrapTable hg ht
  | raw sql => exact ht

theorem unmarked_columnList (hg : g.Unmarked) {columns : List Column}
    (h : ∀ c ∈ columns, c.Unmarked) : Text.Unmarked (g.columnList columns) := by
  unfold columnList
  split
  . decide
  . apply unmarked_intercalate (by decide)
    intro part hpart
    obtain ⟨c, hc, heq⟩ := List.mem_map.mp hpart
    rw [← heq]
    exact unmarked_column hg (h c hc)

theorem unmarked_randomOrder (seed : Option Nat) : Text.Unmarked (g.randomOrder seed) := by
  unfold randomOrder
  split
  . rw [unmarked_append, unmarked_append]
    exact ⟨⟨by decide, unmarked_toString _⟩, by decide⟩
  . decide
  . decide

end Grammar

end SqlForge
