import SqlForge.Proofs.Placeholder.Name

/-!
The question marks of SQL in the making, each with the value that it was written for. SQL emits a
list of values if its question marks, from left to right, are the placeholders of these values.
-/

namespace SqlForge

open Text

def Piece.marks : Piece → List (Option Value)
  | .text s => List.replicate (s.toList.count '?') none
  | .slot v => [some v]

theorem Piece.length_marks (p : Piece) : p.marks.length = p.toString.toList.count '?' := by
  cases p with
  | text s => simp [marks, toString]
  | slot v => simp [marks, toString]

theorem Piece.reduceOption_marks (p : Piece) : p.marks.filterMap id = p.value?.toList := by
  cases p with
  | text s => simp [marks, value?]
  | slot v => rfl

namespace Sql

/-- The question marks of the text, from left to right, with the values they were written for. -/
def marks (sql : Sql) : List (Option Value) :=
  sql.pieces.flatMap Piece.marks

@[simp]
theorem marks_append (a b : Sql) : (a ++ b).marks = a.marks ++ b.marks := by
  simp [marks]

theorem length_marks (sql : Sql) : sql.marks.length = sql.text.toList.count '?' := by
  unfold marks text
  rw [String.toList_join]
  induction sql.pieces with
  | nil => rfl
  | cons p pieces ih =>
    rw [List.flatMap_cons, List.length_append, ih, Piece.length_marks]
    simp

theorem marks_eq_nil_of_isEmpty {sql : Sql} (h : sql.isEmpty) : sql.marks = [] := by
  apply List.eq_nil_of_length_eq_zero
  rw [length_marks, String.isEmpty_iff.mp h]
  rfl

theorem values_eq_filterMap_marks (sql : Sql) : sql.values = sql.marks.filterMap id := by
  unfold values marks
  induction sql.pieces with
  | nil => rfl
  | cons p pieces ih =>
    rw [List.flatMap_cons, List.filterMap_append, ← ih, Piece.reduceOption_marks]
    cases h : p.value? <;> simp [h]

/-- The question marks are the placeholders of `values`, in their order. -/
def Emits (sql : Sql) (values : List Value) : Prop :=
  sql.marks = values.map some

def Filled (sql : Sql) : Prop :=
  sql.Emits sql.values

theorem Emits.values_eq {sql : Sql} {values : List Value} (h : sql.Emits values)
    : sql.values = values := by
  rw [values_eq_filterMap_marks, h]
  simp

theorem Emits.count_eq {sql : Sql} {values : List Value} (h : sql.Emits values)
    : sql.text.toList.count '?' = values.length := by
  rw [← length_marks, h, List.length_map]

theorem Emits.unmarked {sql : Sql} (h : sql.Emits []) : Unmarked sql.text :=
  List.count_eq_zero.mp h.count_eq

theorem Emits.filled {sql : Sql} {values : List Value} (h : sql.Emits values) : sql.Filled := by
  unfold Filled
  rw [h.values_eq]
  exact h

theorem emits_empty : empty.Emits [] := rfl

theorem emits_text {s : String} (h : Unmarked s) : (s : Sql).Emits [] := by
  have : s.toList.count '?' = 0 := List.count_eq_zero.mpr h
  simp [Emits, marks, Piece.marks, this]

theorem marks_text {s : String} (h : Unmarked s) : (s : Sql).marks = [] :=
  emits_text h

theorem emits_literal {cs : List Char} (h : '?' ∉ cs) : (String.ofList cs : Sql).Emits [] :=
  emits_text (unmarked_literal h)

theorem emits_slot (v : Value) : (slot v).Emits [v] := rfl

theorem Emits.append {a b : Sql} {vs ws : List Value} (ha : a.Emits vs) (hb : b.Emits ws)
    : (a ++ b).Emits (vs ++ ws) := by
  unfold Emits at *
  rw [marks_append, ha, hb, List.map_append]

theorem Emits.nil_append {a b : Sql} {vs : List Value} (ha : a.Emits []) (hb : b.Emits vs)
    : (a ++ b).Emits vs :=
  ha.append hb

theorem Emits.text_append {s : String} {sql : Sql} {vs : List Value} (hs : Unmarked s)
    (h : sql.Emits vs) : ((s : Sql) ++ sql).Emits vs :=
  (emits_text hs).nil_append h

theorem Emits.append_text {s : String} {sql : Sql} {vs : List Value} (h : sql.Emits vs)
    (hs : Unmarked s) : (sql ++ (s : Sql)).Emits vs := by
  have := h.append (emits_text hs)
  rwa [List.append_nil] at this

theorem Emits.join_cons {separator : String} {part : Sql} {parts : List Sql} {vs ws : List Value}
    (hseparator : Unmarked separator) (hpart : part.Emits vs)
    (hparts : (join separator parts).Emits ws)
    : (join separator (part :: parts)).Emits (vs ++ ws) := by
  cases parts with
  | nil =>
    rw [List.map_eq_nil_iff.mp hparts.symm, List.append_nil]
    exact hpart
  | cons next rest => exact (hpart.append_text hseparator).append hparts

theorem emits_join_map {α : Type} {separator : String} (hseparator : Unmarked separator)
    {f : α → Sql} {slots : α → List Value} {l : List α} (h : ∀ a ∈ l, (f a).Emits (slots a))
    : (join separator (l.map f)).Emits (l.flatMap slots) := by
  induction l with
  | nil => exact emits_empty
  | cons a l ih =>
    rw [List.map_cons, List.flatMap_cons]
    apply Emits.join_cons hseparator (h a List.mem_cons_self)
    apply ih
    intro b hb
    exact h b (List.mem_cons_of_mem a hb)

theorem emits_words_nil : (words []).Emits [] := emits_empty

theorem Emits.words_cons {part : Sql} {parts : List Sql} {vs ws : List Value}
    (hpart : part.Emits vs) (hparts : (words parts).Emits ws)
    : (words (part :: parts)).Emits (vs ++ ws) := by
  unfold words at *
  rw [List.filter_cons]
  split
  . exact Emits.join_cons (by decide) hpart hparts
  . next h =>
    -- A part without text has no placeholder either.
    have : vs.map some = [] := by
      rw [← hpart]
      apply marks_eq_nil_of_isEmpty
      simpa using h
    rw [List.map_eq_nil_iff.mp this]
    exact hparts

/-! ### Templates -/

/-- The template has a question mark for each of the values, and no other. -/
def Fits (template : String) (values : List Value) : Prop :=
  template.toList.count '?' = values.length

instance (template : String) (values : List Value) : Decidable (Fits template values) :=
  inferInstanceAs (Decidable (_ = _))

theorem marks_prependChar {c : Char} (hc : c ≠ '?') (pieces : List Piece)
    : (prependChar c pieces).flatMap Piece.marks = pieces.flatMap Piece.marks := by
  unfold prependChar
  split
  . simp [Piece.marks, hc]
  . simp [Piece.marks, hc]

theorem ofTemplate.go_marks {cs : List Char} {values : List Value}
    (h : cs.count '?' = values.length)
    : (ofTemplate.go cs values).flatMap Piece.marks = values.map some := by
  fun_induction ofTemplate.go cs values with
  | case1 values =>
    rw [List.eq_nil_of_length_eq_zero h.symm]
    rfl
  | case2 c cs ih =>
    have hc : c ≠ '?' := by
      intro hc
      simp [hc] at h
    rw [marks_prependChar hc]
    apply ih
    simpa [List.count_cons, hc] using h
  | case3 cs v values ih =>
    rw [List.flatMap_cons, ih]
    . rfl
    . simpa using h
  | case4 c cs v values hc ih =>
    rw [marks_prependChar hc]
    apply ih
    simpa [List.count_cons, hc] using h

theorem emits_ofTemplate {template : String} {values : List Value} (h : Fits template values)
    : (ofTemplate template values).Emits values :=
  ofTemplate.go_marks h

end Sql

end SqlForge
