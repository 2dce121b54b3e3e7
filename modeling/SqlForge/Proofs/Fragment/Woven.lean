import SqlForge.Sql

/-!
Texts that are put together from what is given and what is written around it. Nothing that is given
stands next to a quote or runs into a word.
-/

namespace SqlForge

inductive Span where
  | written (s : String)
  | given (s : String)

def Span.text : Span → String
  | .written s | .given s => s

def Span.given? : Span → Option String
  | .written _ => none
  | .given s => some s

/-- What is given may follow the text. -/
def opens (s : String) : Bool :=
  s.toList.getLast?.all fun c => c = ' ' || c = '('

/-- The text may follow what is given. -/
def closes (s : String) : Bool :=
  s.toList.head?.all fun c => c = ' ' || c = ',' || c = ')' || c = ':'

def spanText (spans : List Span) : String :=
  String.join (spans.map Span.text)

/-- What is given stands in the text as it is, in this order, and apart from its neighbours. -/
def Woven (text : String) (fragments : List String) : Prop :=
  ∃ spans, spanText spans = text ∧ spans.filterMap Span.given? = fragments ∧
    ∀ before fragment after, spans = before ++ .given fragment :: after →
      opens (spanText before) ∧ closes (spanText after)

/-- What may stand between two things that are given. -/
structure Separates (s : String) : Prop where
  nonempty : s ≠ ""
  closes : closes s
  opens : opens s

variable {s t a b : String} {fa fb : List String}

theorem opens_append (ht : opens t) (hs : t = "" → opens s) : opens (s ++ t) := by
  unfold opens at hs ht ⊢
  rw [String.toList_append, List.getLast?_append]
  cases h : t.toList.getLast? with
  | none => exact hs (String.toList_eq_nil_iff.mp (List.getLast?_eq_none_iff.mp h))
  | some c =>
    rw [h] at ht
    exact ht

theorem closes_append (hs : closes s) (ht : s = "" → closes t) : closes (s ++ t) := by
  unfold closes at hs ht ⊢
  rw [String.toList_append, List.head?_append]
  cases h : s.toList.head? with
  | none => exact ht (String.toList_eq_nil_iff.mp (List.head?_eq_none_iff.mp h))
  | some c =>
    rw [h] at hs
    exact hs

theorem opens_append_of_ne (s : String) (ht : opens t) (hne : t ≠ "") : opens (s ++ t) :=
  opens_append ht fun h => absurd h hne

theorem closes_append_of_ne (hs : closes s) (hne : s ≠ "") (t : String) : closes (s ++ t) :=
  closes_append hs fun h => absurd h hne

theorem separates_around (hs : closes s) (hne : s ≠ "") (ht : opens t) (hne' : t ≠ "")
    (middle : String) : Separates (s ++ middle ++ t) where
  nonempty h := hne' (String.append_eq_empty_iff.mp h).2
  closes := by
    rw [String.append_assoc]
    exact closes_append_of_ne hs hne (middle ++ t)
  opens := opens_append_of_ne (s ++ middle) ht hne'

theorem spanText_append (spans more : List Span)
    : spanText (spans ++ more) = spanText spans ++ spanText more := by
  rw [spanText, List.map_append, String.join_append, spanText, spanText]

theorem spanText_cons (span : Span) (spans : List Span)
    : spanText (span :: spans) = span.text ++ spanText spans := by
  rw [spanText, List.map_cons, String.join_cons, spanText]

/-- Of two lists one after the other, an element stands in the first or in the second. -/
theorem append_eq_append_cons {α : Type} {x : α} {xs ys before after : List α}
    (h : xs ++ ys = before ++ x :: after)
    : (∃ more, xs = before ++ x :: more ∧ after = more ++ ys) ∨
      ∃ more, before = xs ++ more ∧ ys = more ++ x :: after := by
  rcases List.append_eq_append_iff.mp h with ⟨more, hbefore, hys⟩ | ⟨more, hxs, hmore⟩
  . exact .inr ⟨more, hbefore, hys⟩
  . cases more with
    | nil => exact .inr ⟨[], by simpa using hxs.symm, hmore.symm⟩
    | cons y more =>
      cases hmore
      exact .inl ⟨more, hxs, rfl⟩

namespace Woven

theorem text (s : String) : Woven s [] := by
  refine ⟨[.written s], by simp [spanText, Span.text], rfl, ?_⟩
  intro before fragment after h
  have hmem : Span.given fragment ∈ [Span.written s] := by simp [h]
  simp at hmem

theorem given (s : String) : Woven s [s] := by
  refine ⟨[.given s], by simp [spanText, Span.text], rfl, ?_⟩
  intro before fragment after h
  cases before with
  | nil =>
    cases h
    exact ⟨rfl, rfl⟩
  | cons span before => simp at h

/-- Something written between two texts that are put together. -/
theorem glue (ha : Woven a fa) (hs : Separates s) (hb : Woven b fb)
    : Woven (a ++ s ++ b) (fa ++ fb) := by
  obtain ⟨as, htext, hgiven, has⟩ := ha
  obtain ⟨bs, htext', hgiven', hbs⟩ := hb
  refine ⟨as ++ .written s :: bs, ?_, ?_, ?_⟩
  . rw [spanText_append, spanText_cons, htext, htext', Span.text, String.append_assoc]
  . rw [List.filterMap_append, List.filterMap_cons_none rfl, hgiven, hgiven']
  . intro before fragment after h
    -- On the side where the fragment stands, `s` is the neighbour if there is no other.
    rcases append_eq_append_cons h with ⟨more, hbefore, rfl⟩ | ⟨more, rfl, hafter⟩
    . obtain ⟨hopens, hcloses⟩ := has before fragment more hbefore
      refine ⟨hopens, ?_⟩
      rw [spanText_append, spanText_cons]
      exact closes_append hcloses fun _ => closes_append_of_ne hs.closes hs.nonempty _
    . cases more with
      | nil => cases hafter
      | cons span more =>
        cases hafter
        obtain ⟨hopens, hcloses⟩ := hbs more fragment after rfl
        refine ⟨?_, hcloses⟩
        rw [spanText_append, spanText_cons, ← String.append_assoc]
        exact opens_append hopens fun _ => opens_append_of_ne _ hs.opens hs.nonempty

theorem text_append (hs : opens s) (ha : Woven a fa) : Woven (s ++ a) fa := by
  obtain ⟨as, htext, hgiven, has⟩ := ha
  refine ⟨.written s :: as, ?_, hgiven, ?_⟩
  . rw [spanText_cons, htext, Span.text]
  . intro before fragment after h
    cases before with
    | nil => cases h
    | cons span before =>
      cases h
      obtain ⟨hopens, hcloses⟩ := has before fragment after rfl
      refine ⟨?_, hcloses⟩
      rw [spanText_cons]
      exact opens_append hopens fun _ => hs

theorem append_text (ha : Woven a fa) (hs : closes s) : Woven (a ++ s) fa := by
  obtain ⟨as, htext, hgiven, has⟩ := ha
  refine ⟨as ++ [.written s], ?_, ?_, ?_⟩
  . rw [spanText_append, htext]
    simp [spanText, Span.text]
  . rw [List.filterMap_append, hgiven]
    exact List.append_nil fa
  . intro before fragment after h
    rcases append_eq_append_cons h with ⟨more, hbefore, rfl⟩ | ⟨more, rfl, hafter⟩
    . obtain ⟨hopens, hcloses⟩ := has before fragment more hbefore
      refine ⟨hopens, ?_⟩
      rw [spanText_append]
      refine closes_append hcloses fun _ => ?_
      simpa [spanText, Span.text] using hs
    . have hmem : Span.given fragment ∈ [Span.written s] := by simp [hafter]
      simp at hmem

end Woven

/-- What is given stands somewhere in the text as it is, and apart from its neighbours. -/
def Occurs (given text : String) : Prop :=
  ∃ before after, text = before ++ given ++ after ∧ opens before ∧ closes after

theorem Occurs.refl (s : String) : Occurs s s :=
  ⟨"", "", by simp, rfl, rfl⟩

theorem Occurs.trans {inner outer text : String} (h : Occurs inner outer) (h' : Occurs outer text)
    : Occurs inner text := by
  obtain ⟨before, after, rfl, hbefore, hafter⟩ := h
  obtain ⟨before', after', rfl, hbefore', hafter'⟩ := h'
  refine ⟨before' ++ before, after ++ after', ?_, ?_, ?_⟩
  . simp only [String.append_assoc]
  . exact opens_append hbefore fun _ => hbefore'
  . exact closes_append hafter fun _ => hafter'

theorem Occurs.isInfix {given text : String} (h : Occurs given text)
    : given.toList <:+: text.toList := by
  obtain ⟨before, after, rfl, -, -⟩ := h
  refine ⟨before.toList, after.toList, ?_⟩
  rw [String.toList_append, String.toList_append]

theorem Occurs.ne_empty {given text : String} (h : Occurs given text) (hshown : given ≠ "")
    : text ≠ "" := by
  intro hempty
  have hinfix := h.isInfix
  rw [hempty, String.toList_empty, List.infix_nil] at hinfix
  exact hshown (String.toList_eq_nil_iff.mp hinfix)

theorem Occurs.append_around {given inner : String} (h : Occurs given inner) {before after : String}
    (hbefore : opens before) (hafter : closes after) : Occurs given (before ++ inner ++ after) :=
  h.trans ⟨before, after, rfl, hbefore, hafter⟩

theorem Woven.occurs {text fragment : String} {fragments : List String}
    (h : Woven text fragments) (hmem : fragment ∈ fragments) : Occurs fragment text := by
  obtain ⟨spans, rfl, rfl, hspans⟩ := h
  obtain ⟨span, hspan, hgiven⟩ := List.mem_filterMap.mp hmem
  cases span with
  | written s => cases hgiven
  | given s =>
    cases hgiven
    obtain ⟨before, after, rfl⟩ := List.append_of_mem hspan
    obtain ⟨hopens, hcloses⟩ := hspans before fragment after rfl
    refine ⟨spanText before, spanText after, ?_, hopens, hcloses⟩
    rw [spanText_append, spanText_cons, Span.text, String.append_assoc]

end SqlForge
