import SqlForge.Proofs.Fragment.Basic
import SqlForge.Proofs.Fragment.Woven

/-!
The parts of a statement are woven from the fragments of their clauses, and so is what is put
together from parts that are.
-/

namespace SqlForge

/-- The fragments stand in the text as they are written in the dialect, in this order. -/
def Weaves (d : Dialect) (text : String) (fragments : List Fragment) : Prop :=
  Woven text (fragments.map (Fragment.written d))

/-- A part of a statement. One without text has no fragment, so that it can be left out. -/
structure Sql.Part (sql : Sql) (d : Dialect) (fragments : List Fragment) : Prop where
  weaves : Weaves d sql.text fragments
  shown : sql.text = "" → fragments = []

namespace Weaves

variable {d : Dialect} {a b s t : String} {fa fb : List Fragment}

theorem text (d : Dialect) (s : String) : Weaves d s [] :=
  Woven.text s

theorem plain (d : Dialect) (s : String) : Weaves d s [.plain s] :=
  Woven.given s

theorem glue (ha : Weaves d a fa) (hs : Separates s) (hb : Weaves d b fb)
    : Weaves d (a ++ s ++ b) (fa ++ fb) := by
  unfold Weaves
  rw [List.map_append]
  exact Woven.glue ha hs hb

theorem text_append (hs : opens s) (ha : Weaves d a fa) : Weaves d (s ++ a) fa :=
  Woven.text_append hs ha

theorem append_text (ha : Weaves d a fa) (hs : closes s) : Weaves d (a ++ s) fa :=
  Woven.append_text ha hs

/-- What follows begins with `s`. -/
theorem append_text_append (ha : Weaves d a fa) (hs : closes s) (hne : s ≠ "") (t : String)
    : Weaves d (a ++ s ++ t) fa := by
  rw [String.append_assoc]
  exact ha.append_text (closes_append_of_ne hs hne t)

/-- Two texts on both sides of an operator. -/
theorem glue_around (ha : Weaves d a fa) (hs : closes s) (hne : s ≠ "") (operator : String)
    (ht : opens t) (hne' : t ≠ "") (hb : Weaves d b fb)
    : Weaves d (a ++ s ++ operator ++ t ++ b) (fa ++ fb) := by
  have := ha.glue (separates_around hs hne ht hne' operator) hb
  simpa only [String.append_assoc] using this

theorem compare (ha : Weaves d a fa) (operator : String) (hb : Weaves d b fb)
    : Weaves d (a ++ " " ++ operator ++ " " ++ b) (fa ++ fb) :=
  ha.glue_around (by decide) (by decide) operator (by decide) (by decide) hb

theorem intercalate_map {α : Type} {separator : String} (hseparator : Separates separator)
    {f : α → String} {fragments : α → List Fragment} {l : List α}
    (h : ∀ x ∈ l, Weaves d (f x) (fragments x))
    : Weaves d (separator.intercalate (l.map f)) (l.flatMap fragments) := by
  induction l with
  | nil =>
    rw [List.map_nil, String.intercalate_nil]
    exact text d ""
  | cons x l ih =>
    have hx := h x List.mem_cons_self
    have hl := ih fun y hy => h y (List.mem_cons_of_mem x hy)
    rw [List.map_cons, List.flatMap_cons]
    cases l with
    | nil =>
      rw [List.map_nil, String.intercalate_singleton, List.flatMap_nil, List.append_nil]
      exact hx
    | cons y l =>
      rw [List.map_cons, String.intercalate_cons_cons]
      exact hx.glue hseparator hl

end Weaves

theorem separates_comma : Separates ", " where
  nonempty := by decide
  closes := by decide
  opens := by decide

theorem separates_space : Separates " " where
  nonempty := by decide
  closes := by decide
  opens := by decide

theorem occurs_intercalate {separator part : String} {parts : List String}
    (hseparator : Separates separator) (hmem : part ∈ parts)
    : Occurs part (separator.intercalate parts) := by
  have hweaves : Weaves .mysql (separator.intercalate (parts.map id))
      (parts.flatMap fun part => [.plain part]) :=
    Weaves.intercalate_map hseparator fun part _ => Weaves.plain .mysql part
  rw [List.map_id] at hweaves
  apply Woven.occurs hweaves
  rw [List.map_flatMap]
  exact List.mem_flatMap.mpr ⟨part, hmem, .head _⟩

/-! ### Parts with spaces between them -/

namespace Sql

variable {d : Dialect} {sql : Sql} {fa fb : List Fragment}

theorem text_join (separator : String) (parts : List Sql)
    : (join separator parts).text = separator.intercalate (parts.map text) := by
  fun_induction join separator parts with
  | case1 => exact String.intercalate_nil.symm
  | case2 => exact String.intercalate_singleton.symm
  | case3 sql rest hrest ih =>
    obtain ⟨next, rest, rfl⟩ := List.exists_cons_of_ne_nil hrest
    rw [text_append, text_append, text_coe, ih]
    exact String.intercalate_cons_cons.symm

theorem occurs_words {part : Sql} {parts : List Sql} (hmem : part ∈ parts)
    (hshown : part.text ≠ "") : Occurs part.text (words parts).text := by
  have hkept : part ∈ parts.filter (!·.isEmpty) := by
    apply List.mem_filter.mpr
    simpa [Sql.isEmpty] using ⟨hmem, hshown⟩
  rw [words, text_join]
  exact occurs_intercalate separates_space (List.mem_map_of_mem hkept)

theorem intercalate_cons (separator first : String) (rest : List String)
    : separator.intercalate (first :: rest)
      = first ++ String.join (rest.map (separator ++ ·)) := by
  induction rest generalizing first with
  | nil => simp
  | cons next rest ih =>
    rw [String.intercalate_cons_cons, ih, List.map_cons, String.join_cons]
    simp only [String.append_assoc]

/-- The parts that are not empty, each behind a space. -/
def trailing (parts : List Sql) : String :=
  String.join ((parts.filter (!·.isEmpty)).map fun part => " " ++ part.text)

theorem trailing_append (parts more : List Sql)
    : trailing (parts ++ more) = trailing parts ++ trailing more := by
  simp [trailing, String.join_append]

theorem trailing_singleton {part : Sql} (hshown : part.text ≠ "")
    : trailing [part] = " " ++ part.text := by
  have hkept : (!part.isEmpty) = true := by simpa [isEmpty] using hshown
  simp [trailing, hkept]

theorem trailing_singleton_eq (part : Sql)
    : trailing [part] = "" ∨ trailing [part] = " " ++ part.text := by
  by_cases hshown : part.text = ""
  . have hdropped : (!part.isEmpty) = false := by simp [isEmpty, hshown]
    simp [trailing, hdropped]
  . exact .inr (trailing_singleton hshown)

theorem text_words_cons {part : Sql} (hshown : part.text ≠ "") (parts : List Sql)
    : (words (part :: parts)).text = part.text ++ trailing parts := by
  have hkept : (!part.isEmpty) = true := by simpa [isEmpty] using hshown
  rw [words, text_join, List.filter_cons, if_pos hkept, List.map_cons, intercalate_cons,
    List.map_map]
  rfl

theorem text_words_around {first middle : Sql} (hfirst : first.text ≠ "")
    (hmiddle : middle.text ≠ "") (between : Sql) (rest : List Sql)
    : (words (first :: between :: middle :: rest)).text
      = first.text ++ trailing [between] ++ " " ++ middle.text ++ trailing rest := by
  have hsplit : between :: middle :: rest = [between] ++ ([middle] ++ rest) := rfl
  rw [text_words_cons hfirst, hsplit, trailing_append, trailing_append, trailing_singleton hmiddle]
  simp only [String.append_assoc]

theorem weaves_join_map {α : Type} {separator : String} (hseparator : Separates separator)
    {f : α → Sql} {fragments : α → List Fragment} {l : List α}
    (h : ∀ x ∈ l, Weaves d (f x).text (fragments x))
    : Weaves d (join separator (l.map f)).text (l.flatMap fragments) := by
  rw [text_join, List.map_map]
  exact Weaves.intercalate_map hseparator h

theorem part_text (d : Dialect) (sql : Sql) : sql.Part d [] where
  weaves := Weaves.text d sql.text
  shown _ := rfl

theorem part_text_append {s : String} (hs : opens s) (hne : s ≠ "") (h : Weaves d sql.text fa)
    : ((s : Sql) ++ sql).Part d fa where
  weaves := by
    rw [text_append, text_coe]
    exact h.text_append hs
  shown hempty := by
    rw [text_append, text_coe] at hempty
    exact absurd (String.append_eq_empty_iff.mp hempty).1 hne

theorem part_words_nil : (words []).Part d [] :=
  part_text d _

theorem Part.words_cons {part : Sql} {parts : List Sql} (hpart : part.Part d fa)
    (hparts : (words parts).Part d fb)
    : (words (part :: parts)).Part d (fa ++ fb) := by
  unfold words at *
  rw [List.filter_cons]
  split
  . next hne =>
    have hne : part.text ≠ "" := by simpa [isEmpty] using hne
    cases hrest : parts.filter (!·.isEmpty) with
    | nil =>
      rw [hrest] at hparts
      rw [hparts.shown rfl, List.append_nil]
      exact hpart
    | cons next rest =>
      rw [hrest] at hparts
      constructor
      . simp only [join, text_append, text_coe]
        exact hpart.weaves.glue separates_space hparts.weaves
      . intro hempty
        simp [join, hne] at hempty
  . next hempty =>
    have hempty : part.text = "" := by simpa [isEmpty] using hempty
    rw [hpart.shown hempty]
    exact hparts

end Sql

/-! ### Parts without conditions -/

variable {g : Grammar} {d : Dialect}

theorem Column.weaves (g : Grammar) (d : Dialect) (c : Column)
    : Weaves d (g.column c) c.fragments := by
  cases c with
  | name n => exact Weaves.text d _
  | raw sql => exact Weaves.plain d sql

theorem weaves_columnList (g : Grammar) (d : Dialect) (columns : List Column)
    : Weaves d (g.columnList columns) (columns.flatMap Column.fragments) := by
  unfold Grammar.columnList
  split
  . exact Weaves.text d "*"
  . exact Weaves.intercalate_map separates_comma fun c _ => c.weaves g d

theorem Operand.weaves (d : Dialect) (operand : Operand)
    : Weaves d operand.sql.text operand.fragments := by
  cases operand with
  | value v => exact Weaves.text d _
  | raw sql =>
    rw [Operand.sql, Sql.text_coe]
    exact Weaves.plain d sql

theorem weaves_operandList (d : Dialect) (operands : List Operand)
    : Weaves d (operandList operands).text (operands.flatMap Operand.fragments) :=
  Sql.weaves_join_map separates_comma fun operand _ => operand.weaves d

theorem Selection.weaves (g : Grammar) (d : Dialect) (s : Selection)
    : Weaves d (s.render g).text s.fragments := by
  cases s with
  | column c =>
    rw [Selection.render, Sql.text_coe]
    exact c.weaves g d
  | fragment sql => exact Weaves.plain d sql.text

theorem weaves_selectionList (g : Grammar) (d : Dialect) (selections : List Selection)
    : Weaves d (selectionList g selections).text (selections.flatMap Selection.fragments) := by
  unfold selectionList
  split
  . exact Weaves.text d _
  . exact Sql.weaves_join_map separates_comma fun s _ => s.weaves g d

theorem Source.weaves (g : Grammar) (d : Dialect) (s : Source)
    : Weaves d (s.render g).text s.fragments := by
  cases s with
  | table t =>
    rw [Source.render, Sql.text_coe]
    cases t with
    | name n => exact Weaves.text d _
    | raw sql => exact Weaves.plain d sql
  | fragment sql => exact Weaves.plain d sql.text

theorem Ordering.weaves (g : Grammar) (d : Dialect) (o : Ordering)
    : Weaves d (o.render g).text o.fragments := by
  cases o with
  | column c direction =>
    simp only [Ordering.render, Sql.text_append, Sql.text_coe]
    exact (c.weaves g d).append_text_append (by decide) (by decide) direction.sql
  | raw sql carried => exact Weaves.plain d sql.text

theorem part_renderOrders (g : Grammar) (d : Dialect) (orders : List Ordering)
    : (renderOrders g orders).Part d (orders.flatMap Ordering.fragments) := by
  unfold renderOrders
  split
  . exact Sql.part_text d _
  . apply Sql.part_text_append (by decide) (by decide)
    exact Sql.weaves_join_map separates_comma fun o _ => o.weaves g d

theorem Aggregate.weaves (g : Grammar) (d : Dialect) (distinct : Bool) (a : Aggregate)
    : Weaves d (a.render g distinct).text (a.columns.flatMap Column.fragments) := by
  have hcolumns := weaves_columnList g d a.columns
  have hopens : opens ("SELECT " ++ a.function ++ "(") :=
    opens_append_of_ne _ (by decide) (by decide)
  simp only [Aggregate.render, Sql.text_append, Sql.text_coe]
  split
  . exact ((hcolumns.text_append (by decide)).text_append hopens).append_text (by decide)
  . exact (hcolumns.text_append hopens).append_text (by decide)

theorem part_encloseMember (dialect : Dialect) {sql : Sql} {fragments : List Fragment}
    (h : Weaves d sql.text fragments)
    : (encloseMember dialect sql).Part d fragments where
  weaves := by
    cases dialect <;> simp only [encloseMember, Sql.text_append, Sql.text_coe]
    . exact (h.text_append (by decide)).append_text (by decide)
    . exact (h.text_append (by decide)).append_text (by decide)
    . exact (h.text_append (by decide)).append_text (by decide)
  shown hempty := by
    cases dialect <;> simp [encloseMember] at hempty

/-! ### Parts of conditions -/

theorem separates_membership (negated : Bool) : Separates (membership negated) := by
  cases negated <;> constructor <;> decide

theorem weaves_comparedColumn (g : Grammar) (d : Dialect) (c : Column) (operator : String)
    : Weaves d (comparedColumn g c operator) c.fragments := by
  unfold comparedColumn
  split
  . exact (c.weaves g d).append_text (by decide)
  . exact c.weaves g d

theorem weaves_renderDatePart (dialect : Dialect) (part : DatePart) {column : String}
    (operator : String) {operand : Sql} {fa fb : List Fragment} (hcolumn : Weaves d column fa)
    (hoperand : Weaves d operand.text fb)
    : Weaves d (renderDatePart dialect part column operator operand).text (fa ++ fb) := by
  cases dialect with
  | mysql =>
    have hcall (function : String) : Weaves d (function ++ "(" ++ column) fa :=
      hcolumn.text_append (opens_append_of_ne function (by decide) (by decide))
    simp only [renderDatePart, Sql.text_append, Sql.text_coe]
    exact (hcall _).glue_around (by decide) (by decide) operator (by decide) (by decide) hoperand
  | postgres =>
    simp only [renderDatePart, Sql.text_append, Sql.text_coe]
    apply Weaves.compare _ operator hoperand
    cases part with
    | date => exact hcolumn.append_text (by decide)
    | time => exact hcolumn.append_text (by decide)
    | day => exact (hcolumn.text_append (by decide)).append_text (by decide)
    | month => exact (hcolumn.text_append (by decide)).append_text (by decide)
    | year => exact (hcolumn.text_append (by decide)).append_text (by decide)
  | sqlite =>
    have hcall (format : String) : Weaves d ("strftime('" ++ format ++ "', " ++ column) fa :=
      hcolumn.text_append (opens_append_of_ne _ (by decide) (by decide))
    simp only [renderDatePart, Sql.text_append, Sql.text_coe]
    apply Weaves.append_text _ (by decide)
    exact (hcall _).glue_around (by decide) (by decide) operator (by decide) (by decide) hoperand

theorem weaves_documentArrows (g : Grammar) (c : Column)
    : Weaves .postgres (String.ofList (documentArrows (g.column c).toList))
        c.containedFragments := by
  cases c with
  | name n => exact Weaves.text .postgres _
  | raw sql => exact Woven.given _

theorem weaves_renderJsonContains {c : Column} {operand : Operand} {negated : Bool} {sql : Sql}
    (h : renderJsonContains g c operand negated = .ok sql)
    : Weaves g.dialect sql.text (c.containedFragments ++ operand.fragments) := by
  have hoperand := operand.weaves g.dialect
  unfold renderJsonContains at h
  generalize (if negated then "NOT " else "") = not at h
  dsimp only at h
  split at h
  . next hdialect =>
    rw [hdialect] at hoperand ⊢
    have hcall {field path : String} (hfield : Weaves .mysql field c.containedFragments)
        (hpath : closes path)
        : Weaves .mysql (not ++ "json_contains(" ++ field ++ ", " ++ operand.sql.text ++ path ++ ")")
            (c.containedFragments ++ operand.fragments) := by
      have hopens : opens (not ++ "json_contains(") :=
        opens_append_of_ne not (by decide) (by decide)
      have hfront := (hfield.text_append hopens).glue separates_comma hoperand
      exact (hfront.append_text hpath).append_text (by decide)
    cases h
    split
    . split
      . simp only [Sql.text_append, Sql.text_coe]
        exact hcall (Weaves.text .mysql _) (closes_append_of_ne (by decide) (by decide) _)
      . simp only [Sql.text_append, Sql.text_coe]
        exact hcall (Weaves.text .mysql _) rfl
    . simp only [Sql.text_append, Sql.text_coe]
      exact hcall (Woven.given _) rfl
  . next hdialect =>
    rw [hdialect] at hoperand ⊢
    have hopens : opens (not ++ "(") := opens_append_of_ne not (by decide) (by decide)
    have hseparator : Separates ")::jsonb @> " := by
      constructor <;> decide
    cases h
    simp only [Sql.text_append, Sql.text_coe]
    exact ((weaves_documentArrows g c).text_append hopens).glue hseparator hoperand
  . contradiction

theorem part_headed {keyword : String} {clauses : List Clause} {sql : Sql}
    (hkeyword : opens keyword) (hne : keyword ≠ "") (h : Weaves d sql.text (clauseFragments clauses))
    : (headed keyword clauses sql).Part d (clauseFragments clauses) := by
  unfold headed
  cases clauses with
  | nil =>
    rw [clauseFragments]
    exact Sql.part_text d _
  | cons clause clauses => exact Sql.part_text_append hkeyword hne h

/-! ### Statements from their parts -/

namespace Select

variable {q : Select} {p : Parts}

/-- The parts are woven from the fragments of the clauses they belong to. -/
structure Writes (q : Select) (d : Dialect) (p : Parts) : Prop where
  joins : p.joins.Part d (joinFragments q.joins)
  wheres : Weaves d p.wheres.text (clauseFragments q.wheres)
  havings : Weaves d p.havings.text (clauseFragments q.havings)
  members : ∀ {rest : List Sql} {fragments : List Fragment}, (Sql.words rest).Part d fragments →
    (Sql.words (p.members ++ rest)).Part d (memberFragments q.unions ++ fragments)

theorem part_renderHead (g : Grammar) (d : Dialect) (q : Select) (a : Option Aggregate)
    : (q.renderHead g a).Part d (q.headFragments a) := by
  cases a with
  | some a =>
    constructor
    . exact a.weaves g d q.distinct
    . intro hempty
      simp [renderHead, Aggregate.render] at hempty
  | none =>
    apply Sql.part_text_append _ _ (weaves_selectionList g d q.selections)
    . cases q.distinct <;> decide
    . cases q.distinct <;> decide

theorem part_renderSource (g : Grammar) (d : Dialect) (q : Select)
    : (q.renderSource g).Part d (q.source.toList.flatMap Source.fragments) := by
  unfold renderSource
  cases q.source with
  | none => exact Sql.part_text d _
  | some source =>
    rw [Option.toList_some, List.flatMap_singleton]
    exact Sql.part_text_append (by decide) (by decide) (source.weaves g d)

theorem part_renderGroups (g : Grammar) (d : Dialect) (q : Select)
    : (q.renderGroups g).Part d (q.groups.flatMap Column.fragments) := by
  unfold renderGroups
  split
  . next hempty =>
    rw [List.isEmpty_iff.mp hempty]
    exact Sql.part_text d _
  . apply Sql.part_text_append (by decide) (by decide)
    rw [Sql.text_coe]
    exact weaves_columnList g d q.groups

theorem part_renderSingle (g : Grammar) {d : Dialect} (a : Option Aggregate) (hp : q.Writes d p)
    : (q.renderSingle g a p).Part d (q.singleFragments a q.held) := by
  suffices (q.renderSingle g a p).Part d (q.headFragments a ++
      (q.source.toList.flatMap Source.fragments ++ (joinFragments q.joins ++
        (clauseFragments q.wheres ++ (q.groups.flatMap Column.fragments ++
          (clauseFragments q.havings ++ (q.orders.flatMap Ordering.fragments ++
            ([] ++ ([] ++ []))))))))) by
    simpa [singleFragments, held] using this
  apply Sql.Part.words_cons (part_renderHead g d q a)
  apply Sql.Part.words_cons (part_renderSource g d q)
  apply Sql.Part.words_cons hp.joins
  apply Sql.Part.words_cons (part_headed (by decide) (by decide) hp.wheres)
  apply Sql.Part.words_cons (part_renderGroups g d q)
  apply Sql.Part.words_cons (part_headed (by decide) (by decide) hp.havings)
  apply Sql.Part.words_cons (part_renderOrders g d q.orders)
  apply Sql.Part.words_cons (Sql.part_text d _)
  exact Sql.Part.words_cons (Sql.part_text d _) Sql.part_words_nil

theorem part_renderWhole (g : Grammar) {d : Dialect} (a : Option Aggregate) (hp : q.Writes d p)
    : (q.renderWhole g a p).Part d (q.wholeFragments a q.held) := by
  have hsingle := part_renderSingle g a hp
  unfold renderWhole wholeFragments
  split
  . exact hsingle
  . have hmembers : (Sql.words (p.members ++ [renderOrders g q.unionOrders,
        renderLimit q.unionLimit, renderOffset g q.unionLimit.isSome q.unionOffset])).Part d
        (memberFragments q.unions ++
          (q.unionOrders.flatMap Ordering.fragments ++ ([] ++ ([] ++ [])))) := by
      apply hp.members
      apply Sql.Part.words_cons (part_renderOrders g d q.unionOrders)
      apply Sql.Part.words_cons (Sql.part_text d _)
      exact Sql.Part.words_cons (Sql.part_text d _) Sql.part_words_nil
    have hfirst := part_encloseMember g.dialect hsingle.weaves
    constructor
    . have := hfirst.weaves.glue separates_space hmembers.weaves
      simpa [held] using this
    . intro hempty
      simp at hempty

theorem weaves_renderBody (g : Grammar) {d : Dialect} (a : Option Aggregate) (hp : q.Writes d p)
    : Weaves d (q.renderBody g a p).text (q.wholeFragments a q.held) := by
  have := Sql.Part.words_cons (part_renderWhole g a hp)
    (Sql.Part.words_cons (Sql.part_text d (q.renderLock g)) Sql.part_words_nil)
  simpa [renderBody] using this.weaves

theorem weaves_assemble (g : Grammar) {d : Dialect} (hp : q.Writes d p)
    : Weaves d (q.assemble g p).text q.fragments := by
  rw [fragments_eq]
  unfold assemble arrange
  cases q.aggregate with
  | some a =>
    dsimp only
    split
    . exact weaves_renderBody g (some a) hp
    . have hseparator : Separates " FROM (" := by
        constructor <;> decide
      have hwhole := (a.weaves g d q.distinct).glue hseparator (weaves_renderBody g none hp)
      simp only [Sql.text_append, Sql.text_coe]
      exact hwhole.append_text_append (by decide) (by decide) _
  | none => exact weaves_renderBody g none hp

end Select

end SqlForge
