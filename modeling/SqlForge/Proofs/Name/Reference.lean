import SqlForge.Config
import SqlForge.Proofs.Name.Split
import SqlForge.Proofs.Name.Wrap
import SqlForge.Session.Query
import SqlForge.Write.Change

/-!
Whether a column names the table that it is meant to name. The prefix of a table is written before
the name is split, the prefix in front of a column after it.
-/

namespace SqlForge

namespace Identifier

/-- A name in one or more segments, none of them special. -/
structure Plain (s : String) : Prop where
  nonempty : s.toList ≠ []
  blankless : Blankless s.toList
  starless : '*' ∉ s.toList
  arrowless : Arrowless s.toList

structure Single (s : String) : Prop extends Plain s where
  dotless : '.' ∉ s.toList

variable {s t : String}

theorem splitAlias?_of_blankless (h : Blankless s.toList) : splitAlias? s = none :=
  splitAlias?_of_unlabelled h.unlabelled

theorem exists_segments (s : String) : ∃ first rest, segments s = first :: rest := by
  obtain ⟨first, rest, h⟩ := List.exists_cons_of_ne_nil (splitDots_ne_nil s.toList)
  exact ⟨String.ofList first, rest.map String.ofList, by rw [segments, h, List.map_cons]⟩

theorem length_segments (s : String) : (segments s).length = s.toList.count '.' + 1 := by
  rw [segments, List.length_map, length_splitDots]

theorem segments_append_dot (s t : String)
    : segments (s ++ "." ++ t) = segments s ++ segments t := by
  have hchars : (s ++ "." ++ t).toList = s.toList ++ '.' :: t.toList := by simp
  rw [segments, segments, segments, hchars, splitDots_append_dot, List.map_append]

theorem segments_of_dotless (h : '.' ∉ s.toList) : segments s = [s] := by
  rw [segments, splitDots_of_dotless h, List.map_singleton, String.ofList_toList]

theorem infix_of_mem_segments (h : t ∈ segments s) : t.toList <:+: s.toList := by
  obtain ⟨part, hpart, rfl⟩ := List.mem_map.mp h
  rw [String.toList_ofList]
  exact infix_of_mem_splitDots hpart

theorem lastSegment_mem_segments (s : String) : lastSegment s ∈ segments s := by
  obtain ⟨first, rest, h⟩ := exists_segments s
  rw [lastSegment, h, List.getLastD_cons]
  exact List.getLastD_mem_cons

theorem dotless_of_mem_segments (h : t ∈ segments s) : '.' ∉ t.toList := by
  obtain ⟨part, hpart, rfl⟩ := List.mem_map.mp h
  rw [String.toList_ofList]
  exact dotless_of_mem_splitDots hpart

theorem segments_append (hs : '.' ∉ s.toList) {first : String} {rest : List String}
    (h : segments t = first :: rest) : segments (s ++ t) = (s ++ first) :: rest := by
  obtain ⟨front, back, hsplit⟩ := List.exists_cons_of_ne_nil (splitDots_ne_nil t.toList)
  rw [segments, hsplit, List.map_cons] at h
  cases h
  rw [segments, String.toList_append, splitDots_append hs hsplit, List.map_cons]
  simp

theorem first_segment_eq_empty_iff {first : String} {rest : List String} (hs : s.toList ≠ [])
    (h : segments s = first :: rest) : first = "" ↔ ['.'] <+: s.toList := by
  obtain ⟨c, cs, hchars⟩ := List.exists_cons_of_ne_nil hs
  rw [segments, hchars] at h
  rw [hchars, List.cons_prefix_cons]
  by_cases hc : c = '.'
  . rw [hc, splitDots_dot_cons, List.map_cons] at h
    cases h
    exact iff_of_true rfl ⟨hc.symm, List.nil_prefix⟩
  . obtain ⟨front, back, hsplit⟩ := List.exists_cons_of_ne_nil (splitDots_ne_nil cs)
    rw [splitDots_cons_of_ne hc hsplit, List.map_cons] at h
    cases h
    apply iff_of_false
    . intro hempty
      have hlist := congrArg String.toList hempty
      rw [String.toList_ofList] at hlist
      cases hlist
    . exact fun hdot => hc hdot.1.symm

theorem quoteSegment_of_starless (quote : Char) (h : '*' ∉ s.toList)
    : quoteSegment quote s = quoted quote s := by
  apply if_neg
  rintro rfl
  exact h List.mem_cons_self

end Identifier

namespace Grammar

variable (g : Grammar)

/-- A table as it is named in front of a column: the prefix is part of the first segment. -/
def qualifier (table : String) : String :=
  match Identifier.segments table with
  | [] => ""
  | first :: rest =>
    ".".intercalate
      (Identifier.quoted g.dialect.quote (g.tablePrefix ++ first) :: rest.map g.wrapSegment)

/--
The prefix and the first segment of the name make one segment, and no special one: no dot parts
them, they make no path, and they are not a star.
-/
structure Joins (table : String) : Prop where
  dotless : '.' ∉ g.tablePrefix.toList
  arrowless : Identifier.Arrowless (g.tablePrefix ++ table).toList
  starless : ¬(g.tablePrefix = "*" ∧ ['.'] <+: table.toList)

variable {g} {n column : String}

theorem intercalate_append_singleton (first : String) (rest : List String) (last : String)
    : ".".intercalate (first :: rest ++ [last]) = ".".intercalate (first :: rest) ++ "." ++ last := by
  induction rest generalizing first with
  | nil => simp
  | cons next rest ih =>
    rw [List.cons_append, List.cons_append, String.intercalate_cons_cons, ← List.cons_append, ih,
      String.intercalate_cons_cons]
    simp only [String.append_assoc]

theorem wrapSegments_qualified (g : Grammar) (first : String) (rest : List String) (last : String)
    : g.wrapSegments false (first :: rest ++ [last])
      = ".".intercalate
            (Identifier.quoted g.dialect.quote (g.tablePrefix ++ first) :: rest.map g.wrapSegment)
          ++ "." ++ g.wrapSegment last := by
  rw [← intercalate_append_singleton, ← List.map_singleton, List.cons_append, List.cons_append,
    ← List.map_append]
  cases rest <;> rfl

theorem wrapName_of_bare (g : Grammar) (asTable : Bool) {s : String} (hs : Identifier.Bare s)
    : g.wrapName asTable s = g.wrapDotted asTable s := by
  have hjson := Identifier.splitJson?_eq_none_iff.mpr hs.arrowless
  rw [wrapName, Identifier.splitAlias?_of_unlabelled hs.unlabelled]
  dsimp only
  rw [wrapTarget, hjson]

theorem wrapDotted_table (g : Grammar) (s : String)
    : g.wrapDotted true s = ".".intercalate ((Identifier.segments s).map g.wrapSegment) := by
  unfold wrapDotted
  split
  . next hstar =>
    rw [hstar]
    exact String.intercalate_singleton.symm
  . obtain ⟨first, rest, hsegments⟩ := Identifier.exists_segments s
    rw [hsegments]
    cases rest with
    | nil => simp [wrapSegments]
    | cons => rfl

theorem wrap_dot (hn : Identifier.Plain n) (hcolumn : Identifier.Single column)
    : g.wrap (n ++ "." ++ column)
      = g.qualifier n ++ "." ++ Identifier.quoted g.dialect.quote column := by
  have hchars : (n ++ "." ++ column).toList = n.toList ++ '.' :: column.toList := by simp
  have hbare : Identifier.Bare (n ++ "." ++ column) := by
    rw [Identifier.bare_iff, hchars]
    exact ⟨hn.arrowless.append_dot hcolumn.arrowless,
      hn.blankless.unlabelled.append_cons hcolumn.blankless.unlabelled rfl ⟨rfl, rfl⟩⟩
  have hstar : n ++ "." ++ column ≠ "*" := by
    intro h
    have hdot : '.' ∈ (n ++ "." ++ column).toList := by simp [hchars]
    rw [h] at hdot
    contradiction
  obtain ⟨first, rest, hsegments⟩ := Identifier.exists_segments n
  rw [wrap, wrapName_of_bare g false hbare, wrapDotted, if_neg hstar,
    Identifier.segments_append_dot, Identifier.segments_of_dotless hcolumn.dotless, qualifier,
    hsegments, wrapSegments_qualified, wrapSegment,
    Identifier.quoteSegment_of_starless _ hcolumn.starless]

theorem blankless_prefixed (hblankless : Identifier.Blankless g.tablePrefix.toList)
    (hn : Identifier.Plain n) : Identifier.Blankless (g.tablePrefix ++ n).toList := by
  rw [String.toList_append]
  exact hblankless.append hn.blankless

theorem prefixed_ne_star (hn : Identifier.Plain n) : g.tablePrefix ++ n ≠ "*" := by
  intro h
  have hchars : g.tablePrefix.toList ++ n.toList = ['*'] := by
    rw [← String.toList_append, h]
    rfl
  rcases List.append_eq_singleton_iff.mp hchars with ⟨_, hstar⟩ | ⟨_, hnil⟩
  . exact hn.starless (by simp [hstar])
  . exact hn.nonempty hnil

theorem wrapTable_of_plain (hblankless : Identifier.Blankless g.tablePrefix.toList)
    (hn : Identifier.Plain n) : g.wrapTable n = g.wrapTarget true (g.tablePrefix ++ n) := by
  rw [wrapTable, wrapName, Identifier.splitAlias?_of_blankless (blankless_prefixed hblankless hn)]

theorem wrapTable_of_arrowless (hblankless : Identifier.Blankless g.tablePrefix.toList)
    (hn : Identifier.Plain n) (harrow : Identifier.Arrowless (g.tablePrefix ++ n).toList)
    : g.wrapTable n
      = ".".intercalate ((Identifier.segments (g.tablePrefix ++ n)).map g.wrapSegment) := by
  have hbare : Identifier.Bare (g.tablePrefix ++ n) :=
    ⟨harrow, (blankless_prefixed hblankless hn).unlabelled⟩
  rw [wrapTable, wrapName_of_bare g true hbare, wrapDotted_table]

theorem prefixed_first_eq_star_iff (hn : Identifier.Plain n) {first : String} {rest : List String}
    (hsegments : Identifier.segments n = first :: rest)
    : g.tablePrefix ++ first = "*" ↔ g.tablePrefix = "*" ∧ ['.'] <+: n.toList := by
  rw [← Identifier.first_segment_eq_empty_iff hn.nonempty hsegments]
  constructor
  . intro h
    have hchars : g.tablePrefix.toList ++ first.toList = ['*'] := by
      rw [← String.toList_append, h]
      rfl
    rcases List.append_eq_singleton_iff.mp hchars with ⟨_, hstar⟩ | ⟨hstar, hnil⟩
    . have hmem : '*' ∈ first.toList := by simp [hstar]
      have hfirst : first ∈ Identifier.segments n := by simp [hsegments]
      exact absurd (Identifier.segments_subset hfirst hmem) hn.starless
    . exact ⟨String.toList_inj.mp hstar, String.toList_inj.mp hnil⟩
  . rintro ⟨hstar, rfl⟩
    rw [hstar]
    rfl

theorem wrapTable_eq_qualifier (hblankless : Identifier.Blankless g.tablePrefix.toList)
    (hn : Identifier.Plain n) (h : g.Joins n) : g.wrapTable n = g.qualifier n := by
  obtain ⟨first, rest, hsegments⟩ := Identifier.exists_segments n
  have hfirst := (prefixed_first_eq_star_iff hn hsegments).not.mpr h.starless
  rw [wrapTable_of_arrowless hblankless hn h.arrowless, qualifier, hsegments,
    Identifier.segments_append h.dotless hsegments, List.map_cons]
  dsimp only
  rw [wrapSegment, Identifier.quoteSegment, if_neg hfirst]

/-! ### Where they differ -/

theorem eq_of_intersperse_eq {α : Type} {separator : α} {l l' : List α}
    (h : l.intersperse separator = l'.intersperse separator) : l = l' := by
  apply List.ext_getElem?
  intro i
  rw [← List.getElem?_intersperse_two_mul, h, List.getElem?_intersperse_two_mul]

theorem mem_of_mem_intersperse {α : Type} {separator a : α} {l : List α}
    (h : a ∈ l.intersperse separator) : a = separator ∨ a ∈ l := by
  fun_induction List.intersperse separator l with
  | case1 => cases h
  | case2 b => exact .inr h
  | case3 b c l ih => grind

theorem isSelector_segmentLexeme (segment : String)
    : (segmentLexeme segment).isSelector = false := by
  unfold segmentLexeme
  split <;> rfl

def qualifierLexemes (g : Grammar) (first : String) (rest : List String) : List Lexeme :=
  (.identifier (g.tablePrefix ++ first) :: rest.map segmentLexeme).intersperse .dot

theorem lex_qualifier {first : String} {rest : List String}
    (hsegments : Identifier.segments n = first :: rest)
    : lex g.dialect (g.qualifier n).toList = some (g.qualifierLexemes first rest) := by
  have hfirst : (Lexeme.identifier (g.tablePrefix ++ first)).Allowed g.dialect := trivial
  rw [qualifier, hsegments]
  exact (spelled_intercalate hfirst rest).lex_eq

theorem isSelector_of_mem_intersperse {first lexeme : Lexeme} {rest : List String}
    (hfirst : first.isSelector = false)
    (h : lexeme ∈ (first :: rest.map segmentLexeme).intersperse .dot)
    : lexeme.isSelector = false := by
  rcases mem_of_mem_intersperse h with rfl | hmem
  . rfl
  . cases List.mem_cons.mp hmem with
    | inl h => rwa [h]
    | inr h =>
      obtain ⟨segment, -, rfl⟩ := List.mem_map.mp h
      exact isSelector_segmentLexeme segment

theorem selector_not_mem_qualifierLexemes (word first : String) (rest : List String)
    : .selector word ∉ g.qualifierLexemes first rest := by
  intro h
  cases isSelector_of_mem_intersperse rfl h

theorem exists_selector_mem (column : List Lexeme) (path : List String) (d : Dialect)
    : ∃ word, .selector word ∈ selectorLexemes column path d := by
  cases d with
  | mysql | sqlite => exact ⟨_, List.mem_cons_self⟩
  | postgres =>
    obtain ⟨word, more, hpath⟩ := arrowLexemes_eq_cons path
    refine ⟨word, List.mem_append_right _ ?_⟩
    rw [hpath]
    exact List.mem_cons_self

theorem spelled_wrapTable_of_arrowless (hblankless : Identifier.Blankless g.tablePrefix.toList)
    (hn : Identifier.Plain n) (harrow : Identifier.Arrowless (g.tablePrefix ++ n).toList)
    : Spelled g.dialect (g.wrapTable n)
        (((Identifier.segments (g.tablePrefix ++ n)).map segmentLexeme).intersperse .dot) := by
  obtain ⟨first, rest, hsegments⟩ := Identifier.exists_segments (g.tablePrefix ++ n)
  rw [wrapTable_of_arrowless hblankless hn harrow, hsegments, List.map_cons, wrapSegment_eq_spell]
  exact spelled_intercalate (allowed_segmentLexeme g.dialect first) rest

theorem exists_spelled_of_not_arrowless (hblankless : Identifier.Blankless g.tablePrefix.toList)
    (hn : Identifier.Plain n) (harrow : ¬Identifier.Arrowless (g.tablePrefix ++ n).toList)
    : ∃ lexemes word, Spelled g.dialect (g.wrapTable n) lexemes ∧ .selector word ∈ lexemes := by
  rw [← Identifier.splitJson?_eq_none_iff] at harrow
  obtain ⟨⟨column, path⟩, hsplit⟩ := Option.ne_none_iff_exists'.mp harrow
  have halias := Identifier.splitAlias?_of_blankless (blankless_prefixed hblankless hn)
  obtain ⟨lexemes, _, hcolumn⟩ := exists_written_dotted g false
    (Identifier.splitAlias?_column halias hsplit) (Identifier.splitJson?_column hsplit)
  have htarget : g.wrapTable n = jsonSelector g.dialect (g.wrapDotted false column) path := by
    rw [wrapTable_of_plain hblankless hn, wrapTarget, hsplit]
  obtain ⟨word, hword⟩ := exists_selector_mem lexemes path g.dialect
  rw [htarget]
  exact ⟨_, word, spelled_jsonSelector path hcolumn, hword⟩

/-- The prefix must not make a path of the name. -/
theorem arrowless_of_wrapTable_eq (hblankless : Identifier.Blankless g.tablePrefix.toList)
    (hn : Identifier.Plain n) (h : g.wrapTable n = g.qualifier n)
    : Identifier.Arrowless (g.tablePrefix ++ n).toList := by
  by_contra harrow
  obtain ⟨lexemes, word, hspelled, hword⟩ := exists_spelled_of_not_arrowless hblankless hn harrow
  obtain ⟨first, rest, hsegments⟩ := Identifier.exists_segments n
  have hlex := hspelled.lex_eq
  rw [h, lex_qualifier hsegments] at hlex
  rw [← Option.some.inj hlex] at hword
  exact absurd hword (selector_not_mem_qualifierLexemes word first rest)

theorem joins_of_wrapTable_eq (hblankless : Identifier.Blankless g.tablePrefix.toList)
    (hn : Identifier.Plain n) (h : g.wrapTable n = g.qualifier n) : g.Joins n := by
  have harrow := arrowless_of_wrapTable_eq hblankless hn h
  obtain ⟨first, rest, hsegments⟩ := Identifier.exists_segments n
  have hlex := (spelled_wrapTable_of_arrowless hblankless hn harrow).lex_eq
  rw [h, lex_qualifier hsegments] at hlex
  have hlexemes := eq_of_intersperse_eq (Option.some.inj hlex)
  have hdotless : '.' ∉ g.tablePrefix.toList := by
    -- Each dot of the prefix makes one more segment.
    have hlength := congrArg List.length hlexemes
    rw [List.length_cons, List.length_map, List.length_map, Identifier.length_segments,
      String.toList_append, List.count_append] at hlength
    have hcount := Identifier.length_segments n
    rw [hsegments, List.length_cons] at hcount
    rw [← List.count_eq_zero]
    omega
  refine ⟨hdotless, harrow, ?_⟩
  rw [← prefixed_first_eq_star_iff hn hsegments]
  intro hstar
  rw [Identifier.segments_append hdotless hsegments, List.map_cons, segmentLexeme,
    if_pos hstar] at hlexemes
  cases (List.cons.inj hlexemes).1

theorem wrapTable_eq_qualifier_iff (hblankless : Identifier.Blankless g.tablePrefix.toList)
    (hn : Identifier.Plain n) : g.wrapTable n = g.qualifier n ↔ g.Joins n :=
  ⟨joins_of_wrapTable_eq hblankless hn, wrapTable_eq_qualifier hblankless hn⟩

end Grammar

/-! ### Aliases -/

namespace Identifier

theorem plain_iff {s : String}
    : Plain s ↔ s.toList ≠ [] ∧ Blankless s.toList ∧ '*' ∉ s.toList ∧
        Arrowless s.toList :=
  ⟨fun h => ⟨h.nonempty, h.blankless, h.starless, h.arrowless⟩,
    fun ⟨h₁, h₂, h₃, h₄⟩ => ⟨h₁, h₂, h₃, h₄⟩⟩

instance (s : String) : Decidable (Plain s) := decidable_of_iff _ plain_iff.symm

theorem single_iff {s : String} : Single s ↔ Plain s ∧ '.' ∉ s.toList :=
  ⟨fun h => ⟨h.toPlain, h.dotless⟩, fun ⟨h₁, h₂⟩ => ⟨h₁, h₂⟩⟩

instance (s : String) : Decidable (Single s) := decidable_of_iff _ single_iff.symm

theorem single_id : Single "id" := by decide

theorem single_rowIdentity (d : Dialect) : Single d.rowIdentity := by
  cases d <;> decide

theorem splitAlias?_as {s label : String} (hs : Blankless s.toList)
    (hne : s.toList ≠ []) (hlabel : Single label)
    : splitAlias? (s ++ " as " ++ label) = some (s, label) := by
  have hchars : (s ++ " as " ++ label).toList
      = s.toList ++ ' ' :: 'a' :: 's' :: ' ' :: label.toList := by simp
  have has : splitAs? (' ' :: 'a' :: 's' :: ' ' :: label.toList) = some ([], label.toList) := rfl
  rw [splitAlias?, hchars, splitAs?_append_of_blankless hs, has]
  simp [trim_of_blankless hs, trim_of_blankless hlabel.blankless, hne, hlabel.nonempty]

end Identifier

namespace Builder

variable {b : Builder} {n label : String}

theorem keyOfSource_of_plain (hn : Identifier.Plain n)
    (hsource : b.query.source = some (.table (.name n))) : b.keyOfSource = n ++ "." ++ "id" := by
  rw [keyOfSource, hsource]
  dsimp only
  rw [Identifier.splitAlias?_of_blankless hn.blankless, String.append_assoc]
  rfl

theorem keyOfSource_of_aliased (hn : Identifier.Plain n) (hlabel : Identifier.Single label)
    (hsource : b.query.source = some (.table (.name (n ++ " as " ++ label))))
    : b.keyOfSource = "id" := by
  rw [keyOfSource, hsource]
  dsimp only
  rw [Identifier.splitAlias?_as hn.blankless hn.nonempty hlabel]
  rfl

theorem rowIdentities_of_plain (hn : Identifier.Plain n)
    (hsource : b.query.source = some (.table (.name n)))
    : ∃ rows, b.rowIdentities = .ok rows ∧
        rows.selections = [.column (.name (n ++ "." ++ b.grammar.dialect.rowIdentity))] := by
  rw [rowIdentities, hsource]
  dsimp only
  rw [Identifier.splitAlias?_of_blankless hn.blankless]
  exact ⟨_, rfl, rfl⟩

theorem rowIdentities_of_aliased (hn : Identifier.Plain n) (hlabel : Identifier.Single label)
    (hsource : b.query.source = some (.table (.name (n ++ " as " ++ label))))
    : ∃ rows, b.rowIdentities = .ok rows ∧
        rows.selections = [.column (.name (label ++ "." ++ b.grammar.dialect.rowIdentity))] := by
  rw [rowIdentities, hsource]
  dsimp only
  rw [Identifier.splitAlias?_as hn.blankless hn.nonempty hlabel]
  exact ⟨_, rfl, rfl⟩

end Builder

namespace Grammar

variable {g : Grammar} {n label column : String}

theorem qualifier_of_single (hlabel : Identifier.Single label)
    : g.qualifier label = Identifier.quoted g.dialect.quote (g.tablePrefix ++ label) := by
  rw [qualifier, Identifier.segments_of_dotless hlabel.dotless]
  simp

theorem wrapTable_as (hblankless : Identifier.Blankless g.tablePrefix.toList)
    (hn : Identifier.Plain n) (hlabel : Identifier.Single label)
    : g.wrapTable (n ++ " as " ++ label)
      = g.wrapTable n ++ " AS " ++ Identifier.quoted g.dialect.quote (g.tablePrefix ++ label) := by
  have hne : (g.tablePrefix ++ n).toList ≠ [] := by simp [hn.nonempty]
  have hsplit := Identifier.splitAlias?_as (blankless_prefixed hblankless hn) hne hlabel
  have hassoc : g.tablePrefix ++ n ++ " as " ++ label = g.tablePrefix ++ (n ++ " as " ++ label) := by
    simp only [String.append_assoc]
  rw [hassoc] at hsplit
  rw [wrapTable, wrapName, hsplit, wrapTable_of_plain hblankless hn]
  dsimp only
  rw [if_pos rfl, wrapSegment, Identifier.quoteSegment, if_neg (prefixed_ne_star hlabel.toPlain)]

end Grammar

theorem Config.validate_eq_ok_iff {c : Config}
    : c.validate = .ok () ↔
      c.stringLength ≠ 0 ∧ Identifier.Blankless c.tablePrefix.toList := by
  unfold validate
  rw [String.any, String.contains_bool_eq]
  split
  . next hlength => simp [hlength]
  . next hlength => simp [hlength, Identifier.Blankless]

namespace Grammar

open Identifier in
/--
How columns and tables come together, in the dialect and with the prefix of any configuration that
is accepted. A column names a table, or the alias of a subquery, as it is written if and only if the
prefix joins the name; an alias behind a table it names in any case.
-/
theorem references_agree_iff {c : Config} (hc : c.validate = .ok ()) {n label column : String}
    (hn : Plain n) (hlabel : Single label) (hcolumn : Single column)
    : let g := c.grammar
      let quote := quoted g.dialect.quote
      let aliased := quote (g.tablePrefix ++ label)
      (g.column (.name (n ++ "." ++ column)) = g.table (.name n) ++ "." ++ quote column ↔
          g.Joins n) ∧
        (g.table (.name (n ++ " as " ++ label)) = g.table (.name n) ++ " AS " ++ aliased ∧
          g.column (.name (label ++ "." ++ column)) = aliased ++ "." ++ quote column) ∧
        (∀ (b : Builder) (sql : Sql), b.grammar = g →
          b.aliasTable sql label = "(" ++ sql ++ ") AS " ++ g.wrapTable label) ∧
        (g.column (.name (label ++ "." ++ column)) = g.wrapTable label ++ "." ++ quote column ↔
          g.Joins label) ∧
        ∀ b : Builder, b.grammar = g →
          (b.query.source = some (.table (.name n)) →
            (g.column (.name b.keyOfSource) = g.table (.name n) ++ "." ++ quote "id" ↔
                g.Joins n) ∧
              ∃ rows identity, b.rowIdentities = .ok rows ∧
                rows.selections = [.column identity] ∧
                (g.column identity
                    = g.table (.name n) ++ "." ++ quote g.dialect.rowIdentity ↔ g.Joins n)) ∧
          (b.query.source = some (.table (.name (n ++ " as " ++ label))) →
            b.keyOfSource = "id" ∧
              ∃ rows identity, b.rowIdentities = .ok rows ∧
                rows.selections = [.column identity] ∧
                g.column identity = aliased ++ "." ++ quote g.dialect.rowIdentity) := by
  have hblankless := (Config.validate_eq_ok_iff.mp hc).2
  have hagree {n column : String} (hn : Plain n) (hcolumn : Single column) :
      c.grammar.column (.name (n ++ "." ++ column))
          = c.grammar.wrapTable n ++ "." ++ quoted c.grammar.dialect.quote column ↔
        c.grammar.Joins n := by
    rw [← wrapTable_eq_qualifier_iff hblankless hn]
    change c.grammar.wrap (n ++ "." ++ column) = _ ↔ _
    rw [wrap_dot hn hcolumn, String.append_left_inj, String.append_left_inj]
    exact eq_comm
  have haliased {column : String} (hcolumn : Single column) :
      c.grammar.column (.name (label ++ "." ++ column))
        = quoted c.grammar.dialect.quote (c.grammar.tablePrefix ++ label) ++ "."
            ++ quoted c.grammar.dialect.quote column := by
    rw [← qualifier_of_single hlabel]
    exact wrap_dot hlabel.toPlain hcolumn
  refine ⟨hagree hn hcolumn, ⟨wrapTable_as hblankless hn hlabel, haliased hcolumn⟩, ?_,
    hagree hlabel.toPlain hcolumn, ?_⟩
  . rintro b sql hb
    rw [Builder.aliasTable, hb]
  . rintro b hb
    refine ⟨?_, ?_⟩
    . intro hsource
      obtain ⟨rows, hrows, hselections⟩ := Builder.rowIdentities_of_plain hn hsource
      rw [hb] at hselections
      rw [Builder.keyOfSource_of_plain hn hsource]
      exact ⟨hagree hn single_id, rows, _, hrows, hselections,
        hagree hn (single_rowIdentity c.grammar.dialect)⟩
    . intro hsource
      obtain ⟨rows, hrows, hselections⟩ := Builder.rowIdentities_of_aliased hn hlabel hsource
      rw [hb] at hselections
      exact ⟨Builder.keyOfSource_of_aliased hn hlabel hsource, rows, _, hrows, hselections,
        haliased (single_rowIdentity c.grammar.dialect)⟩

/-- A name of two segments, whose first takes the prefix. -/
theorem prefixed_references_agree
    : let c : Config := { dialect := .postgres, tablePrefix := "app_" }
      let quote := Identifier.quoted c.grammar.dialect.quote
      c.validate = .ok () ∧ Identifier.Plain "blog.posts" ∧ Identifier.Single "p" ∧
        Identifier.Single "title" ∧ c.grammar.Joins "blog.posts" ∧
        c.grammar.column (.name ("blog.posts" ++ "." ++ "title"))
          = c.grammar.table (.name "blog.posts") ++ "." ++ quote "title" ∧
        c.grammar.column (.name (Builder.ofTable c.grammar (.name "blog.posts")).keyOfSource)
          = c.grammar.table (.name "blog.posts") ++ "." ++ quote "id" := by
  intro c quote
  have hvalid : c.validate = .ok () := Config.validate_eq_ok_iff.mpr ⟨by decide, by decide⟩
  have hn : Identifier.Plain "blog.posts" := by decide
  have hlabel : Identifier.Single "p" := by decide
  have hcolumn : Identifier.Single "title" := by decide
  have hjoins : c.grammar.Joins "blog.posts" := ⟨by decide, by decide, by decide⟩
  obtain ⟨hqualified, -, -, -, hbuilders⟩ := references_agree_iff hvalid hn hlabel hcolumn
  have hkey := (hbuilders (.ofTable c.grammar (.name "blog.posts")) rfl).1 rfl
  exact ⟨hvalid, hn, hlabel, hcolumn, hjoins, hqualified.mpr hjoins, hkey.1.mpr hjoins⟩

/-- The prefix names a database, so the table is in it and the column is in a table of that name. -/
theorem dotted_prefix_references_differ
    : ∃ (c : Config) (n label column : String),
        c.validate = .ok () ∧ Identifier.Plain n ∧ Identifier.Single label ∧
          Identifier.Single column ∧
          c.grammar.column (.name (n ++ "." ++ column))
            ≠ c.grammar.table (.name n) ++ "." ++ Identifier.quoted c.grammar.dialect.quote column :=
  ⟨{ dialect := .mysql, tablePrefix := "db." }, "users", "u", "id",
    Config.validate_eq_ok_iff.mpr ⟨by decide, by decide⟩, by decide, by decide, by decide,
    by decide +kernel⟩

end Grammar

end SqlForge
