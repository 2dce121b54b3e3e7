import SqlForge.Proofs.Name.Reference
import SqlForge.Schema.Catalog
import SqlForge.Schema.Statement

/-!
Whether a table is looked up under the name that it is written with. A statement writes the parts of
a name between quotes of their own; a query of the catalog takes the name as one text.
-/

namespace SqlForge

open Grammar

/-- The schema and the table that a reference is to; an alias behind it is a name for it, no more. -/
def tableOf? (usual : String) : List Lexeme → Option (String × String)
  | [.identifier table] | [.identifier table, .asWord, .identifier _] => some (usual, table)
  | [.identifier schema, .dot, .identifier table]
  | [.identifier schema, .dot, .identifier table, .asWord, .identifier _] => some (schema, table)
  | _ => none

/-- The schema and the table that a query asks about by its values. -/
def Statement.subject? (usual : String) (s : Statement) : Option (String × String) :=
  match s.bindings with
  | [.text schema, .text table] => some (schema, table)
  | [.text table] => some (usual, table)
  | _ => none

namespace Grammar

/-- The table that a written name refers to, in the schema that is searched if it says no other. -/
def denoted? (g : Grammar) (database : Option String) (text : String) : Option (String × String) :=
  (lex g.dialect text.toList).bind (tableOf? (g.schemaName database))

/--
All that is done with a table under this name is done with one and the same: `named` is the table
that is created, changed, read and written, that is found and listed, and whose generated keys start
again when it is emptied.
-/
structure Finds (g : Grammar) (database : Option String) (n : String) (named : String × String) :
    Prop where
  changed (stringLength : Nat) :
    g.denoted? database ((Schema.Blueprint.ofGrammar g stringLength n).tableText g) = some named
  written (b : Builder) (t : Target) (hb : b.grammar = g)
    (hsource : b.query.source = some (.table (.name n))) :
    ∃ sql, b.target t = .ok sql ∧ g.denoted? database sql.text = some named
  found : (g.tableExists database n).subject? (g.schemaName database) = some named
  listed :
    if g.dialect = .sqlite then
      ∃ text, (g.columnListing database n).sql = "pragma table_info(" ++ text ++ ")" ∧
        g.denoted? database text = some named
    else (g.columnListing database n).subject? (g.schemaName database) = some named
  reset (b : Builder) (hdialect : g.dialect = .sqlite) (hb : b.grammar = g)
    (hsource : b.query.source = some (.table (.name n))) :
    ∃ statement rest, b.truncate = .ok (statement :: rest) ∧
      statement.subject? (g.schemaName database) = some named

variable {g : Grammar} {database : Option String} {n label : String}

theorem subject?_tableExists (g : Grammar) (database : Option String) (n : String)
    : (g.tableExists database n).subject? (g.schemaName database)
      = some (g.schemaName database, g.tablePrefix ++ n) := by
  unfold tableExists
  cases g.dialect <;> rfl

theorem subject?_columnListing (hdialect : g.dialect ≠ .sqlite)
    : (g.columnListing database n).subject? (g.schemaName database)
      = some (g.schemaName database, g.tablePrefix ++ n) := by
  unfold columnListing
  split
  . rfl
  . rfl
  . next h => exact absurd h hdialect

theorem sql_columnListing (hdialect : g.dialect = .sqlite)
    : (g.columnListing database n).sql = "pragma table_info(" ++ g.wrapTable n ++ ")" := by
  unfold columnListing
  rw [hdialect]

theorem truncate_of_sqlite {b : Builder} (hdialect : b.grammar.dialect = .sqlite)
    (hsource : b.query.source = some (.table (.name n)))
    : ∃ sql rest, b.truncate = .ok (⟨sql, [.text (b.grammar.tablePrefix ++ n)]⟩ :: rest) := by
  unfold Builder.truncate Builder.target
  rw [hsource, hdialect]
  exact ⟨_, _, rfl⟩

/-- What is looked up is the whole name, in the schema that is searched. -/
theorem finds_iff_denoted {named : String × String}
    : g.Finds database n named ↔
      g.denoted? database (g.wrapTable n) = some named ∧
        named = (g.schemaName database, g.tablePrefix ++ n) := by
  constructor
  . intro h
    have hfound := h.found
    rw [subject?_tableExists] at hfound
    exact ⟨h.changed 0, (Option.some.inj hfound).symm⟩
  . rintro ⟨hdenoted, rfl⟩
    refine ⟨fun _ => hdenoted, ?_, subject?_tableExists g database n, ?_, ?_⟩
    . rintro b t rfl hsource
      refine ⟨(b.grammar.wrapTable n : Sql), ?_, ?_⟩
      . rw [Builder.target, hsource]
        rfl
      . rw [Sql.text_coe]
        exact hdenoted
    . split
      . next hdialect => exact ⟨_, sql_columnListing hdialect, hdenoted⟩
      . next hdialect => exact subject?_columnListing hdialect
    . rintro b hdialect rfl hsource
      obtain ⟨sql, rest, htruncate⟩ := truncate_of_sqlite hdialect hsource
      exact ⟨_, rest, htruncate, rfl⟩

/-! ### What a written name refers to -/

theorem tableOf?_eq_some {usual : String} {lexemes : List Lexeme} {named : String × String}
    (h : tableOf? usual lexemes = some named) : .identifier named.2 ∈ lexemes := by
  unfold tableOf? at h
  split at h
  all_goals cases h
  all_goals simp

theorem tableOf?_of_selector {usual word : String} {lexemes : List Lexeme}
    (h : .selector word ∈ lexemes) : tableOf? usual lexemes = none := by
  rw [Option.eq_none_iff_forall_ne_some]
  intro named hnamed
  unfold tableOf? at hnamed
  split at hnamed
  all_goals cases hnamed
  all_goals simp at h

theorem mem_of_identifier_mem {segments : List String} {t : String}
    (h : .identifier t ∈ (segments.map segmentLexeme).intersperse .dot) : t ∈ segments := by
  rcases mem_of_mem_intersperse h with hdot | hmem
  . cases hdot
  . obtain ⟨segment, hsegment, hlexeme⟩ := List.mem_map.mp hmem
    unfold segmentLexeme at hlexeme
    split at hlexeme
    . cases hlexeme
    . cases hlexeme
      exact hsegment

variable (hblankless : Identifier.Blankless g.tablePrefix.toList) (hn : Identifier.Plain n)

include hblankless hn

/-- The name is looked up as one segment, so it has to be written as one. -/
theorem exists_finds_iff
    : (∃ named, g.Finds database n named) ↔
      '.' ∉ (g.tablePrefix ++ n).toList ∧ Identifier.Arrowless (g.tablePrefix ++ n).toList := by
  simp only [finds_iff_denoted]
  constructor
  . rintro ⟨_, hdenoted, rfl⟩
    obtain ⟨lexemes, hlex, htable⟩ := Option.bind_eq_some_iff.mp hdenoted
    by_cases harrow : Identifier.Arrowless (g.tablePrefix ++ n).toList
    . refine ⟨?_, harrow⟩
      rw [(spelled_wrapTable_of_arrowless hblankless hn harrow).lex_eq] at hlex
      cases hlex
      exact Identifier.dotless_of_mem_segments (mem_of_identifier_mem (tableOf?_eq_some htable))
    . obtain ⟨found, word, hspelled, hword⟩ := exists_spelled_of_not_arrowless hblankless hn harrow
      rw [hspelled.lex_eq] at hlex
      cases hlex
      rw [tableOf?_of_selector hword] at htable
      cases htable
  . rintro ⟨hdotless, harrow⟩
    have hspelled := spelled_wrapTable_of_arrowless hblankless hn harrow
    rw [Identifier.segments_of_dotless hdotless, List.map_singleton, segmentLexeme,
      if_neg (prefixed_ne_star hn)] at hspelled
    refine ⟨_, ?_, rfl⟩
    rw [denoted?, hspelled.lex_eq]
    rfl

theorem lex_wrapTable_as (hlabel : Identifier.Single label) {lexemes : List Lexeme}
    (h : Spelled g.dialect (g.wrapTable n) lexemes)
    : lex g.dialect (g.wrapTable (n ++ " as " ++ label)).toList
      = some (lexemes ++ [.asWord, .identifier (g.tablePrefix ++ label)]) := by
  have has : Lexeme.asWord.Allowed g.dialect := mem_words.mpr (.inr (.inr (.inl rfl)))
  have hname : (Lexeme.identifier (g.tablePrefix ++ label)).Allowed g.dialect := trivial
  have hall := h.append rfl ((Spelled.singleton hname).cons has rfl)
  rw [← String.append_assoc] at hall
  rw [wrapTable_as hblankless hn hlabel]
  exact hall.lex_eq

/-- The alias is looked up as if it were part of the name. -/
theorem not_finds_as (hlabel : Identifier.Single label) (named : String × String)
    : ¬g.Finds database (n ++ " as " ++ label) named := by
  rw [finds_iff_denoted]
  rintro ⟨hdenoted, rfl⟩
  obtain ⟨lexemes, hlex, htable⟩ := Option.bind_eq_some_iff.mp hdenoted
  by_cases harrow : Identifier.Arrowless (g.tablePrefix ++ n).toList
  . -- Whatever is written between quotes, there is no blank in it.
    rw [lex_wrapTable_as hblankless hn hlabel
      (spelled_wrapTable_of_arrowless hblankless hn harrow)] at hlex
    cases hlex
    have hblank : ¬Identifier.Blankless (g.tablePrefix ++ (n ++ " as " ++ label)).toList :=
      fun h => Bool.noConfusion (h ' ' (by simp))
    cases List.mem_append.mp (tableOf?_eq_some htable) with
    | inl hmem =>
      have hsubset := Identifier.segments_subset (mem_of_identifier_mem hmem)
      exact hblank fun c hc => blankless_prefixed hblankless hn c (hsubset hc)
    | inr hmem => simp at hmem
  . obtain ⟨found, word, hspelled, hword⟩ := exists_spelled_of_not_arrowless hblankless hn harrow
    rw [lex_wrapTable_as hblankless hn hlabel hspelled] at hlex
    cases hlex
    rw [tableOf?_of_selector (List.mem_append_left _ hword)] at htable
    cases htable

/--
A table is found, listed and reset under the name that it is created and emptied under if and only if
the name has one segment, prefix and all, and makes no path; behind an alias it never is.
-/
theorem finds_iff (hlabel : Identifier.Single label)
    : ((∃ named, g.Finds database n named) ↔
        '.' ∉ (g.tablePrefix ++ n).toList ∧ Identifier.Arrowless (g.tablePrefix ++ n).toList) ∧
      ∀ named, ¬g.Finds database (n ++ " as " ++ label) named :=
  ⟨exists_finds_iff hblankless hn, not_finds_as hblankless hn hlabel⟩

omit hblankless hn

theorem finds_prefixed
    : Identifier.Blankless "app_".toList ∧ Identifier.Plain "users" ∧ Identifier.Single "u" ∧
        ∃ named, Finds ⟨.sqlite, "app_"⟩ none "users" named := by
  have hblankless : Identifier.Blankless "app_".toList := by decide
  have hn : Identifier.Plain "users" := by decide
  have hlabel : Identifier.Single "u" := by decide
  have hfinds : (∃ named, Finds ⟨.sqlite, "app_"⟩ none "users" named) ↔ _ :=
    (finds_iff hblankless hn hlabel).1
  exact ⟨hblankless, hn, hlabel, hfinds.mpr ⟨by decide, by decide⟩⟩

/-- The name says which schema the table is in; it is looked up in another, dot and all. -/
theorem qualified_not_found
    : let g : Grammar := ⟨.postgres, ""⟩
      Identifier.Plain "blog.posts" ∧
        g.denoted? (some "app") (g.wrapTable "blog.posts") = some ("blog", "posts") ∧
        (g.tableExists (some "app") "blog.posts").subject? (g.schemaName (some "app"))
          = some ("app", "blog.posts") ∧
        ∀ named, ¬g.Finds (some "app") "blog.posts" named := by
  intro g
  have hblankless : Identifier.Blankless g.tablePrefix.toList := nofun
  have hn : Identifier.Plain "blog.posts" := by decide
  have hspelled := spelled_wrapTable_of_arrowless hblankless hn (by decide)
  refine ⟨hn, ?_, rfl, ?_⟩
  . rw [denoted?, hspelled.lex_eq]
    decide +kernel
  . intro named hfinds
    exact absurd ((exists_finds_iff hblankless hn).mp ⟨named, hfinds⟩).1 (by decide)

end Grammar

end SqlForge
