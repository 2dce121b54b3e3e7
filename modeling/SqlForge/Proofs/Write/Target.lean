import SqlForge.Proofs.Alignment.Write
import SqlForge.Proofs.Fragment.Part
import SqlForge.Proofs.Name.Reference

/-!
Which name a joined DELETE gives to its rows. It is looked for in the written table: what stands
behind the first ` AS `, and else all of it.
-/

namespace SqlForge

/-! ### The first place of a word -/

namespace Text

variable {word cs : List Char}

theorem dropWord?_eq_none_iff : dropWord? word cs = none ↔ ¬word <+: cs := by
  rw [Option.eq_none_iff_forall_ne_some]
  constructor
  . rintro h ⟨rest, hrest⟩
    exact h rest (dropWord?_eq_some.mpr hrest.symm)
  . intro h rest hrest
    exact h ⟨rest, (dropWord?_eq_some.mp hrest).symm⟩

theorem afterFirst?_eq_none_iff : afterFirst? word cs = none ↔ ¬word <:+: cs := by
  induction cs with
  | nil => rw [afterFirst?, dropWord?_eq_none_iff, List.prefix_nil, List.infix_nil]
  | cons c cs ih =>
    rw [afterFirst?, Option.or_eq_none_iff, dropWord?_eq_none_iff, ih, List.infix_cons_iff, not_or]

theorem exists_of_afterFirst? {rest : List Char} (h : afterFirst? word cs = some rest)
    : ∃ before, cs = before ++ word ++ rest := by
  induction cs with
  | nil => exact ⟨[], dropWord?_eq_some.mp h⟩
  | cons c cs ih =>
    rw [afterFirst?, Option.or_eq_some_iff] at h
    rcases h with h | ⟨-, h⟩
    . exact ⟨[], dropWord?_eq_some.mp h⟩
    . obtain ⟨before, rfl⟩ := ih h
      exact ⟨c :: before, rfl⟩

/-- A place counts unless the word stands further to the left, if only with its last letter here. -/
theorem afterFirst?_append_iff (hword : word ≠ []) (front label : List Char)
    : afterFirst? word (front ++ word ++ label) = some label ↔
      ¬word <:+: front ++ word.dropLast := by
  induction front with
  | nil =>
    apply iff_of_true
    . obtain ⟨w, ws, rfl⟩ := List.exists_cons_of_ne_nil hword
      have hdrop : dropWord? (w :: ws) (w :: ws ++ label) = some label := dropWord?_eq_some.mpr rfl
      rw [List.nil_append, List.cons_append, afterFirst?, ← List.cons_append, hdrop]
      rfl
    . intro h
      have hpos := List.length_pos_iff.mpr hword
      have hlength := h.length_le
      rw [List.nil_append, List.length_dropLast] at hlength
      omega
  | cons c front ih =>
    have hpos := List.length_pos_iff.mpr hword
    rw [List.cons_append, List.cons_append, afterFirst?, List.cons_append, List.infix_cons_iff,
      not_or, ← ih]
    have hwhole : c :: (front ++ word.dropLast) <+: c :: (front ++ word ++ label) := by
      rw [List.prefix_cons_inj, List.append_assoc, List.prefix_append_right_inj]
      exact (List.dropLast_prefix word).trans (List.prefix_append word label)
    have hstart : word <+: c :: (front ++ word.dropLast) ↔
        word <+: c :: (front ++ word ++ label) := by
      constructor
      . intro h
        exact h.trans hwhole
      . intro h
        apply List.prefix_of_prefix_length_le h hwhole
        rw [List.length_cons, List.length_append, List.length_dropLast]
        omega
    rw [hstart]
    cases hdrop : dropWord? word (c :: (front ++ word ++ label)) with
    | none =>
      rw [Option.none_or, and_iff_right (dropWord?_eq_none_iff.mp hdrop)]
    | some rest =>
      have hrest := dropWord?_eq_some.mp hdrop
      have hlength := congrArg List.length hrest
      simp only [List.length_cons, List.length_append] at hlength
      apply iff_of_false
      . intro h
        cases h
        omega
      . exact fun h => h.1 ⟨rest, hrest.symm⟩

end Text

/-! ### Texts without a label -/

/-- No label stands in the text. -/
def Asless (cs : List Char) : Prop :=
  ¬" AS ".toList <:+: cs

instance (cs : List Char) : Decidable (Asless cs) :=
  decidable_of_iff _ Text.afterFirst?_eq_none_iff

/-- No label stands in the text, or over its end, whatever follows. -/
def Sealed (cs : List Char) : Prop :=
  ∀ more, Asless more → Asless (cs ++ more)

theorem exposedName_eq_self_iff {table : String}
    : exposedName table = table ↔ Asless table.toList := by
  rw [Asless, ← Text.afterFirst?_eq_none_iff, exposedName]
  split
  . next label hlabel =>
    obtain ⟨before, htable⟩ := Text.exists_of_afterFirst? hlabel
    rw [hlabel]
    apply iff_of_false
    . intro h
      rw [← h, String.toList_ofList] at htable
      have hlength := congrArg List.length htable
      have hpos : 0 < " AS ".toList.length := by decide
      simp only [List.length_append] at hlength
      omega
    . nofun
  . next hnone => exact iff_of_true rfl hnone

theorem exposedName_append_iff (front label : String)
    : exposedName (front ++ " AS " ++ label) = label ↔ Asless (front ++ " AS").toList := by
  have hchars : (front ++ " AS " ++ label).toList
      = front.toList ++ " AS ".toList ++ label.toList := by simp
  have hlast : (front ++ " AS").toList = front.toList ++ " AS ".toList.dropLast := by simp
  rw [exposedName, hchars, Asless, hlast,
    ← Text.afterFirst?_append_iff (by decide) front.toList label.toList]
  split
  . next found hfound =>
    rw [hfound, Option.some.injEq]
    constructor
    . rintro rfl
      rw [String.toList_ofList]
    . rintro rfl
      rw [String.ofList_toList]
  . next hnone =>
    rw [Text.afterFirst?_eq_none_iff] at hnone
    exact absurd (List.infix_append _ _ _) hnone

/-! ### What is written for a name -/

section

variable {cs ds : List Char} {c quote : Char}

theorem Asless.append_cons (hcs : Asless cs) (hds : Asless ds) (hc : c ∉ " AS ".toList)
    : Asless (cs ++ c :: ds) := by
  intro h
  cases Identifier.infix_of_append_cons hc h with
  | inl h => exact hcs h
  | inr h => exact hds h

theorem Asless.cons (hds : Asless ds) (hc : c ∉ " AS ".toList) : Asless (c :: ds) := by
  have hnil : Asless [] := by decide
  exact hnil.append_cons hds hc

theorem Asless.of_unlabelled (h : Identifier.Unlabelled cs) : Asless cs :=
  h ' ' 'A' 'S' ' ' rfl rfl rfl rfl

theorem prefix_of_double {word : List Char} (hword : quote ∉ word)
    (h : word <+: Identifier.double quote cs) : word <+: cs := by
  induction cs generalizing word with
  | nil => exact h
  | cons c cs ih =>
    cases word with
    | nil => exact List.nil_prefix
    | cons w word =>
      rw [List.mem_cons, not_or] at hword
      rw [Identifier.double] at h
      split at h
      . exact absurd (List.cons_prefix_cons.mp h).1.symm hword.1
      . obtain ⟨rfl, htail⟩ := List.cons_prefix_cons.mp h
        exact List.cons_prefix_cons.mpr ⟨rfl, ih hword.2 htail⟩

theorem infix_of_cons {word : List Char} (hc : c ∉ word) (h : word <:+: c :: ds)
    : word <:+: ds := by
  have h : word <:+: [] ++ c :: ds := h
  cases Identifier.infix_of_append_cons hc h with
  | inl h =>
    rw [List.infix_nil.mp h]
    exact List.nil_infix
  | inr h => exact h

theorem infix_of_double {word : List Char} (hword : quote ∉ word)
    (h : word <:+: Identifier.double quote cs) : word <:+: cs := by
  induction cs with
  | nil => exact h
  | cons c cs ih =>
    by_cases hc : c = quote
    . rw [Identifier.double, if_pos hc] at h
      exact List.infix_cons (ih (infix_of_cons hword (infix_of_cons hword h)))
    . have hdouble : Identifier.double quote (c :: cs) = c :: Identifier.double quote cs := by
        rw [Identifier.double, if_neg hc]
      rw [hdouble] at h
      rw [List.infix_cons_iff]
      cases List.infix_cons_iff.mp h with
      | inl h =>
        rw [← hdouble] at h
        exact .inl (prefix_of_double hword h)
      | inr h => exact .inr (ih h)

theorem Sealed.asless (h : Sealed cs) : Asless cs := by
  have hnil : Asless [] := by decide
  have hcs := h [] hnil
  rwa [List.append_nil] at hcs

theorem Sealed.append_dot (hcs : Sealed cs) (hds : Sealed ds) : Sealed (cs ++ '.' :: ds) := by
  intro more hmore
  rw [List.append_assoc, List.cons_append]
  exact hcs _ ((hds more hmore).cons (by decide))

theorem sealed_quoted (hquote : quote ∉ " AS ".toList) {s : String} (hs : Asless s.toList)
    : Sealed (Identifier.quoted quote s).toList := by
  intro more hmore
  have hdouble : Asless (Identifier.double quote s.toList) := fun h => hs (infix_of_double hquote h)
  have hrest := (hdouble.append_cons hmore hquote).cons hquote
  simpa [Identifier.quoted] using hrest

theorem sealed_wrapSegment {g : Grammar} {segment : String} (h : Asless segment.toList)
    : Sealed (g.wrapSegment segment).toList := by
  unfold Grammar.wrapSegment Identifier.quoteSegment
  split
  . intro more hmore
    exact hmore.cons (by decide)
  . apply sealed_quoted _ h
    cases g.dialect <;> decide

theorem sealed_intercalate {first : String} {rest : List String}
    (h : ∀ part ∈ first :: rest, Sealed part.toList)
    : Sealed (".".intercalate (first :: rest)).toList := by
  induction rest generalizing first with
  | nil =>
    rw [String.intercalate_singleton]
    exact h first List.mem_cons_self
  | cons next rest ih =>
    obtain ⟨hfirst, hrest⟩ := List.forall_mem_cons.mp h
    have hall := hfirst.append_dot (ih hrest)
    rw [String.intercalate_cons_cons]
    simpa using hall

theorem sealed_wrapDotted (g : Grammar) {s : String} (h : Asless s.toList)
    : Sealed (g.wrapDotted true s).toList := by
  obtain ⟨first, rest, hsegments⟩ := Identifier.exists_segments s
  rw [Grammar.wrapDotted_table, hsegments, List.map_cons]
  apply sealed_intercalate
  intro part hpart
  rw [← List.map_cons, ← hsegments] at hpart
  obtain ⟨segment, hsegment, rfl⟩ := List.mem_map.mp hpart
  apply sealed_wrapSegment
  exact fun hfound => h (hfound.trans (Identifier.infix_of_mem_segments hsegment))

end

/-! ### The name of a source -/

section

variable {g : Grammar} {n target label : String}

theorem exposedName_aliased (harrow : Identifier.Arrowless (g.tablePrefix ++ n).toList)
    (h : Identifier.splitAlias? (g.tablePrefix ++ n) = some (target, label))
    : exposedName (g.wrapTable n) = g.wrapSegment (g.tablePrefix ++ label) := by
  obtain ⟨hpiece, hsplit⟩ := Identifier.splitAlias?_piece h
  have hasless := Asless.of_unlabelled (Identifier.splitAs?_eq_none_iff.mp hsplit)
  have htarget : g.wrapTarget true target = g.wrapDotted true target := by
    rw [Grammar.wrapTarget,
      Identifier.splitJson?_eq_none_iff.mpr fun hfound => harrow (hfound.trans hpiece)]
  have hfront : Asless (g.wrapDotted true target ++ " AS").toList := by
    rw [String.toList_append]
    exact sealed_wrapDotted g hasless _ (by decide)
  rw [Grammar.wrapTable, Grammar.wrapName, h]
  dsimp only
  rw [if_pos rfl, htarget]
  exact (exposedName_append_iff _ _).mpr hfront

theorem exposedName_bare (h : Identifier.Bare (g.tablePrefix ++ n))
    : exposedName (g.wrapTable n) = g.wrapTable n := by
  rw [exposedName_eq_self_iff, Grammar.wrapTable, Grammar.wrapName_of_bare g true h]
  exact (sealed_wrapDotted g (.of_unlabelled h.unlabelled)).asless

theorem exposedName_enclosed_iff (sql label : String)
    : exposedName ("(" ++ sql ++ ") AS " ++ label) = label ↔ Asless sql.toList := by
  have htext : "(" ++ sql ++ ") AS " ++ label = "(" ++ sql ++ ")" ++ " AS " ++ label := by
    simp [String.append_assoc]
  have hfront : ("(" ++ sql ++ ")" ++ " AS").toList = '(' :: (sql.toList ++ ')' :: " AS".toList) := by
    simp
  rw [htext, exposedName_append_iff, hfront]
  constructor
  . intro h hfound
    exact h (List.infix_cons (List.infix_append_of_infix_left hfound))
  . intro h
    have hlast : Asless " AS".toList := by decide
    exact (h.append_cons hlast (by decide)).cons (by decide)

end

namespace Builder

variable {b : Builder} {s : Statement}

theorem exists_text_delete (hdialect : b.grammar.dialect = .mysql) (hjoined : b.query.joins ≠ [])
    (h : b.delete = .ok s)
    : ∃ table joins wheres, b.target .delete = .ok table ∧
        renderJoins b.grammar b.query.joins = .ok joins ∧
        b.query.renderWheres b.grammar = .ok wheres ∧
        s = ⟨"DELETE " ++ exposedName table.text ++ " FROM " ++ table.text ++
          Sql.trailing [joins, wheres], b.deleteValues⟩ := by
  obtain ⟨sql, hsql, hs⟩ := bind_eq_ok.mp h
  obtain ⟨table, htable, hsql⟩ := bind_eq_ok.mp hsql
  simp only [hdialect] at hsql
  obtain ⟨joins, hjoins, hsql⟩ := bind_eq_ok.mp hsql
  obtain ⟨wheres, hwheres, hsql⟩ := bind_eq_ok.mp hsql
  rw [if_neg (by simpa using hjoined)] at hsql
  rw [← pure_eq_ok.mp hs, ← pure_eq_ok.mp hsql, Sql.text_words_cons (by simp)]
  refine ⟨table, joins, wheres, htable, hjoins, hwheres, ?_⟩
  simp

theorem count_joinedRows (hcomplete : b.Complete) (hdialect : b.grammar.dialect = .mysql)
    (hjoined : b.query.joins ≠ []) {table joins wheres : Sql} (htable : b.target .delete = .ok table)
    (hjoins : renderJoins b.grammar b.query.joins = .ok joins)
    (hwheres : b.query.renderWheres b.grammar = .ok wheres)
    : (table.text ++ Sql.trailing [joins, wheres]).toList.count '?' = b.deleteValues.length := by
  have hhead : Sql.Emits ("DELETE FROM " : String) [] := Sql.emits_text (by decide)
  have hemits := emits_joinedRows hcomplete hdialect (by simpa using hjoined) hhead htable hjoins
    hwheres
  have hcount := hemits.count_eq
  have hwords : "DELETE FROM ".toList.count '?' = 0 := by decide
  rw [Sql.text_words_cons (by simp), Sql.text_append, Sql.text_coe, String.append_assoc,
    String.toList_append, List.count_append, hwords, Nat.zero_add] at hcount
  exact hcount

/--
A joined DELETE names its rows by what stands behind the first ` AS ` of the source, if there is one.
This is the label of the source unless another ` AS ` comes before it, as in a subquery that has
labels of its own; then a part of the source is written twice.
-/
theorem delete_names_source (hdialect : b.grammar.dialect = .mysql) (hjoined : b.query.joins ≠ [])
    (h : b.delete = .ok s)
    : ∃ table joins wheres, b.target .delete = .ok table ∧
        renderJoins b.grammar b.query.joins = .ok joins ∧
        b.query.renderWheres b.grammar = .ok wheres ∧
        s.sql = "DELETE " ++ exposedName table.text ++ " FROM " ++ table.text ++
          Sql.trailing [joins, wheres] ∧
        (∀ n, b.query.source = some (.table (.name n)) →
          Identifier.Arrowless (b.grammar.tablePrefix ++ n).toList →
          (Identifier.Unlabelled (b.grammar.tablePrefix ++ n).toList →
            exposedName table.text = b.grammar.wrapTable n) ∧
          ∀ target label,
            Identifier.splitAlias? (b.grammar.tablePrefix ++ n) = some (target, label) →
            exposedName table.text = b.grammar.wrapSegment (b.grammar.tablePrefix ++ label)) ∧
        (∀ sql label, b.query.source = some (.fragment (b.aliasTable sql label)) →
          (exposedName table.text = b.grammar.wrapTable label ↔ Asless sql.text.toList)) ∧
        (∀ front label, table.text = front ++ " AS " ++ label →
          (exposedName table.text = label ↔ Asless (front ++ " AS").toList)) ∧
        ∀ g, g.Unmarked → Reachable Call.Fits g b →
          (s.sql.toList.count '?' = s.bindings.length ↔
            Text.Unmarked (exposedName table.text)) := by
  obtain ⟨table, joins, wheres, htable, hjoins, hwheres, rfl⟩ :=
    exists_text_delete hdialect hjoined h
  have htext : ∀ source, b.query.source = some source → table = source.render b.grammar := by
    intro source hsource
    rw [target, hsource] at htable
    exact (Except.ok.inj htable).symm
  refine ⟨table, joins, wheres, htable, hjoins, hwheres, rfl, ?_, ?_, ?_, ?_⟩
  . intro n hsource harrow
    have hname : table.text = b.grammar.wrapTable n := by
      rw [htext _ hsource, Source.render, Grammar.table, Sql.text_coe]
    rw [hname]
    exact ⟨fun hunlabelled => exposedName_bare ⟨harrow, hunlabelled⟩,
      fun _ _ hsplit => exposedName_aliased harrow hsplit⟩
  . intro sql label hsource
    have hname : table.text = "(" ++ sql.text ++ ") AS " ++ b.grammar.wrapTable label := by
      rw [htext _ hsource, Source.render, aliasTable]
      simp
    rw [hname]
    exact exposedName_enclosed_iff sql.text _
  . intro front label hname
    rw [hname]
    exact exposedName_append_iff front label
  . intro g hg hb
    have hcount := count_joinedRows (hb.complete hg) hdialect hjoined htable hjoins hwheres
    have hwords : "DELETE ".toList.count '?' = 0 ∧ " FROM ".toList.count '?' = 0 := by decide
    rw [Text.Unmarked, ← List.count_eq_zero]
    simp only [String.toList_append, List.count_append, hwords] at hcount ⊢
    omega

/-- Rows of a subquery with these columns, joined to another table. -/
def pairedCalls (columns : List Column) : List Call := [
  .sourceQuery (.draft ⟨none, [.select columns, .table (.name "users"),
    .filterEqual .and (.name "a") (.value (.int 1))]⟩) "t",
  .crossJoin (.name "posts")]

def paired (columns : List Column) : Builder :=
  (Call.runAll (pairedCalls columns) (new ⟨.mysql, ""⟩)).builder

theorem reachable_paired : Reachable Call.Fits ⟨.mysql, ""⟩ (paired [.name "id"]) := by
  apply Reachable.runAll .new
  . simp only [pairedCalls, Call.AllFit, Call.Fits, Table.Unmarked, Subquery.Fits, Draft.Fits,
      Column.Unmarked, Operand.Unmarked, List.mem_singleton, forall_eq]
    have hslots : ((Call.select [.name "id"]).run
        (new ⟨.mysql, ""⟩)).builder.query.sourceSlots = [] := rfl
    have hempty : (new ⟨.mysql, ""⟩).query.sourceSlots = [] := rfl
    refine ⟨⟨⟨by decide, by decide, ⟨by decide, hslots⟩, ⟨by decide, trivial⟩, trivial⟩,
      by decide, hempty⟩, by decide, trivial⟩
  . rfl

/-- A subquery whose columns have no labels gives its own to the statement. -/
theorem paired_names_source
    : ∃ s, (paired [.name "id"]).delete = .ok s ∧ (paired [.name "id"]).query.joins ≠ [] ∧
        Grammar.Unmarked ⟨.mysql, ""⟩ ∧ Reachable Call.Fits ⟨.mysql, ""⟩ (paired [.name "id"]) ∧
        ∃ table joins wheres : Sql,
          s.sql = "DELETE " ++ exposedName table.text ++ " FROM " ++ table.text ++
            Sql.trailing [joins, wheres] ∧
          exposedName table.text = Grammar.wrapTable ⟨.mysql, ""⟩ "t" ∧
          Grammar.wrapTable ⟨.mysql, ""⟩ "t" = "\x60t\x60" ∧
          s.sql.toList.count '?' = s.bindings.length := by
  have hg : Grammar.Unmarked ⟨.mysql, ""⟩ := by decide
  have hjoined : (paired [.name "id"]).query.joins ≠ [] := List.cons_ne_nil _ _
  have hlabel : Grammar.wrapTable ⟨.mysql, ""⟩ "t" = "\x60t\x60" := by decide
  obtain ⟨s, hs⟩ : ∃ s, (paired [.name "id"]).delete = .ok s := ⟨_, rfl⟩
  obtain ⟨table, joins, wheres, -, -, -, htext, -, hsource, -, hcount⟩ :=
    delete_names_source rfl hjoined hs
  have hname : exposedName table.text = Grammar.wrapTable ⟨.mysql, ""⟩ "t" := by
    apply (hsource _ "t" rfl).mpr
    decide
  refine ⟨s, hs, hjoined, hg, reachable_paired, table, joins, wheres, htext, hname, hlabel, ?_⟩
  apply (hcount _ hg reachable_paired).mpr
  rw [hname, hlabel]
  decide

/-- The label of a column is taken for that of the subquery, and its question mark comes twice. -/
theorem paired_names_column
    : ∃ s, (paired [.name "id as x"]).delete = .ok s ∧
        s.sql = "DELETE \x60x\x60 FROM \x60users\x60 WHERE \x60a\x60 = ?) AS \x60t\x60" ++
          " FROM (SELECT \x60id\x60 AS \x60x\x60 FROM \x60users\x60 WHERE \x60a\x60 = ?) AS \x60t\x60" ++
          " CROSS JOIN \x60posts\x60" ∧
        s.sql.toList.count '?' = 2 ∧ s.bindings.length = 1 := by
  refine ⟨_, rfl, ?_, ?_, rfl⟩
  . decide
  . decide

end Builder

end SqlForge
