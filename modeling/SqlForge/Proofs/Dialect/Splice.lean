import SqlForge.Proofs.Builder.Bound
import SqlForge.Proofs.Builder.Locality
import SqlForge.Proofs.Name.Lexeme

/-!
In which grammar a subquery is written. In a condition and as a further member it stays a statement
and is written with the statement around it. In place of a column or a table it is text by then,
written when the call was made and in the grammar of its own builder.
-/

namespace SqlForge

open Outcome

/-- Where a subquery goes. -/
inductive Place where
  | selection
  | source
  | join (kind : JoinKind) (first : Column) (operator : String) (second : Column)
  | crossJoin
  | among (c : Connective) (column : Column) (negated : Bool)
  | exists (c : Connective) (negated : Bool)
  | compare (c : Connective) (column : Column) (operator : String)
  | member (all : Bool)

namespace Place

/-- Conditions and members have no label. -/
def call (label : String) (query : Draft) : Place → Call
  | .selection => .selectQuery (.draft query) label
  | .source => .sourceQuery (.draft query) label
  | .join kind first operator second =>
    .joinQuery kind (.draft query) label first operator second
  | .crossJoin => .crossJoinQuery (.draft query) label
  | .among c column negated => .filterAmongRows c column query negated
  | .exists c negated => .filterExists c query negated
  | .compare c column operator => .filterQuery c column operator query
  | .member all => .union all query

/-- Whether the subquery is text once the call is made. -/
def isSpliced : Place → Bool
  | .selection | .source | .join .. | .crossJoin => true
  | .among .. | .exists .. | .compare .. | .member .. => false

/-- What is written around the subquery. -/
def enclose (g : Grammar) (label inner : String) : Place → String
  | .selection => "(" ++ inner ++ ") AS " ++ g.wrap label
  | .source | .join .. | .crossJoin => "(" ++ inner ++ ") AS " ++ g.wrapTable label
  | .among _ column negated => g.column column ++ membership negated ++ inner ++ ")"
  | .exists _ negated => (if negated then "NOT EXISTS (" else "EXISTS (") ++ inner ++ ")"
  | .compare _ column operator => g.column column ++ " " ++ operator ++ " (" ++ inner ++ ")"
  | .member all =>
    (if all then "UNION ALL " else "UNION ") ++ (encloseMember g.dialect inner).text

/-- What came last to the place, as the builder writes it. -/
def written (b : Builder) : Place → Option (Except Failure String)
  | .selection => b.query.selections.getLast?.map fun s => .ok (s.render b.grammar).text
  | .source => b.query.source.map fun s => .ok (s.render b.grammar).text
  | .join .. | .crossJoin =>
    b.query.joins.getLast?.map fun j => .ok (j.source.render b.grammar).text
  | .among .. | .exists .. | .compare .. =>
    b.query.wheres.getLast?.map fun clause => Sql.text <$> clause.condition.render b.grammar
  | .member _ => b.query.unions.getLast?.map fun member =>
    (fun sqls => String.join (sqls.map Sql.text)) <$> renderMembers b.grammar [member]

end Place

/-! ### Writing -/

variable {g : Grammar} {query : Draft} {sub : Builder}

theorem Draft.grammar_build (h : query.build g = .ok sub) : sub.grammar = query.grammar.getD g := by
  obtain ⟨own, calls⟩ := query
  rw [Draft.build] at h
  obtain ⟨-, rfl⟩ := toExcept_eq_ok.mp h
  exact (Call.local_runAll calls).grammar _

theorem Subquery.build_draft (h : query.build g = .ok sub) {found : Sql × List Value}
    : (Subquery.draft query).build g = .ok found ↔
      ∃ sql, sub.query.render (query.grammar.getD g) = .ok sql ∧ (sql, sub.values) = found := by
  rw [Subquery.build, h, ok_bind, Builder.sql, Draft.grammar_build h, bind_eq_ok]
  simp only [pure_eq_ok]

namespace Place

variable {b : Builder} {label : String} {place : Place}

theorem getLast?_wheres_filter (b : Builder) (c : Connective) (bound : Bound)
    : (b.filter c bound).query.wheres.getLast? = some ⟨c, bound.condition⟩ :=
  List.getLast?_concat

theorem getLast?_joins_addJoin (b inner : Builder) (kind : JoinKind) (source : Source)
    : (b.addJoin kind source inner).query.joins.getLast?
        = some ⟨kind, source, inner.query.joins, inner.query.wheres⟩ :=
  List.getLast?_concat

theorem text_aliasTable (b : Builder) (sql : Sql) (label : String)
    : (b.aliasTable sql label).text = "(" ++ sql.text ++ ") AS " ++ b.grammar.wrapTable label := by
  simp only [Builder.aliasTable, Sql.text_append, Sql.text_coe]

/-- The text is there as soon as the call succeeds. -/
theorem written_of_spliced (hplace : place.isSpliced) (hbuild : query.build b.grammar = .ok sub)
    (hok : ((place.call label query).run b).failure = none)
    : ∃ sql, sub.query.render (query.grammar.getD b.grammar) = .ok sql ∧
        place.written ((place.call label query).run b).builder
          = some (.ok (place.enclose b.grammar label sql.text)) := by
  cases place with
  | selection =>
    rw [call, Call.run] at hok ⊢
    rw [failure_attempt_eq_none] at hok
    obtain ⟨found, hfound, hb'⟩ := bind_eq_ok.mp hok
    obtain ⟨sql, hsql, rfl⟩ := (Subquery.build_draft hbuild).mp hfound
    refine ⟨sql, hsql, ?_⟩
    rw [← pure_eq_ok.mp hb', written, Builder.selectQuery, Builder.addSelections,
      List.getLast?_concat]
    simp only [Option.map_some, Selection.render, Builder.aliasColumn, enclose, Sql.text_append,
      Sql.text_coe]
  | source =>
    rw [call, Call.run] at hok ⊢
    rw [failure_attempt_eq_none] at hok
    obtain ⟨found, hfound, hb'⟩ := bind_eq_ok.mp hok
    obtain ⟨sql, hsql, rfl⟩ := (Subquery.build_draft hbuild).mp hfound
    refine ⟨sql, hsql, ?_⟩
    rw [← pure_eq_ok.mp hb', enclose, ← text_aliasTable]
    rfl
  | join kind first operator second =>
    rw [call, Call.run] at hok ⊢
    split at hok
    . cases hok
    . next sql values hfound =>
      rw [failure_attempt_eq_none] at hok
      obtain ⟨sql', hsql, heq⟩ := (Subquery.build_draft hbuild).mp hfound
      obtain ⟨bound, hbound, hb'⟩ := bind_eq_ok.mp hok
      cases heq
      refine ⟨sql, hsql, ?_⟩
      dsimp only
      rw [← pure_eq_ok.mp hb', written, getLast?_joins_addJoin, enclose, ← text_aliasTable]
      rfl
  | crossJoin =>
    rw [call, Call.run] at hok ⊢
    rw [failure_attempt_eq_none] at hok
    obtain ⟨found, hfound, hb'⟩ := bind_eq_ok.mp hok
    obtain ⟨sql, hsql, rfl⟩ := (Subquery.build_draft hbuild).mp hfound
    refine ⟨sql, hsql, ?_⟩
    rw [← pure_eq_ok.mp hb', written, Builder.crossJoin, getLast?_joins_addJoin, enclose,
      ← text_aliasTable]
    rfl
  | _ => cases hplace

theorem written_filter (c : Connective) (bound : Bound)
    : Option.map (fun clause : Clause => Sql.text <$> clause.condition.render b.grammar)
          (b.filter c bound).query.wheres.getLast?
        = some (Sql.text <$> bound.condition.render b.grammar) := by
  rw [getLast?_wheres_filter]
  rfl

theorem written_addUnion (all : Bool) (sub : Builder)
    : (member all).written (b.addUnion all sub)
        = some ((fun sql => (member all).enclose b.grammar label sql.text) <$>
            sub.query.render b.grammar) := by
  have hlast : (b.addUnion all sub).query.unions.getLast? = some ⟨all, sub.query⟩ :=
    List.getLast?_concat
  have hgrammar : (b.addUnion all sub).grammar = b.grammar := rfl
  rw [written, hlast, hgrammar, Option.map_some, renderMembers]
  cases sub.query.render b.grammar with
  | error e => rfl
  | ok sql =>
    have henclosed : (encloseMember b.grammar.dialect sql.text).text
        = (encloseMember b.grammar.dialect sql).text := by
      cases b.grammar.dialect <;> simp [encloseMember]
    rw [ok_bind, renderMembers, ok_bind]
    change some (Except.ok _) = some (Except.ok _)
    simp [enclose, henclosed]

/-- The statement is kept, and it is written with the statement around it. -/
theorem written_of_kept (hplace : ¬place.isSpliced) (hbuild : query.build b.grammar = .ok sub)
    (hok : ((place.call label query).run b).failure = none)
    : place.written ((place.call label query).run b).builder
        = some ((fun sql => place.enclose b.grammar label sql.text) <$>
            sub.query.render b.grammar) := by
  cases place with
  | among c column negated =>
    rw [call, Call.run, hbuild]
    refine (written_filter c (.amongRows column sub negated)).trans ?_
    rw [Bound.amongRows, Condition.render]
    cases sub.query.render b.grammar with
    | error e => rfl
    | ok sql => simp [enclose]
  | «exists» c negated =>
    rw [call, Call.run, hbuild]
    refine (written_filter c (.rowsExist sub negated)).trans ?_
    rw [Bound.rowsExist, Condition.render]
    cases sub.query.render b.grammar with
    | error e => rfl
    | ok sql => simp [enclose]
  | compare c column operator =>
    rw [call, Call.run, failure_attempt_eq_none, hbuild, ok_bind] at hok
    obtain ⟨bound, hbound, hb'⟩ := bind_eq_ok.mp hok
    rw [call, Call.run, hbuild, ok_bind, ← pure_eq_ok.mp hb']
    refine (written_filter c bound).trans ?_
    obtain ⟨-, rfl⟩ := Bound.compareQuery_eq_ok.mp hbound
    rw [Condition.render]
    cases sub.query.render b.grammar with
    | error e => rfl
    | ok sql => simp [enclose]
  | member all =>
    rw [call, Call.run, hbuild]
    exact written_addUnion all sub
  | _ => cases hplace rfl

end Place

/-! ### Telling grammars apart -/

/-- Written differently in each dialect. -/
def paged : Select := { Select.empty with offset := some 0 }

/-- Written with the prefix. -/
def qualified : Select := { Select.empty with selections := [.column (.name "a.b")] }

def pagedText : Dialect → String
  | .mysql => "SELECT * LIMIT 18446744073709551615 OFFSET 0"
  | .postgres => "SELECT * OFFSET 0"
  | .sqlite => "SELECT * LIMIT -1 OFFSET 0"

theorem render_paged (g : Grammar) : Sql.text <$> paged.render g = .ok (pagedText g.dialect) := by
  have hsame : paged.render g = paged.render ⟨g.dialect, ""⟩ := rfl
  have htext : ∀ d, ∃ sql, paged.render ⟨d, ""⟩ = .ok sql ∧ sql.text = pagedText d := by
    intro d
    refine ⟨_, rfl, ?_⟩
    cases d <;> decide
  obtain ⟨sql, hsql, heq⟩ := htext g.dialect
  rw [hsame, hsql, ← heq]
  rfl

theorem wrap_qualified (g : Grammar)
    : g.wrap "a.b" = Identifier.quoted g.dialect.quote (g.tablePrefix ++ "a") ++ "." ++
        Identifier.quoted g.dialect.quote "b" := by
  have halias : Identifier.splitAlias? "a.b" = none := by decide
  have hjson : Identifier.splitJson? "a.b" = none := by decide
  have hsegments : Identifier.segments "a.b" = ["a", "b"] := by decide
  have hstar : "a.b" ≠ "*" := by decide
  have hstar' : "b" ≠ "*" := by decide
  simp [Grammar.wrap, Grammar.wrapName, halias, Grammar.wrapTarget, hjson, Grammar.wrapDotted,
    hstar, hsegments, Grammar.wrapSegments, Grammar.wrapSegment, Identifier.quoteSegment, hstar']

theorem Sql.words_of_blank {part : Sql} {parts : List Sql} (hshown : part.text ≠ "")
    (hblank : ∀ other ∈ parts, other.text = "") : words (part :: parts) = part := by
  have hnone : parts.filter (!·.isEmpty) = [] := by
    rw [List.filter_eq_nil_iff]
    intro other hother
    simp [isEmpty, hblank other hother]
  have hkept : (!part.isEmpty) = true := by simpa [isEmpty] using hshown
  rw [words, List.filter_cons, if_pos hkept, hnone, join]

theorem render_qualified (g : Grammar)
    : Sql.text <$> qualified.render g = .ok ("SELECT " ++ g.wrap "a.b") := by
  let head : Sql := ("SELECT " : String) ++ ((g.wrap "a.b" : String) : Sql)
  have hrender : qualified.render g
      = .ok (Sql.words [Sql.words (head :: List.replicate 8 .empty), .empty]) := rfl
  have htext : head.text = "SELECT " ++ g.wrap "a.b" := by
    rw [Sql.text_append, Sql.text_coe, Sql.text_coe]
  have hshown : head.text ≠ "" := by
    rw [htext]
    intro h
    have := (String.append_eq_empty_iff.mp h).1
    contradiction
  have hsingle : Sql.words (head :: List.replicate 8 .empty) = head := by
    apply Sql.words_of_blank hshown
    intro other hother
    rw [List.eq_of_mem_replicate hother]
    rfl
  have hbody : Sql.words [head, .empty] = head := by
    apply Sql.words_of_blank hshown
    intro other hother
    rw [List.mem_singleton.mp hother]
    rfl
  rw [hrender, hsingle, hbody, ← htext]
  rfl

theorem quoted_injective {quote : Char} {s s' : String}
    (h : Identifier.quoted quote s = Identifier.quoted quote s') : s = s' := by
  have hrest : ([] : List Char).head? ≠ some quote := by simp
  have hread := quoted?_quoted hrest s
  rw [h, quoted?_quoted hrest s', Option.some.injEq, Prod.mk.injEq] at hread
  exact (String.toList_inj.mp hread.1).symm

/-- The two statements tell the dialect and the prefix. -/
theorem grammar_eq_of_probes {g g' : Grammar}
    (hpaged : Sql.text <$> paged.render g = Sql.text <$> paged.render g')
    (hqualified : Sql.text <$> qualified.render g = Sql.text <$> qualified.render g') : g = g' := by
  rw [render_paged, render_paged, Except.ok.injEq] at hpaged
  have hdialect : g.dialect = g'.dialect := by
    cases hd : g.dialect <;> cases hd' : g'.dialect <;> rw [hd, hd'] at hpaged <;>
      first | rfl | simp [pagedText] at hpaged
  rw [render_qualified, render_qualified, Except.ok.injEq, wrap_qualified, wrap_qualified,
    hdialect] at hqualified
  have hname := (String.append_left_inj _).mp ((String.append_left_inj _).mp
    ((String.append_right_inj _).mp hqualified))
  have hprefix := (String.append_left_inj _).mp (quoted_injective hname)
  cases g
  cases g'
  exact (Grammar.mk.injEq ..).mpr ⟨hdialect, hprefix⟩

/-! ### One grammar -/

namespace Place

variable {b : Builder} {label : String}

theorem written_run (place : Place) (hbuild : query.build b.grammar = .ok sub)
    (hok : ((place.call label query).run b).failure = none)
    : place.written ((place.call label query).run b).builder
        = some ((fun sql => place.enclose b.grammar label sql.text) <$> sub.query.render
            (if place.isSpliced then query.grammar.getD b.grammar else b.grammar)) := by
  split
  . next hplace =>
    obtain ⟨sql, hsql, hwritten⟩ := written_of_spliced hplace hbuild hok
    rw [hwritten, hsql]
    rfl
  . next hplace => exact written_of_kept hplace hbuild hok

theorem enclose_selection_injective {g : Grammar} {inner inner' : String}
    (h : selection.enclose g label inner = selection.enclose g label inner') : inner = inner' := by
  have hinner := (String.append_left_inj _).mp ((String.append_left_inj _).mp h)
  exact (String.append_right_inj _).mp hinner

/-- A column that is written alike in both grammars. -/
theorem text_eq_of_written {own : Option Grammar} {calls : List Call} {sql sql' : Sql}
    (hbuild : (Draft.mk own calls).build b.grammar = .ok sub)
    (hsql : sub.query.render (own.getD b.grammar) = .ok sql)
    (h : ((selection.call label ⟨own, calls⟩).run b).failure = none →
      selection.written ((selection.call label ⟨own, calls⟩).run b).builder
        = some (.ok (selection.enclose b.grammar label sql'.text)))
    : sql.text = sql'.text := by
  have hok : ((selection.call label ⟨own, calls⟩).run b).failure = none := by
    rw [call, Call.run, failure_attempt_eq_none, (Subquery.build_draft hbuild).mpr ⟨sql, hsql, rfl⟩]
    rfl
  obtain ⟨found, hfound, hwritten⟩ := written_of_spliced rfl hbuild hok
  rw [hsql] at hfound
  cases hfound
  rw [h hok, Option.some.injEq, Except.ok.injEq] at hwritten
  exact (enclose_selection_injective hwritten).symm

/--
A subquery in place of a column or a table is written in the grammar of its own builder, one in a
condition or among the members in the grammar of the statement around it. So every subquery that
both grammars can write is written as the statement around it would write it just if its builder
shares the grammar.
-/
theorem subqueries_share_grammar_iff (b : Builder) (label : String) (own : Option Grammar)
    : (∀ (place : Place) (calls : List Call) (sub : Builder),
          (Draft.mk own calls).build b.grammar = .ok sub →
          ((place.call label ⟨own, calls⟩).run b).failure = none →
          place.written ((place.call label ⟨own, calls⟩).run b).builder
            = some ((fun sql => place.enclose b.grammar label sql.text) <$> sub.query.render
                (if place.isSpliced then own.getD b.grammar else b.grammar))) ∧
        ((∀ (place : Place) (calls : List Call) (sub : Builder) (sql sql' : Sql),
            (Draft.mk own calls).build b.grammar = .ok sub →
            ((place.call label ⟨own, calls⟩).run b).failure = none →
            sub.query.render (own.getD b.grammar) = .ok sql →
            sub.query.render b.grammar = .ok sql' →
            place.written ((place.call label ⟨own, calls⟩).run b).builder
              = some (.ok (place.enclose b.grammar label sql'.text))) ↔
          own.getD b.grammar = b.grammar) := by
  refine ⟨fun place calls sub hbuild hok => written_run place hbuild hok, ?_, ?_⟩
  . intro h
    have hprobe : ∀ (q : Select) (calls : List Call),
        (Draft.mk own calls).build b.grammar = .ok { grammar := own.getD b.grammar, query := q } →
        (∀ g, ∃ sql, q.render g = .ok sql) →
        Sql.text <$> q.render (own.getD b.grammar) = Sql.text <$> q.render b.grammar := by
      intro q calls hbuild hrenders
      obtain ⟨sql, hsql⟩ := hrenders (own.getD b.grammar)
      obtain ⟨sql', hsql'⟩ := hrenders b.grammar
      have htext := text_eq_of_written hbuild hsql fun hok =>
        h selection calls _ sql sql' hbuild hok hsql hsql'
      rw [hsql, hsql']
      exact congrArg Except.ok htext
    have hpaged := hprobe paged [.offset 0] rfl fun g => ⟨_, rfl⟩
    have hqualified := hprobe qualified [.select [.name "a.b"]] rfl fun g => ⟨_, rfl⟩
    exact grammar_eq_of_probes hpaged hqualified
  . intro hshared place calls sub sql sql' hbuild hok hsql hsql'
    rw [written_run place hbuild hok, hshared, ite_self, hsql']
    rfl

def users (g : Grammar) : Builder :=
  .ofTable g (.name "users")

def posts (own : Option Grammar) : Draft :=
  ⟨own, [.table (.name "posts")]⟩

theorem posts_share_grammar
    : ((source.call "p" (posts (some ⟨.mysql, "x_"⟩))).run (users ⟨.mysql, "x_"⟩)).failure = none ∧
        source.written ((source.call "p" (posts (some ⟨.mysql, "x_"⟩))).run
            (users ⟨.mysql, "x_"⟩)).builder
          = some (.ok "(SELECT * FROM `x_posts`) AS `x_p`") := by
  obtain ⟨sub, hsub⟩ : ∃ sub, (posts (some ⟨.mysql, "x_"⟩)).build ⟨.mysql, "x_"⟩ = .ok sub :=
    ⟨_, rfl⟩
  obtain ⟨sql, hsql, htext⟩ : ∃ sql, sub.query.render ⟨.mysql, "x_"⟩ = .ok sql ∧
      source.enclose ⟨.mysql, "x_"⟩ "p" sql.text = "(SELECT * FROM `x_posts`) AS `x_p`" := by
    cases hsub
    exact ⟨_, rfl, by decide⟩
  have hok : ((source.call "p" (posts (some ⟨.mysql, "x_"⟩))).run
      (users ⟨.mysql, "x_"⟩)).failure = none := rfl
  have hiff := (subqueries_share_grammar_iff (users ⟨.mysql, "x_"⟩) "p" (some ⟨.mysql, "x_"⟩)).2
  have hwritten := hiff.mpr rfl source [.table (.name "posts")] sub sql sql hsub hok hsql hsql
  rw [← htext]
  exact ⟨hok, hwritten⟩

/-- Two dialects in one statement, though both could write all of it. -/
theorem posts_mix_dialects
    : ((selection.call "p" (posts (some ⟨.postgres, ""⟩))).run
          (users ⟨.mysql, ""⟩)).failure = none ∧
        (∃ s, ((selection.call "p" (posts (some ⟨.postgres, ""⟩))).run
            (users ⟨.mysql, ""⟩)).builder.statement = .ok s ∧
          s.sql = "SELECT (SELECT * FROM \"posts\") AS `p` FROM `users`") ∧
        ∃ sub sql sql', (posts (some ⟨.postgres, ""⟩)).build ⟨.mysql, ""⟩ = .ok sub ∧
          sub.query.render ⟨.postgres, ""⟩ = .ok sql ∧ sub.query.render ⟨.mysql, ""⟩ = .ok sql' ∧
          selection.enclose ⟨.mysql, ""⟩ "p" sql'.text = "(SELECT * FROM `posts`) AS `p`" ∧
          selection.written ((selection.call "p" (posts (some ⟨.postgres, ""⟩))).run
              (users ⟨.mysql, ""⟩)).builder
            = some (.ok "(SELECT * FROM \"posts\") AS `p`") := by
  refine ⟨rfl, ⟨_, rfl, ?_⟩, _, _, _, rfl, rfl, rfl, ?_, ?_⟩
  . decide
  . decide
  . have htext : ∃ text, selection.written ((selection.call "p" (posts (some ⟨.postgres, ""⟩))).run
        (users ⟨.mysql, ""⟩)).builder = some (.ok text) ∧
        text = "(SELECT * FROM \"posts\") AS `p`" := ⟨_, rfl, by decide⟩
    obtain ⟨text, hwritten, rfl⟩ := htext
    exact hwritten

end Place

end SqlForge
