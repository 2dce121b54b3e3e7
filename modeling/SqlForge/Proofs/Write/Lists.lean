import SqlForge.Proofs.Alignment.Insert
import SqlForge.Proofs.Builder.VettedRun
import SqlForge.Proofs.Name.Split
import SqlForge.Proofs.Write.Within

/-!
Lists between parentheses: the operands of an IN, the sides of a comparison of rows, the columns of
an INSERT. A list without entries is no SQL, and neither is one with the star that stands for every
column. One is written just for a comparison of no columns and for records that name no column, or
where the text of a lone entry says so.
-/

namespace SqlForge

/-- A list of nothing, or with the star for every column. -/
def Dangling (list : String) : Prop :=
  list = "()" ∨ list = "(*)"

/-- A text that leaves a list dangling if nothing else stands in it. -/
def Hollow (s : String) : Prop :=
  s = "" ∨ s = "*"

def Column.Hollow : Column → Prop
  | .name n => n = "*"
  | .raw sql => SqlForge.Hollow sql

def Operand.Hollow : Operand → Prop
  | .value _ => False
  | .raw sql => SqlForge.Hollow sql

/-- The only entry of the list has the property. -/
def Lone {α : Type} (P : α → Prop) (l : List α) : Prop :=
  ∃ x, l = [x] ∧ P x

namespace Condition

/-- The lists that the condition is written with. An IN of nothing is a constant and has none. -/
def lists (g : Grammar) : Condition → List String
  | .among _ (operand :: operands) _ => ["(" ++ (operandList (operand :: operands)).text ++ ")"]
  | .compareRow columns _ operands =>
    ["(" ++ g.columnList columns ++ ")", "(" ++ (operandList operands).text ++ ")"]
  | _ => []

/-- Columns without number to compare, or a lone entry that is nothing or a star. -/
def Hollow : Condition → Prop
  | .among _ operands _ => Lone Operand.Hollow operands
  | .compareRow columns _ operands =>
    columns = [] ∨ Lone Column.Hollow columns ∨ Lone Operand.Hollow operands
  | _ => False

end Condition

variable {g : Grammar} {sql : Sql} {s : String}

/-! ### Texts of lists -/

theorem dangling_enclosed (s : String) : Dangling ("(" ++ s ++ ")") ↔ Hollow s := by
  have hempty : "()" = "(" ++ "" ++ ")" := rfl
  have hstar : "(*)" = "(" ++ "*" ++ ")" := rfl
  unfold Dangling Hollow
  rw [hempty, hstar]
  simp only [String.append_right_inj, String.append_left_inj]

theorem not_hollow_of_mem {c : Char} (hmem : c ∈ s.toList) (hc : c ≠ '*') : ¬Hollow s := by
  rintro (rfl | rfl)
  . cases hmem
  . exact hc (List.mem_singleton.mp hmem)

theorem hollow_intercalate {parts : List String}
    : Hollow (", ".intercalate parts) ↔ parts = [] ∨ Lone Hollow parts := by
  match parts with
  | [] => simp [Hollow]
  | [part] => simp [Lone]
  | first :: second :: rest =>
    have hcomma : ',' ∈ (", ".intercalate (first :: second :: rest)).toList := by
      rw [String.intercalate_cons_cons]
      simp
    have := not_hollow_of_mem hcomma (by decide)
    simpa only [Lone, List.cons.injEq, reduceCtorEq, and_false, false_and, exists_false, or_false,
      iff_false]

theorem hollow_intercalate_map {α : Type} {f : α → String} {P : α → Prop}
    (h : ∀ x, Hollow (f x) ↔ P x) (l : List α)
    : Hollow (", ".intercalate (l.map f)) ↔ l = [] ∨ Lone P l := by
  rw [hollow_intercalate]
  match l with
  | [] => simp
  | [x] => simp [Lone, h]
  | x :: y :: rest => simp [Lone]

/-! ### Names -/

theorem mem_quoted (quote : Char) (s : String) : quote ∈ (Identifier.quoted quote s).toList := by
  simp [Identifier.quoted]

theorem quote_ne_star (d : Dialect) : d.quote ≠ '*' := by
  cases d <;> decide

theorem not_hollow_call {opening : String} (h : '(' ∈ opening.toList) (field path close : String)
    : ¬Hollow (opening ++ field ++ ", " ++ path ++ close) := by
  apply not_hollow_of_mem (c := '(') _ (by decide)
  simp only [String.toList_append, List.mem_append]
  exact .inl (.inl (.inl (.inl h)))

theorem not_hollow_jsonSelector (d : Dialect) (field : String) (path : List String)
    : ¬Hollow (Grammar.jsonSelector d field path) := by
  cases d with
  | mysql => exact not_hollow_call (by decide) field (Grammar.jsonPath path) "))"
  | sqlite => exact not_hollow_call (by decide) field (Grammar.jsonPath path) ")"
  | postgres =>
    have harrow : '>' ∈ (Grammar.jsonArrows path).toList := by
      match path with
      | [] => simp [Grammar.jsonArrows]
      | [key] => simp [Grammar.jsonArrows]
      | key :: next :: keys => simp [Grammar.jsonArrows]
    have hmem : '>' ∈ (field ++ Grammar.jsonArrows path).toList := by
      rw [String.toList_append]
      exact List.mem_append_right _ harrow
    exact not_hollow_of_mem hmem (by decide)

theorem not_hollow_wrap (g : Grammar) (hs : s ≠ "*") : ¬Hollow (g.wrap s) := by
  unfold Grammar.wrap Grammar.wrapName
  split
  . have hword : 'A' ≠ '*' := by decide
    apply not_hollow_of_mem _ hword
    simp
  . unfold Grammar.wrapTarget
    split
    . exact not_hollow_jsonSelector _ _ _
    . apply not_hollow_of_mem _ (quote_ne_star g.dialect)
      rw [Grammar.wrapDotted, if_neg hs]
      obtain ⟨first, rest, hsplit⟩ :=
        List.exists_cons_of_ne_nil (Identifier.splitDots_ne_nil s.toList)
      rw [Identifier.segments, hsplit]
      cases rest with
      | nil =>
        have hfirst : String.ofList first = s := by
          have := Identifier.intercalate_splitDots s.toList
          rw [hsplit, List.intercalate_singleton] at this
          rw [this, String.ofList_toList]
        rw [List.map_cons, hfirst, List.map_nil, Grammar.wrapSegments, Grammar.wrapSegment,
          Identifier.quoteSegment, if_neg hs]
        exact mem_quoted _ _
      | cons second rest =>
        have := mem_quoted g.dialect.quote (g.tablePrefix ++ String.ofList first)
        rw [List.map_cons, List.map_cons, Grammar.wrapSegments]
        . simp only [Bool.false_eq_true, if_false, List.map_cons]
          rw [String.intercalate_cons_cons, String.toList_append, String.toList_append]
          exact List.mem_append_left _ (List.mem_append_left _ this)
        . simp

theorem Grammar.hollow_wrap (g : Grammar) (s : String) : Hollow (g.wrap s) ↔ s = "*" := by
  constructor
  . intro h
    by_contra hs
    exact not_hollow_wrap g hs h
  . rintro rfl
    exact .inr rfl

theorem hollow_column (g : Grammar) (column : Column)
    : Hollow (g.column column) ↔ column.Hollow := by
  cases column with
  | name n => exact g.hollow_wrap n
  | raw sql => exact Iff.rfl

theorem hollow_operand (operand : Operand) : Hollow operand.sql.text ↔ operand.Hollow := by
  cases operand with
  | value v => exact iff_of_false (by rw [Operand.sql, Sql.text_slot]; unfold Hollow; decide) id
  | raw sql =>
    rw [Operand.sql, Sql.text_coe]
    exact Iff.rfl

theorem dangling_columnList (g : Grammar) (columns : List Column)
    : Dangling ("(" ++ g.columnList columns ++ ")") ↔
      columns = [] ∨ Lone Column.Hollow columns := by
  rw [dangling_enclosed]
  cases columns with
  | nil => simp [Grammar.columnList, Hollow]
  | cons column columns => exact hollow_intercalate_map (hollow_column g) (column :: columns)

theorem dangling_operandList (operands : List Operand)
    : Dangling ("(" ++ (operandList operands).text ++ ")") ↔
      operands = [] ∨ Lone Operand.Hollow operands := by
  rw [dangling_enclosed, operandList, Sql.text_join, List.map_map]
  exact hollow_intercalate_map hollow_operand _

/-! ### Lists of conditions -/

namespace Condition

variable {condition : Condition}

theorem dangling_lists_iff {maker : Grammar} (h : condition.Vetted maker)
    : (∃ list ∈ condition.lists g, Dangling list) ↔ condition.Hollow := by
  unfold lists Condition.Hollow
  split
  . simp only [List.mem_singleton, exists_eq_left, dangling_operandList, reduceCtorEq, false_or]
  . next columns operator operands =>
    have hlength : operands.length = columns.length := h.2
    have hnone : operands = [] ↔ columns = [] := by
      rw [← List.length_eq_zero_iff, hlength, List.length_eq_zero_iff]
    simp only [List.mem_cons, List.not_mem_nil, or_false, exists_eq_or_imp, exists_eq_left,
      dangling_columnList, dangling_operandList, hnone]
    tauto
  . next hamong hrow =>
    split
    . next column operands negated =>
      cases operands with
      | nil => simp [Lone]
      | cons operand operands => exact absurd rfl (hamong column operand operands negated)
    . next columns operator operands => exact absurd rfl (hrow columns operator operands)
    . simp

theorem exists_membership (negated : Bool)
    : ∃ word, membership negated = word ++ "(" ∧ opens word ∧ word ≠ "" := by
  cases negated with
  | false => exact ⟨" IN ", rfl, by decide, by decide⟩
  | true => exact ⟨" NOT IN ", rfl, by decide, by decide⟩

theorem occurs_of_mem_lists {list : String} (h : condition.render g = .ok sql)
    (hlist : list ∈ condition.lists g) : Occurs list sql.text := by
  unfold lists at hlist
  split at hlist
  . next column operand operands negated =>
    obtain ⟨word, hword, hopens, hne⟩ := exists_membership negated
    rw [List.mem_singleton.mp hlist]
    rw [render] at h
    . injection h with h
      rw [← h, hword]
      simp only [Sql.text_append, Sql.text_coe]
      simpa only [String.append_assoc] using
        occurs_right (opens_append_of_ne (g.column column) hopens hne)
          ("(" ++ (operandList (operand :: operands)).text ++ ")")
    . simp
  . next columns operator operands =>
    rw [render] at h
    injection h with h
    rw [← h]
    simp only [Sql.text_append, Sql.text_coe]
    have hcolumns : closes (" " ++ operator ++ " (" ++ (operandList operands).text ++ ")") := by
      simp only [String.append_assoc]
      exact closes_append_of_ne (by decide) (by decide) _
    have hoperands : opens ("(" ++ g.columnList columns ++ ") " ++ operator ++ " ") :=
      opens_append_of_ne _ (by decide) (by decide)
    have hclose : (") " : String) = ")" ++ " " := rfl
    have hopen : (" (" : String) = " " ++ "(" := rfl
    simp only [List.mem_cons, List.not_mem_nil, or_false] at hlist
    rcases hlist with rfl | rfl
    . have := occurs_left ("(" ++ g.columnList columns ++ ")") hcolumns
      rw [hclose]
      simpa only [String.append_assoc] using this
    . have := occurs_right hoperands ("(" ++ (operandList operands).text ++ ")")
      rw [hopen]
      simpa only [String.append_assoc] using this
  . cases hlist

end Condition

/-- To any depth, what stands in a statement that is vetted has been looked at. -/
theorem Select.Vetted.exists_of_part {q part : Select} (h : q.Vetted g) (hpart : q.Part part)
    : ∃ g, part.Vetted g := by
  induction hpart with
  | self => exact ⟨g, h⟩
  | subquery _ hmem ih =>
    obtain ⟨g', hvetted⟩ := ih
    obtain ⟨maker, hmaker, rfl⟩ := hvetted.recorded_of_mem hmem
    exact ⟨maker.grammar, hmaker.vetted⟩

namespace Builder

variable {b : Builder} {q : Select} {s : Statement}

/-- A statement of the builder that has conditions, and the query that they are taken from. -/
inductive Compiles (b : Builder) : Select → Statement → Prop where
  | select {s : Statement} : b.statement = .ok s → b.Compiles b.query s
  | exists {s : Statement} : b.existsStatement = .ok s → b.Compiles b.query s
  | aggregate {function : String} {columns : List Column} {s : Statement} :
    (b.aggregate function columns).statement = .ok s → b.Compiles b.query s
  | update {r : Record} {s : Statement} : b.update r = .ok s → b.Compiles b.targeted s
  | delete {s : Statement} : b.delete = .ok s → b.Compiles b.targeted s

theorem spreadOver_aggregate {function : String} {columns : List Column}
    (h : (b.aggregate function columns).sql = .ok sql)
    : b.query.SpreadOver b.grammar sql.text := by
  -- The columns may go, but neither the conditions nor the members do.
  unfold aggregate at h
  dsimp only at h
  split at h
  all_goals
    have hspread := Select.spreadOver_render h
    exact ⟨hspread.conditions, hspread.members⟩

theorem Compiles.spreadOver (h : b.Compiles q s) : q.SpreadOver b.grammar s.sql := by
  cases h with
  | select h =>
    obtain ⟨sql, hsql, h⟩ := bind_eq_ok.mp h
    rw [← pure_eq_ok.mp h]
    exact Select.spreadOver_render hsql
  | «exists» h =>
    obtain ⟨sql, hsql, h⟩ := bind_eq_ok.mp h
    obtain ⟨inner, hinner, hsql⟩ := bind_eq_ok.mp hsql
    rw [← pure_eq_ok.mp h, ← pure_eq_ok.mp hsql]
    apply (Select.spreadOver_render hinner).trans
    simp only [Sql.text_append, Sql.text_coe]
    rw [String.append_assoc]
    exact occurs_between _ (by decide) (closes_append_of_ne (by decide) (by decide) _)
  | aggregate h =>
    obtain ⟨sql, hsql, h⟩ := bind_eq_ok.mp h
    rw [← pure_eq_ok.mp h]
    exact spreadOver_aggregate hsql
  | update h =>
    obtain ⟨sql, hsql, h⟩ := bind_eq_ok.mp h
    rw [← pure_eq_ok.mp h]
    exact spreadOver_updateSql hsql
  | delete h =>
    obtain ⟨sql, hsql, h⟩ := bind_eq_ok.mp h
    rw [← pure_eq_ok.mp h]
    exact spreadOver_deleteSql hsql

theorem Made.vetted_targeted (hb : b.Made) : b.targeted.Vetted b.grammar := by
  have hvetted := hb.vetted
  unfold targeted
  split
  . constructor
    . intro condition hmem
      apply hvetted.conditions
      simp only [Select.conditions, Select.empty, clauseConditions, List.append_nil,
        List.mem_append] at hmem ⊢
      tauto
    . exact hvetted.joins
    . intro member hmem
      cases hmem
    . intro o hmem
      cases hmem
    . intro _
      exact ⟨rfl, rfl, rfl⟩
  . exact hvetted

theorem Compiles.vetted (hb : b.Made) (h : b.Compiles q s) : q.Vetted b.grammar := by
  cases h with
  | select _ | «exists» _ | aggregate _ => exact hb.vetted
  | update _ | delete _ => exact hb.vetted_targeted

/-! ### Lists of columns -/

/-- An INSERT of the builder, and the columns that its list is of. -/
inductive Inserts (b : Builder) : List Column → Statement → Prop where
  | records {duplicates : Duplicates} {records : List Record} {r : Record} {s : Statement} :
    b.insert duplicates records = .ok s → r ∈ records → b.Inserts (r.columns.map .name) s
  | returning {r : Record} {sequence : Option String} {s : Statement} :
    b.insertReturning r sequence = .ok s → b.Inserts (r.columns.map .name) s
  | rows {columns : List Column} {query : Builder} {s : Statement} :
    b.insertRows columns query = .ok s → b.Inserts columns s

/-- The columns as they may be written, of which the order is open. -/
inductive Listed (g : Grammar) (columns : List Column) : String → Prop where
  | each {named : List Column} : named.Perm columns →
    Listed g columns ("(" ++ ", ".intercalate (named.map g.column) ++ ")")
  | all : columns = [] → Listed g columns "(*)"

theorem lone_iff_of_perm {α : Type} {P : α → Prop} {l l' : List α} (h : l.Perm l')
    : Lone P l ↔ Lone P l' := by
  constructor
  . rintro ⟨x, rfl, hx⟩
    exact ⟨x, List.perm_singleton.mp h.symm, hx⟩
  . rintro ⟨x, rfl, hx⟩
    exact ⟨x, List.perm_singleton.mp h, hx⟩

theorem dangling_iff_of_listed {columns : List Column} {list : String} (h : Listed g columns list)
    : Dangling list ↔ columns = [] ∨ Lone Column.Hollow columns := by
  cases h with
  | @each named hperm =>
    have hnone : named = [] ↔ columns = [] := by
      rw [← List.length_eq_zero_iff, hperm.length_eq, List.length_eq_zero_iff]
    rw [dangling_enclosed, hollow_intercalate_map (hollow_column g), hnone,
      lone_iff_of_perm hperm]
  | all hnone => exact iff_of_true (.inr rfl) (.inl hnone)

theorem exists_of_insertSql {duplicates : Duplicates} {rows : List Record} {columns : List String}
    (hne : rows ≠ []) (hcolumns : ∀ r ∈ rows, r.columns = columns)
    (h : b.insertSql duplicates rows = .ok sql)
    : ∃ table rest, b.target .insert = .ok table ∧
        sql.text = duplicates.opening b.grammar.dialect ++ table.text ++ " " ++
          ("(" ++ ", ".intercalate ((columns.map .name).map b.grammar.column) ++ ")") ++ " " ++
          rest := by
  obtain ⟨table, htable, h⟩ := bind_eq_ok.mp h
  rw [insertBody_eq hne hcolumns] at h
  have hopen : (" (" : String) = " " ++ "(" := rfl
  have hvalues : (") VALUES " : String) = ")" ++ " " ++ "VALUES " := rfl
  let values := Sql.join ", " ((rows.map Record.operands).map fun row =>
    "(" ++ operandList row ++ ")")
  refine ⟨table, "VALUES " ++ values.text ++ duplicates.closing b.grammar.dialect, htable, ?_⟩
  rw [← pure_eq_ok.mp h, List.map_map]
  simp only [columnsAndRows, Sql.text_append, Sql.text_coe, hopen, hvalues, String.append_assoc]
  rfl

/-- Every INSERT that is not of a row of defaults has the list of its columns behind the table. -/
theorem Inserts.exists_listed {columns : List Column} (h : b.Inserts columns s)
    : ∃ (duplicates : Duplicates) (table : Sql) (list rest : String),
        b.target .insert = .ok table ∧ Listed b.grammar columns list ∧
        s.sql = duplicates.opening b.grammar.dialect ++ table.text ++ " " ++ list ++ " " ++
          rest := by
  cases h with
  | @records duplicates records r _ h hmem =>
    obtain ⟨aligned, haligned, h⟩ := bind_eq_ok.mp h
    obtain ⟨sql, hsql, h⟩ := bind_eq_ok.mp h
    obtain ⟨arrange, rfl, hperm, columns, hcolumns⟩ := Record.exists_of_aligned haligned
    have hne : records.map arrange ≠ [] := List.ne_nil_of_mem (List.mem_map_of_mem hmem)
    obtain ⟨table, rest, htable, htext⟩ := exists_of_insertSql hne hcolumns hsql
    have hsame : columns.Perm r.columns := by
      rw [← hcolumns _ (List.mem_map_of_mem hmem)]
      exact (hperm r).map Prod.fst
    rw [← pure_eq_ok.mp h]
    exact ⟨duplicates, table, _, rest, htable, .each (hsame.map Column.name), htext⟩
  | @returning r sequence _ h =>
    obtain ⟨sql, hsql, h⟩ := bind_eq_ok.mp h
    have hcolumns : ∀ other ∈ [r], other.columns = r.columns := by simp
    obtain ⟨table, rest, htable, htext⟩ :=
      exists_of_insertSql (List.cons_ne_nil r []) hcolumns hsql
    rw [← pure_eq_ok.mp h, htext]
    exact ⟨.refused, table, _, _, htable, .each (.refl _), String.append_assoc⟩
  | @rows columns query _ h =>
    obtain ⟨rows, hrows, h⟩ := bind_eq_ok.mp h
    obtain ⟨table, htable, h⟩ := bind_eq_ok.mp h
    have hlisted : Listed b.grammar columns ("(" ++ b.grammar.columnList columns ++ ")") := by
      cases columns with
      | nil => exact .all rfl
      | cons column columns => exact .each (.refl _)
    have hopen : (" (" : String) = " " ++ "(" := rfl
    have hclose : (") " : String) = ")" ++ " " := rfl
    have hopening : Duplicates.refused.opening b.grammar.dialect = "INSERT INTO " := by
      cases b.grammar.dialect <;> rfl
    rw [← pure_eq_ok.mp h]
    refine ⟨.refused, table, _, rows.text, htable, hlisted, ?_⟩
    simp only [Sql.text_append, Sql.text_coe, hopening, hopen, hclose, String.append_assoc]

theorem insert_nil {duplicates : Duplicates} (h : b.insert duplicates [] = .ok s)
    : ∃ table, b.target .insert = .ok table ∧
        s = ⟨duplicates.opening b.grammar.dialect ++ table.text ++
          (if b.grammar.dialect = .mysql then " () VALUES ()" else " DEFAULT VALUES") ++
          duplicates.closing b.grammar.dialect, []⟩ := by
  obtain ⟨aligned, haligned, h⟩ := bind_eq_ok.mp h
  cases haligned
  obtain ⟨sql, hsql, h⟩ := bind_eq_ok.mp h
  obtain ⟨table, htable, hsql⟩ := bind_eq_ok.mp hsql
  refine ⟨table, htable, ?_⟩
  rw [← pure_eq_ok.mp h, ← pure_eq_ok.mp hsql]
  cases hdialect : b.grammar.dialect <;>
    simp [insertBody, hdialect, Sql.text_append, Sql.text_coe]

theorem made_of_subquery {draft : Draft} {values : List Value}
    (h : (Subquery.draft draft).build g = .ok (sql, values))
    : ∃ (sub : Builder) (s : Statement), sub.Made ∧ sub.Compiles sub.query s ∧
        s.sql = sql.text := by
  obtain ⟨sub, found, hsub, hfound, hsame⟩ := Subquery.build_draft_eq_ok.mp h
  cases hsame
  have hstatement : sub.statement = .ok ⟨sql.text, sub.values⟩ := by
    rw [statement, hfound]
    rfl
  exact ⟨sub, _, Draft.made_of_build hsub, .select hstatement, rfl⟩

/--
The conditions of a statement stand in it as they are written, with their lists, to any depth of
groups, joins, subqueries and members. A subquery in place of a table or a column is a statement of
its own. An IN of nothing is a constant and binds nothing. A list dangles just for a comparison of
no columns and for an INSERT that names no column, or where a lone entry is an empty text or a star.
An INSERT of no records has no list of columns.
-/
theorem lists_dangle_iff (hb : b.Made)
    : (∀ q s, b.Compiles q s → ∀ part, q.Part part → ∀ condition ∈ part.conditions,
        (∃ sql, condition.render b.grammar = .ok sql ∧ Occurs sql.text s.sql ∧
          ∀ list ∈ condition.lists b.grammar, Occurs list sql.text) ∧
        ((∃ list ∈ condition.lists b.grammar, Dangling list) ↔ condition.Hollow)) ∧
      (∀ draft g sql values, (Subquery.draft draft).build g = .ok (sql, values) →
        ∃ (sub : Builder) (s : Statement), sub.Made ∧ sub.Compiles sub.query s ∧
          s.sql = sql.text) ∧
      (∀ c column negated, ∃ condition,
        (Call.filterAmong c column [] negated).run b = { builder := { b with
          query := { b.query with wheres := b.query.wheres ++ [⟨c, condition⟩] } } } ∧
        condition.render b.grammar = .ok (if negated then "1 = 1" else "0 = 1" : String)) ∧
      (∀ columns s, b.Inserts columns s → ∃ (duplicates : Duplicates) (table : Sql)
        (list rest : String), b.target .insert = .ok table ∧ Listed b.grammar columns list ∧
        s.sql = duplicates.opening b.grammar.dialect ++ table.text ++ " " ++ list ++ " " ++ rest ∧
        (Dangling list ↔ columns = [] ∨ Lone Column.Hollow columns)) ∧
      ∀ duplicates s, b.insert duplicates [] = .ok s → ∃ table, b.target .insert = .ok table ∧
        s = ⟨duplicates.opening b.grammar.dialect ++ table.text ++
          (if b.grammar.dialect = .mysql then " () VALUES ()" else " DEFAULT VALUES") ++
          duplicates.closing b.grammar.dialect, []⟩ := by
  refine ⟨?_, fun _ _ _ _ => made_of_subquery, ?_, ?_, fun _ _ => insert_nil⟩
  . intro q s h part hpart condition hmem
    obtain ⟨sql, hsql, hoccurs⟩ := (h.spreadOver.of_part hpart).conditions condition hmem
    obtain ⟨g, hvetted⟩ := (h.vetted hb).exists_of_part hpart
    exact ⟨⟨sql, hsql, hoccurs, fun list hlist => Condition.occurs_of_mem_lists hsql hlist⟩,
      Condition.dangling_lists_iff (hvetted.conditions condition hmem)⟩
  . intro c column negated
    refine ⟨.among column [] negated, ?_, ?_⟩
    . rw [Call.run, filter, Bound.among, boundValues, List.filterMap_nil, Bindings.extend_nil]
    . rw [Condition.render]
  . intro columns s h
    obtain ⟨duplicates, table, list, rest, htable, hlisted, heq⟩ := h.exists_listed
    exact ⟨duplicates, table, list, rest, htable, hlisted, heq, dangling_iff_of_listed hlisted⟩

/-- An empty list and a row in a group, behind a list of two. -/
def sifted : Builder :=
  (Call.runAll [
    .filterAmong .and (.name "id") [.value (.int 1), .raw "2"] false,
    .filterGroup .or [
      .filterAmong .and (.name "a") [] true,
      .filterRow .and [.name "a", .name "b"] "=" [.value (.int 1), .value .null]]]
    (ofTable ⟨.mysql, ""⟩ (.name "users"))).builder

theorem sifted_lists
    : sifted.Made ∧ ∃ s, sifted.delete = .ok s ∧
        s.sql = "DELETE FROM `users` WHERE `id` IN (?, 2) OR (1 = 1 AND (`a`, `b`) = (?, ?))" ∧
        ∀ condition ∈ sifted.targeted.conditions, ∀ list ∈ condition.lists sifted.grammar,
          ¬Dangling list := by
  have hmade : sifted.Made := (Made.ofTable ⟨.mysql, ""⟩ (.name "users")).runAll _
  obtain ⟨s, hs, hsql⟩ : ∃ s, sifted.delete = .ok s ∧
      s.sql = "DELETE FROM `users` WHERE `id` IN (?, 2) OR (1 = 1 AND (`a`, `b`) = (?, ?))" :=
    ⟨_, rfl, by decide⟩
  refine ⟨hmade, s, hs, hsql, ?_⟩
  intro condition hmem list hlist hdangling
  obtain ⟨-, hiff⟩ := (lists_dangle_iff hmade).1 _ s (.delete hs) _ .self condition hmem
  have hhollow := hiff.mp ⟨list, hlist, hdangling⟩
  have hconditions : sifted.targeted.conditions = [
      .among (.name "id") [.value (.int 1), .raw "2"] false,
      .group [⟨.and, .among (.name "a") [] true⟩,
        ⟨.and, .compareRow [.name "a", .name "b"] "=" [.value (.int 1), .value .null]⟩],
      .among (.name "a") [] true,
      .compareRow [.name "a", .name "b"] "=" [.value (.int 1), .value .null]] := rfl
  rw [hconditions] at hmem
  simp only [List.mem_cons, List.not_mem_nil, or_false] at hmem
  rcases hmem with rfl | rfl | rfl | rfl <;> simp [Condition.Hollow, Lone] at hhollow

/-- A row of no columns, a record that names none, and rows that are inserted under none. -/
theorem nameless_lists_dangle
    : let b := ofTable ⟨.postgres, ""⟩ (.name "users")
      b.Made ∧
        (∃ s, b.insert .refused [Record.empty] = .ok s ∧
          s.sql = "INSERT INTO \"users\" () VALUES ()" ∧ b.Inserts [] s) ∧
        (∃ s, b.insert .refused [] = .ok s ∧ s.sql = "INSERT INTO \"users\" DEFAULT VALUES") ∧
        (∃ s, b.insertRows [] b = .ok s ∧
          s.sql = "INSERT INTO \"users\" (*) SELECT * FROM \"users\"") ∧
        ∃ s, ((Call.filterRow .and [] "=" []).run b).builder.statement = .ok s ∧
          s.sql = "SELECT * FROM \"users\" WHERE (*) = ()" := by
  intro b
  obtain ⟨s, hs, hsql⟩ : ∃ s, b.insert .refused [Record.empty] = .ok s ∧
      s.sql = "INSERT INTO \"users\" () VALUES ()" := ⟨_, rfl, by decide⟩
  have hinserts : b.Inserts (Record.empty.columns.map .name) s :=
    .records hs (List.mem_singleton_self Record.empty)
  exact ⟨.ofTable _ _, ⟨s, hs, hsql, hinserts⟩, ⟨_, rfl, by decide⟩,
    ⟨_, rfl, by decide⟩, _, rfl, by decide⟩

end Builder

end SqlForge
