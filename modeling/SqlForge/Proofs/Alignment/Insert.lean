import SqlForge.Proofs.Alignment.Select
import SqlForge.Proofs.Placeholder.Write
import SqlForge.Proofs.Record
import SqlForge.Write.Insert

/-!
INSERT statements, told from the assignments of their records: when there is one, and which operand
stands in which place of its rows.
-/

namespace SqlForge

open Assignments

/--
The columns are those of each record. Each row has, in the place of a column, the operand that its
record assigns to that column last.
-/
structure Laid (records : List Assignments) (columns : List String) (rows : List (List Operand))
    : Prop where
  nodup : columns.Nodup
  covers : ∀ fields ∈ records, ∀ column, column ∈ columns ↔ column ∈ fields.map Prod.fst
  rows : List.Forall₂ (fun fields row => List.Forall₂ fields.Last columns row) records rows

theorem exists_of_forall₂ {α β : Type} {R : α → β → Prop} {as : List α} {bs : List β}
    (h : List.Forall₂ R as bs) {b : β} (hb : b ∈ bs) : ∃ a ∈ as, R a b := by
  induction h with
  | nil => contradiction
  | cons hab _ ih => grind

theorem unmarked_of_laid {records : List Assignments} {columns : List String}
    {rows : List (List Operand)} (h : Laid records columns rows) (hne : records ≠ [])
    (hrecords : ∀ fields ∈ records, ∀ field ∈ fields,
      Text.Unmarked field.1 ∧ field.2.Unmarked)
    : (∀ column ∈ columns, Text.Unmarked column) ∧
        ∀ row ∈ rows, ∀ operand ∈ row, operand.Unmarked := by
  constructor
  . intro column hcolumn
    obtain ⟨fields, hfields⟩ := List.exists_mem_of_ne_nil records hne
    obtain ⟨field, hfield, rfl⟩ := List.mem_map.mp ((h.covers fields hfields column).mp hcolumn)
    exact (hrecords fields hfields field hfield).1
  . intro row hrow operand hoperand
    obtain ⟨fields, hfields, hlast⟩ := exists_of_forall₂ h.rows hrow
    obtain ⟨column, -, hlast⟩ := exists_of_forall₂ hlast hoperand
    exact (hrecords fields hfields _ hlast.mem).2

/-- Records that are aligned can be read off by column. -/
theorem laid_of_aligned {records : List Assignments} {aligned : List Record}
    (h : Record.aligned (records.map .ofList) = .ok aligned) (hne : records ≠ [])
    : ∃ columns, (∀ r ∈ aligned, r.columns = columns) ∧
        Laid records columns (aligned.map Record.operands) := by
  obtain ⟨arrange, rfl, hperm, columns, hcolumns⟩ := Record.exists_of_aligned h
  have hrecord : ∀ fields ∈ records, (arrange (.ofList fields)).columns = columns := by
    simpa using hcolumns
  refine ⟨columns, hcolumns, ?_, ?_, ?_⟩
  . obtain ⟨fields, hfields⟩ := List.exists_mem_of_ne_nil records hne
    rw [← hrecord fields hfields]
    exact (arrange (.ofList fields)).nodup
  . intro fields hfields column
    rw [← hrecord fields hfields, ← Record.mem_columns_ofList]
    exact ((hperm _).map Prod.fst).mem_iff
  . simp only [List.map_map, List.forall₂_map_right_iff, List.forall₂_same]
    intro fields hfields
    rw [← hrecord fields hfields]
    simp only [Record.columns, Record.operands, Function.comp, List.forall₂_map_left_iff,
      List.forall₂_map_right_iff, List.forall₂_same]
    intro field hfield
    exact Record.mem_ofList.mp ((hperm _).mem_iff.mp hfield)

/-! ### The text -/

/-- The list of columns, and rows that have an operand for each of them. -/
def columnsAndRows (g : Grammar) (columns : List String) (rows : List (List Operand)) : Sql :=
  " (" ++ ", ".intercalate (columns.map g.wrap) ++ ") VALUES " ++
    Sql.join ", " (rows.map fun row => "(" ++ operandList row ++ ")")

theorem insertBody_eq {g : Grammar} {rows : List Record} {columns : List String}
    (hne : rows ≠ []) (h : ∀ r ∈ rows, r.columns = columns)
    : insertBody g rows = columnsAndRows g columns (rows.map Record.operands) := by
  cases rows with
  | nil => contradiction
  | cons first rest =>
    rw [insertBody, h first List.mem_cons_self, columnsAndRows, List.map_map]
    rfl

theorem emits_columnsAndRows {g : Grammar} (hg : g.Unmarked) {columns : List String}
    {rows : List (List Operand)} (hcolumns : ∀ column ∈ columns, Text.Unmarked column)
    (hrows : ∀ row ∈ rows, ∀ operand ∈ row, operand.Unmarked)
    : (columnsAndRows g columns rows).Emits (rows.flatMap boundValues) := by
  have hnames : Text.Unmarked (", ".intercalate (columns.map g.wrap)) := by
    apply Text.unmarked_intercalate (by decide)
    simp only [List.forall_mem_map]
    intro column hcolumn
    exact Grammar.unmarked_wrap hg (hcolumns column hcolumn)
  have htuples : (Sql.join ", " (rows.map fun row => "(" ++ operandList row ++ ")")).Emits
      (rows.flatMap boundValues) := by
    apply Sql.emits_join_map (by decide)
    intro row hrow
    exact ((emits_operandList (hrows row hrow)).text_append (by decide)).append_text (by decide)
  apply Sql.Emits.nil_append _ htuples
  exact ((Sql.emits_text hnames).text_append (by decide)).append_text (by decide)

theorem emits_insertBody_nil (g : Grammar) : (insertBody g []).Emits [] := by
  obtain ⟨d, tablePrefix⟩ := g
  cases d <;> exact Sql.emits_text (by decide)

theorem Duplicates.unmarked_opening (duplicates : Duplicates) (d : Dialect)
    : Text.Unmarked (duplicates.opening d) := by
  cases d <;> cases duplicates <;> decide

theorem Duplicates.unmarked_closing (duplicates : Duplicates) (d : Dialect)
    : Text.Unmarked (duplicates.closing d) := by
  cases d <;> cases duplicates <;> decide

namespace Builder

variable {b : Builder} {duplicates : Duplicates} {records : List Assignments}

/-- An INSERT into the source that goes on with the body. -/
def insertion (b : Builder) (duplicates : Duplicates) (source : Source) (body : Sql) : Sql :=
  let d := b.grammar.dialect
  duplicates.opening d ++ source.render b.grammar ++ body ++ duplicates.closing d

theorem emits_insertion (duplicates : Duplicates) (hg : b.grammar.Unmarked) {source : Source}
    (hsource : source.Filled) (hslots : source.slots = []) {body : Sql} {values : List Value}
    (hbody : body.Emits values)
    : (b.insertion duplicates source body).Emits values := by
  have htable := Source.emits_render hg hsource
  rw [hslots] at htable
  apply Sql.Emits.append_text _ (duplicates.unmarked_closing b.grammar.dialect)
  exact (htable.text_append (duplicates.unmarked_opening b.grammar.dialect)).nil_append hbody

theorem insert_eq_error_iff {e : Failure}
    : b.insert duplicates (records.map .ofList) = .error e ↔
        (∃ index first other, DiffersAt records index first other ∧
          e = .mismatchedRecord index (Record.ofList first).sorted.columns
            (Record.ofList other).sorted.columns) ∨
        (Uniform records ∧ b.query.source = none ∧ e = .missingTable .insert) := by
  rw [insert, ← Record.aligned_ofList_eq_error_iff, ← Record.exists_aligned_ofList_iff]
  cases Record.aligned (records.map .ofList) with
  | error found => simp [error_bind]
  | ok rows =>
    rw [ok_bind, bind_pure_eq_error, insertSql, bind_pure_eq_error, target]
    cases b.query.source with
    | none => simp [eq_comm]
    | some source => simp

theorem exists_insert_iff
    : (∃ s, b.insert duplicates (records.map .ofList) = .ok s) ↔
        b.query.source ≠ none ∧ Uniform records := by
  rw [insert, ← Record.exists_aligned_ofList_iff]
  cases Record.aligned (records.map .ofList) with
  | error found => simp [error_bind]
  | ok rows =>
    rw [ok_bind, insertSql, target]
    cases b.query.source with
    | none => simp
    | some source => simp [ok_bind, pure, Except.pure]

/-- What is inserted is either a row of defaults or what the records assign, column by column. -/
theorem insert_cases {s : Statement} (h : b.insert duplicates (records.map .ofList) = .ok s)
    : ∃ source, b.query.source = some source ∧
        ((records = [] ∧ s = ⟨(b.insertion duplicates source (insertBody b.grammar [])).text, []⟩) ∨
          records ≠ [] ∧ ∃ columns rows, Laid records columns rows ∧
            s = ⟨(b.insertion duplicates source (columnsAndRows b.grammar columns rows)).text,
              rows.flatMap boundValues⟩) := by
  obtain ⟨aligned, haligned, h⟩ := bind_eq_ok.mp h
  obtain ⟨sql, hsql, h⟩ := bind_eq_ok.mp h
  obtain ⟨table, htable, hsql⟩ := bind_eq_ok.mp hsql
  rw [← pure_eq_ok.mp h, ← pure_eq_ok.mp hsql]
  unfold target at htable
  split at htable
  . next source hsource =>
    cases htable
    refine ⟨source, hsource, ?_⟩
    by_cases hrecords : records = []
    . subst hrecords
      cases haligned
      exact .inl ⟨rfl, rfl⟩
    . obtain ⟨columns, hcolumns, hlaid⟩ := laid_of_aligned haligned hrecords
      have hne : aligned ≠ [] := by
        intro hnil
        rw [hnil] at hlaid
        exact hrecords (List.forall₂_nil_right_iff.mp hlaid.rows)
      refine .inr ⟨hrecords, columns, _, hlaid, ?_⟩
      rw [insertBody_eq hne hcolumns, List.flatMap_map]
      rfl
  . cases htable

/--
An INSERT has, in each row and under each column, what the record of the row assigns to the column
last. There is one just if there is a table and the records have the same columns.
-/
theorem insert_by_column (hg : b.grammar.Unmarked)
    (hsource : ∀ source ∈ b.query.source, source.Filled ∧ source.slots = [])
    (hrecords : ∀ fields ∈ records, ∀ field ∈ fields, Text.Unmarked field.1 ∧ field.2.Unmarked)
    (duplicates : Duplicates)
    : ((∃ s, b.insert duplicates (records.map .ofList) = .ok s) ↔
          b.query.source ≠ none ∧ Uniform records) ∧
        (∀ e, b.insert duplicates (records.map .ofList) = .error e ↔
          (∃ index first other, DiffersAt records index first other ∧
            e = .mismatchedRecord index (Record.ofList first).sorted.columns
              (Record.ofList other).sorted.columns) ∨
          (Uniform records ∧ b.query.source = none ∧ e = .missingTable .insert)) ∧
        ∀ s, b.insert duplicates (records.map .ofList) = .ok s →
          ∃ source sql, b.query.source = some source ∧ s.Aligned sql ∧
            (records = [] → s.bindings = [] ∧
              sql = b.insertion duplicates source (insertBody b.grammar [])) ∧
            (records ≠ [] → ∃ columns rows, Laid records columns rows ∧
              s.bindings = rows.flatMap boundValues ∧
              sql = b.insertion duplicates source (columnsAndRows b.grammar columns rows)) := by
  refine ⟨exists_insert_iff, fun e => insert_eq_error_iff, ?_⟩
  intro s hs
  obtain ⟨source, hsome, ⟨hnil, rfl⟩ | ⟨hne, columns, rows, hlaid, rfl⟩⟩ := insert_cases hs
  . obtain ⟨hfilled, hslots⟩ := hsource source hsome
    have hemits := emits_insertion duplicates hg hfilled hslots
      (emits_insertBody_nil b.grammar)
    refine ⟨source, _, hsome, Statement.aligned_of_emits hemits, fun _ => ⟨rfl, rfl⟩, ?_⟩
    intro hne
    contradiction
  . obtain ⟨hfilled, hslots⟩ := hsource source hsome
    obtain ⟨hcolumns, hrows⟩ := unmarked_of_laid hlaid hne hrecords
    have hemits := emits_insertion duplicates hg hfilled hslots
      (emits_columnsAndRows hg hcolumns hrows)
    refine ⟨source, _, hsome, Statement.aligned_of_emits hemits, ?_, ?_⟩
    . intro hnil
      contradiction
    . intro _
      exact ⟨columns, rows, hlaid, rfl, rfl⟩

/-- The records set their columns in different orders, and one of them sets a column twice. -/
def reordered : List Assignments :=
  [[("name", .value (.text "a")), ("age", .raw "1 + 1"), ("name", .value (.text "b"))],
    [("age", .value (.int 7)), ("name", .value (.text "c"))]]

theorem reordered_by_column
    : Grammar.Unmarked ⟨.mysql, "p_"⟩ ∧
        (∀ source ∈ (ofTable ⟨.mysql, "p_"⟩ (.name "users")).query.source,
          source.Filled ∧ source.slots = []) ∧
        (∀ fields ∈ reordered, ∀ field ∈ fields, Text.Unmarked field.1 ∧ field.2.Unmarked) ∧
        ∃ s columns rows, (ofTable ⟨.mysql, "p_"⟩ (.name "users")).insert .ignored
            (reordered.map .ofList) = .ok s ∧
          Laid reordered columns rows ∧ s.bindings = rows.flatMap boundValues := by
  have hg : Grammar.Unmarked ⟨.mysql, "p_"⟩ := by decide
  have hsource : ∀ source ∈ (ofTable ⟨.mysql, "p_"⟩ (.name "users")).query.source,
      source.Filled ∧ source.slots = [] := by
    intro source hsource
    cases hsource
    exact ⟨show Text.Unmarked _ by decide, rfl⟩
  have hrecords : ∀ fields ∈ reordered, ∀ field ∈ fields,
      Text.Unmarked field.1 ∧ field.2.Unmarked := by decide
  have huniform : Uniform reordered := by
    apply uniform_cons.mpr
    intro fields hfields column
    cases List.mem_singleton.mp hfields
    grind
  obtain ⟨hexists, -, hrows⟩ := insert_by_column hg hsource hrecords .ignored
  obtain ⟨s, hs⟩ := hexists.mpr ⟨Option.some_ne_none _, huniform⟩
  obtain ⟨_, _, -, -, -, hlaid⟩ := hrows s hs
  obtain ⟨columns, rows, hlaid, hbindings, -⟩ := hlaid (by simp [reordered])
  exact ⟨hg, hsource, hrecords, s, columns, rows, hs, hlaid, hbindings⟩

end Builder

end SqlForge
