import SqlForge.Proofs.Alignment.Aggregate
import SqlForge.Proofs.Fragment.Verbatim

/-!
The aggregate of a compound statement. It is taken over a derived table that holds the statement as
it is; of the flags of the statement, the one for distinct rows alone is read outside of it as well.
-/

namespace SqlForge

/-- The text of an aggregate over a derived table. -/
def Grammar.overDerived (g : Grammar) (function arguments inner : String) : String :=
  "SELECT " ++ function ++ "(" ++ arguments ++ ") AS aggregate FROM (" ++ inner ++ ") AS " ++
    g.wrapTable "temp_table"

/-- What the function is applied to. -/
def Grammar.aggregated (g : Grammar) (distinct : Bool) (columns : List Column) : String :=
  if distinct && g.columnList columns ≠ "*" then "DISTINCT " ++ g.columnList columns
  else g.columnList columns

variable {g : Grammar}

theorem Aggregate.text_render (g : Grammar) (distinct : Bool) (a : Aggregate)
    : (a.render g distinct).text
        = "SELECT " ++ a.function ++ "(" ++ g.aggregated distinct a.columns ++
            ") AS aggregate" := by
  unfold render Grammar.aggregated
  simp only [Sql.text_append, Sql.text_coe]

theorem Grammar.overDerived_aggregated_iff {function inner : String} {distinct : Bool}
    {columns : List Column}
    : g.overDerived function (g.aggregated distinct columns) inner
          = g.overDerived function (g.columnList columns) inner ↔
        (distinct → g.columnList columns = "*") := by
  unfold overDerived aggregated
  split
  . next h =>
    simp only [Bool.and_eq_true, decide_eq_true_eq] at h
    constructor
    . intro heq
      have hlength := congrArg String.length heq
      simp only [String.length_append] at hlength
      have : "DISTINCT ".length = 9 := rfl
      omega
    . intro himp
      exact absurd (himp h.1) h.2
  . next h =>
    simpa using h

namespace Select

variable {q : Select} {a : Aggregate}

/-- Every part of a compound statement is written inside the derived table. -/
theorem render_aggregate (g : Grammar) (hplain : q.aggregate = none) (hunions : q.unions ≠ [])
    : Select.render g { q with aggregate := some a }
        = (fun inner => a.render g q.distinct ++ " FROM (" ++ inner ++ ") AS " ++
            g.wrapTable "temp_table") <$> q.render g := by
  have hassemble (p : Parts) : Select.assemble g { q with aggregate := some a } p
      = a.render g q.distinct ++ " FROM (" ++ q.assemble g p ++ ") AS " ++
          g.wrapTable "temp_table" := by
    have hcompound : ¬q.unions.isEmpty := by simpa using hunions
    unfold assemble
    simp only [hplain, hcompound, Bool.false_eq_true, if_false]
    rfl
  cases q
  rw [Select.render, Select.render]
  simp only [map_bind, map_pure, hassemble]

end Select

namespace Builder

variable {b : Builder}

/--
The aggregate of a compound statement is written around the statement, binds the same values in the
same order and fails as the statement does. It is the function of the given columns unless the first
member is asked for distinct rows: then it is the function of distinct columns, but for the star.
-/
theorem aggregate_of_compound (hb : b.Made) (hcompound : b.isCompound) (function : String)
    (columns : List Column)
    : (b.aggregate function columns).values = b.values ∧
        (∀ e, (b.aggregate function columns).sql = .error e ↔ b.sql = .error e) ∧
        ∀ inner, b.sql = .ok inner → ∃ sql, (b.aggregate function columns).sql = .ok sql ∧
          sql.text = b.grammar.overDerived function
            (b.grammar.aggregated b.query.distinct columns) inner.text ∧
          (sql.text = b.grammar.overDerived function (b.grammar.columnList columns) inner.text ↔
            (b.query.distinct → b.grammar.columnList columns = "*")) := by
  have hunions : b.query.unions ≠ [] := by simpa [isCompound] using hcompound
  rw [aggregate_of_keepsColumns (.inl hunions)]
  refine ⟨rfl, ?_, ?_⟩
  all_goals
    unfold sql
    dsimp only
    rw [Select.render_aggregate b.grammar hb.aggregate_eq_none hunions]
  . intro e
    cases b.query.render b.grammar <;> simp
  . intro inner hinner
    have htext : (Aggregate.render b.grammar b.query.distinct ⟨function, columns⟩ ++ " FROM (" ++
        inner ++ ") AS " ++ b.grammar.wrapTable "temp_table").text
          = b.grammar.overDerived function
              (b.grammar.aggregated b.query.distinct columns) inner.text := by
      unfold Grammar.overDerived
      simp [Aggregate.text_render, String.append_assoc]
    rw [hinner]
    refine ⟨_, rfl, htext, ?_⟩
    rw [htext]
    exact Grammar.overDerived_aggregated_iff

/-- Two members, with values in each and behind them; the first is asked for distinct rows. -/
def pagedUnion : Builder :=
  (Call.runAll [
    .selectRaw "?" [.int 1],
    .distinct,
    .union true ⟨none, [.table (.name "v"), .filterRaw .and "x = ?" [.int 2]]⟩,
    .orderByRaw "h(?)" [.int 3],
    .limit 4,
    .lock .update] (ofTable ⟨.mysql, "p_"⟩ (.name "u"))).builder

theorem pagedUnion_aggregate
    : pagedUnion.Made ∧ pagedUnion.isCompound ∧
        (pagedUnion.aggregate "count" [.name "*"]).values = [.int 1, .int 2, .int 3] ∧
        ∃ sql, (pagedUnion.aggregate "count" [.name "*"]).sql = .ok sql ∧
          sql.text = "SELECT count(*) AS aggregate FROM ((SELECT DISTINCT ? FROM `p_u`) " ++
            "UNION ALL (SELECT * FROM `p_v` WHERE x = ?) ORDER BY h(?) LIMIT 4 FOR UPDATE) " ++
            "AS `p_temp_table`" := by
  have hmade : pagedUnion.Made := (Made.ofTable _ _).runAll _
  have hcompound : pagedUnion.isCompound := rfl
  have hstar : pagedUnion.grammar.columnList [.name "*"] = "*" := by decide
  obtain ⟨hvalues, -, hwritten⟩ := aggregate_of_compound hmade hcompound "count" [.name "*"]
  obtain ⟨sql, hsql, -, hiff⟩ := hwritten _ rfl
  refine ⟨hmade, hcompound, hvalues, sql, hsql, ?_⟩
  rw [hiff.mpr fun _ => hstar]
  decide +kernel

/-- The names of two tables, those of the first without repetition. -/
def namedUnion : Builder :=
  (Call.runAll [
    .select [.name "name"],
    .distinct,
    .union true ⟨none, [.table (.name "admins"), .select [.name "name"]]⟩]
    (ofTable ⟨.mysql, ""⟩ (.name "users"))).builder

/-- A name that both tables have is counted once, although the statement gives it twice. -/
theorem namedUnion_aggregate_distinct
    : namedUnion.Made ∧ namedUnion.isCompound ∧
        ∃ inner sql, namedUnion.sql = .ok inner ∧
          (namedUnion.aggregate "count" [.name "name"]).sql = .ok sql ∧
          inner.text = "(SELECT DISTINCT `name` FROM `users`) UNION ALL " ++
            "(SELECT `name` FROM `admins`)" ∧
          sql.text = "SELECT count(DISTINCT `name`) AS aggregate FROM " ++
            "((SELECT DISTINCT `name` FROM `users`) UNION ALL (SELECT `name` FROM `admins`)) " ++
            "AS `temp_table`" ∧
          sql.text ≠ namedUnion.grammar.overDerived "count"
            (namedUnion.grammar.columnList [.name "name"]) inner.text := by
  refine ⟨(Made.ofTable _ _).runAll _, rfl, _, _, rfl, rfl, ?_, ?_, ?_⟩
  . rfl
  . rfl
  . decide

end Builder

end SqlForge
