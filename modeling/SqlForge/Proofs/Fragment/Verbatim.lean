import SqlForge.Proofs.Builder.Locality
import SqlForge.Proofs.Builder.Made
import SqlForge.Proofs.Builder.Passed
import SqlForge.Proofs.Fragment.Call

/-!
Raw SQL comes through a builder as it was given, and binds nothing but what comes with it.
-/

namespace SqlForge

namespace Builder

variable {b : Builder}

theorem Made.aggregate_eq_none (hb : b.Made) : b.query.aggregate = none := by
  induction hb with
  | new g => rfl
  | ofTable g t => rfl
  | nested _ _ => rfl
  | run call _ ih => rw [call.aggregate_run, ih]

/--
Raw SQL stands in a statement as it was given, apart from its neighbours, to any depth of the groups,
joins, subqueries and members that hold it, and it binds no values but those that it comes with. A
call puts it into a clause that is written. The exception is the document of one dialect that is
asked what it contains, where the arrow that gives text becomes the one that gives a document.
-/
theorem raw_sql_verbatim (hb : b.Made)
    : (∀ (q : Select) (g : Grammar) (sql : Sql),
        q.render g = .ok sql ∨ q.renderExists g = .ok sql →
        Woven sql.text (q.fragments.map (Fragment.written g.dialect))) ∧
      (∀ f, b.query.fragmentsOf f ⊆ b.query.fragments) ∧
      (∀ call : Call, (call.run b).builder.values.Subperm (b.values ++ call.passed)) ∧
      (∀ (call : Call) (f : Family), call.family? = some f → (call.run b).failure = none →
        (call.run b).builder.Holds f (call.fragments b) ∧
        ∀ sql : Sql, (call.run b).builder.sql = .ok sql → ∀ fragment ∈ call.fragments b,
          Occurs (fragment.written b.grammar.dialect) sql.text) ∧
      ∀ (fragment : Fragment) (d : Dialect), fragment.written d = fragment.given ↔
        ¬(d = .postgres ∧ ∃ s, fragment = .contained s ∧ "->>".toList <:+: s.toList) := by
  refine ⟨?_, Select.fragmentsOf_subset hb.aggregate_eq_none, fun call => call.takes_run b, ?_,
    fun _ _ => Fragment.written_eq_given_iff⟩
  . intro q g sql hsql
    cases hsql with
    | inl hsql => exact Select.weaves_render q hsql
    | inr hsql => exact Select.weaves_renderExists hsql
  . intro call f hf hok
    have hholds := Call.holds_run hf hok
    refine ⟨hholds, ?_⟩
    intro sql hsql fragment hmem
    obtain ⟨held, hheld, hoccurs⟩ := hholds fragment hmem b.grammar.dialect
    have hsubset := Select.fragmentsOf_subset (hb.run call).aggregate_eq_none f
    have hwoven := Select.weaves_render _ hsql
    rw [(Call.local_run call).grammar] at hwoven
    exact hoccurs.trans (hwoven.occurs (List.mem_map_of_mem (hsubset hheld)))

def ofUsers : Builder :=
  ofTable ⟨.postgres, ""⟩ (.name "users")

def tagged (document : String) : Call :=
  .filterJson .and (.raw document) (.array [.text "a"]) false

/-- The test stands in a group of a subquery. -/
def amongTagged (document : String) : Call :=
  .filterAmongRows .and (.raw "lower(name)")
    ⟨none, [.table (.raw "names n"), .filterGroup .or [tagged document]]⟩ false

theorem amongTagged_verbatim
    : ofUsers.Made ∧ ((amongTagged "n.doc->'tags'").run ofUsers).failure = none ∧
        ∃ sql, ((amongTagged "n.doc->'tags'").run ofUsers).builder.sql = .ok sql ∧
          sql.text = "SELECT * FROM \"users\" WHERE lower(name) IN " ++
            "(SELECT * FROM names n WHERE ((n.doc->'tags')::jsonb @> ?))" ∧
          Occurs "lower(name)" sql.text ∧ Occurs "n.doc->'tags'" sql.text := by
  have hmade : ofUsers.Made := .ofTable _ _
  obtain ⟨-, -, -, hcall, hwritten⟩ := raw_sql_verbatim hmade
  obtain ⟨-, hoccurs⟩ := hcall (amongTagged "n.doc->'tags'") .wheres rfl rfl
  have hinfix : ¬"->>".toList <:+: "n.doc->'tags'".toList := by decide
  have hsame : Fragment.written .postgres (.contained "n.doc->'tags'") = "n.doc->'tags'" := by
    apply (hwritten (.contained "n.doc->'tags'") .postgres).mpr
    rintro ⟨-, s, heq, harrow⟩
    cases heq
    exact hinfix harrow
  refine ⟨hmade, rfl, _, rfl, ?_, ?_, ?_⟩
  . decide +kernel
  . exact hoccurs _ rfl (.plain "lower(name)") (.head _)
  . rw [← hsame]
    exact hoccurs _ rfl (.contained "n.doc->'tags'") (.tail _ (.tail _ (.head _)))

/-- The document is given as SQL, and another arrow is written. -/
theorem tagged_arrow_rewritten
    : ofUsers.Made ∧ ((tagged "data->>'tags'").run ofUsers).failure = none ∧
        ∃ sql, ((tagged "data->>'tags'").run ofUsers).builder.sql = .ok sql ∧
          sql.text = "SELECT * FROM \"users\" WHERE (data->'tags')::jsonb @> ?" ∧
          ¬Occurs "data->>'tags'" sql.text := by
  have hinfix : ¬"data->>'tags'".toList
      <:+: "SELECT * FROM \"users\" WHERE (data->'tags')::jsonb @> ?".toList := by decide
  obtain ⟨sql, hsql, htext⟩ : ∃ sql, ((tagged "data->>'tags'").run ofUsers).builder.sql = .ok sql ∧
      sql.text = "SELECT * FROM \"users\" WHERE (data->'tags')::jsonb @> ?" :=
    ⟨_, rfl, by decide +kernel⟩
  refine ⟨.ofTable _ _, rfl, sql, hsql, htext, ?_⟩
  rw [htext]
  exact fun hoccurs => hinfix hoccurs.isInfix

end Builder

end SqlForge
