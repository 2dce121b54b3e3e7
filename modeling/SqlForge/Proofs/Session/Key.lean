import SqlForge.Proofs.Condition.Implied
import SqlForge.Proofs.Fragment.Verbatim
import SqlForge.Proofs.Session.Plan
import SqlForge.Session.Script

/-!
Reading and deleting by the key of a row. The test of the key is added to the conditions on rows by
AND, so it narrows those behind the last OR and no others.
-/

namespace SqlForge

/-! ### Where the conditions on rows are written -/

variable {g : Grammar} {sql : Sql}

theorem where_append_ne_empty (wheres : Sql) : ("WHERE " ++ wheres : Sql).text ≠ "" := by
  rw [Sql.text_append, Sql.text_coe]
  intro h
  have := (String.append_eq_empty_iff.mp h).1
  contradiction

namespace Select

variable {q : Select}

theorem occurs_wheres (haggregate : q.aggregate = none) (hunions : q.unions = [])
    (hwheres : q.wheres ≠ []) (h : q.render g = .ok sql)
    : ∃ wheres, renderClauses g q.wheres = .ok wheres ∧
        Occurs ("WHERE " ++ wheres : Sql).text sql.text := by
  obtain ⟨p, -, hp, -, -, heq⟩ := render_eq_ok.mp h
  refine ⟨p.wheres, hp, ?_⟩
  have hshown := where_append_ne_empty p.wheres
  have hheaded : headed "WHERE " q.wheres p.wheres = "WHERE " ++ p.wheres :=
    if_neg (by simpa using hwheres)
  have hwhole : q.renderWhole g none p = q.renderSingle g none p := if_pos (by simp [hunions])
  have hsingle : Occurs ("WHERE " ++ p.wheres : Sql).text (q.renderSingle g none p).text := by
    rw [renderSingle, hheaded]
    exact Sql.occurs_words (by simp) hshown
  rw [← heq, assemble, haggregate]
  dsimp only
  rw [renderBody, hwhole]
  exact hsingle.trans (Sql.occurs_words (.head _) (hsingle.ne_empty hshown))

theorem renderWheres_of_ne (hwheres : q.wheres ≠ []) (h : q.renderWheres g = .ok sql)
    : ∃ wheres, renderClauses g q.wheres = .ok wheres ∧ sql = "WHERE " ++ wheres := by
  have hne : ¬q.wheres.isEmpty := by simpa using hwheres
  rw [renderWheres, if_neg hne] at h
  obtain ⟨wheres, hok, heq⟩ := bind_eq_ok.mp h
  exact ⟨wheres, hok, (pure_eq_ok.mp heq).symm⟩

end Select

namespace Builder

variable {b : Builder}

/-- The statement of the rows keeps their conditions. -/
theorem occurs_wheres_isRow (hunions : b.query.unions = []) (hwheres : b.query.wheres ≠ [])
    (h : b.isRow = .ok sql)
    : ∃ wheres, renderClauses b.grammar b.query.wheres = .ok wheres ∧
        Occurs ("WHERE " ++ wheres : Sql).text sql.text := by
  rw [isRow] at h
  obtain ⟨identities, hidentities, h⟩ := bind_eq_ok.mp h
  obtain ⟨rows, hrows, h⟩ := bind_eq_ok.mp h
  have hsame : identities.aggregate = none ∧ identities.unions = b.query.unions ∧
      identities.wheres = b.query.wheres := by
    unfold rowIdentities at hidentities
    split at hidentities
    . cases hidentities
      exact ⟨rfl, rfl, rfl⟩
    . cases hidentities
  obtain ⟨haggregate, hunions', hwheres'⟩ := hsame
  rw [← hunions'] at hunions
  rw [← hwheres'] at hwheres ⊢
  obtain ⟨wheres, hok, hoccurs⟩ := Select.occurs_wheres haggregate hunions hwheres hrows
  have hbefore : opens (b.grammar.wrap b.grammar.dialect.rowIdentity ++ " IN (") :=
    opens_append_of_ne _ (by decide) (by decide)
  have hafter : closes ")" := by decide
  refine ⟨wheres, hok, ?_⟩
  rw [← pure_eq_ok.mp h]
  simpa only [Sql.text_append, Sql.text_coe] using hoccurs.append_around hbefore hafter

theorem occurs_wheres_deleteSql (hunions : b.query.unions = []) (hwheres : b.query.wheres ≠ [])
    (h : b.deleteSql = .ok sql)
    : ∃ wheres, renderClauses b.grammar b.query.wheres = .ok wheres ∧
        Occurs ("WHERE " ++ wheres : Sql).text sql.text := by
  rw [deleteSql] at h
  obtain ⟨table, -, h⟩ := bind_eq_ok.mp h
  split at h
  . obtain ⟨joins, -, h⟩ := bind_eq_ok.mp h
    obtain ⟨clause, hclause, h⟩ := bind_eq_ok.mp h
    obtain ⟨wheres, hok, rfl⟩ := Select.renderWheres_of_ne hwheres hclause
    refine ⟨wheres, hok, ?_⟩
    split at h
    . rw [← pure_eq_ok.mp h]
      exact Sql.occurs_words (by simp) (where_append_ne_empty wheres)
    . rw [← pure_eq_ok.mp h]
      exact Sql.occurs_words (by simp) (where_append_ne_empty wheres)
  -- The other dialects share their shapes.
  all_goals
    split at h
    . obtain ⟨clause, hclause, h⟩ := bind_eq_ok.mp h
      obtain ⟨wheres, hok, rfl⟩ := Select.renderWheres_of_ne hwheres hclause
      rw [← pure_eq_ok.mp h]
      exact ⟨wheres, hok, Sql.occurs_words (by simp) (where_append_ne_empty wheres)⟩
    . obtain ⟨isRow, hisRow, h⟩ := bind_eq_ok.mp h
      obtain ⟨wheres, hok, hoccurs⟩ := occurs_wheres_isRow hunions hwheres hisRow
      have hbefore : opens ("DELETE FROM " ++ table.text ++ " WHERE ") :=
        opens_append_of_ne _ (by decide) (by decide)
      have hafter : closes "" := by decide
      have hlast := hoccurs.append_around hbefore hafter
      refine ⟨wheres, hok, ?_⟩
      rw [← pure_eq_ok.mp h]
      simpa only [Sql.text_append, Sql.text_coe, String.append_empty] using hlast

end Builder

/-! ### Keys -/

namespace Builder

variable {b : Builder}

/-- What is asked of the row with the key. -/
def keyCondition (b : Builder) : Value → Condition
  | .null => .isNull (.name b.keyOfSource) false
  | key => .compare (.name b.keyOfSource) "=" (.value key)

theorem wheres_withKey (b : Builder) (key : Value)
    : (b.withKey key).query.wheres = b.query.wheres ++ [⟨.and, b.keyCondition key⟩] := by
  cases key <;> rfl

theorem isLeaf_keyCondition (b : Builder) (key : Value) : (b.keyCondition key).IsLeaf := by
  intro clauses h
  cases key <;> cases h

theorem limit_one (hunions : b.query.unions = [])
    : b.limit 1 = { b with query := { b.query with limit := some 1 } } := by
  have hsingle : b.isCompound = false := by simp [isCompound, hunions]
  rw [limit, hsingle]
  rfl

theorem occurs_wheres_first (haggregate : b.query.aggregate = none) (hunions : b.query.unions = [])
    (hwheres : b.query.wheres ≠ []) {s : Statement} (h : (b.limit 1).statement = .ok s)
    : ∃ wheres, renderClauses b.grammar b.query.wheres = .ok wheres ∧
        Occurs ("WHERE " ++ wheres : Sql).text s.sql := by
  obtain ⟨sql, hsql, heq⟩ := bind_eq_ok.mp h
  rw [limit_one hunions] at hsql
  rw [← pure_eq_ok.mp heq]
  exact Select.occurs_wheres (q := { b.query with limit := some 1 }) haggregate hunions hwheres hsql

theorem groups_ne_nil (hb : b.Made) {clauses : List Clause}
    (h : .group clauses ∈ clauseConditions b.query.wheres) : clauses ≠ [] :=
  (hb.vetted.conditions _ (Select.Tree.wheres.subset h)).1

/-- What is sent to read or to delete the row with the key has all the conditions. -/
theorem occurs_wheres_of_mem_requests (hb : b.Made) (hunions : b.query.unions = []) {key : Value}
    {σ : Type} {c : Connection σ} {state : σ} {request : Request}
    (h : request ∈ ((c.find b key).run { driver := state }).2.requests ∨
      request ∈ ((c.deleteKey b key).run { driver := state }).2.requests)
    : ∃ s wheres, (request = .select s ∨ request = .affect s) ∧
        renderClauses b.grammar (b.withKey key).query.wheres = .ok wheres ∧
        Occurs ("WHERE " ++ wheres : Sql).text s.sql := by
  have hne : (b.withKey key).query.wheres ≠ [] := by simp [wheres_withKey]
  have hunions' : (b.withKey key).query.unions = [] := hunions
  have haggregate : (b.withKey key).query.aggregate = none := hb.aggregate_eq_none
  cases h with
  | inl hfind =>
    obtain ⟨stages, hplan, hmem⟩ := (follows_first c (b.withKey key) _).mem_requests hfind
    obtain ⟨s, hs, heq⟩ := bind_eq_ok.mp hplan
    rw [← pure_eq_ok.mp heq] at hmem
    obtain ⟨wheres, hok, hoccurs⟩ := occurs_wheres_first haggregate hunions' hne hs
    exact ⟨s, wheres, .inl (List.mem_singleton.mp hmem), hok, hoccurs⟩
  | inr hdelete =>
    obtain ⟨stages, hplan, hmem⟩ := (follows_delete c (b.withKey key) _).mem_requests hdelete
    obtain ⟨s, hs, heq⟩ := bind_eq_ok.mp hplan
    obtain ⟨sql, hsql, hs⟩ := bind_eq_ok.mp hs
    rw [← pure_eq_ok.mp heq] at hmem
    obtain ⟨wheres, hok, hoccurs⟩ := occurs_wheres_deleteSql hunions' hne hsql
    refine ⟨s, wheres, .inr (List.mem_singleton.mp hmem), hok, ?_⟩
    rw [← pure_eq_ok.mp hs]
    exact hoccurs

/--
The statement that reads or deletes the row with a key has the test of the key behind the other
conditions. Read with the usual precedence, all of them together imply the test just if none of the
others was added by OR; the connective of the first is not written.
-/
theorem keyed_requests (hb : b.Made) (hunions : b.query.unions = []) (key : Value)
    : ∃ tokens,
        tokens.filterMap Token.atom?
          = (clauseLeaves b.query.wheres ++ [b.keyCondition key]).zipIdx ∧
        (∀ τ, (read τ tokens).isSome) ∧
        ((∀ τ, read τ tokens = some true → τ (clauseLeaves b.query.wheres).length = true) ↔
          ∀ clause ∈ b.query.wheres.tail, clause.connective = .and) ∧
        ∀ (σ : Type) (c : Connection σ) (state : σ) (request : Request),
          request ∈ ((c.find b key).run { driver := state }).2.requests ∨
            request ∈ ((c.deleteKey b key).run { driver := state }).2.requests →
          ∃ s wheres, (request = .select s ∨ request = .affect s) ∧
            Token.writeAll b.grammar tokens = .ok wheres ∧ Occurs ("WHERE " ++ wheres) s.sql := by
  have hkey := b.isLeaf_keyCondition key
  have hwheres := b.wheres_withKey key
  have hleaves : clauseLeaves (b.withKey key).query.wheres
      = clauseLeaves b.query.wheres ++ [b.keyCondition key] := by
    rw [hwheres, clauseLeaves_append, clauseLeaves, clauseLeaves, hkey.leaves, List.append_nil]
  have hread : ∀ τ, read τ (clauseTokens 0 (b.withKey key).query.wheres)
      = some (anyRun (clauseValues τ 0 (b.withKey key).query.wheres)) := by
    intro τ
    apply read_clauseTokens
    . simp [hwheres]
    . intro clauses
      exact groups_ne_nil (hb.run (.filterEqual .and (.name b.keyOfSource) (.value key)))
  refine ⟨clauseTokens 0 (b.withKey key).query.wheres, ?_, ?_, ?_, ?_⟩
  . rw [atoms_clauseTokens, hleaves]
  . intro τ
    rw [hread]
    rfl
  . simp only [hread, Option.some.injEq]
    rw [hwheres]
    exact anyRun_implies_last_iff hkey fun clauses => groups_ne_nil hb
  . intro σ c state request hrequest
    obtain ⟨s, wheres, hs, hok, hoccurs⟩ := occurs_wheres_of_mem_requests hb hunions hrequest
    rw [Sql.text_append, Sql.text_coe] at hoccurs
    exact ⟨s, wheres.text, hs, writeAll_clauseTokens _ 0 hok, hoccurs⟩

/-- A connection whose driver finds no row. -/
def answerless : Connection Script where
  config := { dialect := .mysql }
  driver := Script.driver

def answerlessState : Script where
  rows := []
  affected := 0
  key := 0
  failure := none

def filtered (calls : List Call) : Builder :=
  (Call.runAll calls (ofTable ⟨.mysql, ""⟩ (.name "users"))).builder

/-- The OR stands between parentheses. -/
def narrowed : Builder :=
  filtered [
    .filterEqual .or (.name "a") (.value (.int 1)),
    .filterGroup .and [
      .filterEqual .and (.name "b") (.value (.int 2)),
      .filterEqual .or (.name "c") (.value .null)]]

theorem narrowed_keyed
    : narrowed.Made ∧ narrowed.query.unions = [] ∧
        ∃ tokens s,
          (∀ τ, read τ tokens = some true → τ 3 = true) ∧
          ((answerless.find narrowed (.int 3)).run { driver := answerlessState }).2.requests
            = [.select s] ∧
          s.sql = "SELECT * FROM `users` WHERE `a` = ? AND (`b` = ? OR `c` IS NULL) AND " ++
            "`users`.`id` = ? LIMIT 1" ∧
          ∃ wheres, Token.writeAll ⟨.mysql, ""⟩ tokens = .ok wheres ∧
            Occurs ("WHERE " ++ wheres) s.sql := by
  have hmade : narrowed.Made := (Made.ofTable ⟨.mysql, ""⟩ (.name "users")).runAll _
  have hand : ∀ clause ∈ narrowed.query.wheres.tail, clause.connective = .and := by
    intro clause hclause
    cases List.mem_singleton.mp hclause
    rfl
  obtain ⟨tokens, -, -, hiff, hsent⟩ := keyed_requests hmade rfl (.int 3)
  obtain ⟨s, hs, hsql⟩ : ∃ s,
      ((answerless.find narrowed (.int 3)).run { driver := answerlessState }).2.requests
        = [.select s] ∧
      s.sql = "SELECT * FROM `users` WHERE `a` = ? AND (`b` = ? OR `c` IS NULL) AND " ++
        "`users`.`id` = ? LIMIT 1" := ⟨_, rfl, by decide⟩
  have hmem := List.mem_singleton_self (Request.select s)
  rw [← hs] at hmem
  obtain ⟨s', wheres, hselect, hwrite, hoccurs⟩ := hsent Script answerless _ _ (.inl hmem)
  obtain rfl : s = s' := by
    rcases hselect with hselect | hselect <;> cases hselect
    rfl
  exact ⟨hmade, rfl, tokens, s, hiff.mpr hand, hs, hsql, wheres, hwrite, hoccurs⟩

/-- One of two conditions is enough. -/
def either : Builder :=
  filtered [
    .filterEqual .and (.name "a") (.value (.int 1)),
    .filterEqual .or (.name "b") (.value (.int 2))]

/-- A row that fulfils the first condition is found and deleted whatever its key is. -/
theorem either_not_keyed
    : either.Made ∧ either.query.unions = [] ∧
        ∃ tokens s s',
          ((answerless.find either (.int 3)).run { driver := answerlessState }).2.requests
            = [.select s] ∧
          s.sql = "SELECT * FROM `users` WHERE `a` = ? OR `b` = ? AND `users`.`id` = ? LIMIT 1" ∧
          ((answerless.deleteKey either (.int 3)).run { driver := answerlessState }).2.requests
            = [.affect s'] ∧
          s'.sql = "DELETE FROM `users` WHERE `a` = ? OR `b` = ? AND `users`.`id` = ?" ∧
          Token.writeAll ⟨.mysql, ""⟩ tokens = .ok "`a` = ? OR `b` = ? AND `users`.`id` = ?" ∧
          tokens.getLast? = some (.atom (either.keyCondition (.int 3)) 2) ∧
          ∃ τ, read τ tokens = some true ∧ τ 2 = false := by
  let tokens := clauseTokens 0 (either.withKey (.int 3)).query.wheres
  obtain ⟨s, hs, hsql⟩ : ∃ s,
      ((answerless.find either (.int 3)).run { driver := answerlessState }).2.requests
        = [.select s] ∧
      s.sql = "SELECT * FROM `users` WHERE `a` = ? OR `b` = ? AND `users`.`id` = ? LIMIT 1" :=
    ⟨_, rfl, by decide⟩
  obtain ⟨s', hs', hsql'⟩ : ∃ s,
      ((answerless.deleteKey either (.int 3)).run { driver := answerlessState }).2.requests
        = [.affect s] ∧
      s.sql = "DELETE FROM `users` WHERE `a` = ? OR `b` = ? AND `users`.`id` = ?" :=
    ⟨_, rfl, by decide⟩
  refine ⟨(Made.ofTable ⟨.mysql, ""⟩ (.name "users")).runAll _, rfl, tokens, s, s', hs, hsql,
    hs', hsql', ?_, rfl, fun n => n = 0, rfl, rfl⟩
  have hwrite : ∃ text, Token.writeAll ⟨.mysql, ""⟩ tokens = .ok text ∧
      text = "`a` = ? OR `b` = ? AND `users`.`id` = ?" := ⟨_, rfl, by decide⟩
  obtain ⟨text, hwrite, rfl⟩ := hwrite
  exact hwrite

end Builder

end SqlForge
