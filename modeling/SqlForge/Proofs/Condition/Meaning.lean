import SqlForge.Proofs.Builder.VettedRun
import SqlForge.Proofs.Condition.Reading
import SqlForge.Proofs.Select.Render

/-!
Conditions mean what is read: for all values of the conditions that are no groups, the written tree
has, with the usual precedence, the value of the tree.
-/

namespace SqlForge

/-! ### Trees -/

mutual
/-- The condition, or those of its group that are no groups. -/
def Condition.leaves : Condition → List Condition
  | .group clauses => clauseLeaves clauses
  | condition => [condition]

def clauseLeaves : List Clause → List Condition
  | [] => []
  | { condition, .. } :: clauses => condition.leaves ++ clauseLeaves clauses
end

mutual
/-- The value of a condition whose leaves are numbered from `n` on and have the values `σ`. -/
def Condition.holds (σ : Nat → Bool) (n : Nat) : Condition → Bool
  | .group clauses => anyRun (clauseValues σ n clauses)
  | _ => σ n

def clauseValues (σ : Nat → Bool) (n : Nat) : List Clause → List (Connective × Bool)
  | [] => []
  | { connective, condition } :: clauses =>
    (connective, condition.holds σ n) :: clauseValues σ (n + condition.leaves.length) clauses
end

mutual
/-- How a condition is written, its leaves numbered from `n` on. -/
def Condition.tokens (n : Nat) : Condition → List Token
  | .group clauses => .opening :: clauseTokens n clauses ++ [.closing]
  | condition => [.atom condition n]

def clauseTokens (n : Nat) : List Clause → List Token
  | [] => []
  | { condition, .. } :: clauses =>
    condition.tokens n ++ furtherTokens (n + condition.leaves.length) clauses

def furtherTokens (n : Nat) : List Clause → List Token
  | [] => []
  | { connective, condition } :: clauses =>
    .connective connective ::
      (condition.tokens n ++ furtherTokens (n + condition.leaves.length) clauses)
end

/-! ### Their text -/

variable {g : Grammar}

theorem Token.writeAll_cons_eq_ok {token : Token} {tokens : List Token} {s : String}
    : writeAll g (token :: tokens) = .ok s ↔
      ∃ first rest, token.write g = .ok first ∧ writeAll g tokens = .ok rest ∧
        first ++ rest = s := by
  rw [writeAll]
  simp only [bind_eq_ok, pure_eq_ok, exists_and_left]

theorem Token.writeAll_append {tokens more : List Token} {s s' : String}
    (h : writeAll g tokens = .ok s) (h' : writeAll g more = .ok s')
    : writeAll g (tokens ++ more) = .ok (s ++ s') := by
  induction tokens generalizing s with
  | nil =>
    cases h
    rw [List.nil_append, h', String.empty_append]
  | cons token tokens ih =>
    obtain ⟨first, rest, hfirst, hrest, heq⟩ := writeAll_cons_eq_ok.mp h
    rw [← heq, List.cons_append, writeAll_cons_eq_ok]
    exact ⟨first, rest ++ s', hfirst, ih hrest, (String.append_assoc ..).symm⟩

mutual
theorem Condition.writeAll_tokens {sql : Sql} (condition : Condition) (n : Nat)
    (h : condition.render g = .ok sql) : Token.writeAll g (condition.tokens n) = .ok sql.text := by
  cases condition with
  | group clauses =>
    rw [Condition.render] at h
    obtain ⟨inner, hinner, heq⟩ := bind_eq_ok.mp h
    have hclauses := writeAll_clauseTokens clauses n hinner
    have hclosing : Token.writeAll g [.closing] = .ok ")" := rfl
    have hclosed := Token.writeAll_append hclauses hclosing
    rw [Condition.tokens, List.cons_append, Token.writeAll_cons_eq_ok]
    refine ⟨"(", inner.text ++ ")", rfl, hclosed, ?_⟩
    rw [← pure_eq_ok.mp heq, Sql.text_append, Sql.text_append, String.append_assoc]
    simp only [Sql.text_coe]
  | _ =>
    rw [Condition.tokens]
    . rw [Token.writeAll_cons_eq_ok]
      refine ⟨sql.text, "", ?_, rfl, String.append_empty⟩
      rw [Token.write, h]
      rfl
    all_goals
      intro _ hgroup
      cases hgroup

theorem writeAll_clauseTokens {sql : Sql} (clauses : List Clause) (n : Nat)
    (h : renderClauses g clauses = .ok sql)
    : Token.writeAll g (clauseTokens n clauses) = .ok sql.text := by
  cases clauses with
  | nil =>
    rw [renderClauses] at h
    cases h
    rfl
  | cons clause clauses =>
    obtain ⟨c, condition⟩ := clause
    obtain ⟨first, rest, hfirst, hrest, heq⟩ := renderClauses_cons_eq_ok.mp h
    rw [clauseTokens, ← heq, Sql.text_append]
    exact Token.writeAll_append (condition.writeAll_tokens n hfirst)
      (writeAll_furtherTokens clauses _ hrest)

theorem writeAll_furtherTokens {sql : Sql} (clauses : List Clause) (n : Nat)
    (h : renderFurther g clauses = .ok sql)
    : Token.writeAll g (furtherTokens n clauses) = .ok sql.text := by
  cases clauses with
  | nil =>
    rw [renderFurther] at h
    cases h
    rfl
  | cons clause clauses =>
    obtain ⟨c, condition⟩ := clause
    obtain ⟨first, rest, hfirst, hrest, heq⟩ := renderFurther_cons_eq_ok.mp h
    have htail := Token.writeAll_append (condition.writeAll_tokens n hfirst)
      (writeAll_furtherTokens clauses (n + condition.leaves.length) hrest)
    rw [furtherTokens, Token.writeAll_cons_eq_ok]
    refine ⟨" " ++ c.sql ++ " ", first.text ++ rest.text, rfl, htail, ?_⟩
    rw [← heq]
    simp only [Sql.text_append, Sql.text_coe, String.append_assoc]
end

/-! ### Their atoms -/

mutual
theorem Condition.atoms_tokens (condition : Condition) (n : Nat)
    : (condition.tokens n).filterMap Token.atom? = condition.leaves.zipIdx n := by
  cases condition with
  | group clauses =>
    have hclauses := atoms_clauseTokens clauses n
    rw [Condition.tokens, Condition.leaves, List.filterMap_append, List.filterMap_cons, hclauses]
    exact List.append_nil _
  | _ =>
    rw [Condition.tokens, Condition.leaves]
    . rfl
    all_goals
      intro _ hgroup
      cases hgroup

theorem atoms_clauseTokens (clauses : List Clause) (n : Nat)
    : (clauseTokens n clauses).filterMap Token.atom? = (clauseLeaves clauses).zipIdx n := by
  cases clauses with
  | nil => rfl
  | cons clause clauses =>
    obtain ⟨c, condition⟩ := clause
    have hfirst := condition.atoms_tokens n
    have hrest := atoms_furtherTokens clauses (n + condition.leaves.length)
    rw [clauseTokens, clauseLeaves, List.filterMap_append, List.zipIdx_append, hfirst, hrest]

theorem atoms_furtherTokens (clauses : List Clause) (n : Nat)
    : (furtherTokens n clauses).filterMap Token.atom? = (clauseLeaves clauses).zipIdx n := by
  cases clauses with
  | nil => rfl
  | cons clause clauses =>
    obtain ⟨c, condition⟩ := clause
    have hfirst := condition.atoms_tokens n
    have hrest := atoms_furtherTokens clauses (n + condition.leaves.length)
    rw [furtherTokens, clauseLeaves, List.filterMap_cons, List.zipIdx_append]
    change (condition.tokens n ++ _).filterMap Token.atom? = _
    rw [List.filterMap_append, hfirst, hrest]
end

/-! ### Their value -/

variable {σ : Nat → Bool}

mutual
theorem Condition.readOperand_tokens {outer : List Frame} {frame : Frame} {tokens : List Token}
    (condition : Condition) (n : Nat)
    (h : ∀ inner, .group inner ∈ condition.conditions → inner ≠ [])
    : readOperand σ outer frame (condition.tokens n ++ tokens)
        = readRest σ outer (frame.and (condition.holds σ n)) tokens := by
  cases condition with
  | group clauses =>
    rw [Condition.conditions] at h
    have hne := h clauses List.mem_cons_self
    have hinner := fun inner hmem => h inner (List.mem_cons_of_mem _ hmem)
    obtain ⟨within, hread, hvalue⟩ :=
      readOperand_clauseTokens (frame :: outer) (.closing :: tokens) clauses n hne hinner
    rw [Condition.tokens, Condition.holds, List.cons_append, List.cons_append, readOperand,
      List.append_assoc, List.singleton_append, hread, readRest, hvalue]
  | _ =>
    rw [Condition.tokens, Condition.holds]
    . rfl
    all_goals
      intro _ hgroup
      cases hgroup

theorem readOperand_clauseTokens (outer : List Frame) (tokens : List Token) (clauses : List Clause)
    (n : Nat) (hne : clauses ≠ [])
    (h : ∀ inner, .group inner ∈ clauseConditions clauses → inner ≠ [])
    : ∃ frame : Frame, readOperand σ outer .start (clauseTokens n clauses ++ tokens)
          = readRest σ outer frame tokens ∧
        frame.value = anyRun (clauseValues σ n clauses) := by
  cases clauses with
  | nil => contradiction
  | cons clause clauses =>
    obtain ⟨c, condition⟩ := clause
    rw [clauseConditions_cons] at h
    have hfirst := fun inner hmem => h inner (List.mem_append_left _ hmem)
    have hrest := fun inner hmem => h inner (List.mem_append_right _ hmem)
    rw [clauseTokens, clauseValues, anyRun_cons, List.append_assoc,
      condition.readOperand_tokens n hfirst, readRest_furtherTokens clauses _ hrest]
    exact ⟨_, rfl, rfl⟩

theorem readRest_furtherTokens {outer : List Frame} {frame : Frame} {tokens : List Token}
    (clauses : List Clause) (n : Nat)
    (h : ∀ inner, .group inner ∈ clauseConditions clauses → inner ≠ [])
    : readRest σ outer frame (furtherTokens n clauses ++ tokens)
        = readRest σ outer ((clauseValues σ n clauses).foldl Frame.extend frame) tokens := by
  cases clauses with
  | nil => rfl
  | cons clause clauses =>
    obtain ⟨c, condition⟩ := clause
    rw [clauseConditions_cons] at h
    have hfirst := fun inner hmem => h inner (List.mem_append_left _ hmem)
    have hrest := fun inner hmem => h inner (List.mem_append_right _ hmem)
    rw [furtherTokens, clauseValues, List.cons_append, List.append_assoc, List.foldl_cons]
    cases c with
    | and =>
      rw [readRest, condition.readOperand_tokens n hfirst, readRest_furtherTokens clauses _ hrest]
      rfl
    | or =>
      rw [readRest, condition.readOperand_tokens n hfirst, readRest_furtherTokens clauses _ hrest]
      rfl
end

theorem read_clauseTokens {clauses : List Clause} (σ : Nat → Bool) (hne : clauses ≠ [])
    (h : ∀ inner, .group inner ∈ clauseConditions clauses → inner ≠ [])
    : read σ (clauseTokens 0 clauses) = some (anyRun (clauseValues σ 0 clauses)) := by
  obtain ⟨frame, hread, hvalue⟩ := readOperand_clauseTokens [] [] clauses 0 hne h
  rw [List.append_nil] at hread
  rw [read, hread, readRest, hvalue]

namespace Builder

/--
The conditions that are written for rows, for groups, for a join or between parentheses are read as
they are meant, whatever the values of those among them that are no groups. Unless there are none,
they start with an operand, and so does what stands between parentheses.
-/
theorem clauses_read {b : Builder} (hb : b.Made) {q : Select} (hq : b.query.Part q)
    {clauses : List Clause} (htree : q.Tree clauses) {sql : Sql}
    (h : renderClauses g clauses = .ok sql)
    : (clauses = [] ∧ sql.text = "") ∨
        ∃ tokens, Token.writeAll g tokens = .ok sql.text ∧
          tokens.filterMap Token.atom? = (clauseLeaves clauses).zipIdx ∧
          (.opening :: tokens).IsChain Token.Follows ∧
          ∀ σ, read σ tokens = some (anyRun (clauseValues σ 0 clauses)) := by
  obtain ⟨maker, hmaker, heq⟩ := hb.recorded_of_part hq
  have hgroups : ∀ inner, .group inner ∈ clauseConditions clauses → inner ≠ [] := by
    intro inner hinner
    have hvetted := hmaker.vetted.conditions _ (heq ▸ htree.subset hinner)
    exact hvetted.1
  by_cases hne : clauses = []
  . rw [hne, renderClauses] at h
    cases h
    exact .inl ⟨hne, rfl⟩
  . have hread := fun σ => read_clauseTokens σ hne hgroups
    exact .inr ⟨clauseTokens 0 clauses, writeAll_clauseTokens clauses 0 h,
      atoms_clauseTokens clauses 0, isChain_of_read (hread fun _ => true), hread⟩

/-- Two groups, one in the other, and one that stays empty. -/
def grouped : Builder :=
  (Call.runAll [
    .filterNull .or (.raw "a") false,
    .filterGroup .and [],
    .filterGroup .and [
      .filterNull .or (.raw "b") false,
      .filterGroup .or [.filterNull .or (.raw "c") false, .filterNull .and (.raw "d") true]],
    .filterNull .or (.raw "e") false] (.new ⟨.sqlite, ""⟩)).builder

theorem grouped_clauses_read
    : ∃ tokens,
        Token.writeAll ⟨.sqlite, ""⟩ tokens = .ok
          "a IS NULL AND (b IS NULL OR (c IS NULL AND d IS NOT NULL)) OR e IS NULL" ∧
        ∀ σ, read σ tokens = some (σ 0 && (σ 1 || σ 2 && σ 3) || σ 4) := by
  have hmade : grouped.Made := (Made.new ⟨.sqlite, ""⟩).runAll _
  obtain ⟨sql, hsql⟩ : ∃ sql, renderClauses ⟨.sqlite, ""⟩ grouped.query.wheres = .ok sql := ⟨_, rfl⟩
  have htext : sql.text
      = "a IS NULL AND (b IS NULL OR (c IS NULL AND d IS NOT NULL)) OR e IS NULL" := by
    cases hsql
    decide +kernel
  rcases clauses_read hmade .self .wheres hsql with ⟨hempty, _⟩ | ⟨tokens, hwrite, _, _, hread⟩
  . cases hempty
  . refine ⟨tokens, htext ▸ hwrite, ?_⟩
    intro σ
    rw [hread σ]
    change some (anyRun [(.or, σ 0),
      (.and, anyRun [(.or, σ 1), (.or, anyRun [(.or, σ 2), (.and, σ 3)])]), (.or, σ 4)]) = _
    simp [anyRun_cons, Frame.extend, Frame.start, Frame.and, Frame.or, Frame.value]

end Builder

end SqlForge
