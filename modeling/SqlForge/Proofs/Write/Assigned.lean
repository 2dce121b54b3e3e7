import Mathlib.Data.List.Nodup
import SqlForge.Proofs.Fragment.Part
import SqlForge.Proofs.Name.Reference
import SqlForge.Proofs.Record
import SqlForge.Session.Write

/-!
What an UPDATE assigns. Each column of the record is a target once, but two columns can be the same
target where the qualifiers are left out, and a step is no step if the column is assigned besides.
-/

namespace SqlForge

namespace Identifier

variable {s t : String}

theorem segments_injective (h : segments s = segments t) : s = t := by
  have hparts : splitDots s.toList = splitDots t.toList := by
    have hchars := congrArg (List.map String.toList) h
    simpa [segments, List.map_map, Function.comp_def] using hchars
  apply String.toList_inj.mp
  rw [← intercalate_splitDots s.toList, hparts, intercalate_splitDots]

theorem segments_lastSegment (s : String) : segments (lastSegment s) = [lastSegment s] :=
  segments_of_dotless (dotless_of_mem_segments (lastSegment_mem_segments s))

theorem Bare.lastSegment (h : Bare s) : Bare (lastSegment s) :=
  h.of_infix (infix_of_mem_segments (lastSegment_mem_segments s))

end Identifier

namespace Grammar

variable {g : Grammar} {s t : String}

/-! ### The targets -/

/-- The target of an assignment as it is written. -/
def assigned (g : Grammar) (column : String) : String :=
  match g.dialect with
  | .mysql => g.wrap column
  | .postgres | .sqlite => g.wrap (Identifier.lastSegment column)

/-- The segments that name a column in an assignment. -/
def assignedSegments (d : Dialect) (column : String) : List String :=
  match d with
  | .mysql => Identifier.segments column
  | .postgres | .sqlite => [Identifier.lastSegment column]

theorem spelled_wrap_of_bare (g : Grammar) (hs : Identifier.Bare s)
    : Spelled g.dialect (g.wrap s) (g.dottedLexemes false (Identifier.segments s)) := by
  rw [wrap, wrapName_of_bare g false hs]
  exact spelled_wrapDotted g false s

theorem segmentLexeme_injective (h : segmentLexeme s = segmentLexeme t) : s = t := by
  unfold segmentLexeme at h
  split at h
  . next hs =>
    split at h
    . next ht => rw [hs, ht]
    . cases h
  . split at h
    . cases h
    . cases h
      rfl

theorem length_dottedLexemes (g : Grammar) (segments : List String)
    : (g.dottedLexemes false segments).length = segments.length + (segments.length - 1) := by
  cases segments with
  | nil => rfl
  | cons segment rest =>
    cases rest with
    | nil => rfl
    | cons next rest =>
      simp only [dottedLexemes, List.length_intersperse, List.length_cons, List.length_map]
      omega

theorem dottedLexemes_injective {parts others : List String}
    (h : g.dottedLexemes false parts = g.dottedLexemes false others) : parts = others := by
  have hlength : parts.length = others.length := by
    have hlength := congrArg List.length h
    rw [length_dottedLexemes, length_dottedLexemes] at hlength
    omega
  have hmap : Function.Injective (List.map segmentLexeme) :=
    List.map_injective_iff.mpr fun _ _ => segmentLexeme_injective
  cases parts with
  | nil =>
    rw [List.eq_nil_of_length_eq_zero hlength.symm]
  | cons part parts =>
    cases others with
    | nil => cases hlength
    | cons other others =>
      cases parts with
      | nil =>
        cases others with
        | nil => rw [segmentLexeme_injective (List.cons.inj h).1]
        | cons => cases hlength
      | cons =>
        cases others with
        | nil => cases hlength
        | cons =>
          obtain ⟨hfirst, hrest⟩ := List.cons.inj (eq_of_intersperse_eq h)
          rw [hmap hrest, (String.append_right_inj _).mp (Lexeme.identifier.inj hfirst)]

theorem wrap_inj_of_bare (hs : Identifier.Bare s) (ht : Identifier.Bare t)
    (h : g.wrap s = g.wrap t) : s = t := by
  have hlex := (g.spelled_wrap_of_bare hs).lex_eq
  rw [h, (g.spelled_wrap_of_bare ht).lex_eq] at hlex
  exact Identifier.segments_injective (dottedLexemes_injective (Option.some.inj hlex).symm)

theorem lex_assigned (g : Grammar) {column : String} (hcolumn : Identifier.Bare column)
    : lex g.dialect (g.assigned column).toList
      = some (g.dottedLexemes false (assignedSegments g.dialect column)) := by
  have hlast := (g.spelled_wrap_of_bare hcolumn.lastSegment).lex_eq
  rw [Identifier.segments_lastSegment] at hlast
  unfold assigned assignedSegments
  split
  . exact (g.spelled_wrap_of_bare hcolumn).lex_eq
  . exact hlast
  . exact hlast

/-- Targets are told apart by what is left of the columns without their qualifiers. -/
theorem nodup_assigned_iff (g : Grammar) {columns : List String} (hnodup : columns.Nodup)
    (h : ∀ column ∈ columns, Identifier.Bare column)
    : (columns.map g.assigned).Nodup ↔
      g.dialect = .mysql ∨ (columns.map Identifier.lastSegment).Nodup := by
  cases hdialect : g.dialect with
  | mysql =>
    have hassigned : g.assigned = g.wrap := by
      funext column
      rw [assigned, hdialect]
    rw [hassigned, List.nodup_map_iff_inj_on hnodup]
    simp only [true_or, iff_true]
    intro s hs t ht heq
    exact wrap_inj_of_bare (h s hs) (h t ht) heq
  | postgres | sqlite =>
    have hassigned : g.assigned = g.wrap ∘ Identifier.lastSegment := by
      funext column
      rw [assigned, hdialect]
      rfl
    have hinj : ∀ s ∈ columns.map Identifier.lastSegment,
        ∀ t ∈ columns.map Identifier.lastSegment, g.wrap s = g.wrap t → s = t := by
      intro s hs t ht heq
      obtain ⟨c, hc, rfl⟩ := List.mem_map.mp hs
      obtain ⟨c', hc', rfl⟩ := List.mem_map.mp ht
      exact wrap_inj_of_bare (h c hc).lastSegment (h c' hc').lastSegment heq
    rw [hassigned, ← List.map_map]
    simp only [reduceCtorEq, false_or]
    exact ⟨List.Nodup.of_map _, fun hlast => hlast.map_on hinj⟩

/-! ### The assignments -/

/-- An assignment as it is written. -/
def assignment (g : Grammar) (field : String × Operand) : String :=
  g.assigned field.1 ++ " = " ++ field.2.sql.text

theorem text_assignments (g : Grammar) (r : Record)
    : (assignments g r).text = ", ".intercalate (r.fields.map g.assignment) := by
  rw [assignments, Sql.text_join, List.map_map]
  congr 2
  funext field
  simp only [Function.comp_apply, Sql.text_append, Sql.text_coe, assignment]
  rfl

/-- The step that a column is assigned, as it is written. -/
def stepText (g : Grammar) (column : String) (down : Bool) (amount : Int64) : String :=
  g.wrap column ++ (if down then " - " else " + ") ++ toString amount.toInt

theorem fields_stepRecord (g : Grammar) (column : String) (down : Bool) (amount : Int64)
    (extra : Record)
    : (g.stepRecord column down amount extra).fields
      = (column, (extra.fields.lookup column).getD (.raw (g.stepText column down amount))) ::
          extra.fields.filter (fun field => field.1 ≠ column) := by
  rw [stepRecord, Record.fields_merge]
  simp [Record.set, Record.empty, setEntry, Record.columns, stepText]

end Grammar

namespace Builder

variable {b : Builder} {r : Record} {s : Statement}

theorem exists_text_update (h : b.update r = .ok s)
    : ∃ table joined tail, b.target .update = .ok table ∧
        (joined = "" ∨ b.grammar.dialect = .mysql ∧
          ∃ joins, renderJoins b.grammar b.query.joins = .ok joins ∧ joined = " " ++ joins.text) ∧
        s.sql = "UPDATE " ++ table.text ++ joined ++ " " ++ ("SET " ++
          ", ".intercalate (r.fields.map b.grammar.assignment)) ++ tail := by
  obtain ⟨sql, hsql, hs⟩ := bind_eq_ok.mp h
  obtain ⟨table, htable, hsql⟩ := bind_eq_ok.mp hsql
  cases pure_eq_ok.mp hs
  rw [← Grammar.text_assignments]
  cases hdialect : b.grammar.dialect with
  | mysql =>
    simp only [hdialect, List.cons_append, List.nil_append] at hsql
    obtain ⟨joins, hjoins, hsql⟩ := bind_eq_ok.mp hsql
    obtain ⟨wheres, -, hsql⟩ := bind_eq_ok.mp hsql
    rw [← pure_eq_ok.mp hsql, Sql.text_words_around (by simp) (by simp), Sql.text_append,
      Sql.text_append, Sql.text_coe, Sql.text_coe]
    refine ⟨table, _, _, htable, ?_, rfl⟩
    exact (Sql.trailing_singleton_eq joins).imp id fun hjoined => ⟨rfl, joins, hjoins, hjoined⟩
  | postgres | sqlite =>
    simp only [hdialect] at hsql
    refine ⟨table, "", ?_⟩
    rw [String.append_empty]
    split at hsql
    . obtain ⟨wheres, -, hsql⟩ := bind_eq_ok.mp hsql
      rw [← pure_eq_ok.mp hsql, Sql.text_words_cons (by simp)]
      refine ⟨Sql.trailing [wheres], htable, .inl rfl, ?_⟩
      simp [String.append_assoc]
    . obtain ⟨isRow, -, hsql⟩ := bind_eq_ok.mp hsql
      rw [← pure_eq_ok.mp hsql]
      refine ⟨" WHERE " ++ isRow.text, htable, .inl rfl, ?_⟩
      simp [String.append_assoc]

/--
An UPDATE assigns to each column of its record once, and in their order. On dialects that leave the
qualifiers out the targets differ only as far as the columns do without them, and the step of a
column gives way to what the column is assigned besides.
-/
theorem update_assigns (h : b.update r = .ok s)
    : (∃ table joined tail, b.target .update = .ok table ∧
        (joined = "" ∨ b.grammar.dialect = .mysql ∧
          ∃ joins, renderJoins b.grammar b.query.joins = .ok joins ∧ joined = " " ++ joins.text) ∧
        s.sql = "UPDATE " ++ table.text ++ joined ++ " " ++ ("SET " ++
          ", ".intercalate (r.fields.map b.grammar.assignment)) ++ tail) ∧
      ((∀ column ∈ r.columns, Identifier.Bare column) →
        (∀ column ∈ r.columns, lex b.grammar.dialect (b.grammar.assigned column).toList
          = some (b.grammar.dottedLexemes false
              (Grammar.assignedSegments b.grammar.dialect column))) ∧
        ((r.columns.map b.grammar.assigned).Nodup ↔
          b.grammar.dialect = .mysql ∨ (r.columns.map Identifier.lastSegment).Nodup)) ∧
      ∀ column down amount extra,
        (b.grammar.stepRecord column down amount extra).fields
          = (column,
              (extra.fields.lookup column).getD (.raw (b.grammar.stepText column down amount))) ::
            extra.fields.filter (fun field => field.1 ≠ column) := by
  refine ⟨exists_text_update h, ?_, b.grammar.fields_stepRecord⟩
  intro hbare
  constructor
  . intro column hcolumn
    exact b.grammar.lex_assigned (hbare column hcolumn)
  . exact b.grammar.nodup_assigned_iff r.nodup hbare

/-- A table whose rows are assigned a name and a number of votes. -/
def voters (d : Dialect) : Builder :=
  .ofTable ⟨d, ""⟩ (.name "voters")

def named : Record :=
  Record.empty.set "voters.name" (.value (.text "x"))

theorem update_voters
    : ∃ s, (voters .postgres).update ((voters .postgres).grammar.stepRecord "votes" true 3 named)
          = .ok s ∧
        ((voters .postgres).grammar.stepRecord "votes" true 3 named).fields
          = [("votes", .raw "\"votes\" - 3"), ("voters.name", .value (.text "x"))] ∧
        (∀ column ∈ ["votes", "voters.name"], Identifier.Bare column) ∧
        (["votes", "voters.name"].map (voters .postgres).grammar.assigned).Nodup := by
  obtain ⟨s, hs⟩ : ∃ s, (voters .postgres).update
      ((voters .postgres).grammar.stepRecord "votes" true 3 named) = .ok s := ⟨_, rfl⟩
  obtain ⟨-, htargets, hstep⟩ := update_assigns hs
  have hbare : ∀ column ∈ ["votes", "voters.name"], Identifier.Bare column := by decide
  refine ⟨s, hs, (hstep "votes" true 3 named).trans ?_, hbare, ?_⟩
  . have hstepText : (voters .postgres).grammar.stepText "votes" true 3 = "\"votes\" - 3" := by
      decide
    rw [hstepText]
    rfl
  . exact (htargets hbare).2.mpr (.inr (by decide))

/-- Five votes for the two that were to be added, and two columns that become one target. -/
theorem update_voters_twice
    : ((voters .mysql).grammar.stepRecord "votes" false 2
          (Record.empty.set "votes" (.value (.int 5)))).fields = [("votes", .value (.int 5))] ∧
        (voters .mysql).update ((voters .mysql).grammar.stepRecord "votes" false 2
            (Record.empty.set "votes" (.value (.int 5))))
          = .ok ⟨"UPDATE \x60voters\x60 SET \x60votes\x60 = ?", [.int 5]⟩ ∧
        ((Record.empty.set "voters.name" (.value .null)).set "posts.name" (.value .null)).columns.map
            (voters .sqlite).grammar.assigned
          = ["\"name\"", "\"name\""] := by
  refine ⟨rfl, ?_, by decide⟩
  rfl

end Builder

end SqlForge
