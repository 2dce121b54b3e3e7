import SqlForge.Proofs.Alignment.Select
import SqlForge.Proofs.Placeholder.Write

/-!
Values and placeholders of an UPDATE and of a DELETE correspond one to one, whatever shape the
statement has.
-/

namespace SqlForge

namespace Builder

variable {g : Grammar} {b : Builder}

/--
An UPDATE binds the values of exactly the clauses that it writes, and so does a DELETE from a table
that is given by name.
-/
theorem write_aligned (hg : g.Unmarked) (hb : Reachable Call.Fits g b)
    : (∀ (r : Record) s, r.Unmarked → b.update r = .ok s →
        ∃ sql, b.updateSql r = .ok sql ∧ s.Aligned sql) ∧
      (∀ name s, b.query.source = some (.table (.name name)) → b.delete = .ok s →
        ∃ sql, b.deleteSql = .ok sql ∧ s.Aligned sql) := by
  have hcomplete := hb.complete hg
  constructor
  . intro r s hr hs
    obtain ⟨sql, hsql, hs⟩ := bind_eq_ok.mp hs
    rw [← pure_eq_ok.mp hs]
    exact ⟨sql, hsql, Statement.aligned_of_emits (emits_updateSql hcomplete hr hsql)⟩
  . intro name s hsource hs
    obtain ⟨sql, hsql, hs⟩ := bind_eq_ok.mp hs
    rw [← pure_eq_ok.mp hs]
    exact ⟨sql, hsql, Statement.aligned_of_emits (emits_deleteSql hcomplete hsource hsql)⟩

/-- One dialect writes the joins but not the orderings, another names the rows by a subquery. -/
theorem mixed_write_aligned
    : Grammar.Unmarked ⟨.sqlite, "p_"⟩ ∧ Reachable Call.Fits ⟨.sqlite, "p_"⟩ (mixed .sqlite) ∧
      (∃ s sql, (mixed .sqlite).update (Record.ofList [("x", .value (.int 0))]) = .ok s ∧
        s.Aligned sql ∧
        s.bindings = [.int 0, .int 2, .int 3, .int 4, .int 5, .int 6, .int 7, .int 8, .int 9]) ∧
      Grammar.Unmarked ⟨.mysql, "p_"⟩ ∧ Reachable Call.Fits ⟨.mysql, "p_"⟩ (mixed .mysql) ∧
      (∃ s sql, (mixed .mysql).delete = .ok s ∧ s.Aligned sql ∧
        s.bindings = [.int 2, .int 3, .int 4, .int 5]) := by
  have hsqlite : Grammar.Unmarked ⟨.sqlite, "p_"⟩ := by decide
  have hmysql : Grammar.Unmarked ⟨.mysql, "p_"⟩ := by decide
  have hr : Record.Unmarked (Record.ofList [("x", .value (.int 0))]) := by
    intro field hfield
    cases List.mem_singleton.mp hfield
    decide
  refine ⟨hsqlite, reachable_mixed .sqlite, ?_, hmysql, reachable_mixed .mysql, ?_⟩
  . obtain ⟨text, hs⟩ : ∃ text, (mixed .sqlite).update (Record.ofList [("x", .value (.int 0))])
        = .ok ⟨text, [.int 0, .int 2, .int 3, .int 4, .int 5, .int 6, .int 7, .int 8, .int 9]⟩ :=
      ⟨_, rfl⟩
    obtain ⟨sql, _, haligned⟩ := (write_aligned hsqlite (reachable_mixed .sqlite)).1 _ _ hr hs
    exact ⟨_, sql, hs, haligned, rfl⟩
  . obtain ⟨text, hs⟩ : ∃ text, (mixed .mysql).delete
        = .ok ⟨text, [.int 2, .int 3, .int 4, .int 5]⟩ := ⟨_, rfl⟩
    obtain ⟨sql, _, haligned⟩ := (write_aligned hmysql (reachable_mixed .mysql)).2 "t" _ rfl hs
    exact ⟨_, sql, hs, haligned, rfl⟩

end Builder

end SqlForge
