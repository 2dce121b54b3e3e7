import SqlForge.Proofs.Except
import SqlForge.Schema.Statement

/-!
When a change to a table cannot be written. One dialect has no statements for spatial indexes and
none that alter constraints; a key can still be written into the statement that creates the table.
-/

namespace SqlForge.Schema

/-- What a dialect that cannot alter constraints lacks for a command. -/
def Command.lacking? (creating : Bool) : Command → Option Feature
  | .index .spatial _ | .dropIndex .spatial _ => some .spatialIndexes
  | .index .primary _ => if creating then none else some .addPrimaryKey
  | .foreign _ => if creating then none else some .addForeignKey
  | .dropPrimary => some .dropPrimaryKey
  | .dropForeign _ => some .dropForeignKey
  | .renameIndex .. => some .renameIndex
  | _ => none

namespace Blueprint

/-- Why a command cannot be written. -/
def refusal? (g : Grammar) (b : Blueprint) (c : Command) : Option Failure :=
  match g.dialect with
  | .mysql | .postgres => none
  | .sqlite => (c.lacking? b.isCreating).map (.unsupported .sqlite)

variable {g : Grammar} {b : Blueprint}

theorem onlyInline_eq_error_iff {feature : Feature} {e : Failure}
    : b.onlyInline feature = .error e ↔
      (if b.isCreating then none else some feature).map (.unsupported .sqlite) = some e := by
  unfold onlyInline
  split
  . exact iff_of_false nofun nofun
  . rw [Except.error.injEq, Option.map_some, Option.some.injEq]

theorem sqliteStatements_eq_error_iff {commands : List Command} {c : Command} {e : Failure}
    : b.sqliteStatements g commands c = .error e ↔
      (c.lacking? b.isCreating).map (.unsupported .sqlite) = some e := by
  have hok {texts : List String} :
      (.ok texts : Except Failure (List String)) = .error e ↔ (none : Option Failure) = some e :=
    iff_of_false nofun nofun
  have herror {feature : Feature} :
      (.error (.unsupported .sqlite feature) : Except Failure (List String)) = .error e ↔
        some (Failure.unsupported .sqlite feature) = some e := by
    rw [Except.error.injEq, Option.some.injEq]
  cases c with
  | index kind i =>
    cases kind with
    | primary => exact onlyInline_eq_error_iff
    | spatial => exact herror
    | unique | plain => exact hok
  | dropIndex kind name =>
    cases kind with
    | spatial => exact herror
    | primary | unique | plain => exact hok
  | foreign key => exact onlyInline_eq_error_iff
  | dropPrimary | dropForeign name | renameIndex source target => exact herror
  | create | add | drop | dropIfExists | dropColumns columns | renameColumn source target
  | rename target | comment column text => exact hok

theorem commandStatements_eq_error_iff {commands : List Command} {c : Command} {e : Failure}
    : b.commandStatements g commands c = .error e ↔ b.refusal? g c = some e := by
  unfold commandStatements refusal?
  cases g.dialect with
  | mysql | postgres => exact iff_of_false nofun nofun
  | sqlite => exact sqliteStatements_eq_error_iff

/-- What the dialect lacks for the first of the commands that it has no statement for. -/
theorem statements_eq_error_iff {e : Failure}
    : b.statements g = .error e ↔
      g.dialect = .sqlite ∧
        ∃ feature, (b.allCommands .sqlite).findSome? (·.lacking? b.isCreating) = some feature ∧
          e = .unsupported .sqlite feature := by
  have hfirst : b.statements g = .error e ↔
      (b.allCommands g.dialect).findSome? (b.refusal? g) = some e := by
    apply bind_pure_eq_error.trans
    apply mapM_eq_error_iff
    intro c e
    exact commandStatements_eq_error_iff
  rw [hfirst]
  unfold refusal?
  cases g.dialect with
  | mysql | postgres =>
    rw [List.findSome?_eq_none_iff.mpr fun _ _ => rfl]
    exact iff_of_false nofun nofun
  | sqlite =>
    have hmap : (b.allCommands .sqlite).findSome?
          (fun c => (c.lacking? b.isCreating).map (Failure.unsupported .sqlite)) =
        ((b.allCommands .sqlite).findSome? (·.lacking? b.isCreating)).map
          (Failure.unsupported .sqlite) := List.map_findSome?.symm
    refine Iff.trans (Iff.of_eq (congrArg (· = some e) hmap)) ?_
    rw [Option.map_eq_some_iff]
    simp only [true_and, eq_comm]

end Blueprint

end SqlForge.Schema
