import SqlForge.Schema.Change

/-!
What is declared by asking for changes: columns, commands and foreign keys, each behind those that
were there before and in the order in which they were asked for.
-/

namespace SqlForge.Schema

/-- The columns that a change declares; `stringLength` is for texts that are given no length. -/
def Change.columns (stringLength : Nat) : Change → List Column
  | .column name type attributes => [.declared name type attributes]
  | .string name attributes => [.declared name (.string stringLength) attributes]
  | .increments name attributes =>
    [.declared name .increments (.unsigned :: .autoIncrement :: attributes)]
  | .bigIncrements name attributes =>
    [.declared name .bigIncrements (.unsigned :: .autoIncrement :: attributes)]
  | .unsignedInteger name attributes => [.declared name .integer (.unsigned :: attributes)]
  | .unsignedBigInteger name attributes => [.declared name .bigInteger (.unsigned :: attributes)]
  | .timestamps =>
    [.declared "created_at" .timestamp [.nullable], .declared "updated_at" .timestamp [.nullable]]
  | .softDeletes attributes => [.declared "deleted_at" .timestamp (.nullable :: attributes)]
  | _ => []

/-- The commands that a change records; `named` is how indexes are named. -/
def Change.commands (named : String → List String → String) : Change → List Command
  | .create => [.create]
  | .drop => [.drop]
  | .dropIfExists => [.dropIfExists]
  | .rename target => [.rename target]
  | .dropColumns columns => [.dropColumns columns]
  | .renameColumn source target => [.renameColumn source target]
  | .index kind columns => [.index kind { name := named kind.suffix columns, columns }]
  | .namedIndex name columns algorithm => [.index .plain { name, columns, algorithm }]
  | .dropPrimary => [.dropPrimary]
  | .dropIndex kind name => [.dropIndex kind name]
  | .dropForeign name => [.dropForeign name]
  | .renameIndex source target => [.renameIndex source target]
  | .foreign .. | .column .. | .string .. | .increments .. | .bigIncrements ..
  | .unsignedInteger .. | .unsignedBigInteger .. | .timestamps | .softDeletes _ | .engine _
  | .charset _ | .collation _ | .temporary _ => []

/-- The foreign keys that a change declares. -/
def Change.foreignKeys (named : String → List String → String) : Change → List ForeignKey
  | .foreign columns terms => [.setAll terms { name := named "foreign" columns, columns }]
  | _ => []

namespace Blueprint

/-- What is declared in `b` is what is declared in `start` and, behind it, by the changes. -/
structure Extends (start b : Blueprint) (changes : List Change) : Prop where
  indexName : b.indexName = start.indexName
  stringLength : b.stringLength = start.stringLength
  columns : b.columns = start.columns ++ changes.flatMap (·.columns start.stringLength)
  commands : b.commands = start.commands ++ changes.flatMap (·.commands start.indexName)
  foreignKeys :
    b.foreignKeys = start.foreignKeys ++ changes.flatMap (·.foreignKeys start.indexName)

variable {start b b' : Blueprint}

theorem Extends.refl (b : Blueprint) : b.Extends b [] where
  indexName := rfl
  stringLength := rfl
  columns := (List.append_nil _).symm
  commands := (List.append_nil _).symm
  foreignKeys := (List.append_nil _).symm

theorem Extends.trans {changes more : List Change} (h : start.Extends b changes)
    (h' : b.Extends b' more)
    : start.Extends b' (changes ++ more) where
  indexName := h'.indexName.trans h.indexName
  stringLength := h'.stringLength.trans h.stringLength
  columns := by
    rw [h'.columns, h.columns, h.stringLength, List.flatMap_append, List.append_assoc]
  commands := by
    rw [h'.commands, h.commands, h.indexName, List.flatMap_append, List.append_assoc]
  foreignKeys := by
    rw [h'.foreignKeys, h.foreignKeys, h.indexName, List.flatMap_append, List.append_assoc]

section

attribute [local simp] change record addIndex addForeign addColumn addCounter addUnsigned
  addTimestamps addSoftDeletes

theorem extends_change (b : Blueprint) (c : Change) : b.Extends (b.change c) [c] where
  indexName := by cases c <;> rfl
  stringLength := by cases c <;> rfl
  columns := by
    cases c <;> simp [Change.columns, Column.declared, Column.setAll, Column.set]
  commands := by cases c <;> simp [Change.commands]
  foreignKeys := by cases c <;> simp [Change.foreignKeys]

end

theorem extends_changeAll (b : Blueprint) (changes : List Change)
    : b.Extends (b.changeAll changes) changes := by
  induction changes generalizing b with
  | nil => exact .refl b
  | cons c changes ih => exact (b.extends_change c).trans (ih (b.change c))

end Blueprint

/-! ### What is never asked for -/

/-- Whether a command is there only because of columns, of foreign keys or of a new table. -/
def Command.isImplied : Command → Bool
  | .create | .add | .foreign _ | .comment .. => true
  | _ => false

theorem Change.isImplied_of_mem_commands {named : String → List String → String} {c : Change}
    (hcreate : c ≠ .create) {command : Command} (h : command ∈ c.commands named)
    : command.isImplied = false := by
  cases c with
  | create => exact absurd rfl hcreate
  | foreign | column | string | increments | bigIncrements | unsignedInteger | unsignedBigInteger
  | timestamps | softDeletes | engine | charset | collation | temporary =>
    exact absurd h List.not_mem_nil
  | drop | dropIfExists | rename | dropColumns | renameColumn | index | namedIndex | dropPrimary
  | dropIndex | dropForeign | renameIndex =>
    rw [List.mem_singleton.mp h]
    rfl

end SqlForge.Schema
