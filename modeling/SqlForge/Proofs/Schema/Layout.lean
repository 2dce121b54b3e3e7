import Mathlib.Data.List.Basic
import SqlForge.Proofs.Schema.Declared
import SqlForge.Proofs.Schema.Refusal

/-!
How the statements of a change are laid out: the definitions of its columns, what it was asked for,
the indexes that its columns ask for, its foreign keys, and the comments on its columns. One dialect
writes the keys of a new table into the statement that creates it.
-/

namespace SqlForge.Schema

def Command.primaryColumns? : Command → Option (List String)
  | .index .primary i => some i.columns
  | _ => none

def Command.foreignKey? : Command → Option ForeignKey
  | .foreign key => some key
  | _ => none

namespace Blueprint

variable (g : Grammar) (b : Blueprint)

/-! ### The parts -/

def inlineForeign (key : ForeignKey) : String :=
  ", foreign key(" ++ nameList g key.columns ++ ")" ++ reference g key

def inlinePrimary (columns : List String) : String :=
  ", primary key (" ++ nameList g columns ++ ")"

/-- The columns of the first primary key that is asked for. -/
def primaryColumns? : Option (List String) :=
  (b.commands ++ b.columnIndexes).findSome? Command.primaryColumns?

/-- The statement for a new table, with the definition of each column once and in order. -/
def creation : String :=
  let definitions := ", ".intercalate (b.columns.map (·.definition g))
  match g.dialect with
  | .mysql => b.createText g definitions ++ b.tableOptions
  | .postgres => b.createText g definitions
  | .sqlite =>
    b.createText g
      (definitions ++ String.join (b.foreignKeys.map (inlineForeign g)) ++
        (b.primaryColumns?.map (inlinePrimary g)).getD "")

/-- The statements that add columns to a table, each column in one clause and in order. -/
def additions : List String :=
  let definitions := b.columns.map (·.definition g)
  if b.columns.isEmpty then []
  else
    match g.dialect with
    | .mysql => [b.alterAll g (definitions.map ("add " ++ ·))]
    | .postgres => [b.alterAll g (definitions.map ("add column " ++ ·))]
    | .sqlite => definitions.map fun definition => b.alter g ("add column " ++ definition)

def definitionTexts : List String :=
  if b.isCreating then [b.creation g] else b.additions g

def indexText (kind : IndexKind) (i : Index) : String :=
  match g.dialect with
  | .mysql => b.mysqlKey g kind i
  | .postgres => b.postgresKey g kind i
  | .sqlite =>
    (if kind = .unique then "create unique index " else "create index ") ++
      g.wrapSegment i.name ++ " on " ++ b.tableText g ++ " (" ++ nameList g i.columns ++ ")"

/-- Whether the keys of the table are written where it is created. -/
def writesKeysInline : Bool :=
  g.dialect = .sqlite && b.isCreating

/-- The index over a column that its attributes ask for, under the name given there if there is one. -/
def columnIndex (c : Column) (asked : IndexKind × Option String) : Index where
  name := asked.2.getD (b.indexName asked.1.suffix [c.name])
  columns := [c.name]

def indexTexts : List String :=
  b.columns.flatMap fun c =>
    c.indexes.flatMap fun asked =>
      if b.writesKeysInline g && asked.1 = .primary then []
      else [b.indexText g asked.1 (b.columnIndex c asked)]

def keyTexts : List String :=
  if b.writesKeysInline g then [] else b.foreignKeys.map (b.alterForeign g)

def commentText (column text : String) : String :=
  "comment on column " ++ b.tableText g ++ "." ++ g.wrap column ++ " is " ++
    Identifier.quoteText text

def commentTexts : List String :=
  match g.dialect with
  | .postgres => b.columns.filterMap fun c => c.comment.map (b.commentText g c.name)
  | .mysql | .sqlite => []

/-! ### Statements of several commands -/

/-- The texts are the statements of these commands, one command after the other. -/
def Writes (commands : List Command) (texts : List String) : Prop :=
  ∃ parts, commands.mapM (b.commandStatements g (b.allCommands g.dialect)) = .ok parts ∧
    parts.flatten = texts

variable {g b}

theorem statements_eq_ok_iff {texts : List String}
    : b.statements g = .ok texts ↔ b.Writes g (b.allCommands g.dialect) texts := by
  unfold statements Writes
  rw [bind_eq_ok]
  simp only [pure_eq_ok]

theorem writes_append_iff {commands more : List Command} {texts : List String}
    : b.Writes g (commands ++ more) texts ↔
      ∃ texts' texts'', b.Writes g commands texts' ∧ b.Writes g more texts'' ∧
        texts' ++ texts'' = texts := by
  unfold Writes
  simp only [List.mapM_append, bind_eq_ok, pure_eq_ok]
  constructor
  . rintro ⟨_, ⟨parts, hparts, parts', hparts', rfl⟩, rfl⟩
    exact ⟨_, _, ⟨parts, hparts, rfl⟩, ⟨parts', hparts', rfl⟩, List.flatten_append.symm⟩
  . rintro ⟨_, _, ⟨parts, hparts, rfl⟩, ⟨parts', hparts', rfl⟩, rfl⟩
    exact ⟨_, ⟨parts, hparts, parts', hparts', rfl⟩, List.flatten_append⟩

/-- What each of the commands can only be written as, they are written as together. -/
theorem Writes.eq_flatMap {commands : List Command} {texts : List String}
    (h : b.Writes g commands texts) (written : Command → List String)
    (hwritten : ∀ c ∈ commands, ∀ parts,
      b.commandStatements g (b.allCommands g.dialect) c = .ok parts → parts = written c)
    : texts = commands.flatMap written := by
  induction commands generalizing texts with
  | nil =>
    obtain ⟨parts, hparts, rfl⟩ := h
    rw [List.mapM_nil, pure_eq_ok] at hparts
    rw [← hparts]
    rfl
  | cons c commands ih =>
    obtain ⟨_, hparts, rfl⟩ := h
    simp only [List.mapM_cons, bind_eq_ok, pure_eq_ok] at hparts
    obtain ⟨first, hfirst, parts, hparts, rfl⟩ := hparts
    rw [List.flatMap_cons, List.flatten_cons, hwritten c List.mem_cons_self first hfirst]
    rw [ih ⟨parts, hparts, rfl⟩ fun c hc => hwritten c (List.mem_cons_of_mem _ hc)]

/-! ### The statement for a new table -/

theorem inlineKeys_eq (commands : List Command)
    : inlineKeys g commands =
      String.join ((commands.filterMap Command.foreignKey?).map (inlineForeign g)) ++
        ((commands.findSome? Command.primaryColumns?).map (inlinePrimary g)).getD "" := by
  unfold inlineKeys
  dsimp only
  rw [List.map_filterMap, List.map_findSome?]
  congr 2
  . congr 1
    funext c
    cases c <;> rfl
  . congr 1
    funext c
    cases c with
    | index kind i => cases kind <;> rfl
    | _ => rfl

theorem columnIndexes_isIndex {c : Command} (h : c ∈ b.columnIndexes)
    : ∃ kind i, c = .index kind i := by
  obtain ⟨column, -, hc⟩ := List.mem_flatMap.mp h
  obtain ⟨asked, -, rfl⟩ := List.mem_map.mp hc
  exact ⟨_, _, rfl⟩

theorem addedColumns_eq (b : Blueprint) : b.addedColumns = [] ∨ b.addedColumns = [.add] := by
  unfold addedColumns
  split
  . exact .inl rfl
  . exact .inr rfl

theorem filterMap_foreignKey?_allCommands (himplied : ∀ key, .foreign key ∉ b.commands)
    : (b.allCommands .sqlite).filterMap Command.foreignKey? = b.foreignKeys := by
  have hadded : b.addedColumns.filterMap Command.foreignKey? = [] := by
    cases b.addedColumns_eq with
    | inl h | inr h => rw [h]; rfl
  have hcommands : b.commands.filterMap Command.foreignKey? = [] := by
    apply List.filterMap_eq_nil_iff.mpr
    intro c hc
    cases c with
    | foreign key => exact absurd hc (himplied key)
    | _ => rfl
  have hindexes : b.columnIndexes.filterMap Command.foreignKey? = [] := by
    apply List.filterMap_eq_nil_iff.mpr
    intro c hc
    obtain ⟨kind, i, rfl⟩ := columnIndexes_isIndex hc
    rfl
  have hkeys : (b.foreignKeys.map Command.foreign).filterMap Command.foreignKey? =
      b.foreignKeys := by
    rw [List.filterMap_map]
    exact List.filterMap_some
  unfold allCommands columnComments
  simp only [List.filterMap_append, hadded, hcommands, hindexes, hkeys, List.nil_append,
    List.append_nil]

theorem findSome?_primaryColumns?_allCommands
    : (b.allCommands .sqlite).findSome? Command.primaryColumns? = b.primaryColumns? := by
  have hadded : b.addedColumns.findSome? Command.primaryColumns? = none := by
    cases b.addedColumns_eq with
    | inl h | inr h => rw [h]; rfl
  have hkeys : (b.foreignKeys.map Command.foreign).findSome? Command.primaryColumns? = none := by
    rw [List.findSome?_map]
    exact List.findSome?_eq_none_iff.mpr fun _ _ => rfl
  unfold allCommands columnComments primaryColumns?
  simp only [List.findSome?_append, hadded, hkeys, List.findSome?_nil, Option.none_or,
    Option.or_none]

theorem writes_create (hforeign : ∀ key, .foreign key ∉ b.commands)
    : b.commandStatements g (b.allCommands g.dialect) .create = .ok [b.creation g] := by
  unfold commandStatements creation
  cases g.dialect with
  | mysql | postgres => rfl
  | sqlite =>
    unfold sqliteStatements
    rw [inlineKeys_eq, filterMap_foreignKey?_allCommands hforeign,
      findSome?_primaryColumns?_allCommands, ← String.append_assoc]
    rfl

theorem writes_add (hcolumns : b.columns.isEmpty = false)
    : b.commandStatements g (b.allCommands g.dialect) .add = .ok (b.additions g) := by
  unfold commandStatements additions
  rw [if_neg (by simp [hcolumns])]
  cases g.dialect <;> rfl

/-! ### What follows from columns and keys -/

theorem onlyInline_eq_ok {feature : Feature} {parts : List String}
    (h : b.onlyInline feature = .ok parts)
    : b.isCreating = true ∧ parts = [] := by
  unfold onlyInline at h
  split at h
  . next hcreating =>
    cases h
    exact ⟨hcreating, rfl⟩
  . cases h

theorem writes_index {kind : IndexKind} {i : Index} {parts : List String}
    (h : b.commandStatements g (b.allCommands g.dialect) (.index kind i) = .ok parts)
    : parts =
      if b.writesKeysInline g && kind = .primary then [] else [b.indexText g kind i] := by
  unfold commandStatements at h
  unfold writesKeysInline indexText
  cases hdialect : g.dialect with
  | mysql | postgres =>
    rw [hdialect] at h
    cases h
    rfl
  | sqlite =>
    rw [hdialect] at h
    cases kind with
    | primary =>
      obtain ⟨hcreating, rfl⟩ := onlyInline_eq_ok h
      rw [hcreating]
      rfl
    | unique | plain =>
      cases h
      simp
    | spatial => cases h

theorem writes_foreign {key : ForeignKey} {parts : List String}
    (h : b.commandStatements g (b.allCommands g.dialect) (.foreign key) = .ok parts)
    : parts = if b.writesKeysInline g then [] else [b.alterForeign g key] := by
  unfold commandStatements at h
  unfold writesKeysInline
  cases hdialect : g.dialect with
  | mysql | postgres =>
    rw [hdialect] at h
    cases h
    rfl
  | sqlite =>
    rw [hdialect] at h
    obtain ⟨hcreating, rfl⟩ := onlyInline_eq_ok h
    rw [hcreating]
    rfl

theorem writes_comment {column text : String} {parts : List String} (hdialect : g.dialect = .postgres)
    (h : b.commandStatements g (b.allCommands g.dialect) (.comment column text) = .ok parts)
    : parts = [b.commentText g column text] := by
  unfold commandStatements at h
  rw [hdialect] at h
  cases h
  rfl

variable (g b) in
/-- What is written for a command that columns or foreign keys bring along. -/
def impliedTexts : Command → List String
  | .index kind i =>
    if b.writesKeysInline g && kind = .primary then [] else [b.indexText g kind i]
  | .foreign key => if b.writesKeysInline g then [] else [b.alterForeign g key]
  | .comment column text => [b.commentText g column text]
  | _ => []

theorem Writes.eq_indexTexts {texts : List String} (h : b.Writes g b.columnIndexes texts)
    : texts = b.indexTexts g := by
  have himplied := h.eq_flatMap (b.impliedTexts g) fun c hc parts hparts => by
    obtain ⟨kind, i, rfl⟩ := columnIndexes_isIndex hc
    exact writes_index hparts
  rw [himplied, columnIndexes, indexTexts, List.flatMap_assoc]
  congr
  funext c
  rw [List.flatMap_map]
  rfl

theorem Writes.eq_keyTexts {texts : List String}
    (h : b.Writes g (b.foreignKeys.map .foreign) texts)
    : texts = b.keyTexts g := by
  have himplied := h.eq_flatMap (b.impliedTexts g) fun c hc parts hparts => by
    obtain ⟨key, -, rfl⟩ := List.mem_map.mp hc
    exact writes_foreign hparts
  rw [himplied, List.flatMap_map, keyTexts]
  unfold impliedTexts
  split
  . exact List.flatMap_eq_nil_iff.mpr fun _ _ => rfl
  . exact List.map_eq_flatMap.symm

theorem Writes.eq_commentTexts {texts : List String}
    (h : b.Writes g (b.columnComments g.dialect) texts)
    : texts = b.commentTexts g := by
  have himplied := h.eq_flatMap (b.impliedTexts g) fun c hc parts hparts => by
    cases hdialect : g.dialect with
    | mysql | sqlite =>
      rw [hdialect] at hc
      exact absurd hc List.not_mem_nil
    | postgres =>
      rw [hdialect] at hc
      obtain ⟨column, -, hc⟩ := List.mem_filterMap.mp hc
      obtain ⟨text, -, rfl⟩ := Option.map_eq_some_iff.mp hc
      exact writes_comment hdialect hparts
  rw [himplied]
  unfold columnComments commentTexts
  cases g.dialect with
  | mysql | sqlite => rfl
  | postgres =>
    dsimp only
    rw [List.filterMap_eq_flatMap_toList, List.filterMap_eq_flatMap_toList, List.flatMap_assoc]
    congr
    funext c
    cases c.comment <;> rfl

/-! ### All statements -/

theorem Writes.of_commandStatements {c : Command} {parts texts : List String}
    (hc : b.commandStatements g (b.allCommands g.dialect) c = .ok parts) (h : b.Writes g [c] texts)
    : texts = parts := by
  have himplied := h.eq_flatMap (fun _ => parts) fun c' hc' parts' hparts' => by
    rw [List.mem_singleton.mp hc', hc] at hparts'
    cases hparts'
    rfl
  rw [himplied, List.flatMap_singleton]

/-- A table that is made, or one that is there, with what is asked for. -/
def ofChanges (g : Grammar) (stringLength : Nat) (table : String) (created : Bool)
    (changes : List Change) : Blueprint :=
  let start := ofGrammar g stringLength table
  (if created then start.record .create else start).changeAll changes

variable {stringLength : Nat} {table : String} {created : Bool} {changes : List Change}

theorem declared_ofChanges (hb : b = ofChanges g stringLength table created changes)
    : b.columns = changes.flatMap (·.columns stringLength) ∧
      b.commands =
        (if created then [.create] else []) ++ changes.flatMap (·.commands b.indexName) ∧
      b.foreignKeys = changes.flatMap (·.foreignKeys b.indexName) := by
  subst hb
  cases created with
  | false | true =>
    obtain ⟨hindexName, -, hcolumns, hcommands, hforeignKeys⟩ := extends_changeAll _ changes
    refine ⟨hcolumns, ?_, ?_⟩
    . rw [ofChanges, hindexName]
      exact hcommands
    . rw [ofChanges, hindexName]
      exact hforeignKeys

theorem isImplied_of_mem_commands (named : String → List String → String)
    (hcreate : .create ∉ changes)
    : ∀ c ∈ changes.flatMap (·.commands named), c.isImplied = false := by
  intro c hc
  obtain ⟨change, hchange, hc⟩ := List.mem_flatMap.mp hc
  apply change.isImplied_of_mem_commands _ hc
  rintro rfl
  exact hcreate hchange

/-- The statements with the definitions are those of the first command, if there is any. -/
theorem Writes.eq_definitionTexts {texts : List String} (hforeign : ∀ key, .foreign key ∉ b.commands)
    (h : b.Writes g (if b.isCreating then [.create] else b.addedColumns) texts)
    : texts = b.definitionTexts g := by
  unfold definitionTexts
  split at h
  . next hcreating =>
    rw [if_pos hcreating]
    exact h.of_commandStatements (writes_create hforeign)
  . next hcreating =>
    rw [if_neg hcreating]
    unfold addedColumns at h
    rw [Bool.not_eq_true] at hcreating
    rw [hcreating, Bool.or_false] at h
    split at h
    . next hcolumns =>
      unfold additions
      rw [if_pos hcolumns]
      exact h.eq_flatMap (fun _ => []) fun c hc => absurd hc List.not_mem_nil
    . next hcolumns =>
      rw [Bool.not_eq_true] at hcolumns
      exact h.of_commandStatements (writes_add hcolumns)

section

variable {recorded : List Command} (himplied : ∀ c ∈ recorded, c.isImplied = false)
  (hcommands : b.commands = (if created then [.create] else []) ++ recorded)

include himplied hcommands

theorem isCreating_of_commands : b.isCreating = created := by
  have hrecorded : .create ∉ recorded := fun h => Bool.noConfusion (himplied _ h)
  unfold isCreating
  rw [hcommands, List.contains_append, Bool.eq_iff_iff, Bool.or_eq_true, List.contains_iff_mem,
    List.contains_iff_mem]
  cases created with
  | false => exact iff_of_false (not_or_intro List.not_mem_nil hrecorded) nofun
  | true => exact iff_of_true (.inl (.head _)) rfl

theorem foreign_notMem_commands (key : ForeignKey) : .foreign key ∉ b.commands := by
  have hrecorded : .foreign key ∉ recorded := fun h => Bool.noConfusion (himplied _ h)
  rw [hcommands, List.mem_append]
  refine not_or_intro ?_ hrecorded
  split <;> simp

theorem allCommands_of_commands (d : Dialect)
    : b.allCommands d =
      (if b.isCreating then [.create] else b.addedColumns) ++ recorded ++ b.columnIndexes ++
        b.foreignKeys.map .foreign ++ b.columnComments d := by
  have hcreating := isCreating_of_commands himplied hcommands
  rw [allCommands, hcommands, hcreating]
  cases created with
  | false => rfl
  | true =>
    have hadded : b.addedColumns = [] := by
      rw [addedColumns, hcreating, Bool.or_true, if_pos rfl]
    rw [hadded]
    rfl

end

/-- The columns of a new table, one of them with a key of its own and one with an index. -/
def membership : List Change := [
  .column "id" .bigInteger [.index .primary none],
  .string "email" [.comment "where to write", .index .unique (some "one_per_address")],
  .foreign ["id"] [.references ["id"], .on "users"],
  .renameColumn "mail" "email",
  .foreign ["team"] [.references ["id"], .on "teams", .onDelete "cascade"]]

def members : Blueprint :=
  ofChanges ⟨.sqlite, ""⟩ 80 "members" true membership

def memberTexts : List String := [
  "create table \"members\" (\"id\" integer not null, \"email\" varchar not null, " ++
    "foreign key(\"id\") references \"users\" (\"id\"), " ++
    "foreign key(\"team\") references \"teams\" (\"id\") on delete cascade, " ++
    "primary key (\"id\"))",
  "alter table \"members\" rename column \"mail\" to \"email\"",
  "create unique index \"one_per_address\" on \"members\" (\"email\")"]

end Blueprint

end SqlForge.Schema
