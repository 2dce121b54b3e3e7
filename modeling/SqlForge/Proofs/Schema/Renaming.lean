import Mathlib.Data.List.Induction
import SqlForge.Proofs.Schema.Layout

/-!
Changes to a table that is renamed on the way. Every statement has the name of the table in one
place, and it is always the name from before the changes.
-/

namespace SqlForge.Schema

/-! ### What a table is called -/

/-- Whether the command changes the table that is there, or what belongs to it. -/
def Command.altersTable : Command → Bool
  | .add | .dropColumns _ | .renameColumn .. | .rename _ | .index .. | .foreign _ | .dropForeign _
  | .comment .. => true
  | .create | .drop | .dropIfExists | .dropPrimary | .dropIndex .. | .renameIndex .. => false

/-- Whether all that the change makes of a table are such commands. -/
def Change.altersTable : Change → Bool
  | .rename _ | .dropColumns _ | .renameColumn .. | .index .. | .namedIndex .. | .foreign ..
  | .dropForeign _ | .column .. | .string .. | .increments .. | .bigIncrements ..
  | .unsignedInteger .. | .unsignedBigInteger .. | .timestamps | .softDeletes _ | .engine _
  | .charset _ | .collation _ | .temporary _ => true
  | .create | .drop | .dropIfExists | .dropPrimary | .dropIndex .. | .renameIndex .. => false

theorem Change.altersTable_of_mem_commands
    {named : String → List String → String} {change : Change} {c : Command}
    (h : change.altersTable) (hc : c ∈ change.commands named)
    : c.altersTable := by
  cases change with
  | create | drop | dropIfExists | dropPrimary | dropIndex | renameIndex => cases h
  | rename | dropColumns | renameColumn | index | namedIndex | dropForeign =>
    rw [List.mem_singleton.mp hc]
    rfl
  | foreign | column | string | increments | bigIncrements | unsignedInteger | unsignedBigInteger
  | timestamps | softDeletes | engine | charset | collation | temporary => cases hc

/-- The name that a table called `name` has when the command is done. -/
def Command.nameAfter (name : String) : Command → String
  | .rename target => target
  | _ => name

def nameAfter (name : String) (commands : List Command) : String :=
  commands.foldl Command.nameAfter name

theorem nameAfter_append (name : String) (commands more : List Command)
    : nameAfter name (commands ++ more) = nameAfter (nameAfter name commands) more :=
  List.foldl_append

/-- It is the name from before if no command renames the table, else the last new name. -/
theorem nameAfter_cases (name : String) (commands : List Command)
    : nameAfter name commands = name ∨
      ∃ before after, commands = before ++ .rename (nameAfter name commands) :: after := by
  induction commands using List.reverseRecOn with
  | nil => exact .inl rfl
  | append_singleton commands c ih =>
    rw [nameAfter_append]
    cases c with
    | rename target => exact .inr ⟨commands, [], rfl⟩
    | _ =>
      cases ih with
      | inl ih => exact .inl ih
      | inr ih =>
        obtain ⟨before, after, ih⟩ := ih
        exact .inr ⟨before, _, (congrArg (· ++ _) ih).trans (List.append_assoc ..)⟩

/-! ### Where the name of the table stands -/

/-- A statement without the name of the table. -/
structure Frame where
  before : String
  after : String

def Frame.around (f : Frame) (name : String) : String :=
  f.before ++ name ++ f.after

theorem Frame.around_eq_around_iff {f : Frame} {name other : String}
    : f.around name = f.around other ↔ name = other := by
  unfold around
  rw [String.append_left_inj, String.append_right_inj]

namespace Blueprint

variable {g : Grammar} {b : Blueprint}

/-- The same changes to a table of another name. -/
def called (b : Blueprint) (name : String) : Blueprint :=
  { b with table := name }

/-- The texts are made by putting the name of the table into the same frames. -/
def IsFramed (g : Grammar) (texts : String → List String) : Prop :=
  ∃ frames : List Frame, ∀ name, texts name = frames.map (·.around (g.wrapTable name))

theorem isFramed_nil : IsFramed g fun _ => [] :=
  ⟨[], fun _ => rfl⟩

theorem foldl_append_eq (s : String) (parts : List String)
    : parts.foldl (· ++ ·) s = s ++ String.join parts := by
  induction parts generalizing s with
  | nil => simp
  | cons part parts ih => rw [List.foldl_cons, ih, String.join_cons, String.append_assoc]

theorem isFramed_text (before : String) (parts : List String)
    : IsFramed g fun name => [parts.foldl (· ++ ·) (before ++ g.wrapTable name)] :=
  ⟨[⟨before, String.join parts⟩], fun _ => congrArg ([·]) (foldl_append_eq _ _)⟩

theorem isFramed_alters (changes : List String)
    : IsFramed g fun name => changes.map ((b.called name).alter g) := by
  refine ⟨changes.map fun change => ⟨"alter table ", " " ++ change⟩, fun name => ?_⟩
  rw [List.map_map]
  exact List.map_congr_left fun change _ => String.append_assoc

theorem isFramed_alter (change : String)
    : IsFramed g fun name => [(b.called name).alter g change] :=
  isFramed_alters [change]

theorem isFramed_mysql {c : Command} (h : c.altersTable)
    : IsFramed g fun name => (b.called name).mysqlStatements g c := by
  cases c with
  | create | drop | dropIfExists | dropPrimary | dropIndex | renameIndex => cases h
  | add => exact isFramed_alter (", ".intercalate ((b.definitions g).map ("add " ++ ·)))
  | rename target => exact isFramed_text "rename table " [" to ", g.wrapTable target]
  | dropColumns | renameColumn | index | foreign | dropForeign => exact isFramed_alter _
  | comment => exact isFramed_nil

theorem isFramed_postgres {c : Command} (h : c.altersTable)
    : IsFramed g fun name => (b.called name).postgresStatements g c := by
  cases c with
  | create | drop | dropIfExists | dropPrimary | dropIndex | renameIndex => cases h
  | add => exact isFramed_alter (", ".intercalate ((b.definitions g).map ("add column " ++ ·)))
  | dropColumns | renameColumn | rename | foreign | dropForeign => exact isFramed_alter _
  | index kind i =>
    cases kind with
    | primary | unique => exact isFramed_alter _
    | plain =>
      exact isFramed_text ("create index " ++ g.wrapSegment i.name ++ " on ")
        [usingAlgorithm i, " ", "(" ++ nameList g i.columns ++ ")"]
    | spatial =>
      exact isFramed_text ("create index " ++ g.wrapSegment i.name ++ " on ")
        [" using gist ", "(" ++ nameList g i.columns ++ ")"]
  | comment column text =>
    exact isFramed_text "comment on column "
      [".", g.wrap column, " is ", Identifier.quoteText text]

theorem isFramed_sqlite {commands : List Command} {c : Command} {parts : List String}
    (h : c.altersTable) (hok : b.sqliteStatements g commands c = .ok parts)
    : ∃ texts, IsFramed g texts ∧
        ∀ name, (b.called name).sqliteStatements g commands c = .ok (texts name) := by
  cases c with
  | create | drop | dropIfExists | dropPrimary | dropIndex | renameIndex => cases h
  | add =>
    refine ⟨_, isFramed_alters (b := b) ((b.definitions g).map ("add column " ++ ·)), ?_⟩
    intro name
    rw [List.map_map]
    rfl
  | dropColumns columns =>
    refine ⟨_, isFramed_alters (b := b) (columns.map ("drop column " ++ g.wrap ·)), ?_⟩
    intro name
    rw [List.map_map]
    rfl
  | renameColumn | rename => exact ⟨_, isFramed_alter (b := b) _, fun _ => rfl⟩
  | index kind i =>
    cases kind with
    | primary =>
      obtain ⟨-, rfl⟩ := onlyInline_eq_ok hok
      exact ⟨_, isFramed_nil, fun _ => hok⟩
    | unique =>
      exact ⟨_, isFramed_text ("create unique index " ++ g.wrapSegment i.name ++ " on ")
        [" (", nameList g i.columns, ")"], fun _ => rfl⟩
    | plain =>
      exact ⟨_, isFramed_text ("create index " ++ g.wrapSegment i.name ++ " on ")
        [" (", nameList g i.columns, ")"], fun _ => rfl⟩
    | spatial => cases hok
  | foreign key =>
    obtain ⟨-, rfl⟩ := onlyInline_eq_ok hok
    exact ⟨_, isFramed_nil, fun _ => hok⟩
  | dropForeign => cases hok
  | comment => exact ⟨_, isFramed_nil, fun _ => rfl⟩

/-- What a command is written as, for whatever table, is the name of the table put into frames. -/
def Framed (g : Grammar) (b : Blueprint) (commands : List Command) (c : Command) : Prop :=
  ∃ texts, IsFramed g texts ∧
    ∀ name, (b.called name).commandStatements g commands c = .ok (texts name)

theorem framed_of_altersTable {commands : List Command} {c : Command} {parts : List String}
    (h : c.altersTable) (hok : b.commandStatements g commands c = .ok parts)
    : b.Framed g commands c := by
  unfold Framed
  unfold commandStatements at hok ⊢
  cases hdialect : g.dialect with
  | mysql => exact ⟨_, isFramed_mysql h, fun _ => rfl⟩
  | postgres => exact ⟨_, isFramed_postgres h, fun _ => rfl⟩
  | sqlite =>
    rw [hdialect] at hok
    exact isFramed_sqlite h hok

/-- The statements for a table of another name are the same only if there are none. -/
theorem Framed.eq_called_iff {commands : List Command} {c : Command} (h : b.Framed g commands c)
    (name : String)
    : b.commandStatements g commands c = (b.called name).commandStatements g commands c ↔
      g.wrapTable name = b.tableText g ∨ b.commandStatements g commands c = .ok [] := by
  obtain ⟨texts, ⟨frames, hframes⟩, htexts⟩ := h
  have hown : b.commandStatements g commands c =
      .ok (frames.map (·.around (b.tableText g))) := by
    exact (htexts b.table).trans (congrArg Except.ok (hframes b.table))
  rw [hown, htexts, hframes, Except.ok.injEq, Except.ok.injEq, List.map_eq_nil_iff]
  cases frames with
  | nil => simp
  | cons f frames =>
    constructor
    . intro heq
      rw [List.map_cons, List.map_cons, List.cons.injEq] at heq
      exact .inl (Frame.around_eq_around_iff.mp heq.1).symm
    . intro heq
      cases heq with
      | inl heq => rw [heq]
      | inr heq => cases heq

/-! ### Which name it is -/

/-- The statements of each command are those for a table of the name that the table has by then. -/
def FollowsName (g : Grammar) (b : Blueprint) : Prop :=
  ∀ before c after, b.allCommands g.dialect = before ++ c :: after →
    b.commandStatements g (b.allCommands g.dialect) c =
      (b.called (nameAfter b.table before)).commandStatements g (b.allCommands g.dialect) c

theorem Writes.exists_of_mem {commands : List Command} {texts : List String} {c : Command}
    (h : b.Writes g commands texts) (hc : c ∈ commands)
    : ∃ parts, b.commandStatements g (b.allCommands g.dialect) c = .ok parts := by
  obtain ⟨parts, hparts, -⟩ := h
  induction commands generalizing parts with
  | nil => cases hc
  | cons first commands ih =>
    simp only [List.mapM_cons, bind_eq_ok, pure_eq_ok] at hparts
    obtain ⟨texts, hfirst, rest, hrest, -⟩ := hparts
    cases hc with
    | head => exact ⟨texts, hfirst⟩
    | tail _ hc => exact ih hc rest hrest

theorem writes_nil : b.Writes g [] [] :=
  ⟨[], rfl, rfl⟩

theorem writes_singleton {c : Command} {parts : List String}
    (h : b.commandStatements g (b.allCommands g.dialect) c = .ok parts)
    : b.Writes g [c] parts := by
  refine ⟨[parts], ?_, List.flatten_singleton⟩
  rw [List.mapM_cons, h]
  rfl

theorem writes_append_nil_iff {commands more : List Command}
    : b.Writes g (commands ++ more) [] ↔ b.Writes g commands [] ∧ b.Writes g more [] := by
  rw [writes_append_iff]
  constructor
  . rintro ⟨_, _, h, hmore, heq⟩
    obtain ⟨rfl, rfl⟩ := List.append_eq_nil_iff.mp heq
    exact ⟨h, hmore⟩
  . rintro ⟨h, hmore⟩
    exact ⟨[], [], h, hmore, rfl⟩

theorem writes_singleton_nil_iff {c : Command}
    : b.Writes g [c] [] ↔ b.commandStatements g (b.allCommands g.dialect) c = .ok [] := by
  constructor
  . intro h
    obtain ⟨parts, hparts⟩ := h.exists_of_mem List.mem_cons_self
    rw [hparts, ← h.of_commandStatements hparts]
  . exact writes_singleton

theorem commandStatements_rename_ne {commands : List Command} {target : String}
    : b.commandStatements g commands (.rename target) ≠ .ok [] := by
  unfold commandStatements
  cases g.dialect with
  | mysql | postgres | sqlite => simp [mysqlStatements, postgresStatements, sqliteStatements]

/-- Commands without statements leave the table its name. -/
theorem nameAfter_of_writes_nil {commands : List Command} (h : b.Writes g commands [])
    (name : String)
    : nameAfter name commands = name := by
  cases nameAfter_cases name commands with
  | inl heq => exact heq
  | inr heq =>
    obtain ⟨before, after, heq⟩ := heq
    rw [heq, List.append_cons, writes_append_nil_iff, writes_append_nil_iff,
      writes_singleton_nil_iff] at h
    exact absurd h.1.2 commandStatements_rename_ne

section

variable {texts : List String} (hok : b.Writes g (b.allCommands g.dialect) texts)
  (hframed : ∀ c ∈ b.allCommands g.dialect, b.Framed g (b.allCommands g.dialect) c)

include hframed

theorem followsName_iff_wrapTable
    : b.FollowsName g ↔
      ∀ before c after, b.allCommands g.dialect = before ++ c :: after →
        g.wrapTable (nameAfter b.table before) = b.tableText g ∨ b.Writes g [c] [] := by
  unfold FollowsName
  refine forall₄_congr fun before c after heq => ?_
  have hc : c ∈ b.allCommands g.dialect := by
    rw [heq]
    exact List.mem_append_right _ List.mem_cons_self
  rw [writes_singleton_nil_iff]
  exact (hframed c hc).eq_called_iff (nameAfter b.table before)

/-- The name is the one from the start, so it is right until the table is renamed. -/
theorem followsName_iff
    : b.FollowsName g ↔
      ∀ before target after, b.allCommands g.dialect = before ++ .rename target :: after →
        g.wrapTable target = b.tableText g ∨ b.Writes g after [] := by
  rw [followsName_iff_wrapTable hframed]
  constructor
  . intro h before target after heq
    apply or_iff_not_imp_left.mpr
    intro htarget
    -- as long as nothing is written, the table keeps this name
    have hmiddle : ∀ middle rest, after = middle ++ rest → b.Writes g middle [] := by
      intro middle
      induction middle using List.reverseRecOn with
      | nil => exact fun _ _ => writes_nil
      | append_singleton middle c ih =>
        intro rest hafter
        rw [List.append_assoc, List.singleton_append] at hafter
        have hwritten := ih (c :: rest) hafter
        have hname : nameAfter b.table (before ++ .rename target :: middle) = target := by
          rw [nameAfter_append]
          exact nameAfter_of_writes_nil hwritten target
        have hsplit : b.allCommands g.dialect =
            (before ++ .rename target :: middle) ++ c :: rest := by
          rw [heq, hafter, List.append_assoc, List.cons_append]
        have hc := h _ c rest hsplit
        rw [hname] at hc
        exact writes_append_nil_iff.mpr ⟨hwritten, hc.resolve_left htarget⟩
    exact hmiddle after [] (List.append_nil after).symm
  . intro h before c after heq
    cases nameAfter_cases b.table before with
    | inl hname => exact .inl (congrArg g.wrapTable hname)
    | inr hname =>
      obtain ⟨earlier, later, hname⟩ := hname
      have hsplit : b.allCommands g.dialect =
          earlier ++ .rename (nameAfter b.table before) :: (later ++ c :: after) := by
        rw [heq]
        exact (congrArg (· ++ _) hname).trans (List.append_assoc ..)
      cases h _ _ _ hsplit with
      | inl htarget => exact .inl htarget
      | inr hwritten =>
        rw [List.append_cons, writes_append_nil_iff, writes_append_nil_iff] at hwritten
        exact .inr hwritten.1.2

end

/-! ### All statements -/

theorem altersTable_of_mem_allCommands {g' : Grammar} {stringLength : Nat} {table : String}
    {changes : List Change} (hb : b = (ofGrammar g' stringLength table).changeAll changes)
    (hchanges : ∀ c ∈ changes, c.altersTable) (d : Dialect)
    : ∀ c ∈ b.allCommands d, c.altersTable := by
  obtain ⟨-, -, -, hcommands, -⟩ := extends_changeAll (ofGrammar g' stringLength table) changes
  rw [← hb] at hcommands
  intro c hc
  unfold allCommands at hc
  simp only [List.mem_append] at hc
  obtain (((hc | hc) | hc) | hc) | hc := hc
  . cases b.addedColumns_eq with
    | inl hadded =>
      rw [hadded] at hc
      cases hc
    | inr hadded =>
      rw [hadded] at hc
      rw [List.mem_singleton.mp hc]
      rfl
  . rw [hcommands] at hc
    obtain ⟨change, hchange, hc⟩ := List.mem_flatMap.mp hc
    exact change.altersTable_of_mem_commands (hchanges change hchange) hc
  . obtain ⟨kind, i, rfl⟩ := columnIndexes_isIndex hc
    rfl
  . obtain ⟨key, -, rfl⟩ := List.mem_map.mp hc
    rfl
  . cases d with
    | mysql | sqlite => cases hc
    | postgres =>
      obtain ⟨column, -, hc⟩ := List.mem_filterMap.mp hc
      obtain ⟨text, -, rfl⟩ := Option.map_eq_some_iff.mp hc
      rfl

/--
Changes to a table that may be renamed among them. Each statement has the name of the table in one
place, and there always stands the name from before the changes. So the statements name the table as
it is called when they are executed if and only if nothing is written behind a renaming, or the new
name is written like the old one.
-/
theorem statements_follow_name_iff {g' : Grammar} {stringLength : Nat} {table : String}
    {changes : List Change} {texts : List String}
    (hb : b = (ofGrammar g' stringLength table).changeAll changes)
    (hchanges : ∀ c ∈ changes, c.altersTable) (h : b.statements g = .ok texts)
    : (∀ c ∈ b.allCommands g.dialect, b.Framed g (b.allCommands g.dialect) c) ∧
      (b.FollowsName g ↔
        ∀ before target after, b.allCommands g.dialect = before ++ .rename target :: after →
          g.wrapTable target = b.tableText g ∨ b.Writes g after []) := by
  rw [statements_eq_ok_iff] at h
  have hframed : ∀ c ∈ b.allCommands g.dialect, b.Framed g (b.allCommands g.dialect) c := by
    intro c hc
    obtain ⟨parts, hparts⟩ := h.exists_of_mem hc
    exact framed_of_altersTable (altersTable_of_mem_allCommands hb hchanges _ c hc) hparts
  exact ⟨hframed, followsName_iff hframed⟩

/-- The table is renamed when all else is done. -/
def peopleChanges : List Change := [
  .renameColumn "name" "full_name",
  .string "bio" [],
  .rename "people"]

def people : Blueprint :=
  (ofGrammar ⟨.postgres, "app_"⟩ 80 "users").changeAll peopleChanges

def peopleTexts : List String := [
  "alter table \"app_users\" add column \"bio\" varchar(80) not null",
  "alter table \"app_users\" rename column \"name\" to \"full_name\"",
  "alter table \"app_users\" rename to \"app_people\""]

theorem people_statements_follow_name
    : (∀ c ∈ peopleChanges, c.altersTable) ∧
      people.statements ⟨.postgres, "app_"⟩ = .ok peopleTexts ∧
      people.FollowsName ⟨.postgres, "app_"⟩ := by
  have hchanges : ∀ c ∈ peopleChanges, c.altersTable := by
    simp [peopleChanges, Change.altersTable]
  have hwritten : people.statements ⟨.postgres, "app_"⟩ = .ok _ := rfl
  have hstatements : people.statements ⟨.postgres, "app_"⟩ = .ok peopleTexts := by
    refine hwritten.trans (congrArg Except.ok ?_)
    decide
  have hall : people.allCommands .postgres =
      [.add, .renameColumn "name" "full_name", .rename "people"] := rfl
  obtain ⟨-, hfollows⟩ := statements_follow_name_iff (b := people) rfl hchanges hstatements
  refine ⟨hchanges, hstatements, hfollows.mpr ?_⟩
  intro before target after heq
  rw [hall] at heq
  have hafter : after = [] := by simp_all [List.cons_eq_append_iff]
  rw [hafter]
  exact .inr writes_nil

/-- An index is asked for after the table is renamed. -/
def indexedPeople : Blueprint :=
  (ofGrammar ⟨.mysql, ""⟩ 80 "users").changeAll [.rename "people", .index .plain ["email"]]

theorem indexedPeople_not_followsName
    : indexedPeople.statements ⟨.mysql, ""⟩ = .ok [
        "rename table `users` to `people`",
        "alter table `users` add index `users_email_index`(`email`)"] ∧
      ¬indexedPeople.FollowsName ⟨.mysql, ""⟩ := by
  have hwritten : indexedPeople.statements ⟨.mysql, ""⟩ = .ok _ := rfl
  refine ⟨hwritten.trans (congrArg Except.ok ?_), ?_⟩
  . decide +kernel
  . intro h
    have hindex := h [.rename "people"] (.index .plain _) [] rfl
    cases ((framed_of_altersTable rfl rfl).eq_called_iff "people").mp hindex with
    | inl hname =>
      have hne : Grammar.wrapTable ⟨.mysql, ""⟩ "people" ≠
          Grammar.wrapTable ⟨.mysql, ""⟩ "users" := by
        decide
      exact hne hname
    | inr hnil => cases hnil

end Blueprint

end SqlForge.Schema
