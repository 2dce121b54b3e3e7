import SqlForge.Proofs.Schema.ColumnLiteral
import SqlForge.Proofs.Schema.Layout

/-!
Where the statements of a change have text literals: in the definitions of columns, as the collation
of a new table and as comments. They mean the texts that were given, unless a text has a character
that would have to be written in another way.
-/

namespace SqlForge.Schema

namespace Blueprint

variable (g : Grammar) (b : Blueprint)

/-- The definitions of columns, each behind `lead`, and `opening` in front of all of them. -/
def columnChunks (opening lead : String) : List Column → List Chunk
  | [] => [.code opening]
  | c :: columns => c.chunks g (opening ++ lead) ++ columns.flatMap (·.chunks g (", " ++ lead))

def columnLiterals : List Literal :=
  b.columns.flatMap (·.literals g)

/-- The texts of a command in the order in which they are written. -/
def commandLiterals : Command → List Literal
  | .create =>
    b.columnLiterals g ++
      match g.dialect with
      | .mysql => b.collation.toList.map fun t => { text := t, doubled := false }
      | .postgres | .sqlite => []
  | .add => b.columnLiterals g
  | .comment _ text =>
    match g.dialect with
    | .postgres => [{ text := text }]
    | .mysql | .sqlite => []
  | _ => []

/-- All texts that are written as literals, in order. -/
def literals : List Literal :=
  (b.allCommands g.dialect).flatMap (b.commandLiterals g)

/-- The SQL that is given for the table, and names where one dialect writes paths, are closed. -/
structure Closed : Prop where
  table : g.dialect = .mysql → Closes g.dialect (b.tableText g)
  columns : ∀ c ∈ b.columns, c.Closed g
  charset : ∀ charset ∈ b.charset, Closes g.dialect charset

variable {g b} {d : Dialect}

theorem joined_columnChunks (opening lead : String) (columns : List Column)
    : Chunk.joined (columnChunks g opening lead columns) =
      opening ++ ", ".intercalate (columns.map (lead ++ ·.definition g)) := by
  cases columns with
  | nil => simp [columnChunks, Chunk.joined, Chunk.text]
  | cons c columns =>
    have hrest : Chunk.joined (columns.flatMap (·.chunks g (", " ++ lead))) =
        String.join ((columns.map (lead ++ ·.definition g)).map (", " ++ ·)) := by
      induction columns with
      | nil => rfl
      | cons c columns ih =>
        rw [List.flatMap_cons, Chunk.joined_append, ih, Column.joined_chunks, List.map_cons,
          List.map_cons, String.join_cons]
        simp only [String.append_assoc]
    rw [columnChunks, Chunk.joined_append, Column.joined_chunks, hrest, List.map_cons,
      Sql.intercalate_cons]
    simp only [String.append_assoc]

theorem literals_columnChunks (opening lead : String) (columns : List Column)
    : (columnChunks g opening lead columns).filterMap Chunk.literal? =
      columns.flatMap (·.literals g) := by
  cases columns with
  | nil => rfl
  | cons c columns =>
    rw [columnChunks, List.filterMap_append, List.filterMap_flatMap, Column.literals_chunks,
      List.flatMap_cons]
    simp only [Column.literals_chunks]

theorem fits_columnChunks {opening lead : String} {columns : List Column}
    (hopening : Lead g.dialect opening) (hlead : Unquoted lead)
    (hcolumns : ∀ c ∈ columns, c.Closed g)
    : ∀ chunk ∈ columnChunks g opening lead columns, chunk.Fits g.dialect := by
  cases columns with
  | nil =>
    intro chunk hchunk
    rw [List.mem_singleton.mp hchunk]
    exact ⟨hopening.starts, hopening.passes.closes⟩
  | cons c columns =>
    obtain ⟨hfirst, hcolumns⟩ := List.forall_mem_cons.mp hcolumns
    have hcomma : Lead g.dialect ", " := lead_of_unquoted (by decide) (by decide)
    intro chunk hchunk
    cases List.mem_append.mp hchunk with
    | inl hchunk => exact hfirst.fits_chunks (hopening.append hlead.passes) chunk hchunk
    | inr hchunk =>
      obtain ⟨column, hcolumn, hchunk⟩ := List.mem_flatMap.mp hchunk
      exact (hcolumns column hcolumn).fits_chunks (hcomma.append hlead.passes) chunk hchunk

/-! ### The statements of a command -/

/-- The texts are statements with these literals. -/
def Composed (d : Dialect) (texts : List String) (literals : List Literal) : Prop :=
  ∃ sentences : List Sentence, sentences.map Sentence.text = texts ∧
    sentences.flatMap Sentence.literals = literals ∧ ∀ sentence ∈ sentences, sentence.Fits d

theorem composed_plain (d : Dialect) (texts : List String) : Composed d texts [] := by
  refine ⟨texts.map fun text => { rest := text }, ?_, ?_, ?_⟩
  . rw [List.map_map]
    simp [Function.comp_def, Sentence.text, Chunk.joined]
  . rw [List.flatMap_map]
    exact List.flatMap_eq_nil_iff.mpr fun _ _ => rfl
  . intro sentence hsentence
    obtain ⟨text, -, rfl⟩ := List.mem_map.mp hsentence
    exact ⟨fun _ hchunk => absurd hchunk List.not_mem_nil, fun hne => absurd rfl hne⟩

theorem Composed.of_sentence (sentence : Sentence) {text : String} {literals : List Literal}
    (h : sentence.Fits d) (htext : sentence.text = text) (hliterals : sentence.literals = literals)
    : Composed d [text] literals := by
  refine ⟨[sentence], congrArg ([·]) htext, ?_, ?_⟩
  . rw [List.flatMap_singleton, hliterals]
  . intro other hother
    rw [List.mem_singleton.mp hother]
    exact h

theorem Composed.append {texts more : List String} {literals others : List Literal}
    (h : Composed d texts literals) (h' : Composed d more others)
    : Composed d (texts ++ more) (literals ++ others) := by
  obtain ⟨sentences, rfl, rfl, hfits⟩ := h
  obtain ⟨sentences', rfl, rfl, hfits'⟩ := h'
  exact ⟨sentences ++ sentences', List.map_append, List.flatMap_append,
    List.forall_mem_append.mpr ⟨hfits, hfits'⟩⟩

variable (g b) in
def createOpening : String :=
  (if b.temporary then "create temporary table " else "create table ") ++ b.tableText g ++ " ("

/-- What stands behind the columns of a new table up to its collation, and the engine. -/
def optionChunks (b : Blueprint) : List Chunk :=
  .code ")" :: (b.charset.toList.map fun s => .code (" default character set " ++ s)) ++
    b.collation.toList.map fun t => .literal " collate " { text := t, doubled := false }

def engineText (b : Blueprint) : String :=
  (b.engine.map (" engine = " ++ ·)).getD ""

theorem closes_tableText (h : b.Closed g) : Closes g.dialect (b.tableText g) :=
  closes_wrapName h.table

theorem lead_createOpening (h : b.Closed g) : Lead g.dialect (b.createOpening g) := by
  have hparenthesis : Unquoted " (" := by decide
  unfold createOpening
  split
  . have hcreate : Lead g.dialect "create temporary table " :=
      lead_of_unquoted (by decide) (by decide)
    exact hcreate.closed (closes_tableText h) hparenthesis (by decide)
  . have hcreate : Lead g.dialect "create table " := lead_of_unquoted (by decide) (by decide)
    exact hcreate.closed (closes_tableText h) hparenthesis (by decide)

theorem createText_eq (body : String)
    : b.createText g body = b.createOpening g ++ body ++ ")" := rfl

theorem columnBody_eq (opening : String)
    : Chunk.joined (columnChunks g opening "" b.columns) = opening ++ b.columnBody g := by
  rw [joined_columnChunks, columnBody, definitions]
  simp only [String.empty_append]

theorem joined_optionChunks
    : Chunk.joined b.optionChunks ++ b.engineText = ")" ++ b.tableOptions := by
  have hquote (t : String) : " collate '" ++ t = " collate " ++ ("'" ++ t) := by
    rw [← String.append_assoc]
    rfl
  unfold optionChunks engineText tableOptions
  cases b.charset <;> cases b.collation <;> cases b.engine <;>
    simp [Chunk.joined, Chunk.text, Literal.written, String.append_assoc, hquote]

theorem literals_optionChunks
    : b.optionChunks.filterMap Chunk.literal? =
      b.collation.toList.map fun t => { text := t, doubled := false } := by
  unfold optionChunks
  cases b.charset <;> cases b.collation <;> rfl

theorem fits_optionChunks (h : b.Closed g) : ∀ chunk ∈ b.optionChunks, chunk.Fits g.dialect := by
  unfold optionChunks
  intro chunk hchunk
  simp only [List.mem_append, List.mem_cons, List.mem_map, Option.mem_toList] at hchunk
  obtain (rfl | ⟨charset, hcharset, rfl⟩) | ⟨t, -, rfl⟩ := hchunk
  . exact fits_unquoted (by decide)
  . exact (lead_of_unquoted (by decide) (by decide)).code (h.charset charset hcharset)
  . exact lead_of_unquoted (by decide) (by decide)

theorem starts_join {parts : List String} (h : ∀ part ∈ parts, d.Starts part.toList)
    : d.Starts (String.join parts).toList := by
  induction parts with
  | nil => simp [Dialect.Starts]
  | cons part parts ih =>
    obtain ⟨hfirst, h⟩ := List.forall_mem_cons.mp h
    rw [String.join_cons, String.toList_append]
    exact hfirst.append (ih h)

theorem starts_of_unquoted_append {s : String} (h : Unquoted s) (hne : s ≠ "") (t : String)
    : d.Starts (s ++ t).toList :=
  h.starts.append_of_ne hne t

theorem starts_inlineKeys (commands : List Command) : d.Starts (inlineKeys g commands).toList := by
  rw [inlineKeys_eq, String.toList_append]
  apply Dialect.Starts.append
  . apply starts_join
    intro part hpart
    obtain ⟨key, -, rfl⟩ := List.mem_map.mp hpart
    unfold inlineForeign
    rw [String.append_assoc, String.append_assoc]
    exact starts_of_unquoted_append (by decide) (by decide) _
  . cases commands.findSome? Command.primaryColumns? with
    | none => simp [Dialect.Starts]
    | some columns =>
      rw [Option.map_some, Option.getD_some]
      unfold inlinePrimary
      rw [String.append_assoc]
      exact starts_of_unquoted_append (by decide) (by decide) _

theorem starts_engineText (b : Blueprint) : d.Starts b.engineText.toList := by
  unfold engineText
  cases b.engine with
  | none => simp [Dialect.Starts]
  | some engine => exact starts_of_unquoted_append (by decide) (by decide) _

theorem dialect_cases (d : Dialect) : d = .mysql ∨ d = .postgres ∨ d = .sqlite := by
  cases d <;> simp

theorem composed_create (h : b.Closed g) {commands : List Command} {parts : List String}
    (hparts : b.commandStatements g commands .create = .ok parts)
    : Composed g.dialect parts (b.commandLiterals g .create) := by
  have hempty : Unquoted "" := by decide
  have hcolumns := fits_columnChunks (lead_createOpening h) hempty h.columns
  have hliterals := literals_columnChunks (g := g) (b.createOpening g) "" b.columns
  have hchunks := columnBody_eq (b := b) (g := g) (b.createOpening g)
  have hparenthesis : Unquoted ")" := by decide
  unfold commandStatements at hparts
  obtain hdialect | hdialect | hdialect := dialect_cases g.dialect
  . rw [hdialect] at hparts
    cases hparts
    apply Composed.of_sentence {
      chunks := columnChunks g (b.createOpening g) "" b.columns ++ b.optionChunks
      rest := b.engineText }
    . exact ⟨List.forall_mem_append.mpr ⟨hcolumns, fits_optionChunks h⟩,
        fun _ => starts_engineText b⟩
    . rw [Sentence.text, Chunk.joined_append, hchunks, String.append_assoc, joined_optionChunks,
        createText_eq, ← String.append_assoc]
    . rw [Sentence.literals, List.filterMap_append, hliterals, literals_optionChunks]
      simp only [commandLiterals, hdialect]
      rfl
  . rw [hdialect] at hparts
    cases hparts
    apply Composed.of_sentence {
      chunks := columnChunks g (b.createOpening g) "" b.columns
      rest := ")" }
    . exact ⟨hcolumns, fun _ => hparenthesis.starts⟩
    . rw [Sentence.text, hchunks, createText_eq]
    . rw [Sentence.literals, hliterals]
      simp only [commandLiterals, hdialect, List.append_nil]
      rfl
  . rw [hdialect] at hparts
    cases hparts
    apply Composed.of_sentence {
      chunks := columnChunks g (b.createOpening g) "" b.columns
      rest := inlineKeys g commands ++ ")" }
    . refine ⟨hcolumns, fun _ => ?_⟩
      rw [String.toList_append]
      exact (starts_inlineKeys commands).append hparenthesis.starts
    . rw [Sentence.text, hchunks, createText_eq]
      simp only [String.append_assoc]
    . rw [Sentence.literals, hliterals]
      simp only [commandLiterals, hdialect, List.append_nil]
      rfl

theorem lead_alter (h : b.Closed g) : Lead g.dialect ("alter table " ++ b.tableText g ++ " ") := by
  have halter : Lead g.dialect "alter table " := lead_of_unquoted (by decide) (by decide)
  have hspace : Unquoted " " := by decide
  exact halter.closed (closes_tableText h) hspace (by decide)

theorem composed_alterAll (h : b.Closed g) {lead : String} (hlead : Unquoted lead)
    : Composed g.dialect [b.alterAll g ((b.definitions g).map (lead ++ ·))]
        (b.columnLiterals g) := by
  apply Composed.of_sentence {
    chunks := columnChunks g ("alter table " ++ b.tableText g ++ " ") lead b.columns }
  . exact ⟨fits_columnChunks (lead_alter h) hlead h.columns, fun _ => by simp [Dialect.Starts]⟩
  . rw [Sentence.text, joined_columnChunks, definitions, List.map_map, String.append_empty]
    rfl
  . exact literals_columnChunks _ _ _

theorem composed_add (h : b.Closed g) {commands : List Command} {parts : List String}
    (hparts : b.commandStatements g commands .add = .ok parts)
    : Composed g.dialect parts (b.commandLiterals g .add) := by
  unfold commandStatements at hparts
  obtain hdialect | hdialect | hdialect := dialect_cases g.dialect
  . rw [hdialect] at hparts
    cases hparts
    exact composed_alterAll h (by decide)
  . rw [hdialect] at hparts
    cases hparts
    exact composed_alterAll h (by decide)
  . rw [hdialect] at hparts
    cases hparts
    have hadd : Unquoted "add column " := by decide
    refine ⟨b.columns.map fun c => {
      chunks := c.chunks g ("alter table " ++ b.tableText g ++ " " ++ "add column ") }, ?_, ?_, ?_⟩
    . rw [definitions, List.map_map, List.map_map]
      apply List.map_congr_left
      intro c _
      rw [Function.comp_apply, Sentence.text, Column.joined_chunks, String.append_empty,
        String.append_assoc]
      rfl
    . rw [List.flatMap_map]
      exact List.flatMap_congr fun c _ => c.literals_chunks _
    . intro sentence hsentence
      obtain ⟨c, hc, rfl⟩ := List.mem_map.mp hsentence
      have hfits := (h.columns c hc).fits_chunks ((lead_alter h).append hadd.passes)
      exact ⟨hfits, fun _ => by simp [Dialect.Starts]⟩

theorem composed_comment (h : b.Closed g) {commands : List Command} {column text : String}
    {parts : List String}
    (hparts : b.commandStatements g commands (.comment column text) = .ok parts)
    : Composed g.dialect parts (b.commandLiterals g (.comment column text)) := by
  unfold commandStatements at hparts
  obtain hdialect | hdialect | hdialect := dialect_cases g.dialect
  . rw [hdialect] at hparts
    cases hparts
    simp only [commandLiterals, hdialect]
    exact composed_plain _ []
  . rw [hdialect] at hparts
    cases hparts
    have hcomment : Lead g.dialect "comment on column " := lead_of_unquoted (by decide) (by decide)
    have hdot : Unquoted "." := by decide
    have his : Unquoted " is " := by decide
    have hcolumn : Closes g.dialect (g.wrap column) :=
      closes_wrapName fun hmysql => absurd (hmysql.symm.trans hdialect) (by decide)
    have htable := hcomment.closed (closes_tableText h) hdot (by decide)
    have hlead := htable.closed hcolumn his (by decide)
    apply Composed.of_sentence {
      chunks := [.literal
        ("comment on column " ++ b.tableText g ++ "." ++ g.wrap column ++ " is ") { text := text }] }
    . refine ⟨?_, fun _ => by simp [Dialect.Starts]⟩
      intro chunk hchunk
      rw [List.mem_singleton.mp hchunk]
      exact hlead
    . simp [Sentence.text, Chunk.joined, Chunk.text, Literal.written]
    . simp only [commandLiterals, hdialect]
      rfl
  . rw [hdialect] at hparts
    cases hparts
    simp only [commandLiterals, hdialect]
    exact composed_plain _ []

theorem composed_command (h : b.Closed g) {commands : List Command} {c : Command}
    {parts : List String} (hparts : b.commandStatements g commands c = .ok parts)
    : Composed g.dialect parts (b.commandLiterals g c) := by
  cases c with
  | create => exact composed_create h hparts
  | add => exact composed_add h hparts
  | comment column text => exact composed_comment h hparts
  | drop | dropIfExists | dropColumns | renameColumn | rename | index | foreign | dropPrimary
  | dropIndex | dropForeign | renameIndex => exact composed_plain _ parts

theorem Writes.composed {commands : List Command} {texts : List String} (h : b.Closed g)
    (hwrites : b.Writes g commands texts)
    : Composed g.dialect texts (commands.flatMap (b.commandLiterals g)) := by
  induction commands generalizing texts with
  | nil =>
    obtain ⟨parts, hparts, rfl⟩ := hwrites
    rw [List.mapM_nil, pure_eq_ok] at hparts
    rw [← hparts]
    exact composed_plain _ []
  | cons c commands ih =>
    obtain ⟨_, hparts, rfl⟩ := hwrites
    simp only [List.mapM_cons, bind_eq_ok, pure_eq_ok] at hparts
    obtain ⟨first, hfirst, parts, hparts, rfl⟩ := hparts
    rw [List.flatMap_cons, List.flatten_cons]
    exact (composed_command h hfirst).append (ih ⟨parts, hparts, rfl⟩)

/--
The statements of a change, with the texts that are given for its columns and its table as literals.
Every literal is read where it stands and means the text that was given, if and only if no text has
a character that escapes in the dialect, and the collation of a table, which is put between quotes
as it is, has no quote.
-/
theorem literals_read_iff {texts : List String} (h : b.Closed g) (hok : b.statements g = .ok texts)
    : ∃ sentences : List Sentence, sentences.map Sentence.text = texts ∧
        sentences.flatMap Sentence.literals = b.literals g ∧
        ((∀ sentence ∈ sentences, sentence.Reads g.dialect) ↔
          ∀ l ∈ b.literals g, l.Sound g.dialect) := by
  obtain ⟨sentences, htexts, hliterals, hfits⟩ := (statements_eq_ok_iff.mp hok).composed h
  refine ⟨sentences, htexts, hliterals, ?_⟩
  unfold literals
  rw [← hliterals, List.forall_mem_flatMap]
  exact forall₂_congr fun sentence hsentence => Sentence.reads_iff (hfits sentence hsentence)

/-- A table with a quote in every text that is given for its columns. -/
def files : Blueprint :=
  (ofGrammar ⟨.mysql, ""⟩ 80 "files").changeAll [
    .create,
    .string "path" [.fallback (.value (.text "it's")), .comment "where it's kept"],
    .column "kind" (.enumeration ["a'b", "c"]) [.fallback (.raw "'c'")],
    .collation (some "utf8mb4_bin")]

def fileLiterals : List Literal := [
  { text := "it's" }, { text := "where it's kept" }, { text := "a'b" }, { text := "c" },
  { text := "utf8mb4_bin", doubled := false }]

def filesText : String :=
  "create table `files` (`path` varchar(80) not null default 'it''s' comment 'where it''s kept', " ++
    "`kind` enum('a''b', 'c') not null default 'c') collate 'utf8mb4_bin'"

theorem files_closed : files.Closed ⟨.mysql, ""⟩ := by
  have hraw : Closes .mysql "'c'" := ⟨[.literal "c"], .cons rfl (.nil _)⟩
  have hclosed {s name : String} (h : s = Grammar.wrapSegment ⟨.mysql, ""⟩ name)
      : Closes .mysql s := by
    rw [h]
    exact closes_wrapSegment ⟨.mysql, ""⟩ name
  have hpath : Grammar.wrap ⟨.mysql, ""⟩ "path" = Grammar.wrapSegment ⟨.mysql, ""⟩ "path" := by
    decide
  have hkind : Grammar.wrap ⟨.mysql, ""⟩ "kind" = Grammar.wrapSegment ⟨.mysql, ""⟩ "kind" := by
    decide
  have htable : Grammar.wrapTable ⟨.mysql, ""⟩ "files" =
      Grammar.wrapSegment ⟨.mysql, ""⟩ "files" := by
    decide
  refine ⟨fun _ => hclosed htable, ?_, by rintro _ ⟨⟩⟩
  intro c hc
  cases hc with
  | head =>
    refine ⟨fun _ => hclosed hpath, ?_, ?_, ?_, ?_, ?_⟩
    . rintro - _ ⟨⟩
    all_goals rintro _ ⟨⟩
  | tail _ hc =>
    cases hc with
    | head =>
      refine ⟨fun _ => hclosed hkind, ?_, ?_, ?_, ?_, ?_⟩
      . rintro - _ ⟨⟩
      . rintro _ ⟨⟩
        exact hraw
      all_goals rintro _ ⟨⟩
    | tail _ hc => cases hc

theorem files_literals_read
    : files.Closed ⟨.mysql, ""⟩ ∧ files.statements ⟨.mysql, ""⟩ = .ok [filesText] ∧
      files.literals ⟨.mysql, ""⟩ = fileLiterals ∧
      ∃ sentences : List Sentence, sentences.map Sentence.text = [filesText] ∧
        sentences.flatMap Sentence.literals = fileLiterals ∧
        ∀ sentence ∈ sentences, sentence.Reads .mysql := by
  have hwritten : files.statements ⟨.mysql, ""⟩ = .ok _ := rfl
  have hstatements : files.statements ⟨.mysql, ""⟩ = .ok [filesText] := by
    refine hwritten.trans (congrArg Except.ok ?_)
    decide +kernel
  have hliterals : files.literals ⟨.mysql, ""⟩ = fileLiterals := rfl
  have hsound : ∀ l ∈ fileLiterals, l.Sound .mysql := by
    have hall : fileLiterals.all fun l => l.Sound .mysql := by decide
    exact fun l hl => of_decide_eq_true (List.all_eq_true.mp hall l hl)
  obtain ⟨sentences, htexts, hsentences, hreads⟩ := literals_read_iff files_closed hstatements
  rw [hliterals] at hsentences hreads
  exact ⟨files_closed, hstatements, hliterals, sentences, htexts, hsentences, hreads.mpr hsound⟩

/-- A text with a backslash at its end, and a collation with a quote. -/
def drives : Blueprint :=
  (ofGrammar ⟨.mysql, ""⟩ 80 "drives").changeAll [
    .create, .string "root" [.fallback (.value (.text "C:\\"))], .collation (some "x'y")]

def drivesLead : String := "create table `drives` (`root` varchar(80) not null default "

/-- The first literal does not end where it should, and the second ends too early. -/
theorem drives_literals_not_read
    : drives.statements ⟨.mysql, ""⟩ = .ok [drivesLead ++ "'C:\\'" ++ ") collate 'x'y'"] ∧
      drives.literals ⟨.mysql, ""⟩ = [{ text := "C:\\" }, { text := "x'y", doubled := false }] ∧
      ¬ReadAt .mysql drivesLead "'C:\\'" "C:\\" ") collate 'x'y'" ∧
      ¬ReadAt .mysql (drivesLead ++ "'C:\\'" ++ ") collate ") "'x'y'" "x'y" "" := by
  have hwritten : drives.statements ⟨.mysql, ""⟩ = .ok _ := rfl
  refine ⟨hwritten.trans (congrArg Except.ok ?_), rfl, ?_, ?_⟩
  . decide
  . rintro ⟨-, hread⟩
    have hwritten : Literal.written { text := "C:\\" } = "'C:\\'" := by decide
    have hunsound : ¬Literal.Sound .mysql { text := "C:\\" } := by decide
    rw [String.toList_append, ← hwritten] at hread
    exact hunsound ((Literal.atom?_written_iff (by decide)).mp hread)
  . rintro ⟨-, hread⟩
    have hwritten : Literal.written { text := "x'y", doubled := false } = "'x'y'" := by decide
    have hunsound : ¬Literal.Sound .mysql { text := "x'y", doubled := false } := by decide
    rw [String.toList_append, ← hwritten] at hread
    exact hunsound ((Literal.atom?_written_iff (by decide)).mp hread)

end Blueprint

end SqlForge.Schema
