import Mathlib.Data.List.Nodup
import SqlForge.Proofs.Schema.Clause
import SqlForge.Proofs.Schema.ColumnLiteral

/-!
A column definition says every clause in the order of its dialect, and none of them twice but for
the value to fall back to: that of a time that starts out as the current one is in its type.
-/

namespace SqlForge.Schema

section

variable {d : Dialect} {g : Grammar} {s : String}

/-! ### Names -/

theorem isQuote_quote (d : Dialect) : d.isQuote d.quote := by
  cases d <;> decide

theorem wordless_quoteText (d : Dialect) (s : String) : Wordless d (Identifier.quoteText s) :=
  wordless_quoted (by cases d <;> decide) s

theorem wordless_wrapSegment (g : Grammar) (segment : String)
    : Wordless g.dialect (g.wrapSegment segment) := by
  unfold Grammar.wrapSegment Identifier.quoteSegment
  split
  . cases g.dialect <;> decide
  . exact wordless_quoted (isQuote_quote g.dialect) segment

theorem wordless_intercalate {separator : String} (hseparator : Wordless d separator)
    (hstarts : StartsApart separator) (hends : EndsApart separator) {parts : List String}
    (h : ∀ part ∈ parts, Wordless d part)
    : Wordless d (separator.intercalate parts) := by
  induction parts with
  | nil =>
    have hempty : Wordless d "" := by cases d <;> decide
    exact hempty
  | cons part parts ih =>
    obtain ⟨hpart, hparts⟩ := List.forall_mem_cons.mp h
    cases parts with
    | nil => rwa [String.intercalate_singleton]
    | cons next parts =>
      rw [String.intercalate_cons_cons]
      exact (hpart.append hseparator (hstarts.wordsApart part)).append (ih hparts)
        ((hends.append part).wordsApart _)

theorem wordless_wrapDotted (g : Grammar) (asTable : Bool) (s : String)
    : Wordless g.dialect (g.wrapDotted asTable s) := by
  unfold Grammar.wrapDotted
  split
  . cases g.dialect <;> decide
  . unfold Grammar.wrapSegments
    split
    . cases g.dialect <;> decide
    . exact wordless_wrapSegment g _
    . apply wordless_intercalate (by cases g.dialect <;> decide) (by decide) (by decide)
      refine List.forall_mem_cons.mpr ⟨?_, ?_⟩
      . split
        . exact wordless_wrapSegment g _
        . exact wordless_quoted (isQuote_quote g.dialect) _
      . intro part hpart
        obtain ⟨segment, -, rfl⟩ := List.mem_map.mp hpart
        exact wordless_wrapSegment g segment

theorem wordless_jsonStep (d : Dialect) (key : String) : Wordless d (Grammar.jsonStep key) := by
  unfold Grammar.jsonStep
  split
  . next n hn =>
    apply wordless_integer
    unfold Number.int64? at hn
    split at hn
    . next m hm => simp [hm]
    . contradiction
  . exact wordless_quoteText d key

theorem wordless_jsonArrows (d : Dialect) (path : List String)
    : Wordless d (Grammar.jsonArrows path) ∧ StartsApart (Grammar.jsonArrows path) := by
  have hlast : Wordless d "->>" := by cases d <;> decide
  have harrow : Wordless d "->" := by cases d <;> decide
  have hlastStarts : StartsApart "->>" := by decide
  have harrowStarts : StartsApart "->" := by decide
  have hlastEnds : EndsApart "->>" := by decide
  have harrowEnds : EndsApart "->" := by decide
  induction path with
  | nil => exact ⟨hlast, hlastStarts⟩
  | cons key keys ih =>
    cases keys with
    | nil =>
      exact ⟨hlast.append (wordless_jsonStep d key) (hlastEnds.wordsApart _),
        hlastStarts.append _⟩
    | cons next keys =>
      have hstep := harrow.append (wordless_jsonStep d key) (harrowEnds.wordsApart _)
      exact ⟨hstep.append ih.1 (ih.2.wordsApart _), (harrowStarts.append _).append _⟩

theorem wordless_enclosed {opening given closing : String} (hopening : Wordless d opening)
    (hends : EndsApart opening) (hgiven : Wordless d given) (hclosing : Wordless d closing)
    (hstarts : StartsApart closing)
    : Wordless d (opening ++ given ++ closing) :=
  (hopening.append hgiven (hends.wordsApart _)).append hclosing (hstarts.wordsApart _)

theorem wordless_call {opening closing field : String} (hopening : Wordless d opening)
    (hends : EndsApart opening) (hfield : Wordless d field) (path : List String)
    (hclosing : Wordless d closing) (hstarts : StartsApart closing)
    : Wordless d (opening ++ field ++ ", " ++ Grammar.jsonPath path ++ closing) := by
  have hcomma : Wordless d ", " := by cases d <;> decide
  have hcommaStarts : StartsApart ", " := by decide
  have hcommaEnds : EndsApart ", " := by decide
  have hpath : Wordless d (Grammar.jsonPath path) := by
    rw [Grammar.jsonPath_eq_quoteText]
    exact wordless_quoteText d _
  have hopen := wordless_enclosed hopening hends hfield hcomma hcommaStarts
  exact wordless_enclosed hopen (hcommaEnds.append _) hpath hclosing hstarts

theorem wordless_jsonSelector {field : String} (h : Wordless d field) (path : List String)
    : Wordless d (Grammar.jsonSelector d field path) := by
  cases d with
  | mysql => exact wordless_call (by decide) (by decide) h path (by decide) (by decide)
  | sqlite => exact wordless_call (by decide) (by decide) h path (by decide) (by decide)
  | postgres =>
    obtain ⟨harrows, hstarts⟩ := wordless_jsonArrows .postgres path
    exact h.append harrows (hstarts.wordsApart _)

/-- Only the alias of a name is written with a word of its own. -/
theorem wordless_wrapName {asTable : Bool} (h : Identifier.splitAlias? s = none)
    : Wordless g.dialect (g.wrapName asTable s) := by
  unfold Grammar.wrapName
  rw [h]
  unfold Grammar.wrapTarget
  dsimp only
  split
  . exact wordless_jsonSelector (wordless_wrapDotted g false _) _
  . exact wordless_wrapDotted g asTable s

end

/-- There is at most one value to fall back to, and none beside an expression. -/
def DefaultsOnce (ms : List Modifier) : Prop :=
  ms.count .default ≤ 1 ∧ (.virtualAs ∈ ms ∨ .storedAs ∈ ms → .default ∉ ms)

instance (ms : List Modifier) : Decidable (DefaultsOnce ms) := by
  unfold DefaultsOnce; infer_instance

namespace Column

/-- Whether the type says that the column starts out as the current time. -/
def isCurrent (c : Column) : Bool :=
  match c.type with
  | .dateTime | .timestamp => c.useCurrent
  | _ => false

/-- The clauses that are said with the type. -/
def typeClauses (c : Column) : List Modifier :=
  if c.isCurrent then [.default] else []

/--
What the column is when no value is given is said once: by the current time, by a value, or by an
expression, none of which is said beside another one.
-/
def SingleSource (g : Grammar) (c : Column) : Prop :=
  match g.dialect with
  | .mysql | .postgres =>
    ¬(c.isCurrent ∧ c.fallback.isSome) ∧ ¬(c.isGenerated ∧ (c.isCurrent ∨ c.fallback.isSome))
  | .sqlite => ¬(c.isCurrent ∧ c.fallback.isSome ∧ ¬c.isGenerated)

instance (g : Grammar) (c : Column) : Decidable (c.SingleSource g) := by
  unfold SingleSource; cases g.dialect <;> infer_instance

/-- No name has an alias, and the SQL that is given has no word that a clause is known by. -/
structure Plain (g : Grammar) (c : Column) : Prop where
  name : Identifier.splitAlias? c.name = none
  after : ∀ column ∈ c.after, Identifier.splitAlias? column = none
  fallback : ∀ sql, c.fallback = some (.raw sql) → Wordless g.dialect sql
  charset : ∀ charset ∈ c.charset, Wordless g.dialect charset
  virtualAs : ∀ expression ∈ c.virtualAs, Wordless g.dialect expression
  storedAs : ∀ expression ∈ c.storedAs, Wordless g.dialect expression

/-- The modifiers that are written for the column, in their order. -/
def written (g : Grammar) (c : Column) : List Modifier :=
  g.dialect.modifiers.filter fun m => (c.modifierText? g m).isSome

section

variable {d : Dialect} {g : Grammar} {c : Column}

/-! ### Types -/

theorem wordless_sized {opening : String} (hopening : Wordless d opening)
    (hends : EndsApart opening) (size : Nat)
    : Wordless d (opening ++ toString size ++ ")") := by
  have hclosing : Wordless d ")" := by cases d <;> decide
  have hstarts : StartsApart ")" := by decide
  exact wordless_enclosed hopening hends (wordless_toString d size) hclosing hstarts

theorem wordless_sizedType {type : String} (h : Wordless d type) (total places : Nat)
    : Wordless d (sizedType type total places) := by
  have hopening : Wordless d "(" := by cases d <;> decide
  have hcomma : Wordless d ", " := by cases d <;> decide
  have hopeningStarts : StartsApart "(" := by decide
  have hopeningEnds : EndsApart "(" := by decide
  have hcommaStarts : StartsApart ", " := by decide
  have hcommaEnds : EndsApart ", " := by decide
  have hopen := h.append hopening (hopeningStarts.wordsApart _)
  have htotal := wordless_enclosed hopen (hopeningEnds.append _) (wordless_toString d total) hcomma
    hcommaStarts
  exact wordless_sized htotal (hcommaEnds.append _) places

theorem wordless_textList (d : Dialect) (texts : List String) : Wordless d (textList texts) := by
  apply wordless_intercalate (by cases d <;> decide) (by decide) (by decide)
  intro part hpart
  obtain ⟨t, -, rfl⟩ := List.mem_map.mp hpart
  exact wordless_quoteText d t

theorem reads_timeType {type : String} (h : Wordless d type) {ms : List Modifier}
    (hms : ms = if c.useCurrent then [.default] else [])
    : Reads d false (c.timeType type) ms false := by
  unfold timeType
  rw [hms]
  split
  . have hcurrent : Reads d false " default CURRENT_TIMESTAMP" [.default] false := by
      cases d <;> decide
    have hstarts : StartsApart " default CURRENT_TIMESTAMP" := by decide
    exact h.reads.append hcurrent (hstarts.wordsApart _)
  . exact h.reads

theorem reads_mysqlType : Reads .mysql false c.mysqlType c.typeClauses false := by
  unfold mysqlType typeClauses isCurrent
  cases c.type with
  | char length | string length => exact (wordless_sized (by decide) (by decide) length).reads
  | decimal total places | float total places => exact (wordless_sizedType (by decide) _ _).reads
  | double sizes =>
    cases sizes with
    | none =>
      dsimp only
      exact Wordless.reads (by decide)
    | some sizes => exact (wordless_sizedType (by decide) _ _).reads
  | dateTime | timestamp => exact reads_timeType (by decide) rfl
  | enumeration members =>
    exact (wordless_enclosed (by decide) (by decide) (wordless_textList _ members) (by decide)
      (by decide)).reads
  | _ =>
    dsimp only
    exact Wordless.reads (by decide)

theorem wordless_checked {opening name : String} (hopening : Wordless d opening)
    (hends : EndsApart opening) (hname : Wordless d name) (texts : List String)
    : Wordless d (opening ++ name ++ " in (" ++ textList texts ++ "))") := by
  have hin : Wordless d " in (" := by cases d <;> decide
  have hinStarts : StartsApart " in (" := by decide
  have hinEnds : EndsApart " in (" := by decide
  have hclosing : Wordless d "))" := by cases d <;> decide
  have hstarts : StartsApart "))" := by decide
  have hopen := wordless_enclosed hopening hends hname hin hinStarts
  exact wordless_enclosed hopen (hinEnds.append _) (wordless_textList d texts) hclosing hstarts

theorem reads_postgresType (hname : Wordless .postgres (g.wrap c.name))
    : Reads .postgres false (c.postgresType g) c.typeClauses false := by
  unfold postgresType typeClauses isCurrent
  cases c.type with
  | char length | string length => exact (wordless_sized (by decide) (by decide) length).reads
  | decimal total places => exact (wordless_sizedType (by decide) _ _).reads
  | dateTime | timestamp => exact reads_timeType (by decide) rfl
  | integer | mediumInteger | bigInteger | tinyInteger | smallInteger =>
    dsimp only
    split <;> exact Wordless.reads (by decide)
  | enumeration members =>
    exact (wordless_checked (by decide) (by decide) hname members).reads
  | _ =>
    dsimp only
    exact Wordless.reads (by decide)

theorem reads_sqliteType (hname : Wordless .sqlite (g.wrap c.name))
    : Reads .sqlite false (c.sqliteType g) c.typeClauses false := by
  unfold sqliteType typeClauses isCurrent
  cases c.type with
  | dateTime | timestamp => exact reads_timeType (by decide) rfl
  | enumeration members =>
    exact (wordless_checked (by decide) (by decide) hname members).reads
  | _ =>
    dsimp only
    exact Wordless.reads (by decide)

theorem reads_typeText (hname : Wordless g.dialect (g.wrap c.name))
    : Reads g.dialect false (c.typeText g) c.typeClauses false := by
  unfold typeText
  cases hdialect : g.dialect with
  | mysql => exact reads_mysqlType
  | postgres => exact reads_postgresType (hdialect ▸ hname)
  | sqlite => exact reads_sqliteType (hdialect ▸ hname)

/-! ### Modifiers -/

/-- Wherever the text stands, it says the modifier; only NULL may not be behind a `default`. -/
structure Says (d : Dialect) (m : Modifier) (text : String) : Prop where
  starts : StartsApart text
  reads : ∀ behind : Bool, (behind → m ≠ .nullable) →
    ∃ ends : Bool, Reads d behind text m.marks ends ∧ (ends → m = .default)

theorem says_words {m : Modifier} {text : String} (hstarts : StartsApart text)
    (h : ∀ behind : Bool, (behind → m ≠ .nullable) → Reads d behind text m.marks false)
    : Says d m text where
  starts := hstarts
  reads := fun behind hbehind => ⟨false, h behind hbehind, Bool.noConfusion⟩

theorem says_given {m : Modifier} {opening given : String} (hstarts : StartsApart opening)
    (hends : EndsApart opening) (h : ∀ behind : Bool, Reads d behind opening m.marks false)
    (hgiven : Wordless d given)
    : Says d m (opening ++ given) := by
  apply says_words (hstarts.append given)
  intro behind _
  have hall := (h behind).append hgiven.reads (hends.wordsApart given)
  rwa [List.append_nil] at hall

theorem says_enclosed {m : Modifier} {first last : List Modifier} {opening given closing : String}
    (hstarts : StartsApart opening) (hends : EndsApart opening)
    (hopening : ∀ behind : Bool, Reads d behind opening first false) (hgiven : Wordless d given)
    (hclosing : Reads d false closing last false) (hclosingStarts : StartsApart closing)
    (hm : first ++ last = m.marks)
    : Says d m (opening ++ given ++ closing) := by
  apply says_words ((hstarts.append given).append closing)
  intro behind _
  have hopen := (hopening behind).append hgiven.reads (hends.wordsApart given)
  have hall := hopen.append hclosing (hclosingStarts.wordsApart _)
  rwa [List.append_nil, hm] at hall

/-- An expression stands between parentheses, and whether it is stored behind them. -/
theorem says_expression {opening expression : String} (hstarts : StartsApart opening)
    (hends : EndsApart opening)
    (hopening : ∀ behind : Bool, Reads d behind opening [.virtualAs] false)
    (h : Wordless d expression)
    : Says d .virtualAs (opening ++ expression ++ ")") ∧
      Says d .storedAs (opening ++ expression ++ ") stored") := by
  have hvirtual : Reads d false ")" [] false := by cases d <;> decide
  have hstored : Reads d false ") stored" [.storedAs] false := by cases d <;> decide
  exact ⟨says_enclosed hstarts hends hopening h hvirtual (by decide) rfl,
    says_enclosed hstarts hends hopening h hstored (by decide) rfl⟩

theorem reads_fallbackText (h : ∀ sql, c.fallback = some (.raw sql) → Wordless d sql)
    {value : Operand} (hvalue : c.fallback = some value)
    : ∃ ends, Reads d true (fallbackText value) [] ends := by
  cases value with
  | raw sql => exact (h sql hvalue).exists_reads true
  | value v =>
    have hquoted := (wordless_quoteText d (valueText v)).exists_reads true
    cases v with
    | null =>
      have hnull : Reads d true "null" [] false := by cases d <;> decide
      exact ⟨false, hnull⟩
    | _ => exact hquoted

theorem says_default (h : ∀ sql, c.fallback = some (.raw sql) → Wordless d sql) {text : String}
    (htext : c.fallback.map (" default " ++ fallbackText ·) = some text)
    : Says d .default text := by
  obtain ⟨value, hvalue, rfl⟩ := Option.map_eq_some_iff.mp htext
  have hstarts : StartsApart " default " := by decide
  have hends : EndsApart " default " := by decide
  have hopening (behind : Bool) : Reads d behind " default " [.default] true := by
    cases d <;> cases behind <;> decide
  obtain ⟨ends, hread⟩ := reads_fallbackText h hvalue
  refine ⟨hstarts.append _, fun behind _ => ⟨ends, ?_, fun _ => rfl⟩⟩
  exact (hopening behind).append hread (hends.wordsApart _)

theorem says_nullText (d : Dialect) (c : Column) : Says d .nullable c.nullText := by
  unfold nullText
  apply says_words
  . split <;> decide
  . split <;> cases d <;> decide

theorem says_mysqlModifier (h : c.Plain g) (hdialect : g.dialect = .mysql) {m : Modifier}
    {text : String} (htext : c.mysqlModifier g m = some text)
    : Says .mysql m text := by
  obtain ⟨hname, hafter, hfallback, hcharset, hvirtual, hstored⟩ := h
  rw [hdialect] at hfallback hcharset hvirtual hstored
  cases m with
  | unsigned =>
    rw [given_eq_some htext]
    exact says_words (by decide) (by decide)
  | charset =>
    obtain ⟨charset, hgiven, rfl⟩ := Option.map_eq_some_iff.mp htext
    exact says_given (by decide) (by decide) (by decide) (hcharset charset hgiven)
  | collate =>
    obtain ⟨collation, -, rfl⟩ := Option.map_eq_some_iff.mp htext
    exact says_given (by decide) (by decide) (by decide) (wordless_quoteText _ collation)
  | virtualAs =>
    obtain ⟨expression, hgiven, rfl⟩ := Option.map_eq_some_iff.mp htext
    exact (says_expression (by decide) (by decide) (by decide) (hvirtual expression hgiven)).1
  | storedAs =>
    obtain ⟨expression, hgiven, rfl⟩ := Option.map_eq_some_iff.mp htext
    exact (says_expression (by decide) (by decide) (by decide) (hstored expression hgiven)).2
  | nullable =>
    rw [given_eq_some htext]
    exact says_nullText _ c
  | default => exact says_default hfallback htext
  | increment =>
    rw [given_eq_some htext]
    exact says_words (by decide) (by decide)
  | comment =>
    obtain ⟨comment, -, rfl⟩ := Option.map_eq_some_iff.mp htext
    exact says_given (by decide) (by decide) (by decide) (wordless_quoteText _ comment)
  | after =>
    obtain ⟨column, hgiven, rfl⟩ := Option.map_eq_some_iff.mp htext
    have hwrap : Wordless g.dialect (g.wrap column) := wordless_wrapName (hafter column hgiven)
    rw [hdialect] at hwrap
    exact says_given (by decide) (by decide) (by decide) hwrap
  | first =>
    rw [given_eq_some htext]
    exact says_words (by decide) (by decide)

theorem says_postgresModifier (h : c.Plain g) (hdialect : g.dialect = .postgres) {m : Modifier}
    {text : String} (htext : c.postgresModifier g m = some text)
    : Says .postgres m text := by
  obtain ⟨hname, hafter, hfallback, hcharset, hvirtual, hstored⟩ := h
  rw [hdialect] at hfallback hcharset hvirtual hstored
  cases m with
  | unsigned | charset | comment | after | first => cases htext
  | collate =>
    obtain ⟨collation, -, rfl⟩ := Option.map_eq_some_iff.mp htext
    have hwrap := wordless_wrapSegment g collation
    rw [hdialect] at hwrap
    exact says_given (by decide) (by decide) (by decide) hwrap
  | increment =>
    rw [given_eq_some htext]
    exact says_words (by decide) (by decide)
  | nullable =>
    cases htext
    exact says_nullText _ c
  | default => exact says_default hfallback htext
  | virtualAs =>
    obtain ⟨expression, hgiven, rfl⟩ := Option.map_eq_some_iff.mp htext
    exact (says_expression (by decide) (by decide) (by decide) (hvirtual expression hgiven)).1
  | storedAs =>
    obtain ⟨expression, hgiven, rfl⟩ := Option.map_eq_some_iff.mp htext
    exact (says_expression (by decide) (by decide) (by decide) (hstored expression hgiven)).2

theorem says_sqliteModifier (h : c.Plain g) (hdialect : g.dialect = .sqlite) {m : Modifier}
    {text : String} (htext : c.sqliteModifier m = some text)
    : Says .sqlite m text := by
  have hfallback := h.fallback
  rw [hdialect] at hfallback
  cases m with
  | nullable =>
    cases htext
    exact says_nullText _ c
  | default =>
    rw [sqliteModifier] at htext
    split at htext
    . cases htext
    . exact says_default hfallback htext
  | increment =>
    rw [given_eq_some htext]
    exact says_words (by decide) (by decide)
  | _ => cases htext

theorem says_modifierText? (h : c.Plain g) {m : Modifier} {text : String}
    (htext : c.modifierText? g m = some text)
    : Says g.dialect m text := by
  unfold modifierText? at htext
  cases hdialect : g.dialect with
  | mysql =>
    rw [hdialect] at htext
    exact says_mysqlModifier h hdialect htext
  | postgres =>
    rw [hdialect] at htext
    exact says_postgresModifier h hdialect htext
  | sqlite =>
    rw [hdialect] at htext
    exact says_sqliteModifier h hdialect htext

/-! ### Definitions -/

theorem reads_modifiers (h : c.Plain g) {ms : List Modifier}
    (hpairs : ms.Pairwise fun m later => m = .default → later ≠ .nullable) {behind : Bool}
    (hbehind : behind → .nullable ∉ ms)
    : (∃ ends, Reads g.dialect behind (String.join (ms.filterMap (c.modifierText? g)))
        ((ms.filter fun m => (c.modifierText? g m).isSome).flatMap Modifier.marks) ends) ∧
      ∀ s, WordsApart s (String.join (ms.filterMap (c.modifierText? g))) := by
  induction ms generalizing behind with
  | nil =>
    have hempty : ∀ behind, Reads g.dialect behind "" [] behind := by
      cases g.dialect <;> decide
    refine ⟨⟨behind, ?_⟩, fun s => ?_⟩
    . rw [List.filterMap_nil, String.join_nil]
      exact hempty behind
    . rw [List.filterMap_nil, String.join_nil]
      intro c _ next hnext
      cases hnext
  | cons m ms ih =>
    obtain ⟨hfirst, hpairs⟩ := List.pairwise_cons.mp hpairs
    cases htext : c.modifierText? g m with
    | none =>
      rw [List.filterMap_cons_none htext, List.filter_cons_of_neg (by simp [htext])]
      exact ih hpairs fun hb hmem => hbehind hb (List.mem_cons_of_mem _ hmem)
    | some text =>
      obtain ⟨hstarts, hreads⟩ := says_modifierText? h htext
      have hm : behind → m ≠ .nullable := fun hb hm => hbehind hb (hm ▸ List.mem_cons_self)
      obtain ⟨between, hread, hbetween⟩ := hreads behind hm
      have hlater : between → .nullable ∉ ms := fun hb hmem => hfirst _ hmem (hbetween hb) rfl
      obtain ⟨⟨ends, hrest⟩, hapart⟩ := ih hpairs hlater
      rw [List.filterMap_cons_some htext, String.join_cons,
        List.filter_cons_of_pos (by simp [htext]), List.flatMap_cons]
      refine ⟨⟨ends, hread.append hrest (hapart text)⟩, fun s => ?_⟩
      exact (hstarts.append _).wordsApart s

theorem clauses_definition (h : c.Plain g)
    : clauses g.dialect (c.definition g) = c.typeClauses ++ c.written g := by
  have hname : Wordless g.dialect (g.wrap c.name) := wordless_wrapName h.name
  have hspace : Reads g.dialect false " " [] false := by
    cases g.dialect <;> decide
  have hstarts : StartsApart " " := by decide
  have hends : EndsApart " " := by decide
  have hpairs : g.dialect.modifiers.Pairwise fun m later => m = .default → later ≠ .nullable := by
    cases g.dialect <;> decide
  have hbehind : false = true → Modifier.nullable ∉ g.dialect.modifiers := Bool.noConfusion
  obtain ⟨⟨ends, hmodifiers⟩, hapart⟩ := reads_modifiers h hpairs hbehind
  have hlead := hname.reads.append hspace (hstarts.wordsApart _)
  have htype := hlead.append (reads_typeText hname) ((hends.append _).wordsApart _)
  have hall := htype.append hmodifiers (hapart _)
  have hmarks : c.typeClauses = c.typeClauses.flatMap Modifier.marks := by
    unfold typeClauses
    split <;> rfl
  unfold clauses
  rw [definition, hall.clauses, List.nil_append, List.nil_append, hmarks, ← List.flatMap_append,
    joinStored_marks, ← hmarks]
  rfl

/-! ### The value to fall back to -/

theorem mem_written_default
    : .default ∈ c.written g ↔ c.fallback.isSome ∧ ¬(g.dialect = .sqlite ∧ c.isGenerated) := by
  unfold written modifierText?
  rw [List.mem_filter]
  cases g.dialect with
  | mysql => simp [Dialect.modifiers, mysqlModifier]
  | postgres => simp [Dialect.modifiers, postgresModifier]
  | sqlite =>
    cases hgenerated : c.isGenerated <;> simp [Dialect.modifiers, sqliteModifier, hgenerated]

theorem mem_written_expression
    : .virtualAs ∈ c.written g ∨ .storedAs ∈ c.written g ↔
      g.dialect ≠ .sqlite ∧ c.isGenerated := by
  unfold written modifierText?
  rw [List.mem_filter, List.mem_filter]
  cases g.dialect with
  | mysql => simp [Dialect.modifiers, mysqlModifier, isGenerated]
  | postgres => simp [Dialect.modifiers, postgresModifier, isGenerated]
  | sqlite => simp [Dialect.modifiers]

theorem nodup_written : (c.written g).Nodup := by
  have hall : g.dialect.modifiers.Nodup := by cases g.dialect <;> decide
  exact hall.filter _

theorem mem_typeClauses {m : Modifier} : m ∈ c.typeClauses ↔ m = .default ∧ c.isCurrent := by
  unfold typeClauses
  split <;> simp [*]

theorem count_default_le_one_iff
    : (c.typeClauses ++ c.written g).count .default ≤ 1 ↔
      ¬(c.isCurrent ∧ .default ∈ c.written g) := by
  rw [List.count_append, List.Nodup.count nodup_written, typeClauses]
  by_cases hcurrent : c.isCurrent
  . by_cases hwritten : .default ∈ c.written g
    . simp [hcurrent, hwritten]
    . simp [hcurrent, hwritten]
  . rw [if_neg hcurrent, List.count_nil, Nat.zero_add]
    split <;> simp [hcurrent]

theorem defaultsOnce_iff : DefaultsOnce (c.typeClauses ++ c.written g) ↔ c.SingleSource g := by
  have hexpression : (.virtualAs ∈ c.typeClauses ++ c.written g ∨
      .storedAs ∈ c.typeClauses ++ c.written g) ↔ g.dialect ≠ .sqlite ∧ c.isGenerated := by
    rw [List.mem_append, List.mem_append, mem_typeClauses, mem_typeClauses,
      ← mem_written_expression]
    simp
  have hdefault : .default ∈ c.typeClauses ++ c.written g ↔
      c.isCurrent ∨ .default ∈ c.written g := by
    rw [List.mem_append, mem_typeClauses]
    simp
  rw [DefaultsOnce, count_default_le_one_iff, hexpression, hdefault, mem_written_default,
    SingleSource]
  cases g.dialect with
  | mysql | postgres => simp
  | sqlite => simp

/--
The definition has the clauses of its dialect in their order, each at most once; and it says once
at most what the column is without a value, if and only if no two sources of it are given.
-/
theorem default_once_iff (h : c.Plain g)
    : (c.definition g = g.wrap c.name ++ " " ++ c.typeText g ++
          String.join ((c.written g).filterMap (c.modifierText? g)) ∧
        clauses g.dialect (c.definition g) = c.typeClauses ++ c.written g) ∧
      ((c.written g).Sublist g.dialect.modifiers ∧ (c.written g).Nodup) ∧
      (DefaultsOnce (clauses g.dialect (c.definition g)) ↔ c.SingleSource g) := by
  have hclauses := clauses_definition h
  refine ⟨⟨?_, hclauses⟩, ⟨List.filter_sublist, nodup_written⟩, ?_⟩
  . rw [written, List.filterMap_filter]
    have hkept : (fun m => if (c.modifierText? g m).isSome then c.modifierText? g m else none) =
        c.modifierText? g := by
      funext m
      cases c.modifierText? g m <;> rfl
    rw [hkept, definition]
  . rw [hclauses]
    exact defaultsOnce_iff

end

/-- A time that starts out as the current one, with a comment that has a word of its own. -/
def placedAt : Column :=
  { name := "placed at", type := .timestamp, useCurrent := true, nullable := true,
    comment := some "not the default 'as' of the shop" }

/-- A number with a value to fall back to, next to the expression that gives it. -/
def total : Column :=
  { name := "total", type := .integer, fallback := some (.value (.int 0)),
    virtualAs := some "net + tax" }

theorem placedAt_default_once
    : placedAt.Plain ⟨.mysql, ""⟩ ∧
      DefaultsOnce (clauses .mysql (placedAt.definition ⟨.mysql, ""⟩)) := by
  have hplain : placedAt.Plain ⟨.mysql, ""⟩ := by
    refine ⟨by decide, ?_, ?_, ?_, ?_, ?_⟩
    all_goals
      intro given hgiven
      cases hgiven
  exact ⟨hplain, (default_once_iff hplain).2.2.mpr (by decide)⟩

theorem total_not_default_once
    : total.Plain ⟨.mysql, ""⟩ ∧
      clauses .mysql (total.definition ⟨.mysql, ""⟩) = [.virtualAs, .nullable, .default] ∧
      ¬DefaultsOnce (clauses .mysql (total.definition ⟨.mysql, ""⟩)) := by
  have hexpression : Wordless .mysql "net + tax" := by decide
  have hplain : total.Plain ⟨.mysql, ""⟩ := by
    refine ⟨by decide, ?_, ?_, ?_, ?_, ?_⟩
    all_goals
      intro given hgiven
      cases hgiven
    exact hexpression
  have hclauses : clauses .mysql (total.definition ⟨.mysql, ""⟩) =
      [.virtualAs, .nullable, .default] := (clauses_definition hplain).trans (by decide)
  refine ⟨hplain, hclauses, ?_⟩
  rw [hclauses]
  decide

end Column

end SqlForge.Schema
