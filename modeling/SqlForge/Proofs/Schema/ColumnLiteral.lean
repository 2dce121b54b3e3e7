import SqlForge.Proofs.Fragment.Part
import SqlForge.Proofs.Name.Wrap
import SqlForge.Proofs.Schema.Sentence
import SqlForge.Schema.Definition

/-!
The literals in the definition of a column: the members of an enumeration, the value to fall back
to, and, in one dialect, the collation and the comment.
-/

namespace SqlForge.Schema

/-- Texts in a list, between two atoms of code. -/
def listChunks (opening : String) (texts : List String) (closing : String) : List Chunk :=
  match texts with
  | [] => [.code (opening ++ closing)]
  | first :: rest =>
    .literal opening { text := first } :: rest.map (fun t => .literal ", " { text := t }) ++
      [.code closing]

def ColumnType.members : ColumnType → List String
  | .enumeration members => members
  | _ => []

namespace Column

variable (g : Grammar) (c : Column)

def enumerationOpening : String :=
  match g.dialect with
  | .mysql => "enum("
  | .postgres => "varchar(255) check (" ++ g.wrap c.name ++ " in ("
  | .sqlite => "varchar check (" ++ g.wrap c.name ++ " in ("

def enumerationClosing : String :=
  match g.dialect with
  | .mysql => ")"
  | .postgres | .sqlite => "))"

def typeChunks (lead : String) : List Chunk :=
  match c.type with
  | .enumeration members =>
    listChunks (lead ++ c.enumerationOpening g) members (enumerationClosing g)
  | _ => [.code (lead ++ c.typeText g)]

/-- The text that the column falls back to, if it is written as one. -/
def fallbackText? : Option String :=
  match c.fallback with
  | none | some (.raw _) | some (.value .null) => none
  | some (.value v) => some (valueText v)

/-- The code and the text that a modifier is written with, if it is written as a literal. -/
def modifierLiteral? : Modifier → Option (String × String)
  | .collate =>
    match g.dialect with
    | .mysql => c.collation.map (" collate ", ·)
    | .postgres | .sqlite => none
  | .default =>
    if g.dialect = .sqlite && c.isGenerated then none else c.fallbackText?.map (" default ", ·)
  | .comment =>
    match g.dialect with
    | .mysql => c.comment.map (" comment ", ·)
    | .postgres | .sqlite => none
  | _ => none

def modifierChunk? (m : Modifier) : Option Chunk :=
  match c.modifierLiteral? g m with
  | some (lead, t) => some (.literal lead { text := t })
  | none => (c.modifierText? g m).map .code

/-- The definition of the column behind `lead`. -/
def chunks (lead : String) : List Chunk :=
  c.typeChunks g (lead ++ g.wrap c.name ++ " ") ++
    g.dialect.modifiers.filterMap (c.modifierChunk? g)

/-- The texts of the column in the order in which they are written. -/
def givenTexts : List String :=
  c.type.members ++
    match g.dialect with
    | .mysql => c.collation.toList ++ c.fallbackText?.toList ++ c.comment.toList
    | .postgres => c.fallbackText?.toList
    | .sqlite => if c.isGenerated then [] else c.fallbackText?.toList

def literals : List Literal :=
  (c.givenTexts g).map fun t => { text := t }

/-- The SQL that is given for the column, and names where one dialect writes paths, are closed. -/
structure Closed : Prop where
  name : g.dialect = .mysql → Closes g.dialect (g.wrap c.name)
  after : g.dialect = .mysql → ∀ column ∈ c.after, Closes g.dialect (g.wrap column)
  fallback : ∀ sql, c.fallback = some (.raw sql) → Closes g.dialect sql
  charset : ∀ charset ∈ c.charset, Closes g.dialect charset
  virtualAs : ∀ expression ∈ c.virtualAs, Closes g.dialect expression
  storedAs : ∀ expression ∈ c.storedAs, Closes g.dialect expression

end Column

section

variable {d : Dialect} {g : Grammar} {c : Column} {lead : String}

theorem joined_listChunks (opening : String) (texts : List String) (closing : String)
    : Chunk.joined (listChunks opening texts closing) = opening ++ textList texts ++ closing := by
  unfold listChunks textList
  cases texts with
  | nil => simp [Chunk.joined, Chunk.text]
  | cons first rest =>
    have hrest : Chunk.joined (rest.map fun t => .literal ", " { text := t }) =
        String.join ((rest.map Identifier.quoteText).map (", " ++ ·)) := by
      rw [Chunk.joined, List.map_map, List.map_map]
      rfl
    rw [List.map_cons, Sql.intercalate_cons, ← hrest, Chunk.joined_append, Chunk.joined_cons]
    simp [Chunk.joined, Chunk.text, Literal.written, String.append_assoc]

theorem literals_listChunks (opening : String) (texts : List String) (closing : String)
    : (listChunks opening texts closing).filterMap Chunk.literal? =
      texts.map fun t => { text := t } := by
  unfold listChunks
  cases texts with
  | nil => rfl
  | cons first rest =>
    have hrest : (rest.map fun t => Chunk.literal ", " { text := t }).filterMap Chunk.literal? =
        rest.map fun t => { text := t } := by
      rw [List.filterMap_map, ← List.filterMap_eq_map]
      rfl
    rw [List.filterMap_append, List.filterMap_cons, hrest]
    exact List.append_nil _

theorem fits_listChunks {opening closing : String} (hopening : Lead d opening)
    (hclosing : Unquoted closing) (texts : List String)
    : ∀ chunk ∈ listChunks opening texts closing, chunk.Fits d := by
  unfold listChunks
  cases texts with
  | nil =>
    intro chunk hchunk
    rw [List.mem_singleton.mp hchunk]
    exact hopening.code hclosing.passes.closes
  | cons first rest =>
    intro chunk hchunk
    simp only [List.mem_append, List.mem_cons, List.mem_map, List.not_mem_nil, or_false] at hchunk
    obtain (rfl | ⟨t, -, rfl⟩) | rfl := hchunk
    . exact hopening
    . exact lead_of_unquoted (by decide) (by decide)
    . exact ⟨hclosing.starts, hclosing.passes.closes⟩

namespace Column

theorem joined_typeChunks (lead : String)
    : Chunk.joined (c.typeChunks g lead) = lead ++ c.typeText g := by
  unfold typeChunks
  split
  . next members htype =>
    rw [joined_listChunks]
    unfold typeText enumerationOpening enumerationClosing
    cases g.dialect with
    | mysql => simp [mysqlType, htype, String.append_assoc]
    | postgres => simp [postgresType, htype, String.append_assoc]
    | sqlite => simp [sqliteType, htype, String.append_assoc]
  . simp [Chunk.joined, Chunk.text]

theorem fallbackText_eq {t : String} (h : c.fallbackText? = some t)
    : c.fallback.map (" default " ++ fallbackText ·) =
      some (" default " ++ Identifier.quoteText t) := by
  unfold fallbackText? at h
  split at h
  . cases h
  . cases h
  . cases h
  . next v hnull hfallback =>
    cases h
    rw [hfallback]
    cases v with
    | null => exact absurd rfl hnull
    | _ => rfl

theorem modifierLiteral?_eq_some {m : Modifier} {lead t : String}
    (h : c.modifierLiteral? g m = some (lead, t))
    : (m = .collate ∧ lead = " collate " ∧ g.dialect = .mysql ∧ c.collation = some t) ∨
      (m = .default ∧ lead = " default " ∧ ¬(g.dialect = .sqlite && c.isGenerated) ∧
        c.fallbackText? = some t) ∨
      (m = .comment ∧ lead = " comment " ∧ g.dialect = .mysql ∧ c.comment = some t) := by
  cases m with
  | unsigned | charset | virtualAs | storedAs | nullable | increment | after | first => cases h
  | collate =>
    simp only [modifierLiteral?] at h
    split at h
    . next hdialect =>
      obtain ⟨_, hcollation, heq⟩ := Option.map_eq_some_iff.mp h
      cases heq
      exact .inl ⟨rfl, rfl, hdialect, hcollation⟩
    . cases h
    . cases h
  | default =>
    simp only [modifierLiteral?] at h
    split at h
    . cases h
    . next hkept =>
      obtain ⟨_, hfallback, heq⟩ := Option.map_eq_some_iff.mp h
      cases heq
      exact .inr (.inl ⟨rfl, rfl, hkept, hfallback⟩)
  | comment =>
    simp only [modifierLiteral?] at h
    split at h
    . next hdialect =>
      obtain ⟨_, hcomment, heq⟩ := Option.map_eq_some_iff.mp h
      cases heq
      exact .inr (.inr ⟨rfl, rfl, hdialect, hcomment⟩)
    . cases h
    . cases h

theorem modifierText?_eq {m : Modifier} {lead t : String}
    (h : c.modifierLiteral? g m = some (lead, t))
    : c.modifierText? g m = some (lead ++ Identifier.quoteText t) := by
  unfold modifierText?
  obtain ⟨rfl, rfl, hdialect, hgiven⟩ | ⟨rfl, rfl, hkept, hgiven⟩ | ⟨rfl, rfl, hdialect, hgiven⟩ :=
    modifierLiteral?_eq_some h
  . rw [hdialect]
    exact congrArg (Option.map _) hgiven
  . cases hdialect : g.dialect with
    | mysql | postgres => exact fallbackText_eq hgiven
    | sqlite =>
      rw [hdialect] at hkept
      exact (if_neg hkept).trans (fallbackText_eq hgiven)
  . rw [hdialect]
    exact congrArg (Option.map _) hgiven

theorem text_modifierChunk? (m : Modifier)
    : (c.modifierChunk? g m).map Chunk.text = c.modifierText? g m := by
  unfold modifierChunk?
  split
  . next lead t h => exact (modifierText?_eq h).symm
  . cases c.modifierText? g m <;> rfl

theorem joined_chunks (lead : String)
    : Chunk.joined (c.chunks g lead) = lead ++ c.definition g := by
  have hmodifiers : Chunk.joined (g.dialect.modifiers.filterMap (c.modifierChunk? g)) =
      String.join (g.dialect.modifiers.filterMap (c.modifierText? g)) := by
    rw [Chunk.joined, List.map_filterMap]
    simp only [text_modifierChunk?]
  rw [chunks, Chunk.joined_append, joined_typeChunks, hmodifiers, definition]
  simp only [String.append_assoc]

theorem literal?_modifierChunk? (m : Modifier)
    : (c.modifierChunk? g m).bind Chunk.literal? =
      (c.modifierLiteral? g m).map fun given => { text := given.2 } := by
  unfold modifierChunk?
  cases c.modifierLiteral? g m with
  | some given => rfl
  | none => cases c.modifierText? g m <;> rfl

theorem literals_modifiers
    : (g.dialect.modifiers.filterMap (c.modifierChunk? g)).filterMap Chunk.literal? =
      (match g.dialect with
        | .mysql => c.collation.toList ++ c.fallbackText?.toList ++ c.comment.toList
        | .postgres => c.fallbackText?.toList
        | .sqlite => if c.isGenerated then [] else c.fallbackText?.toList).map
          fun t => { text := t } := by
  rw [List.filterMap_filterMap]
  simp only [literal?_modifierChunk?]
  rw [List.filterMap_eq_flatMap_toList]
  cases hdialect : g.dialect with
  | mysql =>
    simp only [Dialect.modifiers, modifierLiteral?, hdialect, List.flatMap_cons, List.flatMap_nil]
    cases c.collation <;> cases c.fallbackText? <;> cases c.comment <;> rfl
  | postgres =>
    simp only [Dialect.modifiers, modifierLiteral?, hdialect, List.flatMap_cons, List.flatMap_nil]
    cases c.fallbackText? <;> rfl
  | sqlite =>
    simp only [Dialect.modifiers, modifierLiteral?, hdialect, List.flatMap_cons, List.flatMap_nil]
    cases c.isGenerated <;> cases c.fallbackText? <;> rfl

theorem literals_chunks (lead : String)
    : (c.chunks g lead).filterMap Chunk.literal? = c.literals g := by
  have htype : (c.typeChunks g (lead ++ g.wrap c.name ++ " ")).filterMap Chunk.literal? =
      c.type.members.map fun t => { text := t } := by
    unfold typeChunks ColumnType.members
    split
    . exact literals_listChunks _ _ _
    . rfl
  rw [chunks, List.filterMap_append, htype, literals_modifiers, ← List.map_append]
  rfl

/-! ### What stands around them -/

theorem unquoted_sizedType {type : String} (h : Unquoted type) (total places : Nat)
    : Unquoted (sizedType type total places) := by
  have hopening : Unquoted (type ++ "(") := h.append (by decide)
  have hcomma : Unquoted ", " := by decide
  exact (((hopening.append (unquoted_toString total)).append hcomma).append
    (unquoted_toString places)).append (by decide)

theorem unquoted_lengthType {opening : String} (h : Unquoted opening) (length : Nat)
    : Unquoted (opening ++ toString length ++ ")") :=
  (h.append (unquoted_toString length)).append (by decide)

theorem unquoted_timeType {type : String} (h : Unquoted type) : Unquoted (c.timeType type) := by
  unfold timeType
  split
  . exact h.append (by decide)
  . exact h

theorem unquoted_mysqlType (h : ∀ members, c.type ≠ .enumeration members)
    : Unquoted c.mysqlType := by
  unfold mysqlType
  cases htype : c.type with
  | enumeration members => exact absurd htype (h members)
  | char length | string length => exact unquoted_lengthType (by decide) length
  | decimal total places | float total places => exact unquoted_sizedType (by decide) total places
  | double sizes =>
    cases sizes with
    | none =>
      dsimp only
      decide
    | some sizes => exact unquoted_sizedType (by decide) sizes.1 sizes.2
  | dateTime | timestamp => exact unquoted_timeType (by decide)
  | _ =>
    dsimp only
    decide

theorem unquoted_postgresType (h : ∀ members, c.type ≠ .enumeration members)
    : Unquoted (c.postgresType g) := by
  unfold postgresType
  cases htype : c.type with
  | enumeration members => exact absurd htype (h members)
  | char length | string length => exact unquoted_lengthType (by decide) length
  | decimal total places => exact unquoted_sizedType (by decide) total places
  | dateTime | timestamp => exact unquoted_timeType (by decide)
  | integer | mediumInteger | bigInteger | tinyInteger | smallInteger =>
    dsimp only
    split <;> decide
  | _ =>
    dsimp only
    decide

theorem unquoted_sqliteType (h : ∀ members, c.type ≠ .enumeration members)
    : Unquoted (c.sqliteType g) := by
  unfold sqliteType
  cases htype : c.type with
  | enumeration members => exact absurd htype (h members)
  | dateTime | timestamp => exact unquoted_timeType (by decide)
  | _ =>
    dsimp only
    decide

theorem unquoted_typeText (h : ∀ members, c.type ≠ .enumeration members)
    : Unquoted (c.typeText g) := by
  unfold typeText
  cases g.dialect with
  | mysql => exact unquoted_mysqlType h
  | postgres => exact unquoted_postgresType h
  | sqlite => exact unquoted_sqliteType h

end Column

/-- Where paths into documents are no literals with escapes, names are always closed. -/
theorem closes_wrapName {asTable : Bool} {s : String}
    (h : g.dialect = .mysql → Closes g.dialect (g.wrapName asTable s))
    : Closes g.dialect (g.wrapName asTable s) := by
  by_cases hdialect : g.dialect = .mysql
  . exact h hdialect
  . obtain ⟨lexemes, -, hspelled⟩ := g.exists_written_name asTable s
    apply hspelled.closes
    intro t _
    exact ⟨nofun, fun c _ => by simp [Dialect.isEscape, hdialect]⟩

theorem closes_wrapSegment (g : Grammar) (s : String) : Closes g.dialect (g.wrapSegment s) := by
  apply (g.spelled_wrapSegment s).closes
  intro t ht
  unfold Grammar.segmentLexeme at ht
  split at ht
  . simp at ht
  . simp at ht

namespace Column

theorem passes_enumerationOpening (h : Closes g.dialect (g.wrap c.name))
    : Passes g.dialect (c.enumerationOpening g) := by
  have hin : Unquoted " in (" := by decide
  unfold enumerationOpening
  cases hdialect : g.dialect with
  | mysql =>
    have henum : Unquoted "enum(" := by decide
    exact henum.passes
  | postgres =>
    have hcheck : Unquoted "varchar(255) check (" := by decide
    rw [hdialect] at h
    exact (hcheck.passes.append_closes h).append_unquoted hin (by decide)
  | sqlite =>
    have hcheck : Unquoted "varchar check (" := by decide
    rw [hdialect] at h
    exact (hcheck.passes.append_closes h).append_unquoted hin (by decide)

theorem fits_typeChunks (hname : Closes g.dialect (g.wrap c.name)) (hlead : Lead g.dialect lead)
    : ∀ chunk ∈ c.typeChunks g lead, chunk.Fits g.dialect := by
  unfold typeChunks
  split
  . next members htype =>
    apply fits_listChunks (hlead.append (passes_enumerationOpening hname))
    unfold enumerationClosing
    cases g.dialect <;> decide
  . next htype =>
    intro chunk hchunk
    rw [List.mem_singleton.mp hchunk]
    exact hlead.code (unquoted_typeText htype).passes.closes

theorem given_eq_some {asked : Bool} {part text : String} (h : given asked part = some text)
    : text = part := by
  unfold given at h
  split at h
  . exact (Option.some.inj h).symm
  . cases h

theorem unquoted_nullText (c : Column) : Unquoted c.nullText := by
  unfold nullText
  split <;> decide

theorem fits_fallback (h : c.Closed g) {text : String} (hnone : c.fallbackText? = none)
    (htext : c.fallback.map (" default " ++ fallbackText ·) = some text)
    : (Chunk.code text).Fits g.dialect := by
  obtain ⟨value, hvalue, rfl⟩ := Option.map_eq_some_iff.mp htext
  have hdefault : Unquoted " default " := by decide
  have hlead := lead_of_unquoted (d := g.dialect) hdefault (by decide)
  cases value with
  | raw sql => exact hlead.code (h.fallback sql hvalue)
  | value v =>
    have hnull : v = .null := by
      cases v with
      | null => rfl
      | _ => simp [fallbackText?, hvalue] at hnone
    rw [hnull]
    have htext : Unquoted (fallbackText (.value .null)) := by decide
    exact hlead.code htext.passes.closes

theorem fits_between {before part after : String} (hbefore : Unquoted before) (hne : before ≠ "")
    (hpart : Closes d part) (hafter : Unquoted after) (hne' : after ≠ "")
    : (Chunk.code (before ++ part ++ after)).Fits d := by
  have hlead := lead_of_unquoted (d := d) hbefore hne
  have hall := hlead.closed hpart hafter hne'
  exact ⟨hall.starts, hall.passes.closes⟩

theorem fits_mysqlModifier (h : c.Closed g) (hdialect : g.dialect = .mysql) {m : Modifier}
    {text : String} (hliteral : c.modifierLiteral? g m = none)
    (htext : c.mysqlModifier g m = some text)
    : (Chunk.code text).Fits g.dialect := by
  cases m with
  | unsigned =>
    rw [given_eq_some htext]
    exact fits_unquoted (by decide)
  | charset =>
    obtain ⟨charset, hcharset, rfl⟩ := Option.map_eq_some_iff.mp htext
    exact (lead_of_unquoted (by decide) (by decide)).code (h.charset charset hcharset)
  | collate =>
    obtain ⟨collation, hcollation, -⟩ := Option.map_eq_some_iff.mp htext
    simp [modifierLiteral?, hdialect, hcollation] at hliteral
  | virtualAs =>
    obtain ⟨expression, hexpression, rfl⟩ := Option.map_eq_some_iff.mp htext
    exact fits_between (by decide) (by decide) (h.virtualAs expression hexpression) (by decide)
      (by decide)
  | storedAs =>
    obtain ⟨expression, hexpression, rfl⟩ := Option.map_eq_some_iff.mp htext
    exact fits_between (by decide) (by decide) (h.storedAs expression hexpression) (by decide)
      (by decide)
  | nullable =>
    rw [given_eq_some htext]
    exact fits_unquoted c.unquoted_nullText
  | default =>
    have hnone : c.fallbackText? = none := by simpa [modifierLiteral?, hdialect] using hliteral
    exact fits_fallback h hnone htext
  | increment =>
    rw [given_eq_some htext]
    exact fits_unquoted (by decide)
  | comment =>
    obtain ⟨comment, hcomment, -⟩ := Option.map_eq_some_iff.mp htext
    simp [modifierLiteral?, hdialect, hcomment] at hliteral
  | after => 
    obtain ⟨column, hcolumn, rfl⟩ := Option.map_eq_some_iff.mp htext
    exact (lead_of_unquoted (by decide) (by decide)).code (h.after hdialect column hcolumn)
  | first =>
    rw [given_eq_some htext]
    exact fits_unquoted (by decide)

theorem fits_postgresModifier (h : c.Closed g) (hdialect : g.dialect = .postgres) {m : Modifier}
    {text : String} (hliteral : c.modifierLiteral? g m = none)
    (htext : c.postgresModifier g m = some text)
    : (Chunk.code text).Fits g.dialect := by
  cases m with
  | unsigned | charset | comment | after | first => cases htext
  | collate =>
    obtain ⟨collation, -, rfl⟩ := Option.map_eq_some_iff.mp htext
    exact (lead_of_unquoted (by decide) (by decide)).code (closes_wrapSegment g collation)
  | increment =>
    rw [given_eq_some htext]
    exact fits_unquoted (by decide)
  | nullable =>
    cases htext
    exact fits_unquoted c.unquoted_nullText
  | default =>
    have hnone : c.fallbackText? = none := by simpa [modifierLiteral?, hdialect] using hliteral
    exact fits_fallback h hnone htext
  | virtualAs =>
    obtain ⟨expression, hexpression, rfl⟩ := Option.map_eq_some_iff.mp htext
    exact fits_between (by decide) (by decide) (h.virtualAs expression hexpression) (by decide)
      (by decide)
  | storedAs =>
    obtain ⟨expression, hexpression, rfl⟩ := Option.map_eq_some_iff.mp htext
    exact fits_between (by decide) (by decide) (h.storedAs expression hexpression) (by decide)
      (by decide)

theorem fits_sqliteModifier (h : c.Closed g) {m : Modifier} {text : String}
    (hliteral : c.modifierLiteral? g m = none) (htext : c.sqliteModifier m = some text)
    : (Chunk.code text).Fits g.dialect := by
  cases m with
  | nullable =>
    cases htext
    exact fits_unquoted c.unquoted_nullText
  | default =>
    cases hgenerated : c.isGenerated with
    | true => simp [sqliteModifier, hgenerated] at htext
    | false =>
      have hnone : c.fallbackText? = none := by simpa [modifierLiteral?, hgenerated] using hliteral
      have htext : c.fallback.map (" default " ++ fallbackText ·) = some text := by
        simpa [sqliteModifier, hgenerated] using htext
      exact fits_fallback h hnone htext
  | increment =>
    rw [given_eq_some htext]
    exact fits_unquoted (by decide)
  | _ => cases htext

theorem fits_modifierText? (h : c.Closed g) {m : Modifier} {text : String}
    (hliteral : c.modifierLiteral? g m = none) (htext : c.modifierText? g m = some text)
    : (Chunk.code text).Fits g.dialect := by
  unfold modifierText? at htext
  cases hdialect : g.dialect with
  | mysql =>
    rw [hdialect] at htext
    exact hdialect ▸ fits_mysqlModifier h hdialect hliteral htext
  | postgres =>
    rw [hdialect] at htext
    exact hdialect ▸ fits_postgresModifier h hdialect hliteral htext
  | sqlite =>
    rw [hdialect] at htext
    exact hdialect ▸ fits_sqliteModifier h hliteral htext

theorem fits_modifierChunk? (h : c.Closed g) {m : Modifier} {chunk : Chunk}
    (hchunk : c.modifierChunk? g m = some chunk)
    : chunk.Fits g.dialect := by
  unfold modifierChunk? at hchunk
  split at hchunk
  . next lead t hliteral =>
    cases hchunk
    obtain ⟨-, rfl, -⟩ | ⟨-, rfl, -⟩ | ⟨-, rfl, -⟩ := modifierLiteral?_eq_some hliteral
    all_goals exact lead_of_unquoted (by decide) (by decide)
  . next hliteral =>
    obtain ⟨text, htext, rfl⟩ := Option.map_eq_some_iff.mp hchunk
    exact fits_modifierText? h hliteral htext

theorem Closed.fits_chunks (h : c.Closed g) (hlead : Lead g.dialect lead)
    : ∀ chunk ∈ c.chunks g lead, chunk.Fits g.dialect := by
  have hname := closes_wrapName h.name
  have hspace : Unquoted " " := by decide
  intro chunk hchunk
  cases List.mem_append.mp hchunk with
  | inl hchunk => exact fits_typeChunks hname (hlead.closed hname hspace (by decide)) chunk hchunk
  | inr hchunk =>
    obtain ⟨m, -, hchunk⟩ := List.mem_filterMap.mp hchunk
    exact fits_modifierChunk? h hchunk

end Column

end

end SqlForge.Schema
