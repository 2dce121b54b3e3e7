import SqlForge.Proofs.Name.Lexer
import SqlForge.Proofs.Name.Parse

/-!
What is written for a name is read back as the parts that the name was split into. Outside of quotes
there is nothing of the name but dots, stars and whole numbers.
-/

namespace SqlForge

namespace Grammar

/-! ### The tokens of a name -/

def segmentLexeme (segment : String) : Lexeme :=
  if segment = "*" then .star else .identifier segment

/-- Outside table position the first of several segments names a table. -/
def dottedLexemes (g : Grammar) (asTable : Bool) : List String → List Lexeme
  | [] => []
  | [segment] => [segmentLexeme segment]
  | segment :: rest =>
    let first := if asTable then segmentLexeme segment else .identifier (g.tablePrefix ++ segment)
    (first :: rest.map segmentLexeme).intersperse .dot

def pathText (path : List String) : String :=
  "$." ++ ".".intercalate (path.map fun key => "\"" ++ key ++ "\"")

def stepLexeme (key : String) : Lexeme :=
  if (Number.int64? key.toList).isSome then .integer key else .literal key

def arrowLexemes : List String → List Lexeme
  | [] => [.selector "->>"]
  | [key] => [.selector "->>", stepLexeme key]
  | key :: keys => .selector "->" :: stepLexeme key :: arrowLexemes keys

def selectorLexemes (column : List Lexeme) (path : List String) : Dialect → List Lexeme
  | .mysql =>
    .selector "json_unquote(json_extract(" ::
      (column ++ [.selector ", ", .literal (pathText path), .selector "))"])
  | .sqlite =>
    .selector "json_extract(" ::
      (column ++ [.selector ", ", .literal (pathText path), .selector ")"])
  | .postgres => column ++ arrowLexemes path

/--
The tokens that a name is to be written with. The first of several segments takes the table prefix
in column position, an alias in table position.
-/
inductive Written (g : Grammar) : Bool → String → List Lexeme → Prop where
  | star {asTable : Bool} {s : String} : Identifier.parse s = .star → Written g asTable s [.star]
  | aliased {asTable : Bool} {s target label : String} {lexemes : List Lexeme} :
    Identifier.parse s = .aliased target label → Written g asTable target lexemes →
      Written g asTable s
        (lexemes ++ [.asWord, segmentLexeme (if asTable then g.tablePrefix ++ label else label)])
  | json {asTable : Bool} {s column : String} {path : List String} {lexemes : List Lexeme} :
    Identifier.parse s = .json column path → Written g false column lexemes →
      Written g asTable s (selectorLexemes lexemes path g.dialect)
  | dotted {asTable : Bool} {s : String} {segments : List String} :
    Identifier.parse s = .dotted segments → Written g asTable s (g.dottedLexemes asTable segments)

/-! ### Segments -/

variable {g : Grammar} {d : Dialect} {asTable : Bool}

theorem allowed_segmentLexeme (d : Dialect) (segment : String)
    : (segmentLexeme segment).Allowed d := by
  unfold segmentLexeme
  split
  . exact mem_words.mpr (.inl rfl)
  . exact trivial

theorem wrapSegment_eq_spell (g : Grammar) (segment : String)
    : g.wrapSegment segment = (segmentLexeme segment).spell g.dialect := by
  unfold wrapSegment Identifier.quoteSegment segmentLexeme
  split <;> rfl

theorem spelled_wrapSegment (g : Grammar) (segment : String)
    : Spelled g.dialect (g.wrapSegment segment) [segmentLexeme segment] := by
  rw [wrapSegment_eq_spell]
  exact .singleton (allowed_segmentLexeme g.dialect segment)

theorem spelled_intercalate {first : Lexeme} (hfirst : first.Allowed g.dialect) (rest : List String)
    : Spelled g.dialect (".".intercalate (first.spell g.dialect :: rest.map g.wrapSegment))
        ((first :: rest.map segmentLexeme).intersperse .dot) := by
  induction rest generalizing first with
  | nil =>
    rw [List.map_nil, List.map_nil, String.intercalate_singleton]
    exact .singleton hfirst
  | cons next rest ih =>
    have hrest := ih (allowed_segmentLexeme g.dialect next)
    have hdot : Lexeme.dot.Allowed g.dialect := mem_words.mpr (.inr (.inl rfl))
    rw [List.map_cons, List.map_cons, String.intercalate_cons_cons, wrapSegment_eq_spell,
      List.intersperse_cons_cons, String.append_assoc]
    exact (Spelled.singleton hfirst).append rfl (hrest.cons hdot rfl)

theorem spelled_wrapSegments (g : Grammar) (asTable : Bool) (segments : List String)
    : Spelled g.dialect (g.wrapSegments asTable segments) (g.dottedLexemes asTable segments) := by
  cases segments with
  | nil => exact .nil g.dialect
  | cons segment rest =>
    cases rest with
    | nil => exact spelled_wrapSegment g segment
    | cons next rest =>
      cases asTable with
      | true =>
        have hfirst := allowed_segmentLexeme g.dialect segment
        change Spelled g.dialect
          (".".intercalate (g.wrapSegment segment :: (next :: rest).map g.wrapSegment)) _
        rw [wrapSegment_eq_spell]
        exact spelled_intercalate hfirst (next :: rest)
      | false =>
        have hfirst : (Lexeme.identifier (g.tablePrefix ++ segment)).Allowed g.dialect := trivial
        exact spelled_intercalate hfirst (next :: rest)

theorem spelled_wrapDotted (g : Grammar) (asTable : Bool) (s : String)
    : Spelled g.dialect (g.wrapDotted asTable s)
        (g.dottedLexemes asTable (Identifier.segments s)) := by
  unfold wrapDotted
  split
  . next hstar =>
    have hallowed : Lexeme.star.Allowed g.dialect := mem_words.mpr (.inl rfl)
    rw [hstar]
    exact .singleton hallowed
  . exact spelled_wrapSegments g asTable _

/-! ### Paths into JSON documents -/

theorem double_append (quote : Char) (cs more : List Char)
    : Identifier.double quote (cs ++ more)
        = Identifier.double quote cs ++ Identifier.double quote more := by
  induction cs with
  | nil => rfl
  | cons c cs ih =>
    rw [List.cons_append, Identifier.double, Identifier.double]
    split <;> rw [ih] <;> rfl

theorem double_intercalate {quote : Char} {separator : String}
    (h : Identifier.double quote separator.toList = separator.toList) (parts : List String)
    : Identifier.double quote (separator.intercalate parts).toList
        = (separator.intercalate (parts.map fun part =>
            String.ofList (Identifier.double quote part.toList))).toList := by
  induction parts with
  | nil => simp [Identifier.double]
  | cons part rest ih =>
    cases rest with
    | nil => simp
    | cons next rest =>
      rw [List.map_cons] at ih ⊢
      rw [List.map_cons, String.intercalate_cons_cons, String.intercalate_cons_cons]
      simp only [String.toList_append, double_append, h, ih, String.toList_ofList]

theorem jsonPath_eq_quoteText (path : List String)
    : jsonPath path = Identifier.quoteText (pathText path) := by
  -- The quotes are doubled key by key, which comes to the same.
  have hkey : ∀ key : String,
      String.ofList (Identifier.double '\x27' ("\"" ++ key ++ "\"").toList)
        = "\"" ++ String.ofList (Identifier.double '\x27' key.toList) ++ "\"" := by
    intro key
    apply String.toList_inj.mp
    simp [double_append, Identifier.double]
  apply String.toList_inj.mp
  simp only [jsonPath, Identifier.quoteText, Identifier.quoted, pathText, String.toList_append,
    String.toList_ofList, double_append]
  rw [double_intercalate (by rfl), List.map_map]
  simp only [Function.comp_def, hkey]
  rfl

theorem jsonStep_eq_spell (d : Dialect) (key : String)
    : jsonStep key = (stepLexeme key).spell d := by
  unfold jsonStep stepLexeme
  cases Number.int64? key.toList <;> rfl

theorem allowed_stepLexeme (d : Dialect) (key : String) : (stepLexeme key).Allowed d := by
  unfold stepLexeme
  split
  . next h =>
    unfold Number.int64? at h
    split at h
    . next n hn => simp [Lexeme.Allowed, hn]
    . contradiction
  . exact trivial

theorem spelled_jsonStep (d : Dialect) (key : String)
    : Spelled d (jsonStep key) [stepLexeme key] := by
  rw [jsonStep_eq_spell d]
  exact .singleton (allowed_stepLexeme d key)

theorem spelled_selector {word t : String} {lexemes : List Lexeme} (hword : word ∈ d.selectorWords)
    (h : Spelled d t lexemes) : Spelled d (word ++ t) (.selector word :: lexemes) := by
  have hallowed : (Lexeme.selector word).Allowed d :=
    mem_words.mpr (.inr (.inr (.inr ⟨word, hword, rfl⟩)))
  exact h.cons hallowed rfl

theorem arrowLexemes_eq_cons (path : List String)
    : ∃ word more, arrowLexemes path = .selector word :: more := by
  cases path with
  | nil => exact ⟨_, _, rfl⟩
  | cons key keys => cases keys <;> exact ⟨_, _, rfl⟩

theorem spelled_jsonArrows (path : List String)
    : Spelled .postgres (jsonArrows path) (arrowLexemes path) := by
  have hlast : "->>" ∈ Dialect.postgres.selectorWords := List.mem_cons_self
  have harrow : "->" ∈ Dialect.postgres.selectorWords := List.mem_cons_of_mem _ List.mem_cons_self
  induction path with
  | nil =>
    have hall := spelled_selector hlast (.nil .postgres)
    rwa [String.append_empty] at hall
  | cons key keys ih =>
    cases keys with
    | nil => exact spelled_selector hlast (spelled_jsonStep .postgres key)
    | cons next keys =>
      obtain ⟨word, more, hkeys⟩ := arrowLexemes_eq_cons (next :: keys)
      have hstep := spelled_selector harrow (spelled_jsonStep .postgres key)
      change Spelled .postgres ("->" ++ jsonStep key ++ jsonArrows (next :: keys))
        (.selector "->" :: stepLexeme key :: arrowLexemes (next :: keys))
      rw [hkeys] at ih ⊢
      exact hstep.append rfl ih

theorem spelled_call {opening close field : String} {lexemes : List Lexeme} (path : List String)
    (hopening : opening ∈ d.selectorWords) (hcomma : ", " ∈ d.selectorWords)
    (hclose : close ∈ d.selectorWords) (h : Spelled d field lexemes)
    : Spelled d (opening ++ field ++ ", " ++ jsonPath path ++ close)
        (.selector opening ::
          (lexemes ++ [.selector ", ", .literal (pathText path), .selector close])) := by
  have hpath : Spelled d (jsonPath path) [.literal (pathText path)] := by
    have hallowed : (Lexeme.literal (pathText path)).Allowed d := trivial
    rw [jsonPath_eq_quoteText]
    exact .singleton hallowed
  have hend := spelled_selector hclose (.nil d)
  have hrest := spelled_selector hcomma (hpath.append rfl hend)
  have hall := spelled_selector hopening (h.append rfl hrest)
  simp only [String.append_empty, List.singleton_append] at hall
  simpa only [String.append_assoc] using hall

theorem spelled_jsonSelector {field : String} {lexemes : List Lexeme} (path : List String)
    (h : Spelled d field lexemes)
    : Spelled d (jsonSelector d field path) (selectorLexemes lexemes path d) := by
  cases d with
  | mysql =>
    apply spelled_call path _ _ _ h
    all_goals simp [Dialect.selectorWords]
  | sqlite =>
    apply spelled_call path _ _ _ h
    all_goals simp [Dialect.selectorWords]
  | postgres =>
    obtain ⟨word, more, hpath⟩ := arrowLexemes_eq_cons path
    have harrows := spelled_jsonArrows path
    rw [selectorLexemes, hpath]
    rw [hpath] at harrows
    exact h.append rfl harrows

/-! ### Names -/

variable {s : String}

theorem exists_written_dotted (g : Grammar) (asTable : Bool)
    (halias : Identifier.splitAlias? s = none) (hjson : Identifier.splitJson? s = none)
    : ∃ lexemes, g.Written asTable s lexemes ∧
        Spelled g.dialect (g.wrapDotted asTable s) lexemes := by
  unfold wrapDotted
  split
  . next hstar =>
    have hparse : Identifier.parse s = .star := if_pos hstar
    have hallowed : Lexeme.star.Allowed g.dialect := mem_words.mpr (.inl rfl)
    exact ⟨[.star], .star hparse, .singleton hallowed⟩
  . next hstar =>
    have hparse : Identifier.parse s = .dotted (Identifier.segments s) := by
      rw [Identifier.parse, if_neg hstar, halias, hjson]
    exact ⟨_, .dotted hparse, spelled_wrapSegments g asTable _⟩

theorem exists_written_target (g : Grammar) (asTable : Bool)
    (halias : Identifier.splitAlias? s = none)
    : ∃ lexemes, g.Written asTable s lexemes ∧
        Spelled g.dialect (g.wrapTarget asTable s) lexemes := by
  unfold wrapTarget
  split
  . next column path hsplit =>
    have hparse : Identifier.parse s = .json column path := by
      have hstar : s ≠ "*" := by
        rintro rfl
        contradiction
      rw [Identifier.parse, if_neg hstar, halias, hsplit]
    obtain ⟨lexemes, hwritten, hspelled⟩ := exists_written_dotted g false
      (Identifier.splitAlias?_column halias hsplit) (Identifier.splitJson?_column hsplit)
    exact ⟨_, .json hparse hwritten, spelled_jsonSelector path hspelled⟩
  . next hsplit => exact exists_written_dotted g asTable halias hsplit

theorem exists_written_name (g : Grammar) (asTable : Bool) (s : String)
    : ∃ lexemes, g.Written asTable s lexemes ∧
        Spelled g.dialect (g.wrapName asTable s) lexemes := by
  unfold wrapName
  split
  . next target label hsplit =>
    have hparse : Identifier.parse s = .aliased target label := by
      have hstar : s ≠ "*" := by
        rintro rfl
        contradiction
      rw [Identifier.parse, if_neg hstar, hsplit]
    obtain ⟨lexemes, hwritten, hspelled⟩ :=
      exists_written_target g asTable (Identifier.splitAlias?_target hsplit)
    have has : Lexeme.asWord.Allowed g.dialect := mem_words.mpr (.inr (.inr (.inl rfl)))
    have hlabel := spelled_wrapSegment g (if asTable then g.tablePrefix ++ label else label)
    have hall := hspelled.append rfl (hlabel.cons has rfl)
    rw [← String.append_assoc] at hall
    exact ⟨_, .aliased hparse hwritten, hall⟩
  . next hsplit => exact exists_written_target g asTable hsplit

/--
Whatever the name, what is written for it is read as tokens, and the tokens are those of the parts
of the name: nothing gets out of its quotes, and nothing is lost.
-/
theorem lex_wrap (g : Grammar) (s : String)
    : (∃ lexemes, lex g.dialect (g.wrap s).toList = some lexemes ∧ g.Written false s lexemes ∧
        spellAll g.dialect lexemes = g.wrap s ∧ ∀ lexeme ∈ lexemes, lexeme.Allowed g.dialect) ∧
      (∃ lexemes, lex g.dialect (g.wrapTable s).toList = some lexemes ∧
        g.Written true (g.tablePrefix ++ s) lexemes ∧
        spellAll g.dialect lexemes = g.wrapTable s ∧
        ∀ lexeme ∈ lexemes, lexeme.Allowed g.dialect) := by
  obtain ⟨asColumn, hcolumn, hspelled⟩ := exists_written_name g false s
  obtain ⟨asTable, htable, hspelled'⟩ := exists_written_name g true (g.tablePrefix ++ s)
  constructor
  . have hlex := hspelled.lex_eq
    obtain ⟨htext, hallowed⟩ := spellAll_of_lex hlex
    exact ⟨asColumn, hlex, hcolumn, String.toList_inj.mp htext, hallowed⟩
  . have hlex := hspelled'.lex_eq
    obtain ⟨htext, hallowed⟩ := spellAll_of_lex hlex
    exact ⟨asTable, hlex, htable, String.toList_inj.mp htext, hallowed⟩

end Grammar

end SqlForge
