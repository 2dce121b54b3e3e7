import SqlForge.Proofs.Name.Reference
import SqlForge.Select.Render

/-!
Which keys of a document a selector leads to. A path in a text literal is a `$` and members between
double quotes, where a backslash stands in front of each quote and backslash of a key; a path of
arrows is a chain of operands.
-/

namespace SqlForge

/-! ### Paths in text literals -/

/-- The character cannot stand in a member by itself. -/
def isSpecial (c : Char) : Bool :=
  c = '\x22' || c = '\\'

/-- A key as it has to stand in a member. -/
def escape : List Char → List Char
  | [] => []
  | c :: cs => if isSpecial c then '\\' :: c :: escape cs else c :: escape cs

/-- The members of a path, with the keys written by `write`. -/
def members (write : List Char → List Char) (keys : List (List Char)) : List Char :=
  keys.flatMap fun key => '.' :: '\x22' :: (write key ++ ['\x22'])

/-- The keys from within a member on. Of the first of them there is what is left to read. -/
def keysFrom? : List Char → Option (List (List Char))
  | [] => none
  | ['\x22'] => some [[]]
  | '\x22' :: '.' :: '\x22' :: cs => (keysFrom? cs).map ([] :: ·)
  | '\\' :: c :: cs =>
    if isSpecial c then (keysFrom? cs).map (List.modifyHead (c :: ·)) else none
  | c :: cs => if isSpecial c then none else (keysFrom? cs).map (List.modifyHead (c :: ·))

/-- The keys of a path that consists of nothing but members. -/
def pathKeys? : List Char → Option (List (List Char))
  | ['$'] => some []
  | '$' :: '.' :: '\x22' :: cs => keysFrom? cs
  | _ => none

variable {key cs : List Char} {keys : List (List Char)}

theorem members_cons (write : List Char → List Char) (key : List Char) (keys : List (List Char))
    : members write (key :: keys) = '.' :: '\x22' :: (write key ++ '\x22' :: members write keys) := by
  simp [members]

theorem isSpecial_iff {c : Char} : isSpecial c ↔ c = '\x22' ∨ c = '\\' := by
  simp [isSpecial]

theorem keysFrom?_append (h : keysFrom? cs = some keys) (key : List Char)
    : keysFrom? (escape key ++ cs) = some (keys.modifyHead (key ++ ·)) := by
  induction key with
  | nil =>
    rw [escape, List.nil_append, h]
    cases keys <;> rfl
  | cons c key ih =>
    have hkeys : (keys.modifyHead (key ++ ·)).modifyHead (c :: ·)
        = keys.modifyHead (c :: key ++ ·) := by
      cases keys <;> rfl
    rw [escape]
    split
    . next hc =>
      rw [List.cons_append, List.cons_append, keysFrom?, if_pos hc, ih, Option.map_some, hkeys]
    . next hc =>
      have hne : c ≠ '\x22' ∧ c ≠ '\\' := by
        rw [isSpecial_iff, not_or] at hc
        exact hc
      rw [List.cons_append, keysFrom?, if_neg hc, ih, Option.map_some, hkeys]
      . intro h _
        exact hne.1 h
      . intro _ h
        exact absurd h hne.1
      . intro _ _ h
        exact absurd h hne.2

theorem keysFrom?_members (key : List Char) (keys : List (List Char))
    : keysFrom? (escape key ++ '\x22' :: members escape keys) = some (key :: keys) := by
  have hend : keysFrom? ('\x22' :: members escape keys) = some ([] :: keys) := by
    induction keys with
    | nil => rfl
    | cons next keys ih =>
      have hnext := keysFrom?_append ih next
      rw [List.modifyHead_cons, List.append_nil] at hnext
      rw [members_cons, keysFrom?, hnext]
      rfl
  have hkey := keysFrom?_append hend key
  rwa [List.modifyHead_cons, List.append_nil] at hkey

theorem eq_of_keysFrom? (h : keysFrom? cs = some keys)
    : ∃ first rest, keys = first :: rest ∧ cs = escape first ++ '\x22' :: members escape rest := by
  fun_induction keysFrom? cs generalizing keys with
  | case1 => cases h
  | case2 =>
    cases h
    exact ⟨[], [], rfl, rfl⟩
  | case3 cs ih =>
    obtain ⟨more, hmore, rfl⟩ := Option.map_eq_some_iff.mp h
    obtain ⟨first, rest, rfl, rfl⟩ := ih hmore
    refine ⟨[], first :: rest, rfl, ?_⟩
    rw [members_cons]
    rfl
  | case4 c cs hc ih =>
    obtain ⟨more, hmore, rfl⟩ := Option.map_eq_some_iff.mp h
    obtain ⟨first, rest, rfl, rfl⟩ := ih hmore
    refine ⟨c :: first, rest, List.modifyHead_cons, ?_⟩
    rw [escape, if_pos hc]
    rfl
  | case5 => cases h
  | case6 => cases h
  | case7 c cs _ _ _ hc ih =>
    obtain ⟨more, hmore, rfl⟩ := Option.map_eq_some_iff.mp h
    obtain ⟨first, rest, rfl, rfl⟩ := ih hmore
    refine ⟨c :: first, rest, List.modifyHead_cons, ?_⟩
    rw [escape, if_neg hc]
    rfl

/-- There is one way to write a path to some keys. -/
theorem pathKeys?_eq_some_iff : pathKeys? cs = some keys ↔ cs = '$' :: members escape keys := by
  constructor
  . intro h
    unfold pathKeys? at h
    split at h
    . cases h
      rfl
    . obtain ⟨first, rest, rfl, rfl⟩ := eq_of_keysFrom? h
      rw [members_cons]
    . cases h
  . rintro rfl
    cases keys with
    | nil => rfl
    | cons key keys =>
      rw [members_cons, pathKeys?]
      exact keysFrom?_members key keys

/-! ### Keys as they are -/

theorem length_escape (key : List Char)
    : (escape key).length = key.length + key.countP isSpecial := by
  induction key with
  | nil => rfl
  | cons c key ih =>
    rw [escape]
    split
    . next hc =>
      rw [List.countP_cons_of_pos hc]
      simp only [List.length_cons, ih]
      omega
    . next hc =>
      rw [List.countP_cons_of_neg hc]
      simp only [List.length_cons, ih]
      omega

theorem escape_eq_self_iff : escape key = key ↔ ∀ c ∈ key, isSpecial c = false := by
  induction key with
  | nil => simp [escape]
  | cons c key ih =>
    rw [escape, List.forall_mem_cons, ← ih]
    split
    . next hc =>
      apply iff_of_false
      . intro heq
        have hlength := congrArg List.length heq
        simp only [List.length_cons, length_escape] at hlength
        omega
      . simp [hc]
    . next hc => simp [hc]

theorem length_members_le (keys : List (List Char))
    : (members id keys).length ≤ (members escape keys).length := by
  induction keys with
  | nil => exact Nat.le_refl 0
  | cons key keys ih =>
    simp only [members_cons, List.length_cons, List.length_append, length_escape, id]
    omega

/-- Each key takes the place that it needs, so one that is not escaped leaves none for the rest. -/
theorem members_escape_eq_iff
    : members id keys = members escape keys ↔ ∀ key ∈ keys, escape key = key := by
  induction keys with
  | nil => simp [members]
  | cons key keys ih =>
    rw [List.forall_mem_cons, members_cons, members_cons]
    constructor
    . intro h
      simp only [List.cons.injEq, true_and] at h
      have hlength := congrArg List.length h
      have hrest := length_members_le keys
      simp only [List.length_append, List.length_cons, length_escape, id] at hlength
      obtain ⟨hkey, htail⟩ := List.append_inj h (by rw [length_escape, id]; omega)
      exact ⟨hkey.symm, ih.mp (List.cons.inj htail).2⟩
    . rintro ⟨hkey, hrest⟩
      rw [hkey, ih.mpr hrest]
      rfl

/-- A key that stands in a member as it is. -/
def Unescaped (key : String) : Prop :=
  '\x22' ∉ key.toList ∧ '\\' ∉ key.toList

instance (key : String) : Decidable (Unescaped key) :=
  inferInstanceAs (Decidable (_ ∧ _))

theorem unescaped_iff {key : String} : Unescaped key ↔ escape key.toList = key.toList := by
  rw [escape_eq_self_iff, Unescaped]
  constructor
  . intro h c hc
    rw [Bool.eq_false_iff, ne_eq, isSpecial_iff]
    rintro (rfl | rfl)
    . exact h.1 hc
    . exact h.2 hc
  . intro h
    constructor
    . intro hc
      cases h _ hc
    . intro hc
      cases h _ hc

/-- The path that is written for some keys, whether or not it is read as them. -/
theorem toList_pathText {path : List String} (h : path ≠ [])
    : (Grammar.pathText path).toList = '$' :: members id (path.map String.toList) := by
  have hjoined : ∀ key keys,
      '.' :: (".".intercalate ((key :: keys).map fun k => "\"" ++ k ++ "\"")).toList
        = members id ((key :: keys).map String.toList) := by
    intro key keys
    induction keys generalizing key with
    | nil => simp [members]
    | cons next keys ih =>
      have hmembers := members_cons id key.toList ((next :: keys).map String.toList)
      rw [← ih next] at hmembers
      change _ = members id (key.toList :: (next :: keys).map String.toList)
      rw [hmembers]
      simp
  obtain ⟨key, keys, rfl⟩ := List.exists_cons_of_ne_nil h
  rw [← hjoined]
  simp [Grammar.pathText]

/-- The keys that a text literal leads to as a path. -/
def literalKeys? (content : String) : Option (List String) :=
  (pathKeys? content.toList).map (List.map String.ofList)

theorem literalKeys?_pathText_iff {path : List String} (h : path ≠ [])
    : literalKeys? (Grammar.pathText path) = some path ↔ ∀ key ∈ path, Unescaped key := by
  have hpath : (path.map String.toList).map String.ofList = path := by simp
  have hkeys : literalKeys? (Grammar.pathText path) = some path ↔
      pathKeys? (Grammar.pathText path).toList = some (path.map String.toList) := by
    rw [literalKeys?]
    constructor
    . intro hread
      obtain ⟨keys, hread, rfl⟩ := Option.map_eq_some_iff.mp hread
      simp [hread]
    . intro hread
      rw [hread, Option.map_some, hpath]
  rw [hkeys, pathKeys?_eq_some_iff, toList_pathText h, List.cons.injEq, members_escape_eq_iff]
  simp [unescaped_iff]

/-! ### Tokens of a selector -/

namespace Lexeme

/-- The key that an operand stands for as a step. -/
def key? : Lexeme → Option String
  | .literal s | .integer s => some s
  | _ => none

end Lexeme

/-- The keys of a chain of steps, of which the last gives text. -/
def stepKeys? : List Lexeme → Option (List String)
  | [arrow, step] => if arrow = .selector "->>" then step.key?.map ([·]) else none
  | arrow :: step :: steps =>
    if arrow = .selector "->" then
      step.key?.bind fun key => (stepKeys? steps).map (key :: ·)
    else none
  | _ => none

/-- The keys of the path in a call with a column and a path. -/
def callKeys? (d : Dialect) : List Lexeme → Option (List String)
  | opening :: lexemes =>
    match lexemes.dropWhile (!·.isSelector) with
    | [comma, .literal path, close] =>
      if [opening, comma, close] = d.selectorWords.map .selector then literalKeys? path else none
    | _ => none
  | [] => none

/-- The keys of a document that a written selector leads to. -/
def addressed? (d : Dialect) (text : String) : Option (List String) :=
  (lex d text.toList).bind fun lexemes =>
    match d with
    | .postgres => stepKeys? (lexemes.dropWhile (!·.isSelector))
    | .mysql | .sqlite => callKeys? d lexemes

namespace Grammar

variable {path : List String} {column : List Lexeme} {d : Dialect}

theorem key?_stepLexeme (key : String) : (stepLexeme key).key? = some key := by
  unfold stepLexeme
  split <;> rfl

theorem stepKeys?_arrowLexemes (h : path ≠ []) : stepKeys? (arrowLexemes path) = some path := by
  induction path with
  | nil => contradiction
  | cons key keys ih =>
    cases keys with
    | nil => simp [arrowLexemes, stepKeys?, key?_stepLexeme]
    | cons next keys =>
      have hnext := ih (List.cons_ne_nil next keys)
      obtain ⟨word, more, hmore⟩ := arrowLexemes_eq_cons (next :: keys)
      rw [hmore] at hnext
      simp [arrowLexemes, hmore, stepKeys?, key?_stepLexeme, hnext]

theorem dropWhile_column (hcolumn : ∀ lexeme ∈ column, lexeme.isSelector = false) (word : String)
    (lexemes : List Lexeme)
    : (column ++ .selector word :: lexemes).dropWhile (!·.isSelector)
      = .selector word :: lexemes := by
  rw [List.dropWhile_append_of_pos]
  . rfl
  . intro lexeme hlexeme
    simp [hcolumn lexeme hlexeme]

/-- The keys that a selector leads to are the path itself, or what its literal is read as. -/
theorem addressed?_selector {text : String} (h : path ≠ [])
    (hcolumn : ∀ lexeme ∈ column, lexeme.isSelector = false)
    (htext : Spelled d text (selectorLexemes column path d))
    : addressed? d text = if d = .postgres then some path else literalKeys? (pathText path) := by
  rw [addressed?, htext.lex_eq, Option.bind_some]
  cases d with
  | postgres =>
    obtain ⟨word, more, hmore⟩ := arrowLexemes_eq_cons path
    have hsteps := stepKeys?_arrowLexemes h
    rw [hmore] at hsteps
    simp only [selectorLexemes, hmore, dropWhile_column hcolumn, hsteps]
    rfl
  | mysql | sqlite =>
    simp only [selectorLexemes, callKeys?, dropWhile_column hcolumn]
    rfl

end Grammar

/-! ### Names with a path -/

namespace Identifier

/-- A key that is found again in a name. -/
structure Key (s : String) : Prop extends Bare s where
  headed : s.toList.head? ≠ some '>'

theorem key_iff {s : String} : Key s ↔ Bare s ∧ s.toList.head? ≠ some '>' :=
  ⟨fun h => ⟨h.toBare, h.headed⟩, fun ⟨h₁, h₂⟩ => ⟨h₁, h₂⟩⟩

instance (s : String) : Decidable (Key s) := decidable_of_iff _ key_iff.symm

/-- The name of a column and of keys in its documents. -/
def arrowed (column : String) (keys : List String) : String :=
  "->".intercalate (column :: keys)

variable {column : String} {keys : List String}

theorem toList_arrowed_cons (column key : String) (keys : List String)
    : (arrowed column (key :: keys)).toList
      = column.toList ++ '-' :: '>' :: (arrowed key keys).toList := by
  rw [arrowed, String.intercalate_cons_cons, arrowed]
  simp

theorem splitArrows_arrowed (h : ∀ part ∈ column :: keys, Arrowless part.toList)
    : splitArrows (arrowed column keys).toList = (column :: keys).map String.toList := by
  induction keys generalizing column with
  | nil =>
    have hcolumn := h column List.mem_cons_self
    rw [arrowed, String.intercalate_singleton, splitArrows_eq_singleton_iff.mpr hcolumn]
    rfl
  | cons key keys ih =>
    obtain ⟨hcolumn, hkeys⟩ := List.forall_mem_cons.mp h
    rw [toList_arrowed_cons, splitArrows_append_arrow hcolumn, ih hkeys]
    rfl

theorem unlabelled_arrowed (h : ∀ part ∈ column :: keys, Unlabelled part.toList)
    : Unlabelled (arrowed column keys).toList := by
  induction keys generalizing column with
  | nil =>
    rw [arrowed, String.intercalate_singleton]
    exact h column List.mem_cons_self
  | cons key keys ih =>
    obtain ⟨hcolumn, hkeys⟩ := List.forall_mem_cons.mp h
    rw [toList_arrowed_cons]
    exact hcolumn.append_arrow (ih hkeys)

theorem splitJson?_arrowed (hcolumn : Arrowless column.toList) (hkeys : ∀ key ∈ keys, Key key)
    (hne : keys ≠ []) : splitJson? (arrowed column keys) = some (column, keys) := by
  have hparts : ∀ part ∈ column :: keys, Arrowless part.toList :=
    List.forall_mem_cons.mpr ⟨hcolumn, fun key hkey => (hkeys key hkey).arrowless⟩
  have hdrop : ∀ key ∈ keys, String.ofList (key.toList.dropWhile (· == '>')) = key := by
    intro key hkey
    have hhead := (hkeys key hkey).headed
    cases hchars : key.toList with
    | nil =>
      rw [← hchars, hchars]
      exact (String.toList_eq_nil_iff.mp hchars).symm
    | cons c cs =>
      rw [hchars] at hhead
      have hc : (c == '>') = false := by simpa using hhead
      rw [List.dropWhile_cons, hc, ← hchars]
      simp
  have hpath : (keys.map String.toList).map (fun k => String.ofList (k.dropWhile (· == '>')))
      = keys := by
    rw [List.map_map]
    exact (List.map_congr_left hdrop).trans (List.map_id' keys)
  obtain ⟨key, rest, rfl⟩ := List.exists_cons_of_ne_nil hne
  rw [List.map_cons] at hpath
  rw [splitJson?, splitArrows_arrowed hparts]
  simp only [List.map_cons, String.ofList_toList] at hpath ⊢
  rw [hpath]

end Identifier

namespace Grammar

open Identifier (arrowed)

variable {column : String} {keys : List String}

theorem isSelector_of_mem_dottedLexemes {g : Grammar} {segments : List String} {lexeme : Lexeme}
    (h : lexeme ∈ g.dottedLexemes false segments) : lexeme.isSelector = false := by
  unfold dottedLexemes at h
  split at h
  . cases h
  . rw [List.mem_singleton.mp h]
    exact isSelector_segmentLexeme _
  . exact isSelector_of_mem_intersperse rfl h

theorem wrap_arrowed (g : Grammar) (hcolumn : Identifier.Bare column)
    (hkeys : ∀ key ∈ keys, Identifier.Key key) (hne : keys ≠ [])
    : g.wrap (arrowed column keys)
      = jsonSelector g.dialect (g.wrapDotted false column) keys := by
  have hparts : ∀ part ∈ column :: keys, Identifier.Unlabelled part.toList :=
    List.forall_mem_cons.mpr ⟨hcolumn.unlabelled, fun key hkey => (hkeys key hkey).unlabelled⟩
  have halias := Identifier.splitAlias?_of_unlabelled (Identifier.unlabelled_arrowed hparts)
  have hjson := Identifier.splitJson?_arrowed hcolumn.arrowless hkeys hne
  rw [wrap, wrapName, halias]
  dsimp only
  rw [wrapTarget, hjson]

theorem addressed?_wrap (g : Grammar) (hcolumn : Identifier.Bare column)
    (hkeys : ∀ key ∈ keys, Identifier.Key key) (hne : keys ≠ [])
    : addressed? g.dialect (g.wrap (arrowed column keys))
      = if g.dialect = .postgres then some keys else literalKeys? (pathText keys) := by
  have hselector := spelled_jsonSelector keys (g.spelled_wrapDotted false column)
  rw [wrap_arrowed g hcolumn hkeys hne]
  exact addressed?_selector hne (fun _ => isSelector_of_mem_dottedLexemes) hselector

theorem exists_renderJsonContains_arrowed {g : Grammar} (hdialect : g.dialect = .mysql)
    (hcolumn : Identifier.Bare column) (hkeys : ∀ key ∈ keys, Identifier.Key key) (hne : keys ≠ [])
    (operand : Operand) (negated : Bool)
    : ∃ sql, renderJsonContains g (.name (arrowed column keys)) operand negated = .ok sql ∧
        sql.text = (if negated then "NOT " else "") ++ "json_contains(" ++ g.wrap column ++ ", " ++
          operand.sql.text ++ ", " ++ jsonPath keys ++ ")" := by
  have hjson := Identifier.splitJson?_arrowed hcolumn.arrowless hkeys hne
  unfold renderJsonContains
  rw [hdialect]
  dsimp only
  rw [hjson]
  refine ⟨_, rfl, ?_⟩
  simp [String.append_assoc]

/--
A selector leads to the keys that it is written with, unless one of them has to be escaped in a
path. In a test of documents the path is the same.
-/
theorem addressed_wrap_iff (g : Grammar) (hcolumn : Identifier.Bare column)
    (hkeys : ∀ key ∈ keys, Identifier.Key key) (hne : keys ≠ [])
    : (addressed? g.dialect (g.wrap (arrowed column keys)) = some keys ↔
        g.dialect = .postgres ∨ ∀ key ∈ keys, Unescaped key) ∧
      (g.dialect = .mysql → ∀ operand negated, ∃ sql path content,
        renderJsonContains g (.name (arrowed column keys)) operand negated = .ok sql ∧
        sql.text = (if negated then "NOT " else "") ++ "json_contains(" ++ g.wrap column ++ ", " ++
          operand.sql.text ++ ", " ++ path ++ ")" ∧
        lex g.dialect path.toList = some [.literal content] ∧
        (literalKeys? content = some keys ↔ ∀ key ∈ keys, Unescaped key)) := by
  constructor
  . rw [addressed?_wrap g hcolumn hkeys hne]
    split
    . next hdialect => simp [hdialect]
    . next hdialect => rw [literalKeys?_pathText_iff hne, or_iff_right hdialect]
  . intro hdialect operand negated
    obtain ⟨sql, hsql, htext⟩ :=
      exists_renderJsonContains_arrowed hdialect hcolumn hkeys hne operand negated
    have hallowed : (Lexeme.literal (pathText keys)).Allowed g.dialect := trivial
    have hpath := (Spelled.singleton hallowed).lex_eq
    rw [Lexeme.spell, ← jsonPath_eq_quoteText] at hpath
    exact ⟨sql, jsonPath keys, pathText keys, hsql, htext, hpath, literalKeys?_pathText_iff hne⟩

/-- Quotes of the literal are no trouble: they are doubled, and read as one. -/
theorem addressed_apostrophe
    : addressed? .mysql (wrap ⟨.mysql, ""⟩ (arrowed "data" ["it's", "a b"])) = some ["it's", "a b"]
      ∧ ∃ sql path content,
        renderJsonContains ⟨.mysql, ""⟩ (.name (arrowed "data" ["it's", "a b"]))
          (.value (.text "x")) true = .ok sql ∧
        sql.text = "NOT json_contains(" ++ wrap ⟨.mysql, ""⟩ "data" ++ ", ?, " ++ path ++ ")" ∧
        lex .mysql path.toList = some [.literal content] ∧
        literalKeys? content = some ["it's", "a b"] := by
  have hkeys : ∀ key ∈ ["it's", "a b"], Unescaped key := by decide
  obtain ⟨hselector, hcontains⟩ := addressed_wrap_iff ⟨.mysql, ""⟩
    (show Identifier.Bare "data" by decide)
    (show ∀ key ∈ ["it's", "a b"], Identifier.Key key by decide) (List.cons_ne_nil _ _)
  refine ⟨hselector.mpr (.inr hkeys), ?_⟩
  obtain ⟨sql, path, content, hsql, htext, hpath, hread⟩ := hcontains rfl (.value (.text "x")) true
  exact ⟨sql, path, content, hsql, htext, hpath, hread.mpr hkeys⟩

/-- One key that ends the member it stands in is read as two. -/
theorem addressed_quote
    : Identifier.Bare "data" ∧ Identifier.Key "a\".\"b" ∧
      wrap ⟨.mysql, ""⟩ (arrowed "data" ["a\".\"b"])
        = "json_unquote(json_extract(\x60data\x60, '$.\"a\".\"b\"'))" ∧
      addressed? .mysql (wrap ⟨.mysql, ""⟩ (arrowed "data" ["a\".\"b"])) = some ["a", "b"] ∧
      addressed? .sqlite (wrap ⟨.sqlite, ""⟩ (arrowed "data" ["a\".\"b"])) = some ["a", "b"] := by
  have hcolumn : Identifier.Bare "data" := by decide
  have hkey : Identifier.Key "a\".\"b" := by decide
  have hkeys : ∀ key ∈ ["a\".\"b"], Identifier.Key key := by simpa using hkey
  have hread : literalKeys? (pathText ["a\".\"b"]) = some ["a", "b"] := by decide
  have hmysql := addressed?_wrap ⟨.mysql, ""⟩ hcolumn hkeys (List.cons_ne_nil _ _)
  have hsqlite := addressed?_wrap ⟨.sqlite, ""⟩ hcolumn hkeys (List.cons_ne_nil _ _)
  exact ⟨hcolumn, hkey, by decide, hmysql.trans hread, hsqlite.trans hread⟩

end Grammar

end SqlForge
