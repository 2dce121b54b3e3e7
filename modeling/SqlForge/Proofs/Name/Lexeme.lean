import SqlForge.Grammar
import SqlForge.Proofs.Number.Digits
import SqlForge.Text.Search

/-!
The tokens of a written name and how one is read: between quotes a doubled quote is a quote, and
outside of them there are dots, stars, aliases, whole numbers and the words of a JSON selector.
-/

namespace SqlForge

inductive Lexeme where
  | identifier (s : String)
  | literal (s : String)
  | star
  | dot
  | asWord
  | selector (word : String)
  | integer (s : String)
  deriving DecidableEq, Repr

/-- The text around the column and the steps of a path into a JSON document. -/
def Dialect.selectorWords : Dialect → List String
  | .mysql => ["json_unquote(json_extract(", ", ", "))"]
  | .postgres => ["->>", "->"]
  | .sqlite => ["json_extract(", ", ", ")"]

def Dialect.words (d : Dialect) : List Lexeme :=
  [.star, .dot, .asWord] ++ d.selectorWords.map .selector

namespace Lexeme

def spell (d : Dialect) : Lexeme → String
  | .identifier s => Identifier.quoted d.quote s
  | .literal s => Identifier.quoteText s
  | .star => "*"
  | .dot => "."
  | .asWord => " AS "
  | .selector word => word
  | .integer s => s

/-- Outside of quotes there is nothing but the words of the dialect and signed whole numbers. -/
def Allowed (d : Dialect) : Lexeme → Prop
  | .identifier _ | .literal _ => True
  | .integer s => (Number.integer? s.toList).isSome
  | word => word ∈ d.words

end Lexeme

/-! ### Reading -/

def unquote (quote : Char) : List Char → Option (List Char × List Char)
  | [] => none
  | c :: cs =>
    if c = quote then
      match cs with
      | d :: rest =>
        if d = quote then (unquote quote rest).map fun (s, rest) => (quote :: s, rest)
        else some ([], d :: rest)
      | [] => some ([], [])
    else (unquote quote cs).map fun (s, rest) => (c :: s, rest)

def quoted? (quote : Char) : List Char → Option (List Char × List Char)
  | [] => none
  | c :: cs => if c = quote then unquote quote cs else none

def word? (d : Dialect) (cs : List Char) : Option (Lexeme × List Char) :=
  d.words.findSome? fun word =>
    (Text.dropWord? (word.spell d).toList cs).map fun rest => (word, rest)

/-- A sign, if there is one, and the digits after it, and what follows. -/
def spanInteger : List Char → List Char × List Char
  | [] => ([], [])
  | c :: cs =>
    if c = '-' ∨ c = '+' then (c :: cs.takeWhile Char.isDigit, cs.dropWhile Char.isDigit)
    else ((c :: cs).takeWhile Char.isDigit, (c :: cs).dropWhile Char.isDigit)

def integer? (cs : List Char) : Option (List Char × List Char) :=
  if (Number.integer? (spanInteger cs).1).isSome then some (spanInteger cs) else none

def lexeme? (d : Dialect) (cs : List Char) : Option (Lexeme × List Char) :=
  ((quoted? d.quote cs).map fun (s, rest) => (.identifier (String.ofList s), rest)).or
    (((quoted? '\x27' cs).map fun (s, rest) => (.literal (String.ofList s), rest)).or
      ((word? d cs).or
        ((integer? cs).map fun (s, rest) => (.integer (String.ofList s), rest))))

/-! ### What is read stands there -/

variable {d : Dialect} {quote : Char} {cs s rest : List Char} {lexeme : Lexeme}

theorem unquote_eq_some (h : unquote quote cs = some (s, rest))
    : cs = Identifier.double quote s ++ quote :: rest := by
  fun_induction unquote quote cs generalizing s with
  | case1 => contradiction
  | case2 rest' ih =>
    obtain ⟨⟨inner, tail⟩, hinner, heq⟩ := Option.map_eq_some_iff.mp h
    cases heq
    rw [ih hinner, Identifier.double, if_pos rfl]
    rfl
  | case3 d' rest' hd =>
    cases h
    rfl
  | case4 =>
    cases h
    rfl
  | case5 c cs hc ih =>
    obtain ⟨⟨inner, tail⟩, hinner, heq⟩ := Option.map_eq_some_iff.mp h
    cases heq
    rw [ih hinner, Identifier.double, if_neg hc]
    rfl

theorem quoted?_eq_some (h : quoted? quote cs = some (s, rest))
    : cs = (Identifier.quoted quote (String.ofList s)).toList ++ rest := by
  unfold quoted? at h
  split at h
  . contradiction
  . split at h
    . next hc => 
      rw [hc, unquote_eq_some h]
      simp [Identifier.quoted]
    . contradiction

theorem dropWord?_eq_some {word : List Char}
    : Text.dropWord? word cs = some rest ↔ cs = word ++ rest := by
  fun_induction Text.dropWord? word cs with
  | case1 cs => simp
  | case2 => simp
  | case3 w ws cs ih => simp [ih]
  | case4 w ws c cs hne => simp [Ne.symm hne]

theorem word?_eq_some (h : word? d cs = some (lexeme, rest))
    : lexeme ∈ d.words ∧ cs = (lexeme.spell d).toList ++ rest := by
  obtain ⟨word, hword, heq⟩ := List.exists_of_findSome?_eq_some h
  obtain ⟨tail, htail, heq⟩ := Option.map_eq_some_iff.mp heq
  cases heq
  exact ⟨hword, dropWord?_eq_some.mp htail⟩

theorem spanInteger_append (cs : List Char) : (spanInteger cs).1 ++ (spanInteger cs).2 = cs := by
  unfold spanInteger
  split
  . rfl
  . split
    . rw [List.cons_append, List.takeWhile_append_dropWhile]
    . exact List.takeWhile_append_dropWhile

theorem integer?_eq_some (h : integer? cs = some (s, rest))
    : (Number.integer? s).isSome ∧ cs = s ++ rest := by
  unfold integer? at h
  split at h
  . next hsome =>
    have happend := spanInteger_append cs
    rw [Option.some.inj h] at hsome happend
    exact ⟨hsome, happend.symm⟩
  . contradiction

theorem allowed_of_mem_words (h : lexeme ∈ d.words) : lexeme.Allowed d := by
  cases lexeme with
  | identifier s => exact trivial
  | literal s => exact trivial
  | integer s => cases d <;> simp [Dialect.words, Dialect.selectorWords] at h
  | _ => exact h

theorem lexeme?_eq_some (h : lexeme? d cs = some (lexeme, rest))
    : lexeme.Allowed d ∧ cs = (lexeme.spell d).toList ++ rest := by
  unfold lexeme? at h
  rw [Option.or_eq_some_iff, Option.or_eq_some_iff, Option.or_eq_some_iff] at h
  rcases h with h | ⟨_, h | ⟨_, h | ⟨_, h⟩⟩⟩
  . obtain ⟨⟨s, tail⟩, hquoted, heq⟩ := Option.map_eq_some_iff.mp h
    cases heq
    exact ⟨trivial, quoted?_eq_some hquoted⟩
  . obtain ⟨⟨s, tail⟩, hquoted, heq⟩ := Option.map_eq_some_iff.mp h
    cases heq
    exact ⟨trivial, quoted?_eq_some hquoted⟩
  . obtain ⟨hword, hcs⟩ := word?_eq_some h
    exact ⟨allowed_of_mem_words hword, hcs⟩
  . obtain ⟨⟨s, tail⟩, hinteger, heq⟩ := Option.map_eq_some_iff.mp h
    cases heq
    obtain ⟨hsome, hcs⟩ := integer?_eq_some hinteger
    simp only [Lexeme.Allowed, Lexeme.spell, String.toList_ofList]
    exact ⟨hsome, hcs⟩

/-! ### Where tokens start -/

theorem mem_words : lexeme ∈ d.words ↔
    lexeme = .star ∨ lexeme = .dot ∨ lexeme = .asWord ∨
      ∃ word ∈ d.selectorWords, lexeme = .selector word := by
  simp [Dialect.words, eq_comm]

theorem selectorWords_head {word : String} (h : word ∈ d.selectorWords)
    : ∃ c tail, word.toList = c :: tail ∧ c ≠ '>' ∧ c ≠ d.quote ∧ c ≠ '\x27' ∧
        c.isDigit = false ∧ c ≠ '+' ∧ (c = '-' → tail.head? = some '>') := by
  cases d with
  | postgres =>
    rcases List.mem_cons.mp h with rfl | h
    . exact ⟨_, _, rfl, by decide⟩
    . rw [List.mem_singleton.mp h]
      exact ⟨_, _, rfl, by decide⟩
  | _ =>
    rcases List.mem_cons.mp h with rfl | h
    . exact ⟨_, _, rfl, by decide⟩
    . rcases List.mem_cons.mp h with rfl | h
      . exact ⟨_, _, rfl, by decide⟩
      . rw [List.mem_singleton.mp h]
        exact ⟨_, _, rfl, by decide⟩

theorem words_head (h : lexeme ∈ d.words)
    : ∃ c tail, (lexeme.spell d).toList = c :: tail ∧ c ≠ '>' ∧ c ≠ d.quote ∧ c ≠ '\x27' ∧
        c.isDigit = false ∧ c ≠ '+' ∧ (c = '-' → tail.head? = some '>') := by
  rcases mem_words.mp h with rfl | rfl | rfl | ⟨word, hword, rfl⟩
  . exact ⟨'*', [], by simp [Lexeme.spell], by decide, by cases d <;> decide, by decide⟩
  . exact ⟨'.', [], by simp [Lexeme.spell], by decide, by cases d <;> decide, by decide⟩
  . refine ⟨' ', ['A', 'S', ' '], ?_, by decide, by cases d <;> decide, by decide⟩
    simp [Lexeme.spell]
  . exact selectorWords_head hword

theorem integer_eq_some (h : (Number.integer? s).isSome)
    : ∃ sign digits, s = sign ++ digits ∧ (sign = [] ∨ sign = ['-'] ∨ sign = ['+']) ∧
        digits ≠ [] ∧ ∀ c ∈ digits, c.isDigit := by
  obtain ⟨n, hn⟩ := Option.isSome_iff_exists.mp h
  obtain ⟨sign, digits, hs, hsign, hne, hdigits, -⟩ := Number.integer?_eq_some_iff.mp hn
  exact ⟨sign, digits, hs, hsign.imp_right Or.symm, hne, hdigits⟩

theorem head_integer (h : (Number.integer? s).isSome)
    : ∃ c tail, s = c :: tail ∧
        (c.isDigit ∨ (c = '-' ∨ c = '+') ∧ ∃ next ∈ tail.head?, next.isDigit) := by
  obtain ⟨sign, digits, rfl, hsign, hne, hdigits⟩ := integer_eq_some h
  obtain ⟨first, digits, rfl⟩ := List.exists_cons_of_ne_nil hne
  have hfirst := hdigits first List.mem_cons_self
  rcases hsign with rfl | rfl | rfl
  . exact ⟨first, digits, rfl, .inl hfirst⟩
  . exact ⟨'-', first :: digits, rfl, .inr ⟨.inl rfl, first, rfl, hfirst⟩⟩
  . exact ⟨'+', first :: digits, rfl, .inr ⟨.inr rfl, first, rfl, hfirst⟩⟩

/-! ### What stands there is read -/

theorem unquote_double (h : rest.head? ≠ some quote) (s : List Char)
    : unquote quote (Identifier.double quote s ++ quote :: rest) = some (s, rest) := by
  induction s with
  | nil =>
    cases rest with
    | nil => simp [Identifier.double, unquote]
    | cons c rest =>
      have hc : c ≠ quote := by simpa using h
      simp [Identifier.double, unquote, hc]
  | cons c s ih =>
    rw [Identifier.double]
    split
    . next hc => simp [unquote, ih, hc]
    . next hc =>
      rw [List.cons_append, unquote.eq_def]
      simp [ih, hc]

theorem quoted?_quoted (h : rest.head? ≠ some quote) (s : String)
    : quoted? quote ((Identifier.quoted quote s).toList ++ rest) = some (s.toList, rest) := by
  rw [Identifier.quoted, String.toList_ofList, List.append_assoc, List.cons_append, quoted?,
    if_pos rfl]
  exact unquote_double h s.toList

theorem quoted?_of_ne {c : Char} (h : c ≠ quote) : quoted? quote (c :: cs) = none :=
  if_neg h

theorem word?_spell (h : lexeme ∈ d.words) (hrest : rest.head? ≠ some '>')
    : word? d ((lexeme.spell d).toList ++ rest) = some (lexeme, rest) := by
  unfold word? Dialect.words
  rcases mem_words.mp h with rfl | rfl | rfl | ⟨word, hword, rfl⟩
  . simp [Lexeme.spell, Text.dropWord?]
  . simp [Lexeme.spell, Text.dropWord?]
  . simp [Lexeme.spell, Text.dropWord?]
  . cases d with
    | postgres =>
      rcases List.mem_cons.mp hword with rfl | hword
      . simp [Dialect.selectorWords, Lexeme.spell, Text.dropWord?]
      . rw [List.mem_singleton.mp hword]
        cases rest with
        | nil => simp [Dialect.selectorWords, Lexeme.spell, Text.dropWord?]
        | cons c rest =>
          have hc : '>' ≠ c := by simpa [eq_comm] using hrest
          simp [Dialect.selectorWords, Lexeme.spell, Text.dropWord?, hc]
    | _ =>
      rcases List.mem_cons.mp hword with rfl | hword
      . simp [Dialect.selectorWords, Lexeme.spell, Text.dropWord?]
      . rcases List.mem_cons.mp hword with rfl | hword
        . simp [Dialect.selectorWords, Lexeme.spell, Text.dropWord?]
        . rw [List.mem_singleton.mp hword]
          simp [Dialect.selectorWords, Lexeme.spell, Text.dropWord?]

theorem word?_integer (h : (Number.integer? s).isSome) : word? d (s ++ rest) = none := by
  unfold word?
  rw [List.findSome?_eq_none_iff]
  intro word hword
  cases hdrop : Text.dropWord? (word.spell d).toList (s ++ rest) with
  | none => rfl
  | some tail =>
    obtain ⟨c, more, hc, _, _, _, hdigit, hplus, hminus⟩ := words_head hword
    obtain ⟨first, others, rfl, hfirst⟩ := head_integer h
    have heq := dropWord?_eq_some.mp hdrop
    rw [hc, List.cons_append, List.cons_append] at heq
    obtain ⟨rfl, hothers⟩ := List.cons.inj heq
    rcases hfirst with hfirst | ⟨hsign, next, hnext, hfirst⟩
    . rw [hdigit] at hfirst
      contradiction
    . have hmore := hminus (hsign.resolve_right hplus)
      -- A minus is followed by a digit here, and by the rest of an arrow in a word.
      cases others with
      | nil => cases hnext
      | cons digit others =>
        cases more with
        | nil => cases hmore
        | cons arrow more =>
          have hhead : digit = arrow := (List.cons.inj hothers).1
          cases hnext
          cases hmore
          rw [hhead] at hfirst
          contradiction

theorem takeWhile_append_of_head {p : Char → Bool} {digits : List Char} (h : ∀ c ∈ digits, p c)
    (hrest : ∀ c ∈ rest.head?, p c = false)
    : (digits ++ rest).takeWhile p = digits ∧ (digits ++ rest).dropWhile p = rest := by
  rw [List.takeWhile_append_of_pos h, List.dropWhile_append_of_pos h]
  cases rest with
  | nil => simp
  | cons c rest =>
    have hc : p c = false := hrest c rfl
    simp [hc]

theorem spanInteger_integer (h : (Number.integer? s).isSome)
    (hrest : ∀ c ∈ rest.head?, c.isDigit = false) : spanInteger (s ++ rest) = (s, rest) := by
  obtain ⟨sign, digits, rfl, hsign, hne, hdigits⟩ := integer_eq_some h
  obtain ⟨htake, hdrop⟩ := takeWhile_append_of_head hdigits hrest
  rcases hsign with rfl | rfl | rfl
  . obtain ⟨first, digits, rfl⟩ := List.exists_cons_of_ne_nil hne
    have hfirst := hdigits first List.mem_cons_self
    have hsign : ¬(first = '-' ∨ first = '+') := by
      rintro (rfl | rfl) <;> contradiction
    rw [List.nil_append, List.cons_append, spanInteger, if_neg hsign, ← List.cons_append, htake,
      hdrop]
  . rw [List.append_assoc, List.singleton_append, spanInteger, if_pos (.inl rfl), htake, hdrop]
    rfl
  . rw [List.append_assoc, List.singleton_append, spanInteger, if_pos (.inr rfl), htake, hdrop]
    rfl

theorem integer?_append (h : (Number.integer? s).isSome)
    (hrest : ∀ c ∈ rest.head?, c.isDigit = false) : integer? (s ++ rest) = some (s, rest) := by
  rw [integer?, spanInteger_integer h hrest, if_pos h]

namespace Lexeme

def isOperand : Lexeme → Bool
  | .identifier _ | .literal _ | .integer _ => true
  | .star | .dot | .asWord | .selector _ => false

def isSelector : Lexeme → Bool
  | .selector _ => true
  | _ => false

theorem head_spell (h : lexeme.Allowed d)
    : ∃ c tail, (lexeme.spell d).toList = c :: tail ∧ c ≠ '>' ∧
        (lexeme.isOperand = false → c ≠ d.quote ∧ c ≠ '\x27' ∧ c.isDigit = false) := by
  cases lexeme with
  | identifier s =>
    refine ⟨d.quote, _, String.toList_ofList, ?_, nofun⟩
    cases d <;> decide
  | literal s => exact ⟨'\x27', _, String.toList_ofList, by decide, nofun⟩
  | integer s =>
    obtain ⟨c, tail, hs, hc⟩ := head_integer h
    refine ⟨c, tail, hs, ?_, nofun⟩
    rintro rfl
    rcases hc with hc | ⟨hc | hc, _⟩ <;> contradiction
  | _ =>
    obtain ⟨c, tail, hs, harrow, hquote, htext, hdigit, _⟩ := words_head h
    exact ⟨c, tail, hs, harrow, fun _ => ⟨hquote, htext, hdigit⟩⟩

theorem spell_ne_nil (h : lexeme.Allowed d) : (lexeme.spell d).toList ≠ [] := by
  obtain ⟨c, tail, hs, _⟩ := head_spell h
  rw [hs]
  exact List.cons_ne_nil c tail

end Lexeme

/-- A token is read as it is meant if what follows cannot be taken for more of it. -/
theorem lexeme?_spell (h : lexeme.Allowed d) (harrow : rest.head? ≠ some '>')
    (hrest : lexeme.isOperand → ∀ c ∈ rest.head?, c ≠ d.quote ∧ c ≠ '\x27' ∧ c.isDigit = false)
    : lexeme? d ((lexeme.spell d).toList ++ rest) = some (lexeme, rest) := by
  unfold lexeme?
  cases lexeme with
  | identifier s =>
    have hquote : rest.head? ≠ some d.quote := fun hhead => (hrest rfl _ hhead).1 rfl
    rw [Lexeme.spell, quoted?_quoted hquote]
    simp
  | literal s =>
    have hquote : rest.head? ≠ some '\x27' := fun hhead => (hrest rfl _ hhead).2.1 rfl
    have hother : quoted? d.quote ((Identifier.quoteText s).toList ++ rest) = none := by
      rw [Identifier.quoteText, Identifier.quoted, String.toList_ofList]
      apply quoted?_of_ne
      cases d <;> decide
    rw [Lexeme.spell, hother, Identifier.quoteText, quoted?_quoted hquote]
    simp
  | integer s =>
    have hdigit : ∀ c ∈ rest.head?, c.isDigit = false := fun c hc => (hrest rfl c hc).2.2
    obtain ⟨c, tail, hs, hc⟩ := head_integer h
    have hquote : c ≠ d.quote ∧ c ≠ '\x27' := by
      constructor
      . rintro rfl
        cases d <;> (rcases hc with hc | ⟨hc | hc, _⟩ <;> contradiction)
      . rintro rfl
        rcases hc with hc | ⟨hc | hc, _⟩ <;> contradiction
    rw [Lexeme.spell, word?_integer h, integer?_append h hdigit, hs, List.cons_append,
      quoted?_of_ne hquote.1, quoted?_of_ne hquote.2, ← hs]
    simp
  | _ =>
    obtain ⟨c, tail, hs, _, hquote, htext, _⟩ := words_head h
    rw [word?_spell h harrow, hs, List.cons_append, quoted?_of_ne hquote, quoted?_of_ne htext]
    rfl

end SqlForge
