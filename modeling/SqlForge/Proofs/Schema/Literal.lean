import SqlForge.Proofs.Name.Lexer

/-!
Text literals in a statement, and how they are read: a doubled quote is a quote, and in one dialect
a backslash makes a mere character of the next one. Only the quotes of names count besides;
everything else is passed over character by character.
-/

namespace SqlForge

inductive Atom where
  | literal (s : String)
  | name (s : String)
  | other (c : Char)
  deriving DecidableEq, Repr

/-- Whether the character makes a mere character of the next one in a literal. -/
def Dialect.isEscape (d : Dialect) (c : Char) : Bool :=
  d = .mysql && c = '\\'

/-- The text behind a first quote and before the last one, and what follows. -/
def unescape (quote : Char) (isEscape : Char → Bool) : List Char → Option (List Char × List Char)
  | [] => none
  | c :: cs =>
    if c = quote then
      match cs with
      | next :: rest =>
        if next = quote then
          (unescape quote isEscape rest).map fun (s, rest) => (quote :: s, rest)
        else some ([], next :: rest)
      | [] => some ([], [])
    else if isEscape c then
      match cs with
      | next :: rest => (unescape quote isEscape rest).map fun (s, rest) => (next :: s, rest)
      | [] => none
    else (unescape quote isEscape cs).map fun (s, rest) => (c :: s, rest)

def atom? (d : Dialect) : List Char → Option (Atom × List Char)
  | [] => none
  | c :: cs =>
    if c = '\x27' then
      (unescape '\x27' d.isEscape cs).map fun (s, rest) => (.literal (String.ofList s), rest)
    else if c = d.quote then
      (unescape d.quote (fun _ => false) cs).map fun (s, rest) => (.name (String.ofList s), rest)
    else some (.other c, cs)

/-- Reading one atom after the other, from the first text to the second. -/
inductive Scans (d : Dialect) : List Char → List Atom → List Char → Prop where
  | nil (cs : List Char) : Scans d cs [] cs
  | cons {cs rest last : List Char} {atom : Atom} {atoms : List Atom} :
    atom? d cs = some (atom, rest) → Scans d rest atoms last →
      Scans d cs (atom :: atoms) last

/-- Behind `before`, a literal is read that is all of `written` and means `content`. -/
def ReadAt (d : Dialect) (before written content after : String) : Prop :=
  (∃ atoms, Scans d (before ++ written ++ after).toList atoms (written ++ after).toList) ∧
    atom? d (written ++ after).toList = some (.literal content, after.toList)

variable {d : Dialect} {quote : Char} {isEscape : Char → Bool} {cs s rest last : List Char}
  {atoms more : List Atom}

theorem Scans.trans (h : Scans d cs atoms rest) (h' : Scans d rest more last)
    : Scans d cs (atoms ++ more) last := by
  induction h with
  | nil => exact h'
  | cons hatom _ ih => exact .cons hatom (ih h')

theorem isEscape_quote (d : Dialect) : d.isEscape '\x27' = false :=
  Bool.and_eq_false_imp.mpr fun _ => by decide

/-! ### What is read between quotes -/

theorem unescape_double (hrest : rest.head? ≠ some quote) (hs : ∀ c ∈ s, isEscape c = false)
    : unescape quote isEscape (Identifier.double quote s ++ quote :: rest) = some (s, rest) := by
  induction s with
  | nil =>
    cases rest with
    | nil => simp [Identifier.double, unescape]
    | cons c rest =>
      have hc : c ≠ quote := by simpa using hrest
      simp [Identifier.double, unescape, hc]
  | cons c s ih =>
    obtain ⟨hescape, hs⟩ := List.forall_mem_cons.mp hs
    rw [Identifier.double]
    split
    . next hc => simp [unescape, ih hs, hc]
    . next hc =>
      rw [List.cons_append, unescape.eq_def]
      simp [ih hs, hc, hescape]

/-- A quote in a text takes two characters to write, and so does a character that escapes. -/
theorem length_of_unescape (hquote : isEscape quote = false)
    (h : unescape quote isEscape cs = some (s, rest))
    : s.length + s.count quote + s.countP isEscape + 1 + rest.length ≤ cs.length := by
  fun_induction unescape quote isEscape cs generalizing s with
  | case1 => contradiction
  | case2 rest' ih =>
    obtain ⟨⟨inner, tail⟩, hinner, heq⟩ := Option.map_eq_some_iff.mp h
    cases heq
    have hlength := ih hinner
    rw [List.length_cons, List.count_cons_self, List.countP_cons_of_neg (by simp [hquote])]
    simp only [List.length_cons]
    omega
  | case3 next rest' hnext =>
    cases h
    simp only [List.length_nil, List.count_nil, List.countP_nil, List.length_cons]
    omega
  | case4 =>
    cases h
    simp
  | case5 c hc hescape next rest' ih =>
    obtain ⟨⟨inner, tail⟩, hinner, heq⟩ := Option.map_eq_some_iff.mp h
    cases heq
    have hlength := ih hinner
    -- the next character is not both a quote and one that escapes
    have hnext : (next :: inner).count quote + (next :: inner).countP isEscape ≤
        inner.count quote + inner.countP isEscape + 1 := by
      by_cases hq : next = quote
      . rw [hq, List.count_cons_self, List.countP_cons_of_neg (by simp [hquote])]
        omega
      . have hcount := List.countP_cons (p := isEscape) (a := next) (l := inner)
        rw [List.count_cons_of_ne hq]
        split at hcount <;> omega
    simp only [List.length_cons]
    omega
  | case6 => contradiction
  | case7 c cs hc hescape ih =>
    obtain ⟨⟨inner, tail⟩, hinner, heq⟩ := Option.map_eq_some_iff.mp h
    cases heq
    have hlength := ih hinner
    rw [List.count_cons_of_ne hc, List.countP_cons_of_neg hescape]
    simp only [List.length_cons]
    omega

/-- What follows is not read, unless it doubles the last quote. -/
theorem unescape_append (h : unescape quote isEscape cs = some (s, rest))
    (hlast : last.head? ≠ some quote)
    : unescape quote isEscape (cs ++ last) = some (s, rest ++ last) := by
  fun_induction unescape quote isEscape cs generalizing s with
  | case1 => contradiction
  | case2 rest' ih =>
    obtain ⟨⟨inner, tail⟩, hinner, heq⟩ := Option.map_eq_some_iff.mp h
    cases heq
    simp [unescape, ih hinner]
  | case3 next rest' hnext =>
    cases h
    simp [unescape, hnext]
  | case4 =>
    cases h
    cases last with
    | nil => simp [unescape]
    | cons c last =>
      have hc : c ≠ quote := by simpa using hlast
      simp [unescape, hc]
  | case5 c hc hescape next rest' ih =>
    obtain ⟨⟨inner, tail⟩, hinner, heq⟩ := Option.map_eq_some_iff.mp h
    cases heq
    simp [unescape, hc, hescape, ih hinner]
  | case6 => contradiction
  | case7 c cs hc hescape ih =>
    obtain ⟨⟨inner, tail⟩, hinner, heq⟩ := Option.map_eq_some_iff.mp h
    cases heq
    rw [List.cons_append, unescape.eq_def]
    simp [hc, hescape, ih hinner]

/-! ### Literals as they are written -/

theorem double_eq_self (h : quote ∉ s) : Identifier.double quote s = s := by
  induction s with
  | nil => rfl
  | cons c s ih =>
    obtain ⟨hc, hs⟩ := List.ne_and_not_mem_of_not_mem_cons h
    rw [Identifier.double, if_neg (Ne.symm hc), ih hs]

theorem length_double (quote : Char) (s : List Char)
    : (Identifier.double quote s).length = s.length + s.count quote := by
  induction s with
  | nil => rfl
  | cons c s ih =>
    rw [Identifier.double]
    split
    . next hc =>
      rw [hc, List.count_cons_self]
      simp only [List.length_cons]
      omega
    . next hc =>
      rw [List.count_cons_of_ne hc]
      simp only [List.length_cons]
      omega

/-- A text that is put between quotes; those inside of it may be doubled or not. -/
structure Literal where
  text : String
  doubled : Bool := true
  deriving DecidableEq, Repr

namespace Literal

def written (l : Literal) : String :=
  if l.doubled then Identifier.quoteText l.text else "'" ++ l.text ++ "'"

/-- Nothing in the text would have to be written in another way. -/
structure Sound (d : Dialect) (l : Literal) : Prop where
  quote : l.doubled = false → '\x27' ∉ l.text.toList
  escape : ∀ c ∈ l.text.toList, d.isEscape c = false

theorem sound_iff {l : Literal}
    : l.Sound d ↔
      (l.doubled || !l.text.toList.contains '\x27') && l.text.toList.all (!d.isEscape ·) := by
  simp only [Bool.and_eq_true, Bool.or_eq_true, Bool.not_eq_true', List.all_eq_true,
    List.contains_eq_mem, decide_eq_false_iff_not]
  constructor
  . intro h
    exact ⟨(Bool.eq_false_or_eq_true l.doubled).imp_right h.quote, h.escape⟩
  . intro h
    refine ⟨fun hdoubled => h.1.resolve_left ?_, h.2⟩
    rw [hdoubled]
    decide

instance (d : Dialect) (l : Literal) : Decidable (l.Sound d) :=
  decidable_of_iff _ sound_iff.symm

/-- What is written between the quotes. -/
def inner (l : Literal) : List Char :=
  if l.doubled then Identifier.double '\x27' l.text.toList else l.text.toList

theorem written_toList (l : Literal) : l.written.toList = '\x27' :: l.inner ++ ['\x27'] := by
  unfold written inner
  split <;> simp [Identifier.quoteText, Identifier.quoted]

theorem atom?_written (l : Literal) (cs : List Char)
    : atom? d (l.written.toList ++ cs) =
      (unescape '\x27' d.isEscape (l.inner ++ '\x27' :: cs)).map
        fun (s, rest) => (.literal (String.ofList s), rest) := by
  rw [written_toList, List.append_assoc, List.cons_append, atom?, if_pos rfl]
  rfl

theorem length_inner (l : Literal)
    : l.inner.length =
      l.text.toList.length + if l.doubled then l.text.toList.count '\x27' else 0 := by
  unfold inner
  split
  . exact length_double _ _
  . rfl

/-- A literal is read as its text if and only if nothing in the text ends it or escapes. -/
theorem atom?_written_iff {l : Literal} (hcs : cs.head? ≠ some '\x27')
    : atom? d (l.written.toList ++ cs) = some (.literal l.text, cs) ↔ l.Sound d := by
  rw [atom?_written]
  constructor
  . intro h
    obtain ⟨⟨s, rest⟩, hs, heq⟩ := Option.map_eq_some_iff.mp h
    rw [Prod.mk.injEq, Atom.literal.injEq] at heq
    obtain ⟨htext, rfl⟩ := heq
    have hchars : s = l.text.toList := by rw [← htext, String.toList_ofList]
    subst hchars
    have hlength := length_of_unescape (isEscape_quote d) hs
    rw [List.length_append, List.length_cons, length_inner] at hlength
    refine ⟨fun hdoubled => ?_, fun c hc => ?_⟩
    . rw [hdoubled] at hlength
      apply List.count_eq_zero.mp
      simp only [Bool.false_eq_true, if_false] at hlength
      omega
    . have hnone : l.text.toList.countP d.isEscape = 0 := by
        split at hlength <;> omega
      exact Bool.eq_false_iff.mpr (List.countP_eq_zero.mp hnone c hc)
  . intro h
    have hinner : l.inner = Identifier.double '\x27' l.text.toList := by
      unfold inner
      split
      . rfl
      . next hdoubled => rw [double_eq_self (h.quote (Bool.eq_false_iff.mpr hdoubled))]
    rw [hinner, unescape_double hcs h.escape]
    simp

end Literal

/-! ### What can be read to its end -/

/-- The text does not start with a quote, so that none before it is doubled. -/
def Dialect.Starts (d : Dialect) (cs : List Char) : Prop :=
  ∀ c ∈ cs.head?, c ≠ '\x27' ∧ c ≠ d.quote

theorem Dialect.Starts.append {d : Dialect} {cs rest : List Char} (h : d.Starts cs)
    (hrest : d.Starts rest)
    : d.Starts (cs ++ rest) := by
  cases cs with
  | nil => exact hrest
  | cons => exact h

theorem atom?_append {atom : Atom} (h : atom? d cs = some (atom, rest))
    (hlast : d.Starts last)
    : atom? d (cs ++ last) = some (atom, rest ++ last) := by
  have hliteral : last.head? ≠ some '\x27' := fun hhead => (hlast _ hhead).1 rfl
  have hname : last.head? ≠ some d.quote := fun hhead => (hlast _ hhead).2 rfl
  cases cs with
  | nil => contradiction
  | cons c cs =>
    rw [atom?] at h
    rw [List.cons_append, atom?]
    split at h
    . next hc =>
      obtain ⟨⟨s, rest⟩, hs, heq⟩ := Option.map_eq_some_iff.mp h
      cases heq
      rw [if_pos hc, unescape_append hs hliteral]
      rfl
    . next hc =>
      rw [if_neg hc]
      split at h
      . next hquote =>
        obtain ⟨⟨s, rest⟩, hs, heq⟩ := Option.map_eq_some_iff.mp h
        cases heq
        rw [if_pos hquote, unescape_append hs hname]
        rfl
      . next hquote =>
        cases h
        rw [if_neg hquote]

theorem Scans.append (h : Scans d cs atoms rest) (hlast : d.Starts last)
    : Scans d (cs ++ last) atoms (rest ++ last) := by
  induction h with
  | nil => exact .nil _
  | cons hatom _ ih => exact .cons (atom?_append hatom hlast) ih

/-- The text can be read to its end: all quotes in it are closed. -/
def Closes (d : Dialect) (s : String) : Prop :=
  ∃ atoms, Scans d s.toList atoms []

/-- The text can be read to its end whatever follows. -/
def Passes (d : Dialect) (s : String) : Prop :=
  ∀ rest, ∃ atoms, Scans d (s.toList ++ rest) atoms rest

/-- A text without quotes of any dialect. -/
def Unquoted (s : String) : Prop :=
  ∀ c ∈ s.toList, c ≠ '\x27' ∧ c ≠ '\x22' ∧ c ≠ '\x60'

theorem unquoted_iff {s : String}
    : Unquoted s ↔ s.toList.all fun c => c ≠ '\x27' && c ≠ '\x22' && c ≠ '\x60' := by
  simp [Unquoted, and_assoc]

instance (s : String) : Decidable (Unquoted s) := decidable_of_iff _ unquoted_iff.symm

variable {t : String}

theorem Unquoted.append {s : String} (hs : Unquoted s) (ht : Unquoted t) : Unquoted (s ++ t) := by
  unfold Unquoted
  rw [String.toList_append]
  exact List.forall_mem_append.mpr ⟨hs, ht⟩

theorem unquoted_digits {digits : List Char} (h : ∀ c ∈ digits, c.isDigit)
    : Unquoted (String.ofList digits) := by
  intro c hc
  rw [String.toList_ofList] at hc
  have hdigit := h c hc
  refine ⟨?_, ?_, ?_⟩
  all_goals
    rintro rfl
    contradiction

theorem unquoted_toString (n : Nat) : Unquoted (toString n) := by
  rw [Nat.toString_eq_ofList_toDigits]
  exact unquoted_digits fun c hc => Nat.isDigit_of_mem_toDigits (by decide) (by decide) hc

theorem Unquoted.starts {s : String} (h : Unquoted s) : d.Starts s.toList := by
  intro c hc
  obtain ⟨htext, hdouble, hback⟩ := h c (List.mem_of_mem_head? hc)
  cases d with
  | mysql => exact ⟨htext, hback⟩
  | postgres | sqlite => exact ⟨htext, hdouble⟩

theorem scans_of_unquoted (hcs : ∀ c ∈ cs, d.Starts [c])
    : ∃ atoms, Scans d (cs ++ rest) atoms rest := by
  induction cs with
  | nil => exact ⟨[], .nil rest⟩
  | cons c cs ih =>
    obtain ⟨hc, hcs⟩ := List.forall_mem_cons.mp hcs
    obtain ⟨hliteral, hname⟩ := hc c rfl
    obtain ⟨atoms, hatoms⟩ := ih hcs
    refine ⟨.other c :: atoms, .cons ?_ hatoms⟩
    rw [List.cons_append, atom?, if_neg hliteral, if_neg hname]

theorem Unquoted.passes {s : String} (h : Unquoted s) : Passes d s := by
  intro rest
  apply scans_of_unquoted
  intro c hc
  have hone : Unquoted (String.ofList [c]) := by
    intro c' hc'
    rw [String.toList_ofList, List.mem_singleton] at hc'
    rw [hc']
    exact h c hc
  simpa using hone.starts (d := d)

theorem Passes.closes {s : String} (h : Passes d s) : Closes d s := by
  obtain ⟨atoms, hatoms⟩ := h []
  rw [List.append_nil] at hatoms
  exact ⟨atoms, hatoms⟩

theorem Passes.append {s : String} (hs : Passes d s) (ht : Passes d t) : Passes d (s ++ t) := by
  intro rest
  obtain ⟨atoms, hatoms⟩ := hs (t.toList ++ rest)
  obtain ⟨more, hmore⟩ := ht rest
  rw [String.toList_append, List.append_assoc]
  exact ⟨atoms ++ more, hatoms.trans hmore⟩

theorem Passes.append_closes {s : String} (hs : Passes d s) (ht : Closes d t)
    : Closes d (s ++ t) := by
  obtain ⟨atoms, hatoms⟩ := hs t.toList
  obtain ⟨more, hmore⟩ := ht
  exact ⟨atoms ++ more, String.toList_append ▸ hatoms.trans hmore⟩

theorem Closes.scans {s : String} (h : Closes d s) (hrest : d.Starts rest)
    : ∃ atoms, Scans d (s.toList ++ rest) atoms rest := by
  obtain ⟨atoms, hatoms⟩ := h
  exact ⟨atoms, hatoms.append hrest⟩

/-- A text without quotes keeps the quotes before it from being doubled. -/
theorem Closes.append_unquoted {s : String} (hs : Closes d s) (ht : Unquoted t) (hne : t ≠ "")
    : Passes d (s ++ t) := by
  intro rest
  have hstarts : d.Starts (t.toList ++ rest) := by
    cases htext : t.toList with
    | nil => exact absurd (String.toList_eq_nil_iff.mp htext) hne
    | cons c cs =>
      have ht := ht.starts (d := d)
      rw [htext] at ht
      exact ht
  obtain ⟨atoms, hatoms⟩ := hs.scans hstarts
  obtain ⟨more, hmore⟩ := ht.passes (d := d) rest
  rw [String.toList_append, List.append_assoc]
  exact ⟨atoms ++ more, hatoms.trans hmore⟩

/-! ### Names -/

theorem atom?_quoted (hrest : rest.head? ≠ some d.quote) (s : String)
    : atom? d ((Identifier.quoted d.quote s).toList ++ rest) = some (.name s, rest) := by
  have hquote : d.quote ≠ '\x27' := by cases d <;> decide
  rw [Identifier.quoted, String.toList_ofList, List.append_assoc, List.cons_append, atom?,
    if_neg hquote, if_pos rfl, List.singleton_append,
    unescape_double hrest fun _ _ => rfl]
  simp

theorem unquoted_of_mem_words {word : Lexeme} (h : word ∈ d.words) : Unquoted (word.spell d) := by
  have hall : d.words.all fun word => Unquoted (word.spell d) := by
    cases d <;> decide
  exact of_decide_eq_true (List.all_eq_true.mp hall word h)

theorem unquoted_of_integer? {s : String} (h : (Number.integer? s.toList).isSome) : Unquoted s := by
  obtain ⟨sign, digits, hs, hsign, -, hdigits⟩ := integer_eq_some h
  have hsign : Unquoted (String.ofList sign) := by
    rcases hsign with rfl | rfl | rfl <;> decide
  have hall := hsign.append (unquoted_digits hdigits)
  rwa [← String.ofList_append, ← hs, String.ofList_toList] at hall

theorem scans_spell {lexeme : Lexeme} (h : lexeme.Allowed d)
    (hsound : ∀ s, lexeme = .literal s → Literal.Sound d { text := s })
    (hrest : lexeme.isOperand → d.Starts rest)
    : ∃ atoms, Scans d ((lexeme.spell d).toList ++ rest) atoms rest := by
  cases lexeme with
  | identifier s =>
    have hname : rest.head? ≠ some d.quote := fun hhead => (hrest rfl _ hhead).2 rfl
    exact ⟨_, .cons (atom?_quoted hname s) (.nil rest)⟩
  | literal s =>
    have hliteral : rest.head? ≠ some '\x27' := fun hhead => (hrest rfl _ hhead).1 rfl
    have hread := (Literal.atom?_written_iff (l := { text := s }) hliteral).mpr (hsound s rfl)
    exact ⟨_, .cons hread (.nil rest)⟩
  | integer s => exact (unquoted_of_integer? h).passes rest
  | star | dot | asWord | selector => exact (unquoted_of_mem_words h).passes rest

/-- A name that is read as atoms is read to its end if its texts are. -/
theorem Spelled.closes {s : String} {lexemes : List Lexeme} (h : Spelled d s lexemes)
    (hsound : ∀ s, .literal s ∈ lexemes → Literal.Sound d { text := s })
    : Closes d s := by
  obtain ⟨htext, hallowed, hapart⟩ := h
  rw [← htext]
  clear htext
  induction lexemes with
  | nil =>
    have hempty : spellAll d [] = "" := String.join_nil
    rw [hempty]
    exact ⟨[], .nil _⟩
  | cons lexeme lexemes ih =>
    obtain ⟨hfirst, hallowed⟩ := List.forall_mem_cons.mp hallowed
    have hstarts : lexeme.isOperand → d.Starts (spellAll d lexemes).toList := by
      intro hoperand
      cases lexemes with
      | nil => simp [spellAll, Dialect.Starts]
      | cons next lexemes =>
        obtain ⟨c, tail, hc, -, hnext⟩ := Lexeme.head_spell (hallowed next List.mem_cons_self)
        obtain ⟨hname, hliteral, -⟩ := hnext (hapart.rel hoperand)
        rw [spellAll_cons, String.toList_append, hc]
        rintro _ ⟨⟩
        exact ⟨hliteral, hname⟩
    have hread := scans_spell hfirst (fun s hs => hsound s (hs ▸ List.mem_cons_self)) hstarts
    obtain ⟨atoms, hatoms⟩ := hread
    obtain ⟨more, hmore⟩ :=
      ih (fun s hs => hsound s (List.mem_cons_of_mem _ hs)) hallowed hapart.tail
    rw [spellAll_cons]
    exact ⟨atoms ++ more, String.toList_append ▸ hatoms.trans hmore⟩

end SqlForge
