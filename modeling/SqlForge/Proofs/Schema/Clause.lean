import Mathlib.Data.List.SplitBy
import SqlForge.Proofs.Name.Lexeme
import SqlForge.Schema.Definition

/-!
The clauses of a column definition, read from its text alone. Only what stands outside of quotes
counts, a doubled quote being a quote and nothing else; there every clause has a word of its own,
and letters are read without regard to case.
-/

namespace SqlForge

open SqlForge.Schema

def Dialect.isQuote (d : Dialect) (c : Char) : Bool :=
  c = '\x27' || c = d.quote

/-- The quote that is open behind the character. A doubled quote closes and opens again. -/
def Dialect.turn (d : Dialect) (opened : Option Char) (c : Char) : Option Char :=
  match opened with
  | none => if d.isQuote c then some c else none
  | some quote => if c = quote then none else some quote

namespace Schema

/-! ### Words outside of quotes -/

/-- What is left of a text if all that stands between quotes is taken out. -/
def shown (d : Dialect) : Option Char → List Char → List Char
  | _, [] => []
  | opened, c :: cs =>
    if opened.all (· = c) then c :: shown d (d.turn opened c) cs
    else shown d (d.turn opened c) cs

/-- Whether the character can be part of a word. -/
def isWordChar (c : Char) : Bool :=
  c.isAlphanum || c = '_' || '\x7f' < c

def joins (c next : Char) : Bool :=
  isWordChar c && isWordChar next

/-- The words outside of quotes, and every other character there but blanks. -/
def outerWords (d : Dialect) (s : String) : List String :=
  (((shown d none s.toList).splitBy joins).filter fun word => !word.all Char.isWhitespace).map
    fun word => Text.asciiLower (String.ofList word)

/-! ### Clauses -/

/-- The words that clauses are known by. -/
def Modifier.keywords : List (String × Modifier) := [
  ("unsigned", .unsigned), ("character", .charset), ("collate", .collate), ("as", .virtualAs),
  ("stored", .storedAs), ("null", .nullable), ("default", .default), ("primary", .increment),
  ("comment", .comment), ("after", .after), ("first", .first)]

/-- What stands directly behind the word `default` may be NULL, which is no clause then. -/
def clauseWords (behindDefault : Bool) : List String → List Modifier
  | [] => []
  | word :: words =>
    let clause := if behindDefault && word = "null" then none else Modifier.keywords.lookup word
    clause.toList ++ clauseWords (word = "default") words

/-- Whether the word `default` is the last one. -/
def endsDefault (behindDefault : Bool) (words : List String) : Bool :=
  words.foldl (fun _ word => word = "default") behindDefault

/-- The words in front of the expression and behind it make one clause of a stored expression. -/
def joinStored : List Modifier → List Modifier
  | [] => []
  | m :: ms =>
    if m = .virtualAs ∧ ms.head? = some .storedAs then joinStored ms else m :: joinStored ms

/-- The clauses of a column definition, in the order in which they stand in the text. -/
def clauses (d : Dialect) (definition : String) : List Modifier :=
  joinStored (clauseWords false (outerWords d definition))

/-- The words that a modifier is written with, as clauses of their own. -/
def Modifier.marks : Modifier → List Modifier
  | .storedAs => [.virtualAs, .storedAs]
  | m => [m]

/-- All quotes in the text are closed. -/
def QuotesClosed (d : Dialect) (s : String) : Prop :=
  s.toList.foldl d.turn none = none

instance (d : Dialect) (s : String) : Decidable (QuotesClosed d s) := by
  unfold QuotesClosed; infer_instance

/-- SQL that closes its quotes and has none of the words outside of them. -/
structure Wordless (d : Dialect) (s : String) : Prop where
  closed : QuotesClosed d s
  words : ∀ word ∈ outerWords d s, Modifier.keywords.lookup word = none

/-- The text closes its quotes and is read as the clauses. -/
structure Reads (d : Dialect) (behindDefault : Bool) (s : String) (ms : List Modifier)
    (endsBehind : Bool) : Prop where
  closed : QuotesClosed d s
  clauses : clauseWords behindDefault (outerWords d s) = ms
  ends : endsDefault behindDefault (outerWords d s) = endsBehind

/-- No word goes on from the one text into the other. -/
def WordsApart (s t : String) : Prop :=
  ∀ c ∈ s.toList.getLast?, ∀ next ∈ t.toList.head?, joins c next = false

/-- The first character of the text is there, and ends every word before it. -/
def StartsApart (s : String) : Prop :=
  s.toList.head?.any (!isWordChar ·)

instance (s : String) : Decidable (StartsApart s) := by
  unfold StartsApart; infer_instance

/-- The last character of the text is there, and is in no word behind it. -/
def EndsApart (s : String) : Prop :=
  s.toList.getLast?.any (!isWordChar ·)

instance (s : String) : Decidable (EndsApart s) := by
  unfold EndsApart; infer_instance

section

variable {d : Dialect} {behind ends : Bool} {s t : String} {ms more : List Modifier}

theorem wordless_iff
    : Wordless d s ↔
      QuotesClosed d s ∧ ∀ word ∈ outerWords d s, Modifier.keywords.lookup word = none :=
  ⟨fun h => ⟨h.closed, h.words⟩, fun h => ⟨h.1, h.2⟩⟩

instance (d : Dialect) (s : String) : Decidable (Wordless d s) :=
  decidable_of_iff _ wordless_iff.symm

theorem reads_iff
    : Reads d behind s ms ends ↔ QuotesClosed d s ∧ clauseWords behind (outerWords d s) = ms ∧
        endsDefault behind (outerWords d s) = ends :=
  ⟨fun h => ⟨h.closed, h.clauses, h.ends⟩, fun h => ⟨h.1, h.2.1, h.2.2⟩⟩

instance (d : Dialect) (behind : Bool) (s : String) (ms : List Modifier) (ends : Bool)
    : Decidable (Reads d behind s ms ends) :=
  decidable_of_iff _ reads_iff.symm

theorem joinStored_marks (ms : List Modifier) : joinStored (ms.flatMap Modifier.marks) = ms := by
  have hhead (ms : List Modifier) : (ms.flatMap Modifier.marks).head? ≠ some .storedAs := by
    cases ms with
    | nil => decide
    | cons m ms =>
      have hmarks : m.marks.head? ≠ some .storedAs := by cases m <;> decide
      cases m <;> exact hmarks
  induction ms with
  | nil => rfl
  | cons m ms ih =>
    rw [List.flatMap_cons]
    cases m with
    | virtualAs =>
      have hkept : joinStored (Modifier.virtualAs.marks ++ ms.flatMap Modifier.marks) =
          .virtualAs :: joinStored (ms.flatMap Modifier.marks) := if_neg fun h => hhead ms h.2
      rw [hkept, ih]
    | storedAs =>
      have hjoined : joinStored (Modifier.storedAs.marks ++ ms.flatMap Modifier.marks) =
          .storedAs :: joinStored (ms.flatMap Modifier.marks) := rfl
      rw [hjoined, ih]
    | _ => exact congrArg (_ :: ·) ih

/-! ### Texts behind one another -/

theorem StartsApart.append (h : StartsApart s) (t : String) : StartsApart (s ++ t) := by
  unfold StartsApart at *
  rw [String.toList_append]
  cases hs : s.toList with
  | nil =>
    rw [hs] at h
    contradiction
  | cons c cs =>
    rw [hs] at h
    exact h

theorem StartsApart.wordsApart (h : StartsApart t) (s : String) : WordsApart s t := by
  intro c _ next hnext
  unfold StartsApart at h
  rw [hnext] at h
  rw [joins, Bool.and_eq_false_iff]
  exact .inr (Bool.not_eq_true' _ |>.mp h)

theorem EndsApart.append (h : EndsApart t) (s : String) : EndsApart (s ++ t) := by
  unfold EndsApart at *
  rw [String.toList_append, List.getLast?_append]
  cases ht : t.toList.getLast? with
  | none =>
    rw [ht] at h
    contradiction
  | some c =>
    rw [ht] at h
    exact h

theorem EndsApart.wordsApart (h : EndsApart s) (t : String) : WordsApart s t := by
  intro c hc next _
  unfold EndsApart at h
  rw [hc] at h
  rw [joins, Bool.and_eq_false_iff]
  exact .inl (Bool.not_eq_true' _ |>.mp h)

theorem shown_append {opened : Option Char} (cs rest : List Char)
    : shown d opened (cs ++ rest) =
      shown d opened cs ++ shown d (cs.foldl d.turn opened) rest := by
  induction cs generalizing opened with
  | nil => rfl
  | cons c cs ih =>
    rw [List.cons_append, shown, shown, ih, List.foldl_cons]
    split <;> rfl

theorem head?_shown (d : Dialect) (cs : List Char) : (shown d none cs).head? = cs.head? := by
  cases cs <;> rfl

theorem getLast?_shown {opened : Option Char} {cs : List Char} (hne : cs ≠ [])
    (hclosed : cs.foldl d.turn opened = none)
    : (shown d opened cs).getLast? = cs.getLast? := by
  obtain ⟨before, c, rfl⟩ := List.eq_nil_or_concat' cs |>.resolve_left hne
  rw [List.foldl_append] at hclosed
  have hshown : shown d (before.foldl d.turn opened) [c] = [c] := by
    rw [shown, if_pos]
    . rfl
    . cases hstate : before.foldl d.turn opened with
      | none => rfl
      | some quote =>
        rw [hstate] at hclosed
        simpa [Dialect.turn, eq_comm] using hclosed
  rw [shown_append, hshown, List.getLast?_concat, List.getLast?_concat]

theorem QuotesClosed.append (hs : QuotesClosed d s) (ht : QuotesClosed d t)
    : QuotesClosed d (s ++ t) := by
  unfold QuotesClosed at *
  rw [String.toList_append, List.foldl_append, hs, ht]

theorem outerWords_append (hs : QuotesClosed d s) (hapart : WordsApart s t)
    : outerWords d (s ++ t) = outerWords d s ++ outerWords d t := by
  have hjoint : ∀ c ∈ (shown d none s.toList).getLast?,
      ∀ next ∈ (shown d none t.toList).head?, joins c next = false := by
    rw [head?_shown]
    by_cases hne : s.toList = []
    . rw [hne]
      intro c hc
      cases hc
    . rw [getLast?_shown hne hs]
      exact hapart
  unfold outerWords
  rw [String.toList_append, shown_append, hs, List.splitBy_append hjoint, List.filter_append,
    List.map_append]

theorem clauseWords_append (words rest : List String)
    : clauseWords behind (words ++ rest) =
      clauseWords behind words ++ clauseWords (endsDefault behind words) rest := by
  induction words generalizing behind with
  | nil => rfl
  | cons word words ih =>
    rw [List.cons_append, clauseWords, clauseWords, ih, List.append_assoc]
    rfl

theorem Reads.append {between : Bool} (hs : Reads d behind s ms between)
    (ht : Reads d between t more ends) (hapart : WordsApart s t)
    : Reads d behind (s ++ t) (ms ++ more) ends where
  closed := hs.closed.append ht.closed
  clauses := by
    rw [outerWords_append hs.closed hapart, clauseWords_append, hs.clauses, hs.ends, ht.clauses]
  ends := by
    rw [outerWords_append hs.closed hapart, endsDefault, List.foldl_append]
    have hends := ht.ends
    rw [← hs.ends] at hends
    exact hends

theorem Wordless.append (hs : Wordless d s) (ht : Wordless d t) (hapart : WordsApart s t)
    : Wordless d (s ++ t) where
  closed := hs.closed.append ht.closed
  words := by
    rw [outerWords_append hs.closed hapart]
    exact List.forall_mem_append.mpr ⟨hs.words, ht.words⟩

theorem clauseWords_eq_nil {words : List String}
    (h : ∀ word ∈ words, Modifier.keywords.lookup word = none)
    : clauseWords behind words = [] := by
  induction words generalizing behind with
  | nil => rfl
  | cons word words ih =>
    obtain ⟨hword, hwords⟩ := List.forall_mem_cons.mp h
    rw [clauseWords, ih hwords, hword, ite_self]
    rfl

theorem endsDefault_eq_false {words : List String}
    (h : ∀ word ∈ words, Modifier.keywords.lookup word = none)
    : endsDefault false words = false := by
  unfold endsDefault
  induction words with
  | nil => rfl
  | cons word words ih =>
    obtain ⟨hword, hwords⟩ := List.forall_mem_cons.mp h
    have hne : word ≠ "default" := by
      rintro rfl
      contradiction
    rw [List.foldl_cons, decide_eq_false hne]
    exact ih hwords

theorem Wordless.reads (h : Wordless d s) : Reads d false s [] false :=
  ⟨h.closed, clauseWords_eq_nil h.words, endsDefault_eq_false h.words⟩

theorem Wordless.exists_reads (h : Wordless d s) (behind : Bool)
    : ∃ ends, Reads d behind s [] ends :=
  ⟨_, h.closed, clauseWords_eq_nil h.words, rfl⟩

/-! ### Texts without letters outside of quotes -/

theorem isAlpha_of_toLower {c : Char} (h : c.toLower.isAlpha) : c.isAlpha := by
  unfold Char.toLower at h
  split at h
  . next hupper =>
    have hisUpper : c.isUpper := decide_eq_true hupper
    exact (Bool.or_eq_true _ _).mpr (.inl hisUpper)
  . exact h

theorem lookup_eq_none {word : List Char} (hne : word ≠ []) (h : ∀ c ∈ word, ¬c.isAlpha)
    : Modifier.keywords.lookup (Text.asciiLower (String.ofList word)) = none := by
  have hkeywords : ∀ keyword ∈ Modifier.keywords, keyword.1.toList.all Char.isAlpha := by decide
  rw [Option.eq_none_iff_forall_ne_some]
  intro m hm
  obtain ⟨before, rest, hsplit, -⟩ := List.lookup_eq_some_iff.mp hm
  have hall := hkeywords (Text.asciiLower (String.ofList word), m) (by simp [hsplit])
  obtain ⟨c, cs, rfl⟩ := List.exists_cons_of_ne_nil hne
  apply h c List.mem_cons_self
  apply isAlpha_of_toLower
  exact List.all_eq_true.mp hall c.toLower (by simp [Text.asciiLower])

theorem wordless_of_shown (hclosed : QuotesClosed d s)
    (h : ∀ c ∈ shown d none s.toList, ¬c.isAlpha)
    : Wordless d s where
  closed := hclosed
  words := by
    intro word hword
    obtain ⟨cs, hcs, rfl⟩ := List.mem_map.mp hword
    have hrun := (List.mem_filter.mp hcs).1
    apply lookup_eq_none (List.ne_nil_of_mem_splitBy hrun)
    intro c hc
    apply h
    rw [← List.flatten_splitBy joins (shown d none s.toList)]
    exact List.mem_flatten.mpr ⟨cs, hrun, hc⟩

theorem not_isAlpha_of_isQuote {quote : Char} (h : d.isQuote quote) : ¬quote.isAlpha := by
  obtain h | h := (Bool.or_eq_true _ _).mp h
  . rw [of_decide_eq_true h]
    decide
  . rw [of_decide_eq_true h]
    cases d <;> decide

/-- Between two quotes nothing is seen but quotes. -/
theorem shown_double {quote : Char} (hquote : d.isQuote quote) (cs : List Char)
    : (Identifier.double quote cs).foldl d.turn (some quote) = some quote ∧
      ∀ c ∈ shown d (some quote) (Identifier.double quote cs), c = quote := by
  induction cs with
  | nil =>
    refine ⟨rfl, ?_⟩
    intro c hc
    cases hc
  | cons c cs ih =>
    obtain ⟨hopen, hshown⟩ := ih
    rw [Identifier.double]
    split
    . next hc =>
      have hturn : d.turn none quote = some quote := if_pos hquote
      have hclose : d.turn (some quote) quote = none := if_pos rfl
      refine ⟨?_, ?_⟩
      . rw [List.foldl_cons, List.foldl_cons, hclose, hturn, hopen]
      . simpa [shown, hclose, hturn] using hshown
    . next hc =>
      have hturn : d.turn (some quote) c = some quote := if_neg hc
      refine ⟨?_, ?_⟩
      . rw [List.foldl_cons, hturn, hopen]
      . simpa [shown, hturn, Ne.symm hc] using hshown

theorem wordless_quoted {quote : Char} (hquote : d.isQuote quote) (s : String)
    : Wordless d (Identifier.quoted quote s) := by
  have hturn : d.turn none quote = some quote := if_pos hquote
  have hclose : d.turn (some quote) quote = none := if_pos rfl
  obtain ⟨hopen, hshown⟩ := shown_double hquote s.toList
  apply wordless_of_shown
  . rw [QuotesClosed, Identifier.quoted, String.toList_ofList, List.cons_append, List.foldl_cons,
      List.foldl_append, hturn, hopen]
    exact hclose
  . intro c hc
    rw [Identifier.quoted, String.toList_ofList, List.cons_append, shown, hturn, shown_append,
      hopen] at hc
    have heq : c = quote := by
      simp only [Option.all_none, if_true, List.mem_cons, List.mem_append, shown, Option.all_some,
        decide_true, List.not_mem_nil, or_false] at hc
      obtain heq | hinner | heq := hc
      . exact heq
      . exact hshown c hinner
      . exact heq
    rw [heq]
    exact not_isAlpha_of_isQuote hquote

theorem mem_of_mem_shown {opened : Option Char} {c : Char} {cs : List Char}
    (h : c ∈ shown d opened cs) : c ∈ cs := by
  induction cs generalizing opened with
  | nil => exact h
  | cons first cs ih =>
    rw [shown] at h
    split at h
    . obtain rfl | h := List.mem_cons.mp h
      . exact List.mem_cons_self
      . exact List.mem_cons_of_mem _ (ih h)
    . exact List.mem_cons_of_mem _ (ih h)

theorem wordless_of_unlettered (h : ∀ c ∈ s.toList, d.isQuote c = false ∧ ¬c.isAlpha)
    : Wordless d s := by
  apply wordless_of_shown
  . unfold QuotesClosed
    generalize s.toList = cs at h
    induction cs with
    | nil => rfl
    | cons c cs ih =>
      obtain ⟨hc, hcs⟩ := List.forall_mem_cons.mp h
      have hturn : d.turn none c = none := if_neg (Bool.eq_false_iff.mp hc.1)
      rw [List.foldl_cons, hturn]
      exact ih hcs
  . intro c hc
    exact (h c (mem_of_mem_shown hc)).2

theorem unlettered_digit {c : Char} (h : c.isDigit) : d.isQuote c = false ∧ ¬c.isAlpha := by
  constructor
  . apply Bool.eq_false_iff.mpr
    intro hquote
    obtain hc | hc := (Bool.or_eq_true _ _).mp hquote
    . rw [of_decide_eq_true hc] at h
      contradiction
    . rw [of_decide_eq_true hc] at h
      cases d <;> contradiction
  . intro hletter
    have hbelow : c.val.toNat ≤ 57 :=
      UInt32.le_iff_toNat_le.mp (of_decide_eq_true ((Bool.and_eq_true _ _).mp h).2)
    have habove : 65 ≤ c.val.toNat := by
      obtain hupper | hlower := (Bool.or_eq_true _ _).mp hletter
      . exact UInt32.le_iff_toNat_le.mp (of_decide_eq_true hupper).1
      . have hlow : 97 ≤ c.val.toNat :=
          UInt32.le_iff_toNat_le.mp (of_decide_eq_true ((Bool.and_eq_true _ _).mp hlower).1)
        omega
    omega

theorem wordless_toString (d : Dialect) (n : Nat) : Wordless d (toString n) := by
  rw [Nat.toString_eq_ofList_toDigits]
  apply wordless_of_unlettered
  intro c hc
  rw [String.toList_ofList] at hc
  exact unlettered_digit (Nat.isDigit_of_mem_toDigits (by decide) (by decide) hc)

theorem wordless_integer (h : (Number.integer? s.toList).isSome) : Wordless d s := by
  obtain ⟨sign, digits, hs, hsign, -, hdigits⟩ := integer_eq_some h
  apply wordless_of_unlettered
  rw [hs]
  refine List.forall_mem_append.mpr ⟨?_, fun c hc => unlettered_digit (hdigits c hc)⟩
  intro c hc
  rcases hsign with rfl | rfl | rfl
  . cases hc
  all_goals
    rw [List.mem_singleton.mp hc]
    cases d <;> decide

end

end Schema

end SqlForge
