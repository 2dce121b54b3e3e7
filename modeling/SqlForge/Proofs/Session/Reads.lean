import SqlForge.Proofs.Name.Lexeme
import SqlForge.Proofs.Session.Pages

/-!
Whether reading the first row, or page after page, stays within the limit and the offset of the
builder. Both go through the paging of the statement, which is where a builder keeps its own.
-/

namespace SqlForge

/-- The rows that an OFFSET and then a LIMIT leave. -/
def pageOf {α : Type} (limit offset : Option Nat) (rows : List α) : List α :=
  let rest := rows.drop (offset.getD 0)
  match limit with
  | some n => rest.take n
  | none => rest

section

variable {α : Type} {limit offset : Option Nat} {rows : List α} {size n : Nat}

theorem head?_pageOf
    : (pageOf limit offset rows).head?
      = if limit = some 0 then none else (rows.drop (offset.getD 0)).head? := by
  cases limit with
  | none => rfl
  | some n => simp [pageOf, List.head?_take]

/-- A window that is no smaller than the list, and skips nothing of it. -/
theorem pageOf_eq_self_iff
    : pageOf limit offset rows = rows ↔
      (offset.getD 0 = 0 ∨ rows = []) ∧ ∀ n ∈ limit, rows.length ≤ n := by
  have hdrop : rows.drop (offset.getD 0) = rows ↔ offset.getD 0 = 0 ∨ rows = [] := by
    constructor
    . intro h
      have hlength := congrArg List.length h
      rw [List.length_drop] at hlength
      rw [← List.length_eq_zero_iff]
      omega
    . rintro (h | h)
      . rw [h, List.drop_zero]
      . rw [h, List.drop_nil]
  cases limit with
  | none => simpa [pageOf] using hdrop
  | some n =>
    constructor
    . intro h
      have hlength := congrArg List.length h
      simp only [pageOf, List.length_take, List.length_drop] at hlength
      rw [← List.length_eq_zero_iff]
      simp only [Option.mem_def, Option.some.injEq, forall_eq']
      omega
    . rintro ⟨h, hlimit⟩
      have hn : rows.length ≤ n := hlimit n rfl
      simp only [pageOf, hdrop.mpr h]
      exact List.take_of_length_le hn

/-- Of the rows in pages of one size, the page after the first `k`. -/
def nthPage (rows : List α) (size k : Nat) : List α :=
  (rows.drop (k * size)).take size

theorem flatten_nthPages (rows : List α) (size n : Nat)
    : ((List.range n).map (nthPage rows size)).flatten = rows.take (n * size) := by
  induction n with
  | zero => simp
  | succ n ih =>
    rw [List.range_succ, List.map_append, List.flatten_append, ih, Nat.succ_mul, List.take_add]
    simp [nthPage]

theorem length_nthPage (rows : List α) (size k : Nat)
    : (nthPage rows size k).length = min size (rows.length - k * size) := by
  rw [nthPage, List.length_take, List.length_drop]

end

/-! ### The paging of a builder -/

namespace Select

/-- The limit of the statement; that of a compound statement is of the whole. -/
def ownLimit (q : Select) : Option Nat :=
  if q.unions.isEmpty then q.limit else q.unionLimit

def ownOffset (q : Select) : Option Nat :=
  if q.unions.isEmpty then q.offset else q.unionOffset

/-- The statement with a limit and an offset in place of its own. -/
def paged (q : Select) (limit offset : Option Nat) : Select :=
  if q.unions.isEmpty then { q with limit, offset }
  else { q with unionLimit := limit, unionOffset := offset }

theorem paged_own (q : Select) : q.paged q.ownLimit q.ownOffset = q := by
  cases q with
  | mk =>
    unfold paged ownLimit ownOffset
    split <;> rfl

theorem exists_render_paged {g : Grammar} {q : Select} {sql : Sql} (h : q.render g = .ok sql)
    (limit offset : Option Nat) : ∃ page, (q.paged limit offset).render g = .ok page := by
  obtain ⟨p, hjoins, hwheres, hhavings, hmembers, -⟩ := render_eq_ok.mp h
  refine ⟨(q.paged limit offset).assemble g p, ?_⟩
  rw [render_eq_ok]
  unfold paged
  split
  . exact ⟨p, hjoins, hwheres, hhavings, hmembers, rfl⟩
  . exact ⟨p, hjoins, hwheres, hhavings, hmembers, rfl⟩

end Select

namespace Builder

variable {b : Builder}

def paged (b : Builder) (limit offset : Option Nat) : Builder :=
  { b with query := b.query.paged limit offset }

theorem paged_own (b : Builder) : b.paged b.query.ownLimit b.query.ownOffset = b := by
  rw [paged, Select.paged_own]

theorem limit_eq_paged (b : Builder) (n : Nat)
    : b.limit n = b.paged (some n) b.query.ownOffset := by
  have hn : ¬(n : Int) < 0 := by omega
  unfold limit paged Select.paged Select.ownOffset
  cases hunions : b.query.unions.isEmpty with
  | true => simp [isCompound, hunions, hn]
  | false => simp [isCompound, hunions, hn]

theorem window_eq_paged (b : Builder) (skipped count : Nat)
    : b.window skipped count = b.paged (some count) (some skipped) :=
  rfl

theorem exists_statement_paged {s : Statement} (h : b.statement = .ok s)
    (limit offset : Option Nat) : ∃ page, (b.paged limit offset).statement = .ok page := by
  obtain ⟨sql, hsql, -⟩ := bind_eq_ok.mp h
  obtain ⟨page, hpage⟩ := Select.exists_render_paged hsql limit offset
  have hpage : (b.paged limit offset).sql = .ok page := hpage
  exact ⟨_, bind_eq_ok.mpr ⟨page, hpage, rfl⟩⟩

end Builder

/-! ### A driver with the rows of a query -/

/-- The driver has one list of rows for the query, whatever the paging, and answers with a page. -/
def Driver.Holds {σ : Type} (d : Driver σ) (b : Builder) (rows : List Row) : Prop :=
  ∀ limit offset s, (b.paged limit offset).statement = .ok s →
    ∀ state, (d.select s state).1.result = .ok (pageOf limit offset rows)

namespace Connection

open Walk

variable {σ : Type} (c : Connection σ) {b : Builder} {s : Statement} {rows : List Row} {size : Nat}

theorem run_get_paged (hb : b.statement = .ok s) (hholds : c.driver.Holds b rows)
    (limit offset : Option Nat) (run : Run σ)
    : ∃ run', (c.get (b.paged limit offset)).run run = (.ok (pageOf limit offset rows), run') := by
  obtain ⟨page, hpage⟩ := Builder.exists_statement_paged hb limit offset
  obtain ⟨run', hget, -⟩ := c.run_get hpage run
  refine ⟨run', ?_⟩
  rw [hget, hholds limit offset page hpage]
  rfl

theorem run_get_of_holds (hb : b.statement = .ok s) (hholds : c.driver.Holds b rows) (run : Run σ)
    : ∃ run', (c.get b).run run
        = (.ok (pageOf b.query.ownLimit b.query.ownOffset rows), run') := by
  have h := c.run_get_paged hb hholds b.query.ownLimit b.query.ownOffset run
  rwa [Builder.paged_own] at h

/-- The limit is replaced, so the first row does not depend on it. -/
theorem run_first_of_holds (hb : b.statement = .ok s) (hholds : c.driver.Holds b rows)
    (run : Run σ)
    : ∃ run', (c.first b).run run
        = (.ok (rows.drop (b.query.ownOffset.getD 0)).head?, run') := by
  obtain ⟨run', hget⟩ := c.run_get_paged hb hholds (some 1) b.query.ownOffset run
  have hlimit : b.limit 1 = b.paged (some 1) b.query.ownOffset := b.limit_eq_paged 1
  refine ⟨run', ?_⟩
  rw [← hlimit] at hget
  rw [first, Action.run_bind_of_ok hget, head?_pageOf]
  rfl

/-- Limit and offset are replaced, so the answers are pages of the whole list. -/
theorem exists_answers (hb : b.statement = .ok s) (hrows : rows.length ≤ Builder.maxRows)
    (hholds : c.driver.Holds b rows) (size : Nat) (state : σ)
    : ∃ statements : Nat → Statement,
        (∀ k, k * size ≤ Builder.maxRows →
          (b.forPage (k + 1) size).statement = .ok (statements k)) ∧
        ∀ k, c.driver.answer statements state k = .ok (nthPage rows size k) := by
  obtain ⟨statements, hstatements⟩ : ∃ statements : Nat → Statement, ∀ k,
      (b.paged (some (min size Builder.maxRows)) (some (k * size))).statement
        = .ok (statements k) :=
    ⟨_, fun k => (Builder.exists_statement_paged hb _ _).choose_spec⟩
  refine ⟨statements, ?_, ?_⟩
  . intro k hk
    rw [Builder.forPage_eq_window_min hk, Builder.window_eq_paged]
    exact hstatements k
  . intro k
    have hshort : (rows.drop (k * size)).length ≤ Builder.maxRows := by
      rw [List.length_drop]
      omega
    rw [Driver.answer, hholds _ _ _ (hstatements k), nthPage]
    simp only [pageOf, Option.getD_some, ← List.take_take, List.take_of_length_le hshort]

theorem run_chunk_of_holds (hb : b.statement = .ok s) (hrows : rows.length ≤ Builder.maxRows)
    (hholds : c.driver.Holds b rows) (hpos : 0 < size) (state : σ)
    : ∃ pages run', (c.chunk b size fun _ _ => true).run { driver := state }
          = (.ok (true, pages), run') ∧
        pages.flatten = rows ∧ ∀ page ∈ pages, page ≠ [] ∧ page.length ≤ size := by
  obtain ⟨statements, hstatements, hanswers⟩ := c.exists_answers hb hrows hholds size state
  let accept : Nat → List Row → Bool := fun _ _ => true
  let n := rows.length / size
  have hlast : n * size ≤ rows.length := Nat.div_mul_le_self rows.length size
  have hend : rows.length < (n + 1) * size := by
    rw [Nat.mul_comm]
    exact Nat.lt_mul_div_succ rows.length hpos
  have hpages : ∀ k ≤ n, (b.forPage (k + 1) size).statement = .ok (statements k) := by
    intro k hk
    have hfits := Nat.mul_le_mul_right size hk
    exact hstatements k (by omega)
  have hgoes : ∀ k < n, ¬Ends size (accept (k + 1)) (c.driver.answer statements state k) := by
    intro k hk
    have hfull : (k + 1) * size ≤ n * size := Nat.mul_le_mul_right size hk
    rw [Nat.succ_mul] at hfull
    have hlength := length_nthPage rows size k
    rw [hanswers, not_ends_ok]
    refine ⟨?_, rfl, by omega⟩
    rw [← List.length_pos_iff]
    omega
  have hends : Ends size (accept (n + 1)) (c.driver.answer statements state n) := by
    rw [Nat.succ_mul] at hend
    have hlength := length_nthPage rows size n
    rw [hanswers]
    exact .inr ⟨_, rfl, .inr (.inr (by omega))⟩
  have hhanded : handed ((List.range (n + 1)).map (c.driver.answer statements state))
      = ((List.range (n + 1)).map (nthPage rows size)).filter (!·.isEmpty) := by
    rw [List.map_congr_left fun k _ => hanswers k]
    simp [handed, List.filterMap_map, Function.comp_def, Except.toOption]
  obtain ⟨fuel, hfuel⟩ := Nat.exists_eq_add_of_le' (add_one_le_lastPage hpos (hlast.trans hrows))
  have hfuel : lastPage = fuel + 1 + n := by omega
  obtain ⟨run', -, hwalk⟩ := (c.walkFrom_ends hpages hgoes fuel).2 hends
  rw [hhanded, hanswers, ← hfuel] at hwalk
  refine ⟨((List.range (n + 1)).map (nthPage rows size)).filter (!·.isEmpty), run', ?_, ?_, ?_⟩
  . have hchunk : (c.chunk b size accept).run { driver := state }
        = (fun r => (r.1.complete.map (·, r.1.pages), r.2))
          (c.walk b size accept { driver := state }) := rfl
    rw [hchunk, walk, if_neg (Nat.ne_of_gt hpos), hwalk]
    simp [outcome, Except.mapError, Except.map, accept]
  . rw [List.flatten_filter_not_isEmpty, flatten_nthPages]
    exact List.take_of_length_le hend.le
  . intro page hpage
    obtain ⟨hmem, hne⟩ := List.mem_filter.mp hpage
    obtain ⟨k, -, rfl⟩ := List.mem_map.mp hmem
    refine ⟨by simpa using hne, ?_⟩
    rw [length_nthPage]
    exact Nat.min_le_left _ _

/--
The first row is that of what is read as a whole, unless the builder asks for no rows at all and
there are some where it starts. The pages are those of the whole list, so they make up what is read
if and only if the builder leaves out none of it.
-/
theorem reads_own_window_iff (hb : b.statement = .ok s) (hrows : rows.length ≤ Builder.maxRows)
    (hholds : c.driver.Holds b rows) (hpos : 0 < size) (state : σ)
    : ∃ read one pages,
        ((c.get b).run { driver := state }).1 = .ok read ∧
        ((c.first b).run { driver := state }).1 = .ok one ∧
        ((c.chunk b size fun _ _ => true).run { driver := state }).1 = .ok (true, pages) ∧
        (one = read.head? ↔
          ¬(b.query.ownLimit = some 0 ∧ b.query.ownOffset.getD 0 < rows.length)) ∧
        (pages.flatten = read ↔
          (b.query.ownOffset.getD 0 = 0 ∨ rows = []) ∧ ∀ n ∈ b.query.ownLimit, rows.length ≤ n) ∧
        pages.flatten = rows ∧ ∀ page ∈ pages, page ≠ [] ∧ page.length ≤ size := by
  obtain ⟨_, hread⟩ := c.run_get_of_holds hb hholds { driver := state }
  obtain ⟨_, hone⟩ := c.run_first_of_holds hb hholds { driver := state }
  obtain ⟨pages, _, hchunk, hflatten, hpages⟩ := c.run_chunk_of_holds hb hrows hholds hpos state
  refine ⟨_, _, pages, congrArg Prod.fst hread, congrArg Prod.fst hone, congrArg Prod.fst hchunk,
    ?_, ?_, hflatten, hpages⟩
  . rw [head?_pageOf]
    by_cases hzero : b.query.ownLimit = some 0
    . simp [hzero]
    . simp [hzero]
  . rw [hflatten, ← pageOf_eq_self_iff]
    exact eq_comm

end Connection

/-! ### A driver with one table -/

/-- The number behind a word, if the text goes on with the word, and what follows. -/
def takeClause (word : String) (cs : List Char) : Option Nat × List Char :=
  match Text.dropWord? word.toList cs with
  | some rest =>
    (some (Number.valueOfDigits 0 (rest.takeWhile Char.isDigit)), rest.dropWhile Char.isDigit)
  | none => (none, cs)

/-- Has the rows of one query, and takes what stands behind its text for their paging. -/
def Driver.ofRows (query : String) (rows : List Row) : Driver Unit where
  select s _ :=
    match Text.dropWord? query.toList s.sql.toList with
    | some paging =>
      let (limit, rest) := takeClause " LIMIT " paging
      let (offset, _) := takeClause " OFFSET " rest
      (⟨.ok (pageOf limit offset rows), 1⟩, ())
    | none => (⟨.error (.driver "no such query"), 1⟩, ())
  execute _ _ := (⟨.ok true, 1⟩, ())
  affect _ _ := (⟨.ok 0, 1⟩, ())
  lastKey _ := (⟨.ok 0, 1⟩, ())

def clauseText (word : String) : Option Nat → List Char
  | some n => word.toList ++ (toString n).toList
  | none => []

theorem takeClause_clauseText {word : String} {rest : List Char} (n? : Option Nat)
    (hword : Text.dropWord? word.toList rest = none) (hrest : ∀ c ∈ rest.head?, c.isDigit = false)
    : takeClause word (clauseText word n? ++ rest) = (n?, rest) := by
  cases n? with
  | none => rw [takeClause, clauseText, List.nil_append, hword]
  | some n =>
    have hchars : (toString n).toList = Nat.toDigits 10 n := by
      rw [Nat.toString_eq_ofList_toDigits, String.toList_ofList]
    have hdigits : ∀ c ∈ Nat.toDigits 10 n, c.isDigit := fun c hc =>
      Nat.isDigit_of_mem_toDigits (by decide) (by decide) hc
    have hvalue : Number.valueOfDigits 0 (Nat.toDigits 10 n) = n := Nat.ofDigitChars_ten_toDigits
    obtain ⟨htake, hdrop⟩ := takeWhile_append_of_head hdigits hrest
    rw [takeClause, clauseText, List.append_assoc, dropWord?_eq_some.mpr rfl]
    dsimp only
    rw [hchars, htake, hdrop, hvalue]

/-- A table of which nothing but a page is asked for. -/
def plainTable : Builder :=
  .ofTable ⟨.postgres, ""⟩ (.name "t")

theorem statement_plainTable (limit offset : Option Nat)
    : ∃ s, (plainTable.paged limit offset).statement = .ok s ∧
        s.sql.toList = "SELECT * FROM \"t\"".toList ++
          (clauseText " LIMIT " limit ++ (clauseText " OFFSET " offset ++ [])) := by
  have hempty : Sql.empty.text = "" := rfl
  have htable : Grammar.wrapTable ⟨.postgres, ""⟩ "t" = "\"t\"" := by decide
  have hfilter (sql : Sql) (rest : List Sql) : (sql :: rest).filter (!·.isEmpty)
      = if sql.text = "" then rest.filter (!·.isEmpty) else sql :: rest.filter (!·.isEmpty) := by
    by_cases h : sql.text = "" <;> simp [Sql.isEmpty, h]
  refine ⟨_, rfl, ?_⟩
  cases limit <;> cases offset <;>
    simp [Select.assemble, Select.renderBody, Select.renderWhole, plainTable, Builder.ofTable,
      Select.empty, Select.renderSingle, Sql.words, Builder.paged, Select.renderHead,
      Select.renderSource, Select.renderLock, headed, renderLimit, renderOffset, Select.paged,
      selectionList, Select.renderGroups, renderOrders, Source.render, Grammar.table, clauseText,
      hempty, htable, hfilter, Sql.join]

theorem holds_ofRows (rows : List Row) (limit offset : Option Nat)
    : (Driver.ofRows "SELECT * FROM \"t\"" rows).Holds (plainTable.paged limit offset) rows := by
  intro limit offset s hs state
  obtain ⟨s', hs', htext⟩ := statement_plainTable limit offset
  cases Except.ok.inj (hs'.symm.trans hs)
  have hlimit : takeClause " LIMIT " (clauseText " LIMIT " limit ++
      (clauseText " OFFSET " offset ++ [])) = (limit, clauseText " OFFSET " offset ++ []) := by
    apply takeClause_clauseText
    . cases offset <;> simp [clauseText, Text.dropWord?]
    . cases offset <;> simp [clauseText]
  have hoffset : takeClause " OFFSET " (clauseText " OFFSET " offset ++ []) = (offset, []) :=
    takeClause_clauseText offset rfl (by simp)
  unfold Driver.ofRows
  dsimp only
  rw [htext, dropWord?_eq_some.mpr rfl]
  dsimp only
  rw [hlimit]
  dsimp only
  rw [hoffset]

namespace Connection

def fourRows : List Row :=
  [⟨[("id", .int 1)]⟩, ⟨[("id", .int 2)]⟩, ⟨[("id", .int 3)]⟩, ⟨[("id", .int 4)]⟩]

def tabled : Connection Unit where
  config := { dialect := .postgres }
  driver := .ofRows "SELECT * FROM \"t\"" fourRows

/-- A builder that asks for two rows and skips one reads its own first row, and pages of them all. -/
theorem fourRows_reads
    : ∃ s, ((plainTable.offset 1).limit 2).statement = .ok s ∧
        fourRows.length ≤ Builder.maxRows ∧
        tabled.driver.Holds ((plainTable.offset 1).limit 2) fourRows ∧ 0 < 3 ∧
        ∃ read one pages,
          ((tabled.get ((plainTable.offset 1).limit 2)).run { driver := () }).1 = .ok read ∧
          ((tabled.first ((plainTable.offset 1).limit 2)).run { driver := () }).1 = .ok one ∧
          ((tabled.chunk ((plainTable.offset 1).limit 2) 3 fun _ _ => true).run
            { driver := () }).1 = .ok (true, pages) ∧
          one = read.head? ∧ pages.flatten = fourRows ∧ pages.flatten ≠ read := by
  obtain ⟨s, hs⟩ : ∃ s, ((plainTable.offset 1).limit 2).statement = .ok s := ⟨_, rfl⟩
  have hrows : fourRows.length ≤ Builder.maxRows := by decide
  have hholds : tabled.driver.Holds ((plainTable.offset 1).limit 2) fourRows :=
    holds_ofRows fourRows (some 2) (some 1)
  obtain ⟨read, one, pages, hread, hone, hchunk, hfirst, hpages, hflatten, -⟩ :=
    tabled.reads_own_window_iff hs hrows hholds (by decide : 0 < 3) ()
  refine ⟨s, hs, hrows, hholds, by decide, read, one, pages, hread, hone, hchunk, ?_, hflatten, ?_⟩
  . exact hfirst.mpr (by decide)
  . exact hpages.not.mpr (by decide)

/-- A builder that asks for no row reads none, and has a first one and pages all the same. -/
theorem noRows_left_window
    : tabled.driver.Holds (plainTable.limit 0) fourRows ∧
        ((tabled.get (plainTable.limit 0)).run { driver := () }).1 = .ok [] ∧
        ((tabled.first (plainTable.limit 0)).run { driver := () }).1 = .ok fourRows.head? ∧
        fourRows.head? ≠ none ∧
        ∃ pages, ((tabled.chunk (plainTable.limit 0) 3 fun _ _ => true).run { driver := () }).1
            = .ok (true, pages) ∧ pages.flatten = fourRows := by
  obtain ⟨s, hs⟩ : ∃ s, (plainTable.limit 0).statement = .ok s := ⟨_, rfl⟩
  have hholds : tabled.driver.Holds (plainTable.limit 0) fourRows :=
    holds_ofRows fourRows (some 0) none
  obtain ⟨_, hread⟩ := tabled.run_get_of_holds hs hholds { driver := () }
  obtain ⟨_, hone⟩ := tabled.run_first_of_holds hs hholds { driver := () }
  obtain ⟨pages, _, hchunk, hflatten, -⟩ :=
    tabled.run_chunk_of_holds hs (by decide) hholds (by decide : 0 < 3) ()
  exact ⟨hholds, congrArg Prod.fst hread, congrArg Prod.fst hone, Option.some_ne_none _, pages,
    congrArg Prod.fst hchunk, hflatten⟩

end Connection

end SqlForge
