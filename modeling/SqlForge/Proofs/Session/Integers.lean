import SqlForge.Proofs.Row.Integer
import SqlForge.Proofs.Session.Pages
import SqlForge.Session.Write

/-!
Whole numbers that are read out of the answers of a driver: a column of a row, a count, and the key
that an INSERT generated. None of them is another number than the driver gave, but for a float
beyond the words of 64 bits.
-/

namespace SqlForge

open SqlForge.Number

theorem mapError_eq_ok {ε ε' α : Type} {x : Except ε α} {f : ε → ε'} {a : α}
    : x.mapError f = .ok a ↔ x = .ok a := by
  cases x <;> simp [Except.mapError]

/-- The number is what the value denotes, or the end of the words that a float is beyond. -/
def Value.Reported (v : Value) (n : Int) : Prop :=
  v.Denotes n ∨ v.Clamps n

theorem Value.reported_of_readInteger {v : Value} {k : IntegerKind} {n : Int}
    (h : v.readInteger k = .ok n) : v.Reported n :=
  (Value.readInteger_eq_ok_iff.mp h).1.imp_left And.left

theorem Value.reported_of_readInt64 {v : Value} {w : Int64} (h : v.readInt64 = .ok w)
    : v.Reported w.toInt :=
  readInt64_eq_ok_iff.mp h

theorem Row.exists_reported {r : Row} {column : String} {k : IntegerKind} {n : Int}
    (h : r.read column (Value.readInteger k) = .ok n)
    : ∃ v, r.get? column = some v ∧ v.Reported n := by
  unfold Row.read at h
  split at h
  . next v hv => exact ⟨v, hv, Value.reported_of_readInteger (mapError_eq_ok.mp h)⟩
  . contradiction

theorem exists_reported_of_generatedKey {rows : List Row} {column : String} {w : Int64}
    (h : generatedKey rows column = .ok w)
    : ∃ r v, rows.head? = some r ∧ (r.get? column).or (r.at? 0) = some v ∧
        v.Reported w.toInt := by
  cases rows with
  | nil => contradiction
  | cons r rows =>
    unfold generatedKey at h
    dsimp only at h
    split at h
    . next v hv => exact ⟨r, v, rfl, hv, Value.reported_of_readInt64 (mapError_eq_ok.mp h)⟩
    . contradiction

section

variable {σ α β : Type} {x : Action σ α} {f : α → Action σ β} {run : Run σ} {b : β}

theorem Action.bind_run_eq_ok (h : ((x >>= f).run run).1 = .ok b)
    : ∃ a run', x.run run = (.ok a, run') ∧ ((f a).run run').1 = .ok b := by
  match hx : x.run run with
  | (.ok a, run') =>
    rw [run_bind_of_ok hx] at h
    exact ⟨a, run', rfl, h⟩
  | (.error e, run') =>
    rw [run_bind_of_error hx] at h
    contradiction

end

namespace Connection

variable {σ : Type} (c : Connection σ) {b : Builder} {run : Run σ} {w : Int64}

theorem exists_answer_of_select {p : Passage} {s : Statement} {rows : List Row}
    (h : ((c.select p s).run run).1 = .ok rows)
    : (c.driver.select s run.driver).1.result = .ok rows := by
  match hanswer : c.driver.select s run.driver with
  | (reply, driver) =>
    rw [select, c.run_send p s (.select s) hanswer] at h
    exact mapError_eq_ok.mp h

theorem exists_answer_of_get {rows : List Row} (h : ((c.get b).run run).1 = .ok rows)
    : ∃ s, b.statement = .ok s ∧ (c.driver.select s run.driver).1.result = .ok rows := by
  cases hs : b.statement with
  | error e =>
    unfold get at h
    rw [hs] at h
    contradiction
  | ok s =>
    obtain ⟨run', hget, -⟩ := c.run_get hs run
    rw [hget] at h
    exact ⟨s, rfl, mapError_eq_ok.mp h⟩

theorem driver_of_execute {p : Passage} {s : Statement} {answer : Except Failure Bool}
    {run' : Run σ} (h : (c.execute p s).run run = (answer, run'))
    : run'.driver = (c.driver.execute s run.driver).2 := by
  obtain ⟨reply, driver, hanswer⟩ :
      ∃ reply driver, c.driver.execute s run.driver = (reply, driver) := ⟨_, _, rfl⟩
  rw [execute, c.run_send p s (.execute s) hanswer] at h
  rw [hanswer]
  exact (congrArg (Run.driver ∘ Prod.snd) h).symm

/-- Where a dialect returns no rows, the key is asked for behind the statement. -/
theorem answer_of_lastKey {p : Passage} {s : Statement}
    (h : ((do
        let _ ← c.execute p s
        c.lastKey : Action σ Int64).run run).1 = .ok w)
    : (c.driver.lastKey (c.driver.execute s run.driver).2).1.result = .ok w := by
  obtain ⟨_, run', hexecute, hlast⟩ := Action.bind_run_eq_ok h
  obtain ⟨reply, driver, hanswer⟩ :
      ∃ reply driver, c.driver.lastKey run'.driver = (reply, driver) := ⟨_, _, rfl⟩
  rw [c.run_lastKey hanswer] at hlast
  rw [← c.driver_of_execute hexecute, hanswer]
  exact hlast

/-- The count is the number in the first row of the answer; there is none in an empty answer. -/
theorem exists_reported_of_count (h : ((c.count b).run run).1 = .ok w)
    : ∃ s rows, (b.aggregate "count" [.name "*"]).statement = .ok s ∧
        (c.driver.select s run.driver).1.result = .ok rows ∧
        match rows.head?.bind (·.get? "aggregate") with
        | some v => v.Reported w.toInt
        | none => w = 0 := by
  obtain ⟨value, run', hvalue, hread⟩ := Action.bind_run_eq_ok h
  obtain ⟨rows, run'', hget, hrows⟩ := Action.bind_run_eq_ok (congrArg Prod.fst hvalue)
  obtain ⟨s, hs, hanswer⟩ := c.exists_answer_of_get (congrArg Prod.fst hget)
  cases hrows
  refine ⟨s, rows, hs, hanswer, ?_⟩
  cases hfound : rows.head?.bind (·.get? "aggregate") with
  | some v =>
    rw [hfound] at hread
    have hread : Row.readValue "aggregate" Value.readInt64 v = .ok w := hread
    exact Value.reported_of_readInt64 (mapError_eq_ok.mp hread)
  | none =>
    rw [hfound] at hread
    cases hread
    rfl

/-- The key is in the first row of the answer where rows are returned, or is asked for. -/
theorem exists_reported_of_insertReturning {r : Record} {sequence : Option String}
    (h : ((c.insertReturning b r sequence).run run).1 = .ok w)
    : ∃ s, b.insertReturning r sequence = .ok s ∧
        if b.grammar.dialect = .postgres then
          ∃ rows row v, (c.driver.select s run.driver).1.result = .ok rows ∧
            rows.head? = some row ∧
            (row.get? (Builder.keyColumn sequence)).or (row.at? 0) = some v ∧
            v.Reported w.toInt
        else (c.driver.lastKey (c.driver.execute s run.driver).2).1.result = .ok w := by
  unfold insertReturning at h
  cases hs : b.insertReturning r sequence with
  | error e =>
    rw [hs] at h
    contradiction
  | ok s =>
    rw [hs] at h
    refine ⟨s, rfl, ?_⟩
    let announced := run.log [.dispatched .insert s.sql (some s.bindings.length)]
    cases hdialect : b.grammar.dialect with
    | postgres =>
      rw [hdialect] at h
      have h : ((do
          let rows ← c.select .select s
          generatedKey rows (Builder.keyColumn sequence) : Action σ Int64).run announced).1
          = .ok w := h
      obtain ⟨rows, run', hselect, hgenerated⟩ := Action.bind_run_eq_ok h
      have hanswer := c.exists_answer_of_select (congrArg Prod.fst hselect)
      obtain ⟨row, v, hrow, hv, hreported⟩ := exists_reported_of_generatedKey hgenerated
      exact ⟨rows, row, v, hanswer, hrow, hv, hreported⟩
    | mysql =>
      rw [hdialect] at h
      have hanswer : (c.driver.lastKey (c.driver.execute s announced.driver).2).1.result = .ok w :=
        c.answer_of_lastKey h
      exact hanswer
    | sqlite =>
      rw [hdialect] at h
      have hanswer : (c.driver.lastKey (c.driver.execute s announced.driver).2).1.result = .ok w :=
        c.answer_of_lastKey h
      exact hanswer

/--
A value is read as the whole number that it denotes, and not at all where that number is not in
the range of the kind, just when the reading does not saturate; and this is so of what a row, a
count and an INSERT report.
-/
theorem whole_numbers_kept_iff
    : (∀ (v : Value) (k : IntegerKind),
        ((∀ n, v.readInteger k = .ok n → v.Denotes n ∧ k.Holds n) ↔ ¬v.Saturates k) ∧
        (¬v.Saturates k →
          ∀ n, v.readInteger k = .ok n ↔ v.Denotes n ∧ IsWord n ∧ k.Holds n) ∧
        (v.Saturates k → k ∈ IntegerKind.all → k.bits = 64)) ∧
      (∀ (v : Value) w, v.readInt64 = .ok w ↔ v.readInteger .int64 = .ok w.toInt) ∧
      (∀ (r : Row) column k n, r.read column (Value.readInteger k) = .ok n →
        ∃ v, r.get? column = some v ∧ v.Reported n) ∧
      (∀ b run w, ((c.count b).run run).1 = .ok w →
        ∃ s rows, (b.aggregate "count" [.name "*"]).statement = .ok s ∧
          (c.driver.select s run.driver).1.result = .ok rows ∧
          match rows.head?.bind (·.get? "aggregate") with
          | some v => v.Reported w.toInt
          | none => w = 0) ∧
      (∀ b r sequence run w, ((c.insertReturning b r sequence).run run).1 = .ok w →
        ∃ s, b.insertReturning r sequence = .ok s ∧
          if b.grammar.dialect = .postgres then
            ∃ rows row v, (c.driver.select s run.driver).1.result = .ok rows ∧
              rows.head? = some row ∧
              (row.get? (Builder.keyColumn sequence)).or (row.at? 0) = some v ∧
              v.Reported w.toInt
          else (c.driver.lastKey (c.driver.execute s run.driver).2).1.result = .ok w) := by
  refine ⟨fun v k => ⟨?_, ?_, ?_⟩, fun v w => ?_, ?_, ?_, ?_⟩
  . rw [← Value.readInteger_denotes_iff]
    refine forall_congr' fun n => imp_congr_right fun hread => ?_
    exact and_iff_left (Value.readInteger_eq_ok_iff.mp hread).2
  . intro hsaturates n
    exact Value.readInteger_of_not_saturates hsaturates
  . intro hsaturates hk
    exact Value.Saturates.bits_eq hk hsaturates
  . exact Value.readInt64_eq_readInteger
  . intro r column k n hread
    exact Row.exists_reported hread
  . intro b run w hcount
    exact c.exists_reported_of_count hcount
  . intro b r sequence run w hinsert
    exact c.exists_reported_of_insertReturning hinsert

end Connection

/-- A float of two to the power of 63 is read as the number below it. -/
theorem Value.beyondWords_read
    : (Value.float ⟨0x43E0000000000000#64⟩).Denotes 9223372036854775808 ∧
      (Value.float ⟨0x43E0000000000000#64⟩).readInteger .int64 = .ok 9223372036854775807 ∧
      ¬(Value.float ⟨0x43E0000000000000#64⟩).Denotes 9223372036854775807 := by
  have hdecode : (⟨0x43E0000000000000#64⟩ : Binary64).toInt? = some 9223372036854775808 := by
    decide
  have hdenotes : (Value.float ⟨0x43E0000000000000#64⟩).Denotes 9223372036854775808 :=
    Binary.toInt?_eq_some_iff.mp hdecode
  refine ⟨hdenotes, by decide, ?_⟩
  intro hbelow
  have heq := hdenotes.unique hbelow
  contradiction

end SqlForge
