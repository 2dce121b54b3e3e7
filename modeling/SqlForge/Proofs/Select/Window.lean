import SqlForge.Builder.Clause
import SqlForge.Proofs.Fragment.Part
import SqlForge.Proofs.Select.Render

/-!
The statement of a builder for some of its rows: those after a number of others, and at most so
many. For different windows of one size it is the same statement but for a single number.
-/

namespace SqlForge

/-- The texts are the same but for their cores. -/
def Framed (core text : Nat → String) : Prop :=
  ∃ head tail, ∀ n, text n = head ++ core n ++ tail

theorem Framed.trans {core mid text : Nat → String} (hmid : Framed core mid)
    (htext : Framed mid text) : Framed core text := by
  obtain ⟨head, tail, hmid⟩ := hmid
  obtain ⟨head', tail', htext⟩ := htext
  refine ⟨head' ++ head, tail ++ tail', ?_⟩
  intro n
  simp only [htext, hmid, String.append_assoc]

theorem Framed.ne_empty {core text : Nat → String} (h : Framed core text)
    (hcore : ∀ n, core n ≠ "") (n : Nat) : text n ≠ "" := by
  obtain ⟨head, tail, h⟩ := h
  simp [h, hcore n]

theorem exists_intercalate_around (separator : String) (before after : List String)
    : ∃ head tail, ∀ parts, parts ≠ [] →
        separator.intercalate (before ++ parts ++ after)
          = head ++ separator.intercalate parts ++ tail := by
  have hback : ∃ tail, ∀ parts, parts ≠ [] →
      separator.intercalate (parts ++ after) = separator.intercalate parts ++ tail := by
    cases after with
    | nil => exact ⟨"", by simp⟩
    | cons next after =>
      refine ⟨separator ++ separator.intercalate (next :: after), ?_⟩
      intro parts hparts
      rw [String.intercalate_append_of_ne_nil hparts (by simp), String.append_assoc]
  obtain ⟨tail, hback⟩ := hback
  cases before with
  | nil =>
    refine ⟨"", tail, ?_⟩
    intro parts hparts
    rw [List.nil_append, hback parts hparts, String.empty_append]
  | cons first before =>
    refine ⟨separator.intercalate (first :: before) ++ separator, tail, ?_⟩
    intro parts hparts
    rw [List.append_assoc, String.intercalate_append_of_ne_nil (by simp) (by simp [hparts]),
      hback parts hparts, ← String.append_assoc]

/-- What is written around the words in the middle does not depend on them. -/
theorem Sql.framed_words (before after : List Sql) (parts : Nat → List Sql)
    (hparts : ∀ n, parts n ≠ []) (hshown : ∀ n, ∀ part ∈ parts n, part.text ≠ "")
    : Framed (fun n => (join " " (parts n)).text)
        fun n => (words (before ++ parts n ++ after)).text := by
  have hkept (n : Nat) : (parts n).filter (!·.isEmpty) = parts n := by
    apply List.filter_eq_self.mpr
    intro part hpart
    simpa [isEmpty] using hshown n part hpart
  obtain ⟨head, tail, haround⟩ := exists_intercalate_around " "
    ((before.filter (!·.isEmpty)).map text) ((after.filter (!·.isEmpty)).map text)
  refine ⟨head, tail, ?_⟩
  intro n
  dsimp only
  rw [words, List.filter_append, List.filter_append, hkept, text_join, text_join, List.map_append,
    List.map_append]
  apply haround
  simpa using hparts n

namespace Select

/-- What is written of a window. -/
def windowText (skipped count : Nat) : String :=
  "LIMIT " ++ toString count ++ " " ++ ("OFFSET " ++ toString skipped)

/-- At most `count` rows after the first `skipped`. Those of a compound statement are counted. -/
def window (q : Select) (skipped count : Nat) : Select :=
  if q.unions.isEmpty then { q with limit := some count, offset := some skipped }
  else { q with unionLimit := some count, unionOffset := some skipped }

/-- A window changes limits and offsets alone. -/
theorem window_keeps (q : Select) (skipped count : Nat)
    : (q.window skipped count).joins = q.joins ∧ (q.window skipped count).wheres = q.wheres ∧
        (q.window skipped count).havings = q.havings ∧ (q.window skipped count).unions = q.unions ∧
        (q.window skipped count).unionOrders = q.unionOrders ∧
        (q.window skipped count).aggregate = q.aggregate ∧
        (q.window skipped count).distinct = q.distinct ∧
        (q.window skipped count).lock = q.lock := by
  unfold window
  split <;> simp

theorem windowText_ne_empty (skipped count : Nat) : windowText skipped count ≠ "" := by
  simp [windowText]

theorem framed_paging (g : Grammar) (before : List Sql) (count : Nat)
    : Framed (windowText · count) fun skipped =>
        (Sql.words (before ++ [renderLimit (some count),
          renderOffset g (some count).isSome (some skipped)])).text := by
  let paging (skipped : Nat) : List Sql :=
    [renderLimit (some count), renderOffset g (some count).isSome (some skipped)]
  have hwords := Sql.framed_words before [] paging (by simp [paging])
    (by simp [paging, renderLimit, renderOffset])
  have hpaging (skipped : Nat)
      : (Sql.join " " (paging skipped)).text = windowText skipped count := by
    simp [paging, Sql.join, renderLimit, renderOffset, windowText]
  simpa only [hpaging, List.append_nil] using hwords

theorem framed_renderWhole (g : Grammar) (q : Select) (count : Nat) (a : Option Aggregate)
    (p : Parts)
    : Framed (windowText · count) fun skipped =>
        ((q.window skipped count).renderWhole g a p).text := by
  unfold window
  cases hunions : q.unions.isEmpty with
  | true =>
    simp only [renderWhole, hunions, if_true]
    exact framed_paging g [q.renderHead g a, q.renderSource g, p.joins,
      headed "WHERE " q.wheres p.wheres, q.renderGroups g, headed "HAVING " q.havings p.havings,
      renderOrders g q.orders] count
  | false =>
    have hpaging := framed_paging g (p.members ++ [renderOrders g q.unionOrders]) count
    simp only [renderWhole, hunions, Bool.false_eq_true, if_false]
    apply hpaging.trans
    refine ⟨(encloseMember g.dialect (q.renderSingle g a p)).text ++ " ", "", ?_⟩
    intro skipped
    dsimp only
    rw [Sql.text_append, Sql.text_append, Sql.text_coe, String.append_empty, List.append_assoc]
    rfl

theorem framed_renderBody (g : Grammar) (q : Select) (count : Nat) (a : Option Aggregate)
    (p : Parts)
    : Framed (windowText · count) fun skipped =>
        ((q.window skipped count).renderBody g a p).text := by
  have hwhole := framed_renderWhole g q count a p
  have hwords := Sql.framed_words [] [q.renderLock g]
    (fun skipped => [(q.window skipped count).renderWhole g a p]) (by simp)
    (by simpa using hwhole.ne_empty (windowText_ne_empty · count))
  simp only [renderBody, renderLock, window_keeps]
  exact hwhole.trans hwords

theorem framed_assemble (g : Grammar) (q : Select) (count : Nat) (p : Parts)
    : Framed (windowText · count) fun skipped => ((q.window skipped count).assemble g p).text := by
  simp only [assemble, window_keeps]
  cases q.aggregate with
  | none => exact framed_renderBody g q count none p
  | some a =>
    cases q.unions.isEmpty with
    | true => exact framed_renderBody g q count (some a) p
    | false =>
      apply (framed_renderBody g q count none p).trans
      refine ⟨(a.render g q.distinct).text ++ " FROM (", ") AS " ++ g.wrapTable "temp_table", ?_⟩
      intro skipped
      simp [String.append_assoc]

/-- What can be written as a whole can be written for each window. -/
theorem render_window {g : Grammar} {q : Select} {sql : Sql} (h : q.render g = .ok sql)
    (count : Nat)
    : ∃ window : Nat → Sql, (∀ skipped, (q.window skipped count).render g = .ok (window skipped)) ∧
        Framed (windowText · count) fun skipped => (window skipped).text := by
  obtain ⟨p, hjoins, hwheres, hhavings, hmembers, -⟩ := render_eq_ok.mp h
  refine ⟨fun skipped => (q.window skipped count).assemble g p, ?_, framed_assemble g q count p⟩
  intro skipped
  rw [render_eq_ok]
  simp only [window_keeps]
  exact ⟨p, hjoins, hwheres, hhavings, hmembers, rfl⟩

end Select

namespace Builder

variable {b : Builder}

def window (b : Builder) (skipped count : Nat) : Builder :=
  { b with query := b.query.window skipped count }

theorem values_window (b : Builder) (skipped count : Nat)
    : (b.window skipped count).values = b.values := by
  simp only [values, window, Select.carriedValues, Select.window_keeps]

theorem limit_offset (b : Builder) (skipped count : Nat)
    : (b.offset skipped).limit count = b.window skipped count := by
  have hcount : ¬(count : Int) < 0 := by omega
  unfold offset limit window Select.window
  cases hunions : b.query.unions.isEmpty with
  | true => simp [isCompound, hunions, hcount]
  | false => simp [isCompound, hunions, hcount]

/-- A factor that is cut off where the product is cut off anyway may be whole. -/
theorem min_min_mul {m w : Nat} (h : m ≤ w) (x y : Nat) : min (min x w * y) m = min (x * y) m := by
  rcases Nat.le_total x w with hx | hx
  . rw [Nat.min_eq_left hx]
  . rw [Nat.min_eq_right hx]
    cases y with
    | zero => rfl
    | succ y =>
      have hw : m ≤ w * (y + 1) := h.trans (Nat.le_mul_of_pos_right w y.succ_pos)
      rw [Nat.min_eq_right hw, Nat.min_eq_right (hw.trans (Nat.mul_le_mul_right _ hx))]

/-- Stopping at the largest word on the way to the largest number of rows changes nothing. -/
theorem toInt_skipped (page size : Nat)
    : (Word.toSigned (Word.satMul (Word.satSub (.ofNatClamp page) 1) (.ofNatClamp size))).toInt
      = (min ((page - 1) * size) maxRows : Nat) := by
  have hmax : maxRows ≤ UInt64.size - 1 := by decide
  have hpred : maxRows ≤ UInt64.size - 1 - 1 := by decide
  have hone : (1 : UInt64).toNat = 1 := rfl
  rw [Word.toInt_toSigned, Word.toNat_satMul, Word.toNat_satSub, Word.toNat_ofNatClamp,
    Word.toNat_ofNatClamp, hone, ← maxRows, Nat.min_assoc, Nat.min_eq_right hmax,
    ← Nat.sub_min_sub_right, min_min_mul hpred, Nat.mul_comm, min_min_mul hmax, Nat.mul_comm]

/-- What a page asks for, as far as limits and offsets can name rows. -/
theorem forPage_eq_window_clamped (b : Builder) (page size : Nat)
    : b.forPage page size = b.window (min ((page - 1) * size) maxRows) (min size maxRows) := by
  have hmax : maxRows ≤ UInt64.size - 1 := by decide
  have hsize : (Word.toSigned (.ofNatClamp size)).toInt = (min size maxRows : Nat) := by
    rw [Word.toInt_toSigned, Word.toNat_ofNatClamp, Nat.min_assoc, ← maxRows,
      Nat.min_eq_right hmax]
  unfold forPage
  dsimp only
  rw [toInt_skipped, hsize]
  exact limit_offset b _ _

/-- A page has as many rows as can be asked for at once. -/
theorem forPage_eq_window_min {page size : Nat} (hpage : page * size ≤ maxRows)
    : b.forPage (page + 1) size = b.window (page * size) (min size maxRows) := by
  rw [forPage_eq_window_clamped, Nat.add_sub_cancel, Nat.min_eq_left hpage]

theorem forPage_eq_window {page size : Nat} (hpage : page * size ≤ maxRows)
    (hsize : size ≤ maxRows) : b.forPage (page + 1) size = b.window (page * size) size := by
  rw [forPage_eq_window_min hpage, Nat.min_eq_left hsize]

theorem exists_windows {s : Statement} (h : b.statement = .ok s) (count : Nat)
    : ∃ window : Nat → Statement,
        (∀ skipped, (b.window skipped count).statement = .ok (window skipped) ∧
          (window skipped).bindings = b.values) ∧
        Framed (Select.windowText · count) fun skipped => (window skipped).sql := by
  obtain ⟨sql, hsql, -⟩ := bind_eq_ok.mp h
  obtain ⟨window, hwindow, hframed⟩ := Select.render_window hsql count
  refine ⟨fun skipped => ⟨(window skipped).text, b.values⟩, ?_, hframed⟩
  intro skipped
  have hsql : (b.window skipped count).sql = .ok (window skipped) := hwindow skipped
  rw [statement, hsql, values_window]
  exact ⟨rfl, rfl⟩

end Builder

end SqlForge
