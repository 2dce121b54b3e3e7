import SqlForge.Proofs.Schema.Literal

/-!
Statements put together from code and literals. In front of each literal and behind it is code
without open quotes, so it is read as its text if every text before it is.
-/

namespace SqlForge

/-- A part of a statement. -/
inductive Chunk where
  | code (s : String)
  /-- A literal and the code that leads up to it. -/
  | literal (lead : String) (l : Literal)

namespace Chunk

def text : Chunk → String
  | .code s => s
  | .literal lead l => lead ++ l.written

def literal? : Chunk → Option Literal
  | .code _ => none
  | .literal _ l => some l

def joined (chunks : List Chunk) : String :=
  String.join (chunks.map text)

end Chunk

/-- Code behind which a literal can stand, and which can stand behind a literal. -/
structure Lead (d : Dialect) (s : String) : Prop where
  starts : d.Starts s.toList
  passes : Passes d s
  ne_empty : s ≠ ""

def Chunk.Fits (d : Dialect) : Chunk → Prop
  | .code s => d.Starts s.toList ∧ Closes d s
  | .literal lead _ => Lead d lead

/-- A statement up to its last literal or some code behind it, and the rest. -/
structure Sentence where
  chunks : List Chunk := []
  rest : String := ""

namespace Sentence

def text (sentence : Sentence) : String :=
  Chunk.joined sentence.chunks ++ sentence.rest

def literals (sentence : Sentence) : List Literal :=
  sentence.chunks.filterMap Chunk.literal?

structure Fits (d : Dialect) (sentence : Sentence) : Prop where
  chunks : ∀ chunk ∈ sentence.chunks, chunk.Fits d
  rest : sentence.chunks ≠ [] → d.Starts sentence.rest.toList

/-- Every literal is read where it stands and means its text. -/
def Reads (d : Dialect) (sentence : Sentence) : Prop :=
  ∀ before lead l after, sentence.chunks = before ++ .literal lead l :: after →
    ReadAt d (Chunk.joined before ++ lead) l.written l.text (Chunk.joined after ++ sentence.rest)

end Sentence

section

variable {d : Dialect} {s t : String} {chunks : List Chunk} {rest : List Char}

theorem Dialect.Starts.append_of_ne (h : d.Starts s.toList) (hne : s ≠ "") (t : String)
    : d.Starts (s ++ t).toList := by
  rw [String.toList_append]
  cases htext : s.toList with
  | nil => exact absurd (String.toList_eq_nil_iff.mp htext) hne
  | cons c cs =>
    rw [htext] at h
    exact h

theorem lead_of_unquoted (h : Unquoted s) (hne : s ≠ "") : Lead d s where
  starts := h.starts
  passes := h.passes
  ne_empty := hne

theorem fits_unquoted (h : Unquoted s) : (Chunk.code s).Fits d :=
  ⟨h.starts, h.passes.closes⟩

theorem Lead.append (h : Lead d s) (ht : Passes d t) : Lead d (s ++ t) where
  starts := h.starts.append_of_ne h.ne_empty t
  passes := h.passes.append ht
  ne_empty := fun hempty => h.ne_empty (String.append_eq_empty_iff.mp hempty).1

theorem Lead.code (h : Lead d s) (ht : Closes d t) : (Chunk.code (s ++ t)).Fits d :=
  ⟨h.starts.append_of_ne h.ne_empty t, h.passes.append_closes ht⟩

theorem Lead.closed (h : Lead d s) (ht : Closes d t) {u : String} (hu : Unquoted u) (hne : u ≠ "")
    : Lead d (s ++ t ++ u) where
  starts := by
    rw [String.append_assoc]
    exact h.starts.append_of_ne h.ne_empty (t ++ u)
  passes := (h.passes.append_closes ht).append_unquoted hu hne
  ne_empty := fun hempty => hne (String.append_eq_empty_iff.mp hempty).2

namespace Chunk

theorem joined_cons (chunk : Chunk) (chunks : List Chunk)
    : joined (chunk :: chunks) = chunk.text ++ joined chunks := by
  rw [joined, List.map_cons, String.join_cons]
  rfl

theorem joined_append (chunks more : List Chunk)
    : joined (chunks ++ more) = joined chunks ++ joined more := by
  rw [joined, List.map_append, String.join_append]
  rfl

theorem Fits.starts {chunk : Chunk} (h : chunk.Fits d) : d.Starts chunk.text.toList := by
  cases chunk with
  | code s => exact h.1
  | literal lead l =>
    have hlead : Lead d lead := h
    exact hlead.starts.append_of_ne hlead.ne_empty l.written

theorem starts_joined (h : ∀ chunk ∈ chunks, chunk.Fits d) (hrest : d.Starts rest)
    : d.Starts ((joined chunks).toList ++ rest) := by
  induction chunks with
  | nil => simpa [joined] using hrest
  | cons chunk chunks ih =>
    obtain ⟨hfirst, h⟩ := List.forall_mem_cons.mp h
    rw [joined_cons, String.toList_append, List.append_assoc]
    exact hfirst.starts.append (ih h)

theorem head?_of_starts {cs : List Char} (h : d.Starts cs) : cs.head? ≠ some '\x27' :=
  fun hhead => (h _ hhead).1 rfl

theorem Fits.scans {chunk : Chunk} (h : chunk.Fits d) (hsound : ∀ l ∈ chunk.literal?, l.Sound d)
    (hrest : d.Starts rest)
    : ∃ atoms, Scans d (chunk.text.toList ++ rest) atoms rest := by
  cases chunk with
  | code s => exact h.2.scans hrest
  | literal lead l =>
    obtain ⟨atoms, hatoms⟩ := h.passes (l.written.toList ++ rest)
    have hread := (Literal.atom?_written_iff (head?_of_starts hrest)).mpr (hsound l rfl)
    have hscans := hatoms.trans (.cons hread (.nil rest))
    rw [← List.append_assoc, ← String.toList_append] at hscans
    exact ⟨_, hscans⟩

/-- Chunks are read one after the other up to what follows them. -/
theorem scans_joined (h : ∀ chunk ∈ chunks, chunk.Fits d)
    (hsound : ∀ l ∈ chunks.filterMap literal?, l.Sound d) (hrest : d.Starts rest)
    : ∃ atoms, Scans d ((joined chunks).toList ++ rest) atoms rest := by
  induction chunks with
  | nil => exact ⟨[], by simpa [joined] using Scans.nil rest⟩
  | cons chunk chunks ih =>
    obtain ⟨hfirst, h⟩ := List.forall_mem_cons.mp h
    have hsoundFirst : ∀ l ∈ chunk.literal?, l.Sound d := fun l hl =>
      hsound l (List.mem_filterMap.mpr ⟨chunk, List.mem_cons_self, hl⟩)
    have hsoundRest : ∀ l ∈ chunks.filterMap literal?, l.Sound d := by
      intro l hl
      obtain ⟨other, hother, hl⟩ := List.mem_filterMap.mp hl
      exact hsound l (List.mem_filterMap.mpr ⟨other, List.mem_cons_of_mem _ hother, hl⟩)
    obtain ⟨atoms, hatoms⟩ := hfirst.scans hsoundFirst (starts_joined h hrest)
    obtain ⟨more, hmore⟩ := ih h hsoundRest
    rw [joined_cons, String.toList_append, List.append_assoc]
    exact ⟨atoms ++ more, hatoms.trans hmore⟩

end Chunk

theorem Sentence.reads_iff {sentence : Sentence} (h : sentence.Fits d)
    : sentence.Reads d ↔ ∀ l ∈ sentence.literals, l.Sound d := by
  have hafter {before : List Chunk} {chunk : Chunk} {after : List Chunk}
      (hsplit : sentence.chunks = before ++ chunk :: after)
      : d.Starts (Chunk.joined after ++ sentence.rest).toList := by
    rw [String.toList_append]
    apply Chunk.starts_joined
    . intro other hother
      apply h.chunks
      rw [hsplit]
      exact List.mem_append_right _ (List.mem_cons_of_mem _ hother)
    . apply h.rest
      rw [hsplit]
      simp
  constructor
  . intro hreads l hl
    obtain ⟨chunk, hchunk, hl⟩ := List.mem_filterMap.mp hl
    cases chunk with
    | code s => cases hl
    | literal lead l' =>
      cases hl
      obtain ⟨before, after, hsplit⟩ := List.append_of_mem hchunk
      obtain ⟨-, hread⟩ := hreads before lead l after hsplit
      rw [String.toList_append] at hread
      exact (Literal.atom?_written_iff (Chunk.head?_of_starts (hafter hsplit))).mp hread
  . intro hsound before lead l after hsplit
    have hlead : Lead d lead := by
      apply h.chunks (.literal lead l)
      rw [hsplit]
      exact List.mem_append_right _ List.mem_cons_self
    have hbefore : ∀ chunk ∈ before, chunk.Fits d := by
      intro chunk hchunk
      apply h.chunks
      rw [hsplit]
      exact List.mem_append_left _ hchunk
    have hliterals : sentence.literals =
        before.filterMap Chunk.literal? ++ l :: after.filterMap Chunk.literal? := by
      rw [Sentence.literals, hsplit, List.filterMap_append]
      rfl
    rw [hliterals, List.forall_mem_append, List.forall_mem_cons] at hsound
    obtain ⟨hsoundBefore, hsoundHere, -⟩ := hsound
    constructor
    . have hstarts := hlead.starts.append_of_ne hlead.ne_empty
        (l.written ++ (Chunk.joined after ++ sentence.rest))
      obtain ⟨atoms, hatoms⟩ := Chunk.scans_joined hbefore hsoundBefore hstarts
      obtain ⟨more, hmore⟩ :=
        hlead.passes (l.written ++ (Chunk.joined after ++ sentence.rest)).toList
      rw [String.toList_append (s := lead)] at hatoms
      have hall := hatoms.trans hmore
      refine ⟨atoms ++ more, ?_⟩
      simpa only [String.toList_append, List.append_assoc] using hall
    . rw [String.toList_append]
      have hhead := Chunk.head?_of_starts (hafter hsplit)
      exact (Literal.atom?_written_iff hhead).mpr hsoundHere

end

end SqlForge
