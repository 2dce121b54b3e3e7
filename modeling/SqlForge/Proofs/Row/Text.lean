import SqlForge.Proofs.Calendar
import SqlForge.Proofs.Name.Split
import SqlForge.Proofs.Row.Integer
import SqlForge.Proofs.Uuid
import SqlForge.Schema.Definition

/-!
Values that are read as texts, and the texts read as what the values are. Whole numbers and
documents are read back; the quotes around dates, times and identifiers are in the way.
-/

namespace SqlForge

open SqlForge.Number

/-- The kinds of values that have a reader of their own and are shown in a way it could read. -/
inductive NativeKind where
  | int
  | json
  | date
  | dateTime
  | uuid
  deriving DecidableEq, Repr

namespace Value

def nativeKind? : Value → Option NativeKind
  | .int _ => some .int
  | .json _ => some .json
  | .date _ => some .date
  | .dateTime _ => some .dateTime
  | .uuid _ => some .uuid
  | _ => none

/-- Reads a value as a value of the kind. -/
def readNative (k : NativeKind) (v : Value) : Decoded Value :=
  match k with
  | .int => int <$> v.readInt64
  | .json => json <$> v.readJson
  | .date => date <$> v.readDate
  | .dateTime => dateTime <$> v.readDateTime
  | .uuid => uuid <$> v.readUuid

/-! ### Texts as they are -/

theorem blankless_of_isNumeral {cs : List Char} {n : Int} (h : IsNumeral cs n)
    : Identifier.Blankless cs := by
  obtain ⟨sign, digits, rfl, hsign, -, hdigits, -⟩ := h
  intro c hc
  cases List.mem_append.mp hc with
  | inr hc => exact isBlank_of_isDigit (hdigits c hc)
  | inl hc =>
    rcases hsign with rfl | rfl | rfl
    . cases hc
    all_goals
      rw [List.mem_singleton.mp hc]
      decide

theorem readInt64_toString (n : Int64) : (text (toString n.toInt)).readInt64 = .ok n := by
  have hnumeral := isNumeral_toString n.toInt
  have htrim := Identifier.trim_of_blankless (blankless_of_isNumeral hnumeral)
  have hdenotes : IsNumeral (Text.trim (toString n.toInt).toList) n.toInt := by
    rwa [htrim]
  exact readInt64_eq_ok_iff.mpr (.inl hdenotes)

theorem readJson_text (s : String) : (text s).readJson = readForm "json" (Json.read? s) :=
  rfl

theorem readDate_text (s : String) : (text s).readDate = readForm "date" (Date.read? s) :=
  rfl

theorem readDateTime_text (s : String)
    : (text s).readDateTime = readForm "datetime" (DateTime.read? s) :=
  rfl

theorem readUuid_text (s : String) : (text s).readUuid = readForm "uuid" (Uuid.read? s) :=
  rfl

/-- The text without quotes is read back; of a document that is a matter of its reader. -/
theorem readNative_valueText {v : Value} {k : NativeKind} (hkind : v.nativeKind? = some k)
    (hjson : ∀ j, v = .json j → Json.read? j.compact = some j)
    : (text (Schema.valueText v)).readNative k = .ok v := by
  cases v with
  | int n =>
    cases hkind
    have hread : int <$> (text (toString n.toInt)).readInt64 = .ok (int n) := by
      rw [readInt64_toString]
      rfl
    exact hread
  | json j =>
    cases hkind
    have hread : json <$> (text j.compact).readJson = .ok (json j) := by
      rw [readJson_text, hjson j rfl]
      rfl
    exact hread
  | date d =>
    cases hkind
    have hread : date <$> (text d.text).readDate = .ok (date d) := by
      rw [readDate_text, d.read?_text]
      rfl
    exact hread
  | dateTime t =>
    cases hkind
    have hread : dateTime <$> (text t.text).readDateTime = .ok (dateTime t) := by
      rw [readDateTime_text, t.read?_text]
      rfl
    exact hread
  | uuid u =>
    cases hkind
    have hread : uuid <$> (text u.text).readUuid = .ok (uuid u) := by
      rw [readUuid_text, u.read?_text]
      rfl
    exact hread
  | null | float | text | bytes => cases hkind

/-! ### Texts between quotes -/

theorem toList_quoted (s : String)
    : ("'" ++ s ++ "'").toList = '\x27' :: (s.toList ++ ['\x27']) := by
  simp

theorem date_read?_quoted (s : String) : Date.read? ("'" ++ s ++ "'") = none := by
  rw [Date.read?, toList_quoted, Date.read_quoted]
  rfl

theorem dateTime_read?_quoted (s : String) : DateTime.read? ("'" ++ s ++ "'") = none := by
  rw [DateTime.read?, DateTime.readWith?, toList_quoted, Date.read_quoted]
  rfl

theorem readNative_quoted {v : Value} {k : NativeKind} (hkind : v.nativeKind? = some k)
    (hk : ¬(k = .int ∨ k = .json))
    : ∃ e, (text ("'" ++ Schema.valueText v ++ "'")).readNative k = .error e := by
  cases v with
  | int n =>
    cases hkind
    exact absurd (.inl rfl) hk
  | json j =>
    cases hkind
    exact absurd (.inr rfl) hk
  | date d =>
    cases hkind
    have hread : date <$> (text ("'" ++ d.text ++ "'")).readDate = .error (.malformed "date") := by
      rw [readDate_text, date_read?_quoted]
      rfl
    exact ⟨_, hread⟩
  | dateTime t =>
    cases hkind
    have hread : dateTime <$> (text ("'" ++ t.text ++ "'")).readDateTime =
        .error (.malformed "datetime") := by
      rw [readDateTime_text, dateTime_read?_quoted]
      rfl
    exact ⟨_, hread⟩
  | uuid u =>
    cases hkind
    have hread : uuid <$> (text ("'" ++ u.text ++ "'")).readUuid = .error (.malformed "uuid") := by
      rw [readUuid_text, u.read?_quoted]
      rfl
    exact ⟨_, hread⟩
  | null | float | text | bytes => cases hkind

theorem readNative_self {v : Value} {k : NativeKind} (h : v.nativeKind? = some k)
    : v.readNative k = .ok v := by
  cases v <;> cases h <;> rfl

/-- Text between quotes is what dates, times and identifiers are read as. -/
theorem readText_of_nativeKind? {v : Value} {k : NativeKind} (h : v.nativeKind? = some k)
    : v.readText = .ok (if k = .int ∨ k = .json then Schema.valueText v
        else "'" ++ Schema.valueText v ++ "'") := by
  cases v <;> cases h <;> rfl

/--
A value of a kind with a reader is read as a text, and that text as the value again, if and only
if it is a whole number or a document: the text of the others has quotes around it, without which
it would be read.
-/
theorem read_as_text_iff {v : Value} {k : NativeKind} (hkind : v.nativeKind? = some k)
    (hjson : ∀ j, v = .json j → Json.read? j.compact = some j)
    : v.readNative k = .ok v ∧ (text (Schema.valueText v)).readNative k = .ok v ∧
      ∃ s, v.readText = .ok s ∧
        s = (if k = .int ∨ k = .json then Schema.valueText v
          else "'" ++ Schema.valueText v ++ "'") ∧
        ((text s).readNative k = v.readNative k ↔ k = .int ∨ k = .json) := by
  have hback := readNative_valueText hkind hjson
  have hnative := readNative_self hkind
  refine ⟨hnative, hback, _, readText_of_nativeKind? hkind, rfl, ?_⟩
  rw [hnative]
  split
  . next hk => exact iff_of_true hback hk
  . next hk =>
    obtain ⟨e, hfailed⟩ := readNative_quoted hkind hk
    rw [hfailed]
    refine iff_of_false ?_ hk
    intro heq
    contradiction

theorem document_read_as_text
    : (json (.array [.null, .bool true])).nativeKind? = some .json ∧
      ∃ s, (json (.array [.null, .bool true])).readText = .ok s ∧
        (text s).readNative .json = (json (.array [.null, .bool true])).readNative .json := by
  have hcompact : Json.compact (.array [.null, .bool true]) = "[null,true]" := by
    simp [Json.compact, Json.compactItems]
  have hchars : "[null,true]".toList =
      ['[', 'n', 'u', 'l', 'l', ',', 't', 'r', 'u', 'e', ']'] := by
    simp
  have hjson : ∀ j, json (.array [.null, .bool true]) = .json j →
      Json.read? j.compact = some j := by
    rintro _ ⟨⟩
    rw [hcompact, Json.read?, hchars]
    rfl
  obtain ⟨-, -, s, hs, -, hread⟩ := read_as_text_iff rfl hjson
  exact ⟨rfl, s, hs, hread.mpr (.inr rfl)⟩

/-- The twenty-ninth of February of a leap year. -/
def leapDay : Date := ⟨2024, 2, 29, by decide⟩

/-- The text that the day is read as has quotes around it, and is not read as a date. -/
theorem leapDay_not_read_as_text
    : (date leapDay).nativeKind? = some .date ∧ (date leapDay).readDate = .ok leapDay ∧
      (date leapDay).readText = .ok "'2024-02-29'" ∧
      (text "'2024-02-29'").readDate = .error (.malformed "date") := by
  have htext : (date leapDay).display = "'2024-02-29'" := by decide
  have hnone : Date.read? "'2024-02-29'" = none := by decide
  refine ⟨rfl, rfl, congrArg Except.ok htext, ?_⟩
  rw [readDate_text, hnone]
  rfl

end Value

end SqlForge
