/-!
Texts as UTF-8 bytes: cutting at a byte budget, and reading bytes that may be malformed.
-/

namespace SqlForge.Text

/-- The longest initial part of at most `budget` bytes that splits no character. -/
def takeBytes (budget : Nat) : List Char → List Char
  | [] => []
  | c :: cs => if c.utf8Size ≤ budget then c :: takeBytes (budget - c.utf8Size) cs else []

def byteLength (cs : List Char) : Nat :=
  cs.foldr (fun c n => c.utf8Size + n) 0

theorem byteLength_takeBytes_le (budget : Nat) (cs : List Char) :
    byteLength (takeBytes budget cs) ≤ budget := by
  induction cs generalizing budget with
  | nil => simp [takeBytes, byteLength]
  | cons c cs ih =>
    unfold takeBytes
    split
    next h =>
      have := ih (budget - c.utf8Size)
      simp only [byteLength, List.foldr_cons] at this ⊢
      omega
    next => simp [byteLength]

def toBytes (s : String) : List UInt8 :=
  s.toUTF8.toList

/-- The number of bytes after the first and the bounds of the second, by the first byte. -/
def leadByte (b : UInt8) : Option (Nat × UInt8 × UInt8) :=
  if 0xC2 ≤ b && b ≤ 0xDF then some (1, 0x80, 0xBF)
  else if b == 0xE0 then some (2, 0xA0, 0xBF)
  else if b == 0xED then some (2, 0x80, 0x9F)
  else if 0xE1 ≤ b && b ≤ 0xEF then some (2, 0x80, 0xBF)
  else if b == 0xF0 then some (3, 0x90, 0xBF)
  else if 0xF1 ≤ b && b ≤ 0xF3 then some (3, 0x80, 0xBF)
  else if b == 0xF4 then some (3, 0x80, 0x8F)
  else none

/--
Reads up to `need` continuation bytes, the first of them between `lo` and `hi`. Gives the value if
all are there, and how many bytes fit.
-/
def continuation (need : Nat) (lo hi : UInt8) (value taken : Nat) : List UInt8 → Option Nat × Nat
  | [] => (if need = 0 then some value else none, taken)
  | b :: bs =>
    match need with
    | 0 => (some value, taken)
    | need + 1 =>
      if lo ≤ b && b ≤ hi then
        continuation need 0x80 0xBF (value * 64 + (b.toNat - 0x80)) (taken + 1) bs
      else (none, taken)

/--
Reads UTF-8, with one replacement character for each maximal start of a character that is not
completed.
-/
def ofBytesLossy (bytes : List UInt8) : String :=
  String.ofList (go bytes bytes.length)
where
  go : List UInt8 → Nat → List Char
    | [], _ => []
    | _, 0 => []
    | b :: bs, fuel + 1 =>
      if b < 0x80 then Char.ofNat b.toNat :: go bs fuel
      else
        match leadByte b with
        | none => '\ufffd' :: go bs fuel
        | some (need, lo, hi) =>
          let start := b.toNat % Nat.pow 2 (6 - need)
          match continuation need lo hi start 0 bs with
          | (some value, taken) => Char.ofNat value :: go (bs.drop taken) fuel
          | (none, taken) => '\ufffd' :: go (bs.drop taken) fuel

end SqlForge.Text
