import SqlForge.Text.Blank
import SqlForge.Text.Category
import SqlForge.Text.Unassigned

/-!
A text between double quotes, with every character that would not be seen written as an escape.
-/

namespace SqlForge.Text

def isControl (c : Char) : Bool :=
  c.toNat < 0x20 || (0x7F ≤ c.toNat && c.toNat < 0xA0)

def isPrivateUse (c : Char) : Bool :=
  let n := c.toNat
  (0xE000 ≤ n && n ≤ 0xF8FF) || 0xF0000 ≤ n

/-- Letters that fill the place of a letter of a Hangul syllable and are not drawn. -/
def isFiller (c : Char) : Bool :=
  c = '\u115f' || c = '\u1160' || c = '\u3164' || c = '\uffa0'

/-- Characters that draw nothing of their own; the space counts as seen. -/
def isUnseen (c : Char) : Bool :=
  c ≠ ' ' && (isBlank c || isControl c || isFormat c || isExtender c || isFiller c ||
    isPrivateUse c || isUnassigned c)

def hexDigits (n : Nat) : String :=
  String.ofList (Nat.toDigits 16 n)

def escapeChar (c : Char) : String :=
  if c = '\x22' then "\\\""
  else if c = '\\' then "\\\\"
  else if c = '\t' then "\\t"
  else if c = '\n' then "\\n"
  else if c = '\r' then "\\r"
  else if c = '\x00' then "\\0"
  else if isUnseen c then "\\u\x7b" ++ hexDigits c.toNat ++ "\x7d"
  else c.toString

def escaped (s : String) : String :=
  "\"" ++ String.join (s.toList.map escapeChar) ++ "\""

end SqlForge.Text
