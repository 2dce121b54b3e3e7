import SqlForge.Json.Reader

/-!
Universally unique identifiers: 128 bits, written in hexadecimal with hyphens.
-/

namespace SqlForge

structure Uuid where
  bits : BitVec 128
  deriving DecidableEq

namespace Uuid

/-- The lengths of the hyphenated groups. -/
def groups : List Nat := [8, 4, 4, 4, 12]

def hexText (u : Uuid) : List Char :=
  let digits := Nat.toDigits 16 u.bits.toNat
  List.replicate (32 - digits.length) '0' ++ digits

private def splitGroups (digits : List Char) : List Nat → List String
  | [] => []
  | n :: ns => String.ofList (digits.take n) :: splitGroups (digits.drop n) ns

def text (u : Uuid) : String :=
  "-".intercalate (splitGroups u.hexText groups)

def ofHex? (digits : List Char) : Option Uuid :=
  (digits.mapM Json.hexValue?).map fun values =>
    ⟨BitVec.ofNat 128 (values.foldl (fun n d => 16 * n + d) 0)⟩

/-- Hexadecimal digits in groups with one hyphen between two of them. -/
def readGroups? (cs : List Char) : List Nat → Option (List Char)
  | [] => if cs.isEmpty then some [] else none
  | [n] => if cs.length = n then some cs else none
  | n :: ns =>
    match cs.drop n with
    | '-' :: rest => (readGroups? rest ns).map (cs.take n ++ ·)
    | _ => none

def ofHyphenated? (cs : List Char) : Option Uuid :=
  (readGroups? cs groups).bind ofHex?

/--
Reads 32 digits, or the hyphenated form, which may stand in braces or after `urn:uuid:`, in capitals
or not.
-/
def read? (s : String) : Option Uuid :=
  let cs := s.toList
  if cs.length = 32 then ofHex? cs
  else if (cs.take 9).map Char.toLower = "urn:uuid:".toList then ofHyphenated? (cs.drop 9)
  else
    match cs with
    | '\x7b' :: rest => if rest.getLast? = some '\x7d' then ofHyphenated? rest.dropLast else none
    | cs => ofHyphenated? cs

end Uuid

end SqlForge
