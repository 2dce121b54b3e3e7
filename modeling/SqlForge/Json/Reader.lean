import SqlForge.Json.Basic
import SqlForge.Number.Reader
import SqlForge.Text.Search

/-!
Reading JSON text. Every reader takes the remaining characters and gives what it read with what
is left. Numbers outside the range of 64-bit words are approximated: the significand is kept in 64
bits and scaled by powers of ten in binary floating point, one rounding for each step.
-/

namespace SqlForge.Json

open SqlForge.Number

def isSpace (c : Char) : Bool :=
  c = ' ' || c = '\n' || c = '\t' || c = '\r'

def skipSpace (cs : List Char) : List Char :=
  cs.dropWhile isSpace

/-! ### Numbers -/

/-- The largest word a significand may fill. -/
def maxSignificand : Nat := UInt64.size - 1

/--
Reads digits into the significand while it fits a 64-bit word. Gives the significand, how many
digits went into it, and what is left.
-/
def takeSignificand (significand taken : Nat) : List Char → Nat × Nat × List Char
  | [] => (significand, taken, [])
  | c :: cs =>
    if c.isDigit && 10 * significand + digitValue c ≤ maxSignificand then
      takeSignificand (10 * significand + digitValue c) (taken + 1) cs
    else (significand, taken, c :: cs)

/-- `10 ^ n`, rounded; exact powers are scaled by at most `10 ^ 308` at a time. -/
def powerOfTen (n : Nat) : Binary64 :=
  Binary.ofRatio false (Nat.pow 10 n) 1

/-- Scales `x` by `10 ^ exponent`; nothing when the result is too large. -/
def scaleFloat? (x : Binary64) (exponent : Int) : Option Binary64 :=
  if exponent < -308 then
    if x.isZero then some x
    else scaleFloat? (x.scaleDown (powerOfTen 308)) (exponent + 308)
  else if exponent < 0 then some (x.scaleDown (powerOfTen exponent.natAbs))
  else if x.isZero then some x
  else if 308 < exponent then none
  else
    let y := x.scaleUp (powerOfTen exponent.natAbs)
    match y.decode with
    | .finite .. => some y
    | _ => none
termination_by exponent.natAbs

def assemble? (negative : Bool) (significand : Nat) (exponent : Int) : Option Binary64 :=
  (scaleFloat? (Binary.ofInt significand) exponent).map fun x => if negative then x.negate else x

/-- An exponent must fit 31 bits; one that does not makes the number zero or too large. -/
def readExponent (negative : Bool) (significand : Nat) (start : Int) (cs : List Char) :
    Option (Binary64 × List Char) :=
  let (below, rest) := takeSign cs
  let digits := rest.takeWhile Char.isDigit
  let after := rest.dropWhile Char.isDigit
  let exponent : Int := valueOfDigits 0 digits
  if digits.isEmpty then none
  else if Int32.maxValue.toInt < exponent then
    if significand ≠ 0 && !below then none else some (Binary.zero negative, after)
  else
    let total := if below then start - exponent else start + exponent
    (assemble? negative significand total).map (·, after)

def readTail (negative : Bool) (significand : Nat) (exponent : Int) (cs : List Char) :
    Option (Binary64 × List Char) :=
  match cs with
  | c :: rest =>
    if c = 'e' ∨ c = 'E' then readExponent negative significand exponent rest
    else (assemble? negative significand exponent).map (·, cs)
  | [] => (assemble? negative significand exponent).map (·, [])

/-- Digits behind the point; those that no longer fit the significand are passed over. -/
def readFraction (negative : Bool) (significand : Nat) (exponent : Int) (cs : List Char) :
    Option (Binary64 × List Char) :=
  let (value, taken, rest) := takeSignificand significand 0 cs
  if taken = 0 && !(rest.head?.any Char.isDigit) then none
  else readTail negative value (exponent - taken) (rest.dropWhile Char.isDigit)

def readFloat (negative : Bool) (significand : Nat) (exponent : Int) (cs : List Char) :
    Option (Binary64 × List Char) :=
  match cs with
  | '.' :: rest => readFraction negative significand exponent rest
  | cs => readTail negative significand exponent cs

/-- Whole numbers stay whole where a 64-bit word, signed or not, can hold them. -/
def readNumber (cs : List Char) : Option (Json × List Char) :=
  let (negative, cs) :=
    match cs with
    | '-' :: rest => (true, rest)
    | cs => (false, cs)
  let asFloat (significand : Nat) (exponent : Int) (rest : List Char) :=
    (readFloat negative significand exponent rest).map fun (x, rest) => (.float x, rest)
  let (significand, taken, rest) := takeSignificand 0 0 cs
  if taken = 0 then none
  else if cs.head? = some '0' && 1 < taken then none
  else if rest.head?.any Char.isDigit then
    let more := rest.takeWhile Char.isDigit
    asFloat significand more.length (rest.dropWhile Char.isDigit)
  else if rest.head?.any fun c => c = '.' || c = 'e' || c = 'E' then asFloat significand 0 rest
  else if !negative then some (.integer significand, rest)
  else if significand = 0 ∨ Int64.minValue.toInt.natAbs < significand then
    some (.float (Binary.ofInt significand).negate, rest)
  else some (.integer (-significand), rest)

/-! ### Texts -/

def hexValue? (c : Char) : Option Nat :=
  let n := c.toNat
  if c.isDigit then some (n - 48)
  else if 97 ≤ n && n ≤ 102 then some (n - 87)
  else if 65 ≤ n && n ≤ 70 then some (n - 55)
  else none

def readHex4 : List Char → Option (Nat × List Char)
  | a :: b :: c :: d :: cs => do
    let a ← hexValue? a
    let b ← hexValue? b
    let c ← hexValue? c
    let d ← hexValue? d
    return (a * 4096 + b * 256 + c * 16 + d, cs)
  | _ => none

/-- The character of a `\u` escape; surrogates come in pairs. -/
def readUnicode (cs : List Char) : Option (Char × List Char) := do
  let (n, rest) ← readHex4 cs
  if 0xD800 ≤ n && n < 0xDC00 then
    match rest with
    | '\\' :: 'u' :: rest =>
      let (m, rest) ← readHex4 rest
      if 0xDC00 ≤ m && m < 0xE000 then
        return (Char.ofNat (0x10000 + (n - 0xD800) * 0x400 + (m - 0xDC00)), rest)
      else none
    | _ => none
  else if 0xDC00 ≤ n && n < 0xE000 then none
  else return (Char.ofNat n, rest)

def readEscape : List Char → Option (Char × List Char)
  | c :: cs =>
    if c = '\x22' then some ('\x22', cs)
    else if c = '\\' then some ('\\', cs)
    else if c = '/' then some ('/', cs)
    else if c = 'b' then some ('\x08', cs)
    else if c = 'f' then some ('\x0c', cs)
    else if c = 'n' then some ('\n', cs)
    else if c = 'r' then some ('\r', cs)
    else if c = 't' then some ('\t', cs)
    else if c = 'u' then readUnicode cs
    else none
  | [] => none

/-- Reads up to the closing quote; `before` holds what was read, last character first. -/
def readText (before : List Char) : Nat → List Char → Option (String × List Char)
  | 0, _ => none
  | _, [] => none
  | fuel + 1, c :: cs =>
    if c = '\x22' then some (String.ofList before.reverse, cs)
    else if c = '\\' then
      match readEscape cs with
      | some (e, rest) => readText (e :: before) fuel rest
      | none => none
    else if c.toNat < 0x20 then none
    else readText (c :: before) fuel cs

/-! ### Documents -/

/-- Arrays and objects may be nested this deep. -/
def maxDepth : Nat := 127

mutual
/-- Reads one value in front of which no blank stands. -/
def readValue (depth : Nat) : Nat → List Char → Option (Json × List Char)
  | 0, _ => none
  | fuel + 1, cs =>
    match cs with
    | [] => none
    | c :: rest =>
      if c = '\x22' then (readText [] fuel rest).map fun (s, rest) => (.text s, rest)
      else if c = '[' then
        match depth with
        | 0 => none
        | depth + 1 =>
          match skipSpace rest with
          | ']' :: rest => some (.array [], rest)
          | rest => (readItems depth [] fuel rest).map fun (items, rest) => (.array items, rest)
      else if c = '\x7b' then
        match depth with
        | 0 => none
        | depth + 1 =>
          match skipSpace rest with
          | '\x7d' :: rest => some (.object [], rest)
          | rest => (readMembers depth [] fuel rest).map fun (ms, rest) => (ofMembers ms, rest)
      else if c = 'n' then (Text.dropWord? "ull".toList rest).map (Json.null, ·)
      else if c = 't' then (Text.dropWord? "rue".toList rest).map (Json.bool true, ·)
      else if c = 'f' then (Text.dropWord? "alse".toList rest).map (Json.bool false, ·)
      else readNumber cs

/-- Reads the items of an array and its closing bracket. -/
def readItems (depth : Nat) (before : List Json) : Nat → List Char → Option (List Json × List Char)
  | 0, _ => none
  | fuel + 1, cs =>
    match readValue depth fuel (skipSpace cs) with
    | none => none
    | some (item, rest) =>
      match skipSpace rest with
      | ',' :: rest => readItems depth (item :: before) fuel rest
      | ']' :: rest => some ((item :: before).reverse, rest)
      | _ => none

/-- Reads the members of an object and its closing brace. -/
def readMembers (depth : Nat) (before : List (String × Json)) :
    Nat → List Char → Option (List (String × Json) × List Char)
  | 0, _ => none
  | fuel + 1, cs =>
    match skipSpace cs with
    | '\x22' :: rest =>
      match readText [] fuel rest with
      | none => none
      | some (key, rest) =>
        match skipSpace rest with
        | ':' :: rest =>
          match readValue depth fuel (skipSpace rest) with
          | none => none
          | some (value, rest) =>
            match skipSpace rest with
            | ',' :: rest => readMembers depth ((key, value) :: before) fuel rest
            | '\x7d' :: rest => some (((key, value) :: before).reverse, rest)
            | _ => none
        | _ => none
    | _ => none
end

/-- The document that the whole text holds. -/
def read? (s : String) : Option Json :=
  let cs := s.toList
  match readValue maxDepth (2 * cs.length + 2) (skipSpace cs) with
  | some (document, rest) => if (skipSpace rest).isEmpty then some document else none
  | none => none

end SqlForge.Json
