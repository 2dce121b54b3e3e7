import SqlForge.Calendar
import SqlForge.Json.Reader
import SqlForge.Number.Reader
import SqlForge.Toml.Basic

/-!
TOML values that are written as one word: truth values, numbers, dates and times of day. The form of
a word is settled at once; whether a number stands behind the form of one is not, and where none does
the value is `malformed`.
-/

namespace SqlForge.Toml

open SqlForge.Number

/-! ### Numbers -/

def isHex (c : Char) : Bool :=
  (Json.hexValue? c).isSome

/-- Digits and the underscores that group them. -/
def isFigure (c : Char) : Bool :=
  c.isDigit || c = '_'

/-- Whether every underscore stands between two digits, given whether `cs` follows one. -/
def isGrouped (isDigit : Char → Bool) (afterDigit : Bool) : List Char → Bool
  | [] => true
  | c :: cs =>
    if c = '_' then afterDigit && cs.head?.any isDigit && isGrouped isDigit false cs
    else isGrouped isDigit (isDigit c) cs

/-- The number that digits of the given base stand for. -/
def magnitude? (base : Nat) (digits : List Char) : Option Nat :=
  if digits.isEmpty then none
  else (digits.mapM fun c => (Json.hexValue? c).filter (· < base)).map fun values =>
    values.foldl (fun n d => base * n + d) 0

/-- Integers have 128 bits, signed or unsigned. -/
def ofInteger (negative : Bool) (base : Nat) (cs : List Char) : Toml :=
  match magnitude? base (cs.filter (· ≠ '_')) with
  | none => .malformed
  | some n =>
    let n : Int := if negative then -n else n
    if -(Nat.pow 2 127 : Int) ≤ n ∧ n < Nat.pow 2 128 then .integer n else .malformed

/-- An integer after the mark of its base. -/
def ofBased? (base : Nat) (cs : List Char) : Option Toml :=
  let isDigit (c : Char) : Bool := (Json.hexValue? c).any (· < base)
  if cs.all (fun c => c = '_' || isDigit c) && isGrouped isDigit false cs then
    some (ofInteger false base cs)
  else none

/-- Passes over figures, of which at least one is a digit. -/
def skipDigits? (cs : List Char) : Option (List Char) :=
  if (cs.takeWhile isFigure).any Char.isDigit then some (cs.dropWhile isFigure) else none

def skipFraction? : List Char → Option (List Char)
  | '.' :: cs => skipDigits? cs
  | cs => some cs

def skipExponent? : List Char → Option (List Char)
  | [] => some []
  | c :: cs => if c = 'e' ∨ c = 'E' then skipDigits? (takeSign cs).2 else some (c :: cs)

/-- Whether a zero stands in front of other digits. -/
def hasNeedlessZero (cs : List Char) : Bool :=
  cs.head? = some '0' && 1 < (cs.takeWhile isFigure).countP Char.isDigit

/-- Whether `cs` is a whole number and then a fraction or an exponent or both. -/
def isFloat (cs : List Char) : Bool :=
  let rest := ((skipDigits? cs).bind skipFraction?).bind skipExponent?
  rest.any List.isEmpty && !hasNeedlessZero cs

/-- A number with a fraction or an exponent, if it is not too large. -/
def ofFloat (cs : List Char) : Toml :=
  let value : Option Binary64 := Binary.read? (String.ofList (cs.filter (· ≠ '_')))
  match value.map Binary.decode with
  | some (.finite ..) => .float
  | _ => .malformed

/-! ### Times -/

/-- A number below `bound` in exactly two digits. -/
def twoDigits? (bound : Nat) : List Char → Option (Nat × List Char)
  | a :: b :: cs =>
    let n := valueOfDigits 0 [a, b]
    if a.isDigit && b.isDigit && n < bound then some (n, cs) else none
  | _ => none

/-- Reads a date with all its digits. -/
def readDate : List Char → Option (Unit × List Char)
  | a :: b :: c :: d :: '-' :: cs => do
    let year := [a, b, c, d]
    let (month, cs) ← twoDigits? 13 cs
    let cs ← dropChar? '-' cs
    let (day, cs) ← twoDigits? 32 cs
    if year.all Char.isDigit ∧ IsDate (valueOfDigits 0 year) month day then some ((), cs) else none
  | _ => none

/-- Reads a time of day; its seconds may be left out. -/
def readClock (cs : List Char) : Option (Unit × List Char) := do
  let (_, cs) ← twoDigits? 24 cs
  let cs ← dropChar? ':' cs
  let (_, cs) ← twoDigits? 60 cs
  match cs with
  | ':' :: cs =>
    let (_, cs) ← twoDigits? 61 cs
    match cs with
    | '.' :: c :: cs => if c.isDigit then some ((), cs.dropWhile Char.isDigit) else none
    | cs => some ((), cs)
  | cs => some ((), cs)

/-- Whether `cs` is an offset from universal time, or nothing. -/
def isOffset (cs : List Char) : Bool :=
  match cs with
  | [] => true
  | c :: cs =>
    if c = 'Z' ∨ c = 'z' then cs.isEmpty
    else if c = '+' ∨ c = '-' then
      match twoDigits? 24 cs with
      | some (_, ':' :: cs) => (twoDigits? 60 cs).any fun (_, rest) => rest.isEmpty
      | _ => false
    else false

/-- Whether `cs` is a date, a time of day, or both. -/
def isTime (cs : List Char) : Bool :=
  match readDate cs with
  | some ((), []) => true
  | some ((), c :: cs) =>
    (c = 'T' || c = 't' || c = ' ') && (readClock cs).any fun (_, rest) => isOffset rest
  | none => (readClock cs).any (·.2.isEmpty)

/-! ### Words -/

/--
The value of a word that begins with digits, a sign in front of them allowed. In the form of an
integer, hexadecimal digits may stand beside underscores, and what follows them is not settled.
-/
def ofFigures? (word : List Char) : Option Toml :=
  let (negative, cs) := takeSign word
  let rest := cs.dropWhile Char.isDigit
  if rest.head?.any fun c => c = '-' || c = ':' then
    if isTime word then some .time else none
  else if rest.any fun c => c = '.' || c = 'e' || c = 'E' then
    if isFloat cs && isGrouped Char.isDigit false cs then some (ofFloat word) else none
  else if cs.isEmpty || rest.head?.any (· ≠ '_') || rest.contains ' ' then none
  else if cs.head? = some '0' && 1 < cs.length then none
  else if isGrouped isHex false cs then some (ofInteger negative 10 cs)
  else none

/-- The value of a word, if the word has the form of one. -/
def ofWord? (word : List Char) : Option Toml :=
  let unsigned := (takeSign word).2
  if word = "true".toList then some (.bool true)
  else if word = "false".toList then some (.bool false)
  else if unsigned = "inf".toList ∨ unsigned = "nan".toList then some .float
  else
    match word with
    | '0' :: 'x' :: cs => ofBased? 16 cs
    | '0' :: 'o' :: cs => ofBased? 8 cs
    | '0' :: 'b' :: cs => ofBased? 2 cs
    | word => ofFigures? word

def isSpace (c : Char) : Bool :=
  c = ' ' || c = '\t'

/-- Characters that end a word. -/
def isDelimiter (c : Char) : Bool :=
  ['=', ',', '[', ']', '\x7b', '\x7d', '#', '\r', '\n'].contains c

/--
A word and the text after it. Blanks belong to the word if it goes on after them, as between a date
and a time of day; it does not go on with a quote. The blanks since the last other character are in
`gap`, the last one first.
-/
def takeWord (gap : List Char) : List Char → List Char × List Char
  | [] => ([], gap.reverse)
  | c :: cs =>
    if isSpace c then takeWord (c :: gap) cs
    else if isDelimiter c || (!gap.isEmpty && (c = '\x22' || c = '\x27')) then
      ([], gap.reverse ++ c :: cs)
    else
      let (word, rest) := takeWord [] cs
      (gap.reverse ++ c :: word, rest)

end SqlForge.Toml
