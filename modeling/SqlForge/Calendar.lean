import SqlForge.Number.Digits
import SqlForge.Text.Blank

/-!
Dates and times of day of the Gregorian calendar, carried back before its introduction.
-/

namespace SqlForge

open SqlForge.Number

def isLeapYear (year : Int) : Bool :=
  year % 4 = 0 && (year % 100 ≠ 0 || year % 400 = 0)

def daysInMonth (year : Int) (month : Nat) : Nat :=
  if month = 2 then (if isLeapYear year then 29 else 28)
  else if month = 4 ∨ month = 6 ∨ month = 9 ∨ month = 11 then 30
  else 31

/-- Years beyond these bounds have no dates. -/
def IsDate (year : Int) (month day : Nat) : Prop :=
  -262143 ≤ year ∧ year ≤ 262142 ∧ 1 ≤ month ∧ month ≤ 12 ∧ 1 ≤ day ∧ day ≤ daysInMonth year month

instance (year : Int) (month day : Nat) : Decidable (IsDate year month day) := by
  unfold IsDate; infer_instance

structure Date where
  year : Int
  month : Nat
  day : Nat
  isDate : IsDate year month day
  deriving DecidableEq

/-- A date and a time of day; second 60 is a leap second. -/
structure DateTime where
  date : Date
  hour : Nat
  minute : Nat
  second : Nat
  nanosecond : Nat
  hour_lt : hour < 24
  minute_lt : minute < 60
  second_le : second ≤ 60
  nanosecond_lt : nanosecond < 1000000000
  deriving DecidableEq

namespace Date

def ofParts? (year : Int) (month day : Nat) : Option Date :=
  if h : IsDate year month day then some ⟨year, month, day, h⟩ else none

/-- Years outside 0 to 9999 are written with their sign. -/
def yearText (year : Int) : String :=
  if 0 ≤ year ∧ year ≤ 9999 then padded 4 year.natAbs
  else (if year < 0 then "-" else "+") ++ padded 4 year.natAbs

def text (d : Date) : String :=
  yearText d.year ++ "-" ++ padded 2 d.month ++ "-" ++ padded 2 d.day

end Date

namespace DateTime

def ofParts? (date : Date) (hour minute second nanosecond : Nat) : Option DateTime :=
  if h : hour < 24 ∧ minute < 60 ∧ second ≤ 60 ∧ nanosecond < 1000000000 then
    some ⟨date, hour, minute, second, nanosecond, h.1, h.2.1, h.2.2.1, h.2.2.2⟩
  else none

/-- No digits, or the fewest of 3, 6 and 9 that are exact. -/
def fractionText (nanosecond : Nat) : String :=
  if nanosecond = 0 then ""
  else if nanosecond % 1000000 = 0 then "." ++ padded 3 (nanosecond / 1000000)
  else if nanosecond % 1000 = 0 then "." ++ padded 6 (nanosecond / 1000)
  else "." ++ padded 9 nanosecond

def timeText (t : DateTime) : String :=
  padded 2 t.hour ++ ":" ++ padded 2 t.minute ++ ":" ++ padded 2 t.second ++
    fractionText t.nanosecond

/-- Date and time with a blank between them. -/
def text (t : DateTime) : String :=
  t.date.text ++ " " ++ t.timeText

/-- Date and time with a `T` between them. -/
def isoText (t : DateTime) : String :=
  t.date.text ++ "T" ++ t.timeText

end DateTime

/-! ### Reading -/

/-- Between one and `most` digits after any blanks, and what follows them. -/
def readDigits? (most : Nat) (cs : List Char) : Option (Nat × List Char) :=
  let digits := (cs.take most).takeWhile Char.isDigit
  if digits.isEmpty then none else some (valueOfDigits 0 digits, cs.drop digits.length)

def readField? (cs : List Char) : Option (Nat × List Char) :=
  readDigits? 2 (Text.trimStart cs)

/-- A year has up to four digits, or a sign and any number of them. -/
def readYear? (cs : List Char) : Option (Int × List Char) :=
  match Text.trimStart cs with
  | '-' :: rest => (readDigits? rest.length rest).map fun (n, rest) => (-(n : Int), rest)
  | '+' :: rest => (readDigits? rest.length rest).map fun (n, rest) => ((n : Int), rest)
  | cs => (readDigits? 4 cs).map fun (n, rest) => ((n : Int), rest)

def dropChar? (c : Char) : List Char → Option (List Char)
  | d :: cs => if c = d then some cs else none
  | [] => none

/-- Reads a date in front of other text. -/
def Date.read (cs : List Char) : Option (Date × List Char) := do
  let (year, cs) ← readYear? cs
  let cs ← dropChar? '-' cs
  let (month, cs) ← readField? cs
  let cs ← dropChar? '-' cs
  let (day, cs) ← readField? cs
  let date ← Date.ofParts? year month day
  return (date, cs)

def Date.read? (s : String) : Option Date := do
  let (date, rest) ← Date.read s.toList
  if rest.isEmpty then some date else none

/-- Nothing, or a point and digits, of which nine count. -/
def readFraction? : List Char → Option (Nat × List Char)
  | '.' :: cs => do
    let digits := (cs.take 9).takeWhile Char.isDigit
    if digits.isEmpty then none
    else some (valueOfDigits 0 digits * Nat.pow 10 (9 - digits.length), cs.dropWhile Char.isDigit)
  | cs => some (0, cs)

/-- Reads a date and a time; `gap` passes over what stands between them. -/
def DateTime.readWith? (gap : List Char → Option (List Char)) (s : String) : Option DateTime := do
  let (date, cs) ← Date.read s.toList
  let cs ← gap cs
  let (hour, cs) ← readField? cs
  let cs ← dropChar? ':' cs
  let (minute, cs) ← readField? cs
  let cs ← dropChar? ':' cs
  let (second, cs) ← readField? cs
  let (nanosecond, rest) ← readFraction? cs
  if rest.isEmpty then DateTime.ofParts? date hour minute second nanosecond else none

/-- Date and time with blanks between them. -/
def DateTime.read? (s : String) : Option DateTime :=
  DateTime.readWith? (fun cs => some (Text.trimStart cs)) s

/-- Date and time with a `T` between them. -/
def DateTime.readIso? (s : String) : Option DateTime :=
  DateTime.readWith? (dropChar? 'T') s

end SqlForge
