/-!
Whole numbers in decimal digits.
-/

namespace SqlForge.Number

def digitValue (c : Char) : Nat :=
  c.toNat - 48

/-- The number whose digits are read on from `start`. -/
def valueOfDigits (start : Nat) (digits : List Char) : Nat :=
  digits.foldl (fun n c => 10 * n + digitValue c) start

/-- An optional sign: whether it is a minus, and what follows. -/
def takeSign : List Char → Bool × List Char
  | '-' :: cs => (true, cs)
  | '+' :: cs => (false, cs)
  | cs => (false, cs)

/-- Reads an optional sign and at least one digit, and nothing else. -/
def integer? (cs : List Char) : Option Int :=
  let (negative, digits) := takeSign cs
  if digits.isEmpty || !digits.all Char.isDigit then none
  else
    let n : Int := valueOfDigits 0 digits
    some (if negative then -n else n)

/-- Reads a number that fits a signed 64-bit word. -/
def int64? (cs : List Char) : Option Int64 :=
  match integer? cs with
  | some n => 
    if Int64.minValue.toInt ≤ n ∧ n ≤ Int64.maxValue.toInt then some (Int64.ofInt n) else none
  | none => none

/-- Decimal digits of `n`, with zeros in front up to `width`. -/
def padded (width n : Nat) : String :=
  let digits := toString n
  String.ofList (List.replicate (width - digits.length) '0') ++ digits

/-- How many decimal digits `n` has; zero has none. -/
def digitCount (n : Nat) : Nat :=
  if n = 0 then 0 else digitCount (n / 10) + 1

end SqlForge.Number
