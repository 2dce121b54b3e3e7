import SqlForge.Number.Binary
import SqlForge.Number.Digits

/-!
Reading a binary number from decimal text, rounded once.
-/

namespace SqlForge.Number

/--
`digits * 10 ^ exponent`, rounded. Exponents far outside the format's range are settled without the
power being computed.
-/
def Binary.ofDecimal {f : Format} (negative : Bool) (digits : Nat) (exponent : Int) : Binary f :=
  let magnitude := digitCount digits + exponent
  let reach : Int := Nat.pow 2 f.exponentBits
  if digits = 0 ∨ magnitude < -reach then zero negative
  else if reach < magnitude then infinity negative
  else ofRatio negative (digits * Nat.pow 10 exponent.toNat) (Nat.pow 10 (-exponent).toNat)

/-- The exponent that follows a significand: nothing, or `e` and a whole number. -/
def exponentPart? : List Char → Option Int
  | [] => some 0
  | c :: cs => if c = 'e' ∨ c = 'E' then integer? cs else none

/-- Digits with at most one point among them and an optional exponent. -/
def Binary.ofNumeral? {f : Format} (negative : Bool) (cs : List Char) : Option (Binary f) :=
  let whole := cs.takeWhile Char.isDigit
  let (part, rest) :=
    match cs.dropWhile Char.isDigit with
    | '.' :: rest => (rest.takeWhile Char.isDigit, rest.dropWhile Char.isDigit)
    | rest => ([], rest)
  if whole.isEmpty && part.isEmpty then none
  else (exponentPart? rest).map fun e =>
    ofDecimal negative (valueOfDigits 0 (whole ++ part)) (e - part.length)

/-- Reads a numeral or one of the words for infinity and not-a-number, in any case. -/
def Binary.read? {f : Format} (s : String) : Option (Binary f) :=
  let (negative, cs) := takeSign s.toList
  let word := String.ofList (cs.map Char.toLower)
  if word = "inf" ∨ word = "infinity" then some (infinity negative)
  else if word = "nan" then some nan
  else ofNumeral? negative cs

end SqlForge.Number
