import SqlForge.Number.Shortest

/-!
Binary numbers as text. `plainText` never writes an exponent; `scientificText` writes one for
numbers that are very large or very small.
-/

namespace SqlForge.Number

private def zeros (n : Nat) : List Char :=
  List.replicate n '0'

/-- The digits of a decimal without zeros at the end, and how many stand before the point. -/
def Decimal.significant (d : Decimal) : List Char × Int :=
  let all := Nat.toDigits 10 d.digits
  let kept := (all.reverse.dropWhile (· == '0')).reverse
  (kept, all.length + d.exponent)

/-- Digits with the decimal point after `point` of them; `tail` follows a whole number. -/
def positional (digits : List Char) (point : Int) (tail : String) : String :=
  let n := point.toNat
  if point ≤ 0 then "0." ++ String.ofList (zeros (-point).toNat ++ digits)
  else if digits.length ≤ n then
    String.ofList (digits ++ zeros (n - digits.length)) ++ tail
  else String.ofList (digits.take n ++ '.' :: digits.drop n)

/-- One digit, the rest behind a point, and the power of ten. -/
def scientific (digits : List Char) (point : Int) : String :=
  let mantissa :=
    match digits with
    | d :: (r :: rs) => d :: '.' :: r :: rs
    | ds => ds
  let power := point - 1
  String.ofList mantissa ++ (if power < 0 then "e-" else "e+") ++ toString power.natAbs

private def signed (negative : Bool) (s : String) : String :=
  if negative then "-" ++ s else s

namespace Binary

variable {f : Format}

/-- Every digit is written out; two equally near candidates round up. -/
def plainText (x : Binary f) : String :=
  match x.decode with
  | .nan => "NaN"
  | .infinite negative => signed negative "inf"
  | .finite negative 0 _ => signed negative "0"
  | .finite negative m e =>
    let (digits, point) := (Decimal.shortest f .up m e).significant
    signed negative (positional digits point "")

/--
Whole numbers end in `.0`, and powers of ten outside `-5` to `15` are written as exponents. There is
no text for a number that is not finite.
-/
def scientificText? (x : Binary f) : Option String :=
  match x.decode with
  | .finite negative 0 _ => some (signed negative "0.0")
  | .finite negative m e =>
    let (digits, point) := (Decimal.shortest f .even m e).significant
    some <| signed negative <|
      if -5 ≤ point - 1 && point - 1 ≤ 15 then positional digits point ".0"
      else scientific digits point
  | _ => none

end Binary

end SqlForge.Number
