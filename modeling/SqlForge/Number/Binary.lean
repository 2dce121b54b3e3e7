/-!
Binary floating point numbers as bit patterns. `Binary.decode` reads a pattern as an exact number
and `Binary.ofRatio` rounds a fraction to the nearest pattern, ties to even.
-/

namespace SqlForge.Number

/-- An interchange format: bits of the significand (the hidden one included) and of the exponent. -/
structure Format where
  precision : Nat
  exponentBits : Nat
  deriving DecidableEq, Repr

namespace Format

def binary64 : Format := ⟨53, 11⟩

def binary32 : Format := ⟨24, 8⟩

variable (f : Format)

def width : Nat := f.precision + f.exponentBits

/-- The exponent of the last place of the smallest numbers. -/
def minExponent : Int := 3 - (Nat.pow 2 (f.exponentBits - 1) : Int) - f.precision

/-- The pattern of infinity without its sign; those above it are no numbers. -/
def infinite : Nat := (Nat.pow 2 f.exponentBits - 1) * Nat.pow 2 (f.precision - 1)

/-- As many significant decimal digits tell any two numbers of the format apart. -/
def maxDigits : Nat := f.precision * 30103 / 100000 + 2

end Format

structure Binary (f : Format) where
  bits : BitVec f.width
  deriving DecidableEq

abbrev Binary64 := Binary .binary64

abbrev Binary32 := Binary .binary32

/-- The meaning of a pattern. A finite number is `significand * 2 ^ exponent`, with its sign. -/
inductive Datum where
  | nan
  | infinite (negative : Bool)
  | finite (negative : Bool) (significand : Nat) (exponent : Int)
  deriving DecidableEq, Repr

/-- `num / den` to the nearest whole number, a half to the even one. -/
def roundDiv (num den : Nat) : Nat :=
  let q := num / den
  let twice := 2 * (num % den)
  if twice < den then q
  else if den < twice then q + 1
  else q + q % 2

/-- The largest `e` with `2 ^ e ≤ num / den`. -/
def leadExponent (num den : Nat) : Int :=
  let e : Int := num.log2 - den.log2
  if den * Nat.pow 2 e.toNat ≤ num * Nat.pow 2 (-e).toNat then e else e - 1

namespace Binary

variable {f : Format}

def decode (x : Binary f) : Datum :=
  let n := x.bits.toNat
  let hidden := Nat.pow 2 (f.precision - 1)
  let fraction := n % hidden
  let biased := n / hidden % Nat.pow 2 f.exponentBits
  let negative := x.bits.msb
  if biased = Nat.pow 2 f.exponentBits - 1 then
    if fraction = 0 then .infinite negative else .nan
  else if biased = 0 then .finite negative fraction f.minExponent
  else .finite negative (fraction + hidden) (f.minExponent + biased - 1)

def ofMagnitude (negative : Bool) (magnitude : Nat) : Binary f :=
  ⟨BitVec.ofNat f.width (magnitude + if negative then Nat.pow 2 (f.width - 1) else 0)⟩

def zero (negative : Bool) : Binary f :=
  ofMagnitude negative 0

def infinity (negative : Bool) : Binary f :=
  ofMagnitude negative f.infinite

def nan : Binary f :=
  ofMagnitude false (f.infinite + Nat.pow 2 (f.precision - 2))

/-- The number nearest to `num / den`; what lies beyond the largest one is infinite. -/
def ofRatio (negative : Bool) (num den : Nat) : Binary f :=
  if num = 0 then zero negative
  else
    let last := max (leadExponent num den + 1 - f.precision) f.minExponent
    let significand := roundDiv (num * Nat.pow 2 (-last).toNat) (den * Nat.pow 2 last.toNat)
    let magnitude := significand + (last - f.minExponent).toNat * Nat.pow 2 (f.precision - 1)
    ofMagnitude negative (min magnitude f.infinite)

def ofInt (n : Int) : Binary f :=
  ofRatio (n < 0) n.natAbs 1

/-- The fraction `num / den` of a finite number without its sign. -/
def ratio (significand : Nat) (exponent : Int) : Nat × Nat :=
  (significand * Nat.pow 2 exponent.toNat, Nat.pow 2 (-exponent).toNat)

/-- The same number, rounded to another format. -/
def convert {g : Format} (x : Binary f) : Binary g :=
  match x.decode with
  | .nan => nan
  | .infinite negative => infinity negative
  | .finite negative m e =>
    let (num, den) := ratio m e
    ofRatio negative num den

def isZero (x : Binary f) : Bool :=
  match x.decode with
  | .finite _ 0 _ => true
  | _ => false

def negate (x : Binary f) : Binary f :=
  ⟨x.bits ^^^ BitVec.twoPow f.width (f.width - 1)⟩

/-- The whole number that `x` is equal to, if there is one. -/
def toInt? (x : Binary f) : Option Int :=
  match x.decode with
  | .finite negative m e =>
    let (num, den) := ratio m e
    if num % den = 0 then
      let n : Int := num / den
      some (if negative then -n else n)
    else none
  | _ => none

/-- Product of two finite numbers without their signs, rounded. -/
def scaleUp (x y : Binary f) : Binary f :=
  match x.decode, y.decode with
  | .finite s m e, .finite _ n d =>
    let (a, b) := ratio m e
    let (p, q) := ratio n d
    ofRatio s (a * p) (b * q)
  | _, _ => x

/-- Quotient of two finite numbers without the divisor's sign, rounded. -/
def scaleDown (x y : Binary f) : Binary f :=
  match x.decode, y.decode with
  | .finite s m e, .finite _ n d =>
    let (a, b) := ratio m e
    let (p, q) := ratio n d
    ofRatio s (a * q) (b * p)
  | _, _ => x

end Binary

end SqlForge.Number
