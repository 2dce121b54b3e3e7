import SqlForge.Number.Binary
import SqlForge.Number.Digits

/-!
The fewest decimal digits that read back as the same binary number, and of those the nearest.
-/

namespace SqlForge.Number

/-- The decimal number `digits * 10 ^ exponent`. -/
structure Decimal where
  digits : Nat
  exponent : Int
  deriving DecidableEq, Repr

/-- What to do when two decimals of the fewest digits are equally near. -/
inductive Tie where
  | up
  | even
  deriving DecidableEq, Repr

/-- A positive number with the numbers that round to it, as numerators over one denominator. -/
structure Cell where
  low : Nat
  value : Nat
  high : Nat
  den : Nat
  /-- Whether `low` and `high` themselves round to the number. -/
  closed : Bool

/-- The numbers nearest to `m * 2 ^ e`; below a power of two they reach half as far. -/
def Cell.of (f : Format) (m : Nat) (e : Int) : Cell :=
  let near := m = Nat.pow 2 (f.precision - 1) ∧ f.minExponent < e
  let unit := Nat.pow 2 (e - 2).toNat
  { low := (4 * m - if near then 1 else 2) * unit
    value := 4 * m * unit
    high := (4 * m + 2) * unit
    den := Nat.pow 2 (2 - e).toNat
    closed := m % 2 = 0 }

namespace Cell

/-- Whether `n / d` rounds to the number. -/
def holds (c : Cell) (n d : Nat) : Bool :=
  if c.closed then c.low * d ≤ n * c.den && n * c.den ≤ c.high * d
  else c.low * d < n * c.den && n * c.den < c.high * d

/-- The number of digits in front of the decimal point; negative for zeros behind it. -/
def pointPosition (c : Cell) : Int :=
  if c.den ≤ c.value then digitCount (c.value / c.den)
  else 1 - (digitCount ((c.den + c.value - 1) / c.value - 1) : Int)

/-- The better of the two neighbours on the grid of step `10 ^ step`, if one rounds to the number. -/
def onGrid (c : Cell) (tie : Tie) (step : Int) : Option Decimal :=
  let up := Nat.pow 10 step.toNat
  let down := Nat.pow 10 (-step).toNat
  let below := c.value * down / (c.den * up)
  let twiceRest := 2 * (c.value * down % (c.den * up))
  let pick (n : Nat) : Option Decimal := some ⟨n, step⟩
  match c.holds (below * up) down, c.holds ((below + 1) * up) down with
  | false, false => none
  | true, false => pick below
  | false, true => pick (below + 1)
  | true, true =>
    if twiceRest < c.den * up then pick below
    else if c.den * up < twiceRest then pick (below + 1)
    else match tie with
      | .up => pick (below + 1)
      | .even => pick (below + below % 2)

/-- Tries grids of more and more digits; `left` of them are still finer than `step`. -/
def shortest (c : Cell) (tie : Tie) (step : Int) : Nat → Decimal
  | 0 => ⟨c.value * Nat.pow 10 (-step).toNat / (c.den * Nat.pow 10 step.toNat), step⟩
  | left + 1 => (c.onGrid tie step).getD (c.shortest tie (step - 1) left)

end Cell

/-- The shortest decimal for the positive number `m * 2 ^ e` of the format. -/
def Decimal.shortest (f : Format) (tie : Tie) (m : Nat) (e : Int) : Decimal :=
  let c := Cell.of f m e
  c.shortest tie (c.pointPosition - 1) f.maxDigits

end SqlForge.Number
