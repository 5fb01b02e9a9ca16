import Converge.Binary64

/-!
# Shortest decimals of binary64 numbers

The shortest decimal of a finite nonzero number is the one with the fewest digits
among those that round back to it, the nearest of several, and of two equally near the
one whose last digit is even. The reals that round back form an interval around the
number, ends included exactly when its significand is even; a decimal grid that meets
the interval meets it in one of the two grid points next to the number, so only those
are tried, grid by grid.
-/

namespace Converge

/-- The number `digits · 10 ^ exponent`. -/
structure Decimal where
  digits : Nat
  exponent : Int
deriving DecidableEq, Repr

namespace Binary64

/-- How many decimal digits a natural number has; one for zero. -/
def digitCount (value : Nat) : Nat := (Nat.toDigits 10 value).length

/-- The place of the leading decimal digit of `numerator / denominator`, both positive. -/
def leadingDecimalPlace (numerator denominator : Nat) : Int :=
  if denominator ≤ numerator then (digitCount (numerator / denominator) : Int) - 1
  else -(digitCount (denominator / numerator) : Int)

/-- The positive reals that round to one number, as the number and its distances to the
ends, all over `denominator`. -/
structure Basin where
  centre : Nat
  below : Nat
  above : Nat
  denominator : Nat
  /-- Whether the ends themselves round to the number. -/
  closed : Bool
deriving Repr

/-- The basin of a finite nonzero number. Below a power of two the neighbours are half
as far apart, except where the smallest binade begins. -/
def basin (number : Binary64) : Basin :=
  let quarter := number.power - 2
  let scale := 1 <<< quarter.toNat
  let narrow := number.fraction = 0 ∧ 1 < number.biasedExponent
  { centre := 4 * number.significand * scale
    below := (if narrow then 1 else 2) * scale
    above := 2 * scale
    denominator := 1 <<< (-quarter).toNat
    closed := number.significand % 2 = 0 }

/-- Whether `digits · 10 ^ exponent` lies in the basin. -/
def Basin.holds (basin : Basin) (decimal : Decimal) : Bool :=
  let point := decimal.digits * Nat.pow 10 decimal.exponent.toNat * basin.denominator
  let scale := Nat.pow 10 (-decimal.exponent).toNat
  let low := (basin.centre - basin.below) * scale
  let high := (basin.centre + basin.above) * scale
  if basin.closed then low ≤ point && point ≤ high else low < point && point < high

/-- The grid point with `count` digits that lies in the basin next to its centre. -/
def Basin.onGrid? (basin : Basin) (count : Nat) : Option Decimal :=
  let exponent := leadingDecimalPlace basin.centre basin.denominator - (count : Int) + 1
  let numerator := basin.centre * Nat.pow 10 (-exponent).toNat
  let denominator := basin.denominator * Nat.pow 10 exponent.toNat
  let lower : Decimal := ⟨numerator / denominator, exponent⟩
  let upper : Decimal := ⟨numerator / denominator + 1, exponent⟩
  match basin.holds lower, basin.holds upper with
  | true, true => some ⟨roundHalfEven numerator denominator, exponent⟩
  | true, false => some lower
  | false, true => some upper
  | false, false => none

/-- Drop the zeros that a decimal's digits end in. -/
def stripZeros : Nat → Decimal → Decimal
  | 0, decimal => decimal
  | limit + 1, decimal =>
    if decimal.digits % 10 = 0 ∧ decimal.digits ≠ 0 then
      stripZeros limit ⟨decimal.digits / 10, decimal.exponent + 1⟩
    else decimal

/-- The shortest decimal that rounds back to the magnitude of a finite number. Seventeen
digits always suffice. -/
def shortest (number : Binary64) : Decimal :=
  if number.magnitude = 0 then ⟨0, 0⟩
  else
    let found := (List.range' 1 17).findSome? number.basin.onGrid?
    stripZeros 18 (found.getD ⟨0, 0⟩)

end Binary64

end Converge
