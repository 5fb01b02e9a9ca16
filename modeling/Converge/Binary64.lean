/-!
# Binary floating-point words

A `Binary64` is the 64-bit pattern of an IEEE 754 binary64 number. Its meaning is an
exact dyadic number, `± significand · 2 ^ power`, computed on the fields of the word
without any machine arithmetic, and every operation here is defined by the exact
result rounded once: to the nearest representable number, ties to the even
significand, overflow to infinity.
-/

namespace Converge

/-- A binary64 number, held as its bit pattern. -/
structure Binary64 where
  bits : UInt64
deriving DecidableEq, Repr, Inhabited

namespace Binary64

/-! ## Fields and meaning -/

/-- The worth of the sign bit in a word. -/
def signUnit : Nat := 1 <<< 63

/-- The worth of the last bit of the exponent in a word. -/
def exponentUnit : Nat := 1 <<< 52

/-- The word without its sign bit. -/
def magnitude (number : Binary64) : Nat := number.bits.toNat % signUnit

def isNegative (number : Binary64) : Bool := signUnit ≤ number.bits.toNat

def biasedExponent (number : Binary64) : Nat := number.magnitude / exponentUnit

def fraction (number : Binary64) : Nat := number.magnitude % exponentUnit

/-- Neither infinite nor NaN. -/
def isFinite (number : Binary64) : Bool := number.biasedExponent < 2047

/-- The magnitude bits of the infinities. -/
def infiniteMagnitude : Nat := 2047 * exponentUnit

def isNaN (number : Binary64) : Bool := infiniteMagnitude < number.magnitude

/-- The integer the power of two is scaled by, for a finite number. -/
def significand (number : Binary64) : Nat :=
  if number.biasedExponent = 0 then number.fraction else exponentUnit + number.fraction

/-- The binary place of the significand's last bit. -/
def power (number : Binary64) : Int :=
  if number.biasedExponent = 0 then -1074 else (number.biasedExponent : Int) - 1075

/-- The numerator of the magnitude of a finite number, over `denominator`. -/
def numerator (number : Binary64) : Nat := number.significand <<< number.power.toNat

/-- The denominator of the magnitude of a finite number, a power of two. -/
def denominator (number : Binary64) : Nat := 1 <<< (-number.power).toNat

/-- The comparison of IEEE 754: NaN equals nothing, and the two zeros are equal. -/
def equal (left right : Binary64) : Bool :=
  !left.isNaN && !right.isNaN && (left == right || left.magnitude == 0 && right.magnitude == 0)

/-! ## Rounding -/

/-- The integer nearest to `numerator / denominator`, the even one of two. -/
def roundHalfEven (numerator denominator : Nat) : Nat :=
  let whole := numerator / denominator
  let twice := 2 * (numerator % denominator)
  if twice < denominator then whole
  else if denominator < twice then whole + 1
  else whole + whole % 2

/-- The place of the leading bit of `numerator / denominator`, up to one too high. -/
def leadingPlace (numerator denominator : Nat) : Int :=
  (numerator.log2 : Int) - (denominator.log2 : Int)

/-- The magnitude bits of the binary64 number nearest to `numerator / denominator`. The
last bit kept is 52 places below the leading one, or the place of the smallest
subnormal; a carry out of the significand runs into the exponent field, which is what
the next binade is. -/
def roundedMagnitude (numerator denominator : Nat) : Nat :=
  if numerator = 0 then 0
  else
    let leading := leadingPlace numerator denominator
    -- `leadingPlace` overshoots by one where the numerator's leading digits are smaller
    let reached :=
      if numerator <<< (-leading).toNat < denominator <<< leading.toNat then leading - 1
      else leading
    let place := max (reached - 52) (-1074)
    let units :=
      roundHalfEven (numerator <<< (-place).toNat) (denominator <<< place.toNat)
    min ((place + 1074).toNat * exponentUnit + units) infiniteMagnitude

/-- The binary64 number nearest to `± numerator / denominator`. -/
def ofRatio (negative : Bool) (numerator denominator : Nat) : Binary64 :=
  let magnitude := roundedMagnitude numerator denominator
  ⟨UInt64.ofNat (if negative then signUnit + magnitude else magnitude)⟩

/-- The binary64 number nearest to a natural number. -/
def ofNat (value : Nat) : Binary64 := ofRatio false value 1

/-- The binary64 number nearest to `± digits · 10 ^ exponent`. -/
def ofDecimal (negative : Bool) (digits : Nat) (exponent : Int) : Binary64 :=
  ofRatio negative (digits * Nat.pow 10 exponent.toNat) (Nat.pow 10 (-exponent).toNat)

/-- The product of two finite numbers, rounded once. -/
def mul (left right : Binary64) : Binary64 :=
  ofRatio (left.isNegative != right.isNegative) (left.numerator * right.numerator)
    (left.denominator * right.denominator)

/-- The quotient of two finite numbers, the second not zero, rounded once. -/
def div (left right : Binary64) : Binary64 :=
  ofRatio (left.isNegative != right.isNegative) (left.numerator * right.denominator)
    (left.denominator * right.numerator)

/-- The same magnitude with the other sign. -/
def neg (number : Binary64) : Binary64 := ⟨number.bits ^^^ ((1 : UInt64) <<< 63)⟩

/-! ## Integers -/

/-- The integer that a finite number with an integral value denotes. -/
def toInt? (number : Binary64) : Option Int :=
  if number.isFinite ∧ number.numerator % number.denominator = 0 then
    let value := number.numerator / number.denominator
    some (if number.isNegative then -(value : Int) else value)
  else none

end Binary64

end Converge
