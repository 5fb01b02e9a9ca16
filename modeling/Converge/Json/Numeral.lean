import Converge.Json
import Converge.Json.Fault

/-!
# Numerals of JSON text

A numeral is a number as it is written. Its value is exact when it is an integer of 64
bits. Any other numeral is read with a 64-bit significand: the digits that would
overflow it are dropped, those before the point raising the exponent, and the
significand, rounded to binary64, is scaled by the power of ten in one multiplication
or division. Each of the two steps rounds, so the result may be one unit beside the
nearest binary64 number.
-/

namespace Converge

namespace Json

/-- A number as it is written, its digits as numbers from 0 to 9. -/
structure Numeral where
  negative : Bool
  whole : List Nat
  /-- The digits behind the point, where there is one. -/
  fraction : Option (List Nat)
  /-- The sign and the digits of the exponent, where there is one. -/
  exponent : Option (Bool × List Nat)
deriving DecidableEq, Repr

namespace Numeral

/-- The largest significand. -/
def significandLimit : Nat := UInt64.size - 1

/-- The largest exponent that is read as a number. -/
def exponentLimit : Nat := 1 <<< 31 - 1

/-- A significand under construction. -/
structure Significand where
  digits : Nat
  exponent : Int
  /-- Whether a digit has been dropped. -/
  full : Bool
deriving DecidableEq, Repr

/-- Take in a digit before the point. Once one does not fit, all further ones raise the
exponent. -/
def Significand.pushWhole (held : Significand) (digit : Nat) : Significand :=
  if held.full ∨ significandLimit < held.digits * 10 + digit then
    { held with exponent := held.exponent + 1, full := true }
  else { held with digits := held.digits * 10 + digit }

/-- Take in a digit behind the point. Once one does not fit, all further ones are
ignored. -/
def Significand.pushFraction (held : Significand) (digit : Nat) : Significand :=
  if held.full ∨ significandLimit < held.digits * 10 + digit then { held with full := true }
  else { held with digits := held.digits * 10 + digit, exponent := held.exponent - 1 }

/-- A power of ten as the nearest binary64 number. -/
def powerOfTen (exponent : Nat) : Binary64 := Binary64.ofDecimal false 1 exponent

/-- Scale a nonnegative number by a power of ten. Powers beyond `10 ^ 308` are not
representable: a nonzero number is too large for them, or is divided by `10 ^ 308` until
the rest of the power is in reach. -/
def scale (number : Binary64) (exponent : Int) : Except Fault Binary64 :=
  if 0 ≤ exponent ∧ exponent ≤ 308 then
    let scaled := number.mul (powerOfTen exponent.toNat)
    if scaled.isFinite then .ok scaled else .error .numberOutOfRange
  else if exponent < 0 ∧ -308 ≤ exponent then
    .ok (number.div (powerOfTen (-exponent).toNat))
  else if number.magnitude = 0 then .ok number
  else if 0 ≤ exponent then .error .numberOutOfRange
  else scale (number.div (powerOfTen 308)) (exponent + 308)
termination_by (-exponent).toNat
decreasing_by omega

/-- The number of a sign, a significand and a decimal exponent. -/
def real (negative : Bool) (digits : Nat) (exponent : Int) : Except Fault Number :=
  (scale (Binary64.ofNat digits) exponent).map fun number =>
    .real (if negative then number.neg else number)

/-- The number of a sign and a significand that fits without an exponent. An integer below
the 64-bit range, and minus zero, become real. -/
def integer (negative : Bool) (digits : Nat) : Number :=
  if negative then
    if 0 < digits ∧ digits ≤ 1 <<< 63 then .negative (Int64.ofInt (-(digits : Int)))
    else .real (Binary64.ofNat digits).neg
  else .natural (UInt64.ofNat digits)

/-- The value of a numeral, which is out of range when it is beyond the largest binary64
number. -/
def number (numeral : Numeral) : Except Fault Number :=
  let whole := numeral.whole.foldl Significand.pushWhole ⟨0, 0, false⟩
  match numeral.fraction, numeral.exponent with
  | none, none =>
    if whole.full then real numeral.negative whole.digits whole.exponent
    else .ok (integer numeral.negative whole.digits)
  | fraction, exponent =>
    let held :=
      (fraction.getD []).foldl Significand.pushFraction { whole with full := false }
    match exponent with
    | none => real numeral.negative held.digits held.exponent
    | some (negativeExponent, digits) =>
      let size := digits.foldl (fun size digit => size * 10 + digit) 0
      if exponentLimit < size then
        if held.digits ≠ 0 ∧ ¬negativeExponent then .error .numberOutOfRange
        else real numeral.negative 0 0
      else
        real numeral.negative held.digits
          (if negativeExponent then held.exponent - size else held.exponent + size)

end Numeral

end Json

end Converge
