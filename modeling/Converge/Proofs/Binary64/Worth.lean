import Mathlib
import Converge.Proofs.Value.NormalForm

/-!
# What binary floating-point words are worth

A finite word is worth a whole number of the smallest units there are. Of words with one sign the
one with the larger magnitude is worth more units, so that a word other than a zero is told by its
worth. A natural number of 64 bits with its leading bit set lies where words are worth multiples
of 2048, and is rounded to the nearest of them, of two to the one with the even significand.
-/

namespace Converge.Binary64

variable {number other : Binary64}

/-! ## Units -/

/-- The exact number that a finite word is worth. -/
def worth (number : Binary64) : ℚ := number.signedNumerator / number.denominator

/-- The magnitude in the smallest units. -/
def units (number : Binary64) : Nat := number.significand <<< (number.biasedExponent - 1)

/-- How many binary places the smallest unit is below one. -/
def unitPlaces : Nat := 1074

/-- How many of the smallest units make one. -/
def unitsOfOne : Nat := 1 <<< unitPlaces

theorem unitsOfOne_pos : (0 : ℚ) < unitsOfOne := by
  rw [unitsOfOne, Nat.shiftLeft_eq, Nat.one_mul]
  exact Nat.cast_pos.mpr (Nat.two_pow_pos _)

theorem numerator_mul (number : Binary64) :
    number.numerator * unitsOfOne = number.units * number.denominator := by
  have places : number.power.toNat + unitPlaces =
      number.biasedExponent - 1 + (-number.power).toNat := by
    rw [power, unitPlaces]
    split <;> omega
  rw [numerator, unitsOfOne, units, denominator, Nat.shiftLeft_eq, Nat.shiftLeft_eq,
    Nat.shiftLeft_eq, Nat.shiftLeft_eq, Nat.one_mul, Nat.one_mul, Nat.mul_assoc, Nat.mul_assoc,
    ← Nat.pow_add, ← Nat.pow_add, places]

/-- What a word is worth in the smallest units. -/
def signedUnits (number : Binary64) : Int :=
  if number.isNegative then -(number.units : Int) else number.units

theorem worth_eq (number : Binary64) : number.worth = number.signedUnits / unitsOfOne := by
  have positive : (0 : ℚ) < number.denominator := by exact_mod_cast number.denominator_pos
  have same : (number.numerator : ℚ) * unitsOfOne = number.units * number.denominator := by
    exact_mod_cast number.numerator_mul
  rw [worth, div_eq_div_iff positive.ne' unitsOfOne_pos.ne', signedNumerator, signedUnits]
  split <;> push_cast <;> linarith

theorem fraction_lt (number : Binary64) : number.fraction < exponentUnit :=
  Nat.mod_lt _ (by decide)

theorem magnitude_eq (number : Binary64) :
    number.magnitude = number.biasedExponent * exponentUnit + number.fraction := by
  rw [biasedExponent, fraction, Nat.div_add_mod']

theorem biasedExponent_of_magnitude {exponent digits : Nat}
    (bits : number.magnitude = exponent * exponentUnit + digits) (fits : digits < exponentUnit) :
    number.biasedExponent = exponent := by
  rw [biasedExponent, bits, Nat.add_comm, Nat.add_mul_div_right _ _ (by decide),
    Nat.div_eq_of_lt fits, Nat.zero_add]

theorem fraction_of_magnitude {exponent digits : Nat}
    (bits : number.magnitude = exponent * exponentUnit + digits) (fits : digits < exponentUnit) :
    number.fraction = digits := by
  rw [fraction, bits, Nat.mul_comm, Nat.mul_add_mod, Nat.mod_eq_of_lt fits]

/-- Words of one exponent stay below those of the next one. -/
theorem units_lt (number : Binary64) : number.units < exponentUnit <<< number.biasedExponent := by
  have below := number.fraction_lt
  rw [units, significand, Nat.shiftLeft_eq, Nat.shiftLeft_eq]
  split
  · rename_i subnormal
    rw [subnormal]
    omega
  · rename_i normal
    have next : 2 ^ number.biasedExponent = 2 * 2 ^ (number.biasedExponent - 1) := by
      rw [← Nat.pow_succ', Nat.succ_eq_add_one, Nat.sub_add_cancel (by omega)]
    rw [next, ← Nat.mul_assoc]
    exact Nat.mul_lt_mul_of_pos_right (by omega) (Nat.two_pow_pos _)

theorem le_units (normal : number.biasedExponent ≠ 0) :
    exponentUnit <<< (number.biasedExponent - 1) ≤ number.units := by
  rw [units, significand, if_neg normal, Nat.shiftLeft_eq, Nat.shiftLeft_eq]
  exact Nat.mul_le_mul_right _ (by omega)

/-- The larger magnitude is worth more. -/
theorem units_lt_units (less : number.magnitude < other.magnitude) :
    number.units < other.units := by
  have quotients : number.biasedExponent ≤ other.biasedExponent :=
    Nat.div_le_div_right (Nat.le_of_lt less)
  rcases Nat.lt_or_eq_of_le quotients with lower | same
  · calc number.units
        < exponentUnit <<< number.biasedExponent := number.units_lt
      _ ≤ exponentUnit <<< (other.biasedExponent - 1) := by
          rw [Nat.shiftLeft_eq, Nat.shiftLeft_eq]
          exact Nat.mul_le_mul_left _ (Nat.pow_le_pow_right (by decide) (by omega))
      _ ≤ other.units := le_units (by omega)
  · rw [magnitude_eq, magnitude_eq, same] at less
    rw [units, units, significand, significand, same, Nat.shiftLeft_eq, Nat.shiftLeft_eq]
    refine Nat.mul_lt_mul_of_pos_right ?_ (Nat.two_pow_pos _)
    split <;> omega

theorem magnitude_eq_of_units (same : number.units = other.units) :
    number.magnitude = other.magnitude := by
  rcases Nat.lt_trichotomy number.magnitude other.magnitude with less | equal | greater
  · exact absurd same (Nat.ne_of_lt (units_lt_units less))
  · exact equal
  · exact absurd same.symm (Nat.ne_of_lt (units_lt_units greater))

/-- A magnitude of nothing is worth nothing. -/
theorem units_pos (nonzero : number.magnitude ≠ 0) : 0 < number.units := by
  have zero : (⟨0⟩ : Binary64).units = 0 := by decide
  rw [← zero]
  exact units_lt_units (Nat.pos_of_ne_zero nonzero)

/-- The bits are the sign and the magnitude. -/
theorem toNat_bits (number : Binary64) :
    number.bits.toNat = (if number.isNegative then signUnit else 0) + number.magnitude := by
  have bound : number.bits.toNat < 2 * signUnit := number.bits.toNat_lt
  rw [isNegative, magnitude]
  by_cases negative : signUnit ≤ number.bits.toNat
  · rw [decide_eq_true negative, if_pos rfl, Nat.mod_eq_sub_mod negative,
      Nat.mod_eq_of_lt (by omega)]
    omega
  · rw [decide_eq_false negative, if_neg Bool.false_ne_true, Nat.mod_eq_of_lt (by omega),
      Nat.zero_add]

/-- A word other than a zero is told by its worth. -/
theorem eq_of_worth (nonzero : number.magnitude ≠ 0) (same : number.worth = other.worth) :
    number = other := by
  rw [worth_eq, worth_eq, div_left_inj' unitsOfOne_pos.ne', Int.cast_inj, signedUnits,
    signedUnits] at same
  have positive := units_pos nonzero
  have sameSign : number.isNegative = other.isNegative := by
    cases sign : number.isNegative <;> cases otherSign : other.isNegative <;>
      simp only [sign, otherSign, if_true, if_false, Bool.false_eq_true] at same ⊢ <;> omega
  have sameUnits : number.units = other.units := by
    rw [sameSign] at same
    split at same <;> omega
  have sameBits : number.bits.toNat = other.bits.toNat := by
    rw [toNat_bits, toNat_bits, sameSign, magnitude_eq_of_units sameUnits]
  calc number = ⟨number.bits⟩ := rfl
    _ = ⟨other.bits⟩ := by rw [UInt64.toNat_inj.mp sameBits]
    _ = other := rfl

theorem worth_eq_iff {value : Int} (finite : number.isFinite = true) :
    number.worth = value ↔ number.Denotes value := by
  have positive : (number.denominator : ℚ) ≠ 0 := by
    exact_mod_cast number.denominator_pos.ne'
  rw [worth, div_eq_iff positive, Denotes]
  constructor
  · intro same
    exact ⟨finite, by exact_mod_cast same⟩
  · rintro ⟨_, same⟩
    exact_mod_cast same

/-! ## The nearest word -/

/-- The word is the one nearest to a number, of two the one with the even significand. -/
def Nearest (number : Binary64) (value : ℚ) : Prop :=
  number.isFinite = true ∧ ∀ other : Binary64, other.isFinite = true →
    |number.worth - value| ≤ |other.worth - value| ∧
    (|number.worth - value| = |other.worth - value| →
      other.worth = number.worth ∨ number.significand % 2 = 0)

/-- From the exponent of one on, a significand is worth whole numbers. -/
theorem worth_of_le (large : 1075 ≤ number.biasedExponent) :
    number.worth = (if number.isNegative then -1 else 1) *
      (number.significand <<< (number.biasedExponent - 1075) : Nat) := by
  have place : number.power = (number.biasedExponent - 1075 : Nat) := by
    rw [power, if_neg (by omega)]
    omega
  have whole : number.denominator = 1 := by
    rw [denominator, place, Int.toNat_neg_natCast, Nat.shiftLeft_zero]
  have shifted : number.numerator = number.significand <<< (number.biasedExponent - 1075) := by
    rw [numerator, place, Int.toNat_natCast]
  rw [worth, signedNumerator, whole, shifted, Nat.cast_one, div_one]
  split
  · rw [Int.cast_neg, Int.cast_natCast, neg_one_mul]
  · rw [Int.cast_natCast, one_mul]

/-- Whatever is worth as much as a natural number with its leading bit at the 64th place is
worth a multiple of 2048. -/
theorem multiple_or_small (number : Binary64) :
    (∃ multiple : Int, number.worth = 2048 * multiple) ∨ number.worth < signUnit := by
  by_cases large : 1086 ≤ number.biasedExponent
  · left
    have places : number.biasedExponent - 1075 = number.biasedExponent - 1086 + 11 := by omega
    generalize factor : number.significand <<< (number.biasedExponent - 1086) = multiple
    refine ⟨(if number.isNegative then -1 else 1) * multiple, ?_⟩
    rw [worth_of_le (by omega), places, Nat.shiftLeft_add, factor, Nat.shiftLeft_eq]
    split <;> push_cast <;> ring
  · right
    have below : number.units < signUnit * unitsOfOne :=
      calc number.units
          < exponentUnit <<< number.biasedExponent := number.units_lt
        _ ≤ exponentUnit <<< (11 + unitPlaces) := by
            have places : number.biasedExponent ≤ 11 + unitPlaces := by
              rw [unitPlaces]
              omega
            rw [Nat.shiftLeft_eq, Nat.shiftLeft_eq]
            exact Nat.mul_le_mul_left _ (Nat.pow_le_pow_right (by decide) places)
        _ = signUnit * unitsOfOne := by
            have sign : exponentUnit <<< 11 = signUnit := rfl
            rw [Nat.shiftLeft_add, sign, unitsOfOne, Nat.shiftLeft_eq, Nat.shiftLeft_eq,
              Nat.one_mul]
    have signed : number.signedUnits < signUnit * unitsOfOne := by
      rw [signedUnits]
      split <;> omega
    rw [worth_eq, div_lt_iff₀ unitsOfOne_pos]
    exact_mod_cast signed

/-- Among the multiples of 2048 the rounded one is nearest. -/
theorem roundHalfEven_nearest (value : Nat) (multiple : Int) :
    (2048 * (roundHalfEven value 2048 : Int) - value).natAbs ≤
        (2048 * multiple - value).natAbs ∧
      ((2048 * (roundHalfEven value 2048 : Int) - value).natAbs =
          (2048 * multiple - value).natAbs →
        multiple = roundHalfEven value 2048 ∨ roundHalfEven value 2048 % 2 = 0) := by
  rw [roundHalfEven]
  split
  · omega
  · split <;> omega

theorem isNegative_ofNat {value : Nat} (fits : roundedMagnitude value 1 < signUnit) :
    (ofNat value).isNegative = false := by
  have small : roundedMagnitude value 1 < 2 ^ 64 := Nat.lt_trans fits (by decide)
  rw [isNegative, ofNat, ofRatio, if_neg Bool.false_ne_true, UInt64.toNat_ofNat',
    Nat.mod_eq_of_lt small]
  exact decide_eq_false (Nat.not_le.mpr fits)

/-- A natural number of 64 bits whose leading bit is set becomes the nearest multiple of 2048,
and the significand is even wherever the factor is. -/
theorem worth_ofNat {value : Nat} (low : signUnit ≤ value) (high : value < UInt64.size) :
    (ofNat value).worth = 2048 * roundHalfEven value 2048 ∧
      (roundHalfEven value 2048 % 2 = 0 → (ofNat value).significand % 2 = 0) := by
  have unit : exponentUnit = 4503599627370496 := rfl
  have sign : signUnit = 9223372036854775808 := rfl
  have size : UInt64.size = 18446744073709551616 := rfl
  have log : value.log2 = 63 := (Nat.log2_eq_iff (by omega)).mpr ⟨low, high⟩
  have least : exponentUnit ≤ roundHalfEven value 2048 := by
    rw [roundHalfEven]
    split
    · omega
    · split <;> omega
  have most := roundHalfEven_le value 2048
  have bits := roundedMagnitude_of_log2 log
  generalize roundHalfEven value 2048 = rounded at *
  have infinite : infiniteMagnitude = 2047 * exponentUnit := rfl
  rw [Nat.min_eq_left (by omega)] at bits
  have fits : roundedMagnitude value 1 < signUnit := by omega
  have magnitude := magnitude_ofNat fits
  have positive := isNegative_ofNat fits
  by_cases carried : rounded = 2 * exponentUnit
  · -- the carry runs into the exponent
    have fields : (ofNat value).magnitude = 1087 * exponentUnit + 0 := by omega
    have exponent := biasedExponent_of_magnitude fields (by decide)
    have digits : (ofNat value).significand = exponentUnit := by
      rw [significand, exponent, if_neg (by decide),
        fraction_of_magnitude fields (by decide), Nat.add_zero]
    rw [worth_of_le (by omega), positive, if_neg Bool.false_ne_true, exponent, digits, carried,
      unit, Nat.shiftLeft_eq]
    exact ⟨by norm_num, fun _ => rfl⟩
  · have fields : (ofNat value).magnitude =
        1086 * exponentUnit + (rounded - exponentUnit) := by omega
    have exponent := biasedExponent_of_magnitude fields (by omega)
    have digits : (ofNat value).significand = rounded := by
      rw [significand, exponent, if_neg (by decide),
        fraction_of_magnitude fields (by omega), Nat.add_sub_cancel' least]
    rw [worth_of_le (by omega), positive, if_neg Bool.false_ne_true, exponent, digits,
      Nat.shiftLeft_eq]
    refine ⟨?_, id⟩
    push_cast
    ring

/-- The distance of a multiple of 2048, as a natural number. -/
theorem abs_mul_sub (multiple : Int) (value : Nat) :
    |2048 * (multiple : ℚ) - value| = ((2048 * multiple - value).natAbs : ℚ) := by
  rw [Nat.cast_natAbs]
  push_cast
  rfl

theorem nearest_ofNat {value : Nat} (low : signUnit ≤ value) (high : value < UInt64.size) :
    (ofNat value).Nearest value := by
  obtain ⟨isRounded, even⟩ := worth_ofNat low high
  have distance := abs_mul_sub (roundHalfEven value 2048) value
  rw [Int.cast_natCast, ← isRounded] at distance
  refine ⟨isFinite_ofNat low high, fun other _ => ?_⟩
  rcases other.multiple_or_small with ⟨multiple, isMultiple⟩ | small
  · obtain ⟨nearest, tie⟩ := roundHalfEven_nearest value multiple
    rw [distance, isMultiple, abs_mul_sub]
    refine ⟨by exact_mod_cast nearest, fun same => ?_⟩
    rcases tie (by exact_mod_cast same) with rfl | isEven
    · rw [Int.cast_natCast]
      exact .inl isRounded.symm
    · exact .inr (even isEven)
  · -- the multiple between the two is nearer than the other word
    have between : (signUnit : ℚ) ≤ value := by exact_mod_cast low
    have whole : signUnit = 2048 * exponentUnit := rfl
    have sign : (signUnit : ℚ) = 2048 * (exponentUnit : Int) := by
      rw [whole]
      push_cast
      rfl
    have nearer : |(ofNat value).worth - value| < |other.worth - value| :=
      calc |(ofNat value).worth - value|
          ≤ |2048 * ((exponentUnit : Int) : ℚ) - value| := by
            rw [distance, abs_mul_sub]
            exact_mod_cast (roundHalfEven_nearest value exponentUnit).1
        _ = value - signUnit := by
            rw [← sign, abs_sub_comm, abs_of_nonneg (sub_nonneg.mpr between)]
        _ < value - other.worth := sub_lt_sub_left small _
        _ ≤ |other.worth - value| := by
            rw [abs_sub_comm]
            exact le_abs_self _
    exact ⟨nearer.le, fun same => absurd same nearer.ne⟩

end Converge.Binary64
