import Converge.Value

/-!
# Semantic equality of dynamic values

A value that is written to a document and read again comes back in its normal form, so
two values mean the same exactly when their normal forms are equal. Equality of values
follows the comparison of floats and is no equivalence by itself, since NaN equals
nothing; normal forms hold no NaN, and on them it is one. What is read from a document of
finite numbers is in its normal form already.
-/

namespace Converge

/-! ## Floats -/

namespace Binary64

theorem equal_symm (left right : Binary64) : left.equal right = right.equal left := by
  simp only [equal, Bool.beq_comm (a := left)]
  cases left.isNaN <;> cases right.isNaN <;> simp [Bool.and_comm]

theorem equal_iff {left right : Binary64} :
    left.equal right = true ↔ left.isNaN = false ∧ right.isNaN = false ∧
      (left = right ∨ left.magnitude = 0 ∧ right.magnitude = 0) := by
  simp [equal, and_assoc]

theorem equal_trans {left middle right : Binary64} (first : left.equal middle = true)
    (second : middle.equal right = true) : left.equal right = true := by
  rw [equal_iff] at *
  obtain ⟨leftNumber, _, leftSame⟩ := first
  obtain ⟨_, rightNumber, rightSame⟩ := second
  refine ⟨leftNumber, rightNumber, ?_⟩
  rcases leftSame with rfl | ⟨leftZero, middleZero⟩
  · exact rightSame
  · rcases rightSame with rfl | ⟨_, rightZero⟩
    · exact .inr ⟨leftZero, middleZero⟩
    · exact .inr ⟨leftZero, rightZero⟩

/-- A finite number is a number. -/
theorem isNaN_of_isFinite {number : Binary64} (finite : number.isFinite = true) :
    number.isNaN = false := by
  have quotient : number.magnitude / exponentUnit < 2047 := of_decide_eq_true finite
  have positive : 0 < exponentUnit := by decide
  have below : number.magnitude < 2047 * exponentUnit :=
    (Nat.div_lt_iff_lt_mul positive).mp quotient
  exact decide_eq_false (Nat.not_lt.mpr (Nat.le_of_lt below))

theorem roundHalfEven_le (numerator denominator : Nat) :
    roundHalfEven numerator denominator ≤ numerator / denominator + 1 := by
  simp only [roundHalfEven]
  split
  · omega
  · split <;> omega

/-- The last bit kept of a natural number with 64 bits is worth 2 ^ 11. -/
theorem roundedMagnitude_of_log2 {value : Nat} (log : value.log2 = 63) :
    roundedMagnitude value 1 =
      min (1085 * exponentUnit + roundHalfEven value 2048) infiniteMagnitude := by
  have notZero : value ≠ 0 := by
    rintro rfl
    cases log
  have low : 2 ^ 63 ≤ value := by
    rw [← log]
    exact Nat.log2_self_le notZero
  have leading : leadingPlace value 1 = 63 := by
    rw [leadingPlace, log]
    rfl
  have reached : ¬ value <<< (-(63 : Int)).toNat < 1 <<< (63 : Int).toNat := by
    simp only [Int.reduceNeg, Int.reduceToNat, Nat.shiftLeft_zero, Nat.reduceShiftLeft]
    omega
  have place : max ((63 : Int) - 52) (-1074) = 11 := by decide
  rw [roundedMagnitude, if_neg notZero]
  simp only [leading]
  rw [if_neg reached]
  simp only [place]
  rfl

theorem magnitude_ofNat {value : Nat} (fits : roundedMagnitude value 1 < signUnit) :
    (ofNat value).magnitude = roundedMagnitude value 1 := by
  have small : roundedMagnitude value 1 < 2 ^ 64 := Nat.lt_trans fits (by decide)
  simp only [magnitude, ofNat, ofRatio, Bool.false_eq_true, if_false, UInt64.toNat_ofNat']
  rw [Nat.mod_eq_of_lt small, Nat.mod_eq_of_lt fits]

/-- A natural number of 64 bits whose leading bit is set is far from overflow. -/
theorem isFinite_ofNat {value : Nat} (low : signUnit ≤ value) (high : value < UInt64.size) :
    (ofNat value).isFinite = true := by
  have unit : exponentUnit = 2 ^ 52 := rfl
  have sign : signUnit = 2 ^ 63 := rfl
  have size : UInt64.size = 2 ^ 64 := rfl
  have log : value.log2 = 63 := (Nat.log2_eq_iff (by omega)).mpr ⟨low, high⟩
  have units := roundHalfEven_le value 2048
  have below : roundedMagnitude value 1 < 2047 * exponentUnit := by
    rw [roundedMagnitude_of_log2 log]
    omega
  rw [isFinite, biasedExponent, magnitude_ofNat (by omega), decide_eq_true_eq]
  exact (Nat.div_lt_iff_lt_mul (by decide)).mpr below

end Binary64

namespace Value

/-! ## Equality -/

mutual

theorem equal_symm : (left right : Value) → left.equal right = right.equal left
  | .null, right => by cases right <;> simp [equal]
  | .bool _, right => by cases right <;> simp [equal, Bool.beq_comm]
  | .int _, right => by cases right <;> simp [equal, Bool.beq_comm]
  | .float left, right => by cases right <;> simp [equal, Binary64.equal_symm left]
  | .text _, right => by cases right <;> simp [equal, Bool.beq_comm]
  | .list items, right => by cases right <;> simp [equal, equalItems_symm items]
  | .map fields, right => by cases right <;> simp [equal, equalFields_symm fields]

theorem equalItems_symm :
    (left right : List Value) → equalItems left right = equalItems right left
  | [], right => by cases right <;> simp [equalItems]
  | item :: items, right => by
      cases right <;> simp [equalItems, equal_symm item, equalItems_symm items]

theorem equalFields_symm :
    (left right : List (String × Value)) → equalFields left right = equalFields right left
  | [], right => by cases right <;> simp [equalFields]
  | (key, value) :: fields, right => by
      cases right <;>
        simp [equalFields, equal_symm value, equalFields_symm fields, Bool.beq_comm (a := key)]

end

mutual

theorem equal_trans : (left middle right : Value) →
    left.equal middle = true → middle.equal right = true → left.equal right = true
  | .null, middle, right => by cases middle <;> cases right <;> simp [equal]
  | .bool _, middle, right => by cases middle <;> cases right <;> simp_all [equal]
  | .int _, middle, right => by cases middle <;> cases right <;> simp_all [equal]
  | .float _, middle, right => by
      cases middle <;> cases right <;> simp [equal]
      exact Binary64.equal_trans
  | .text _, middle, right => by cases middle <;> cases right <;> simp_all [equal]
  | .list items, middle, right => by
      cases middle <;> cases right <;> simp [equal]
      exact equalItems_trans items _ _
  | .map fields, middle, right => by
      cases middle <;> cases right <;> simp [equal]
      exact equalFields_trans fields _ _

theorem equalItems_trans : (left middle right : List Value) →
    equalItems left middle = true → equalItems middle right = true →
    equalItems left right = true
  | [], middle, right => by cases middle <;> cases right <;> simp [equalItems]
  | item :: items, middle, right => by
      cases middle <;> cases right <;> simp [equalItems]
      intro firstItem firstItems secondItem secondItems
      exact ⟨equal_trans item _ _ firstItem secondItem,
        equalItems_trans items _ _ firstItems secondItems⟩

theorem equalFields_trans : (left middle right : List (String × Value)) →
    equalFields left middle = true → equalFields middle right = true →
    equalFields left right = true
  | [], middle, right => by cases middle <;> cases right <;> simp [equalFields]
  | (_, value) :: fields, middle, right => by
      cases middle <;> cases right <;> simp [equalFields]
      intro firstKey firstValue firstFields secondKey secondValue secondFields
      exact ⟨⟨firstKey.trans secondKey, equal_trans value _ _ firstValue secondValue⟩,
        equalFields_trans fields _ _ firstFields secondFields⟩

end

theorem equalFields_eq_beq :
    (left right : List (String × Value)) → equalFields left right = (left == right)
  | [], [] => rfl
  | [], _ :: _ => rfl
  | _ :: _, [] => rfl
  | (_, _) :: fields, (_, _) :: others => congrArg _ (equalFields_eq_beq fields others)

/-- What equals something equals itself. -/
theorem beq_self_of_beq {left right : Dictionary Value} (same : (left == right) = true) :
    (right == right) = true := by
  change (left.entries == right.entries) = true at same
  change (right.entries == right.entries) = true
  rw [← equalFields_eq_beq] at same ⊢
  refine equalFields_trans _ _ _ ?_ same
  rw [equalFields_symm]
  exact same

/-! ## Documents -/

theorem int64?_toInt (value : Int64) : int64? value.toInt = some value := by
  rw [int64?, if_pos ⟨value.minValue_le_toInt, value.toInt_le⟩, Int64.ofInt_toInt]

theorem toNat_toUInt64 {value : Int64} (notNegative : ¬ value < 0) :
    (value.toUInt64.toNat : Int) = value.toInt := by
  have nonneg : 0 ≤ value := Int64.not_lt.mp notNegative
  rw [Int64.toNat_toUInt64_of_le nonneg]
  exact Int.toNat_of_nonneg (by simpa using Int64.le_iff_toInt_le.mp nonneg)

/-- An integer comes back from its document as itself. -/
theorem decode_ofInt64 (value : Int64) : decode (.ofInt64 value) = .int value := by
  rw [Json.ofInt64, Json.Number.ofInt64]
  by_cases negative : value < 0
  · rw [if_pos negative, decode, ofNumber]
  · rw [if_neg negative, decode, ofNumber, toNat_toUInt64 negative, int64?_toInt]

theorem decode_ofBinary64 (value : Binary64) :
    decode (.ofBinary64 value) = normalizeFloat value := by
  rw [Json.ofBinary64, normalizeFloat]
  split <;> simp [decode, ofNumber]

mutual

/-- A value comes back from its document in its normal form. -/
theorem decode_encode : (value : Value) → decode value.encode = value.normalize
  | .null => by simp [encode, decode, normalize]
  | .bool _ => by simp [encode, decode, normalize]
  | .int value => by rw [encode, decode_ofInt64, normalize]
  | .float value => by rw [encode, decode_ofBinary64, normalize]
  | .text _ => by simp [encode, decode, normalize]
  | .list items => by simp [encode, decode, normalize, decodeItems_encodeItems items]
  | .map fields => by simp [encode, decode, normalize, decodeFields_encodeFields fields]

theorem decodeItems_encodeItems :
    (items : List Value) → decodeItems (encodeItems items) = normalizeItems items
  | [] => by simp [encodeItems, decodeItems, normalizeItems]
  | item :: items => by
      simp [encodeItems, decodeItems, normalizeItems, decode_encode item,
        decodeItems_encodeItems items]

theorem decodeFields_encodeFields :
    (fields : List (String × Value)) →
      decodeFields (encodeFields fields) = normalizeFields fields
  | [] => by simp [encodeFields, decodeFields, normalizeFields]
  | (_, value) :: fields => by
      simp [encodeFields, decodeFields, normalizeFields, decode_encode value,
        decodeFields_encodeFields fields]

end

/-! ## Normal forms -/

/-- The normal form of a float is no NaN. -/
theorem normalizeFloat_equal_self (value : Binary64) :
    (normalizeFloat value).equal (normalizeFloat value) = true := by
  rw [normalizeFloat]
  split
  · rename_i finite
    rw [ofBinary64]
    split
    · simp [equal]
    · simp [equal, Binary64.equal_iff, Binary64.isNaN_of_isFinite finite]
  · simp [equal]

mutual

theorem normalize_equal_self : (value : Value) → value.normalize.equal value.normalize = true
  | .null => by simp [normalize, equal]
  | .bool _ => by simp [normalize, equal]
  | .int _ => by simp [normalize, equal]
  | .float value => by rw [normalize]; exact normalizeFloat_equal_self value
  | .text _ => by simp [normalize, equal]
  | .list items => by simp [normalize, equal, normalizeItems_equal_self items]
  | .map fields => by simp [normalize, equal, normalizeFields_equal_self fields]

theorem normalizeItems_equal_self :
    (items : List Value) → equalItems (normalizeItems items) (normalizeItems items) = true
  | [] => by simp [normalizeItems, equalItems]
  | item :: items => by
      simp [normalizeItems, equalItems, normalize_equal_self item,
        normalizeItems_equal_self items]

theorem normalizeFields_equal_self :
    (fields : List (String × Value)) →
      equalFields (normalizeFields fields) (normalizeFields fields) = true
  | [] => by simp [normalizeFields, equalFields]
  | (_, value) :: fields => by
      simp [normalizeFields, equalFields, normalize_equal_self value,
        normalizeFields_equal_self fields]

end

theorem normalize_normalizeFloat (value : Binary64) :
    (normalizeFloat value).normalize = normalizeFloat value := by
  by_cases finite : value.isFinite = true
  · have same : normalizeFloat value = ofBinary64 value := by rw [normalizeFloat, if_pos finite]
    rw [same, ofBinary64]
    cases whole : value.toInt?.bind int64? with
    | some whole => rw [normalize]
    | none =>
        dsimp only
        rw [normalize, same, ofBinary64, whole]
  · have gone : normalizeFloat value = .null := by rw [normalizeFloat, if_neg finite]
    rw [gone, normalize]

mutual

/-- A normal form is its own. -/
theorem normalize_normalize : (value : Value) → value.normalize.normalize = value.normalize
  | .null => by simp [normalize]
  | .bool _ => by simp [normalize]
  | .int _ => by simp [normalize]
  | .float value => by rw [normalize]; exact normalize_normalizeFloat value
  | .text _ => by simp [normalize]
  | .list items => by simp [normalize, normalizeItems_normalizeItems items]
  | .map fields => by simp [normalize, normalizeFields_normalizeFields fields]

theorem normalizeItems_normalizeItems :
    (items : List Value) → normalizeItems (normalizeItems items) = normalizeItems items
  | [] => by simp [normalizeItems]
  | item :: items => by
      simp [normalizeItems, normalize_normalize item, normalizeItems_normalizeItems items]

theorem normalizeFields_normalizeFields :
    (fields : List (String × Value)) →
      normalizeFields (normalizeFields fields) = normalizeFields fields
  | [] => by simp [normalizeFields]
  | (_, value) :: fields => by
      simp [normalizeFields, normalize_normalize value, normalizeFields_normalizeFields fields]

end

/-! ## Fields as a list -/

theorem encodeFields_eq_map (fields : List (String × Value)) :
    encodeFields fields = fields.map fun field => (field.1, field.2.encode) := by
  induction fields with
  | nil => rfl
  | cons field fields ih => rw [encodeFields, ih, List.map_cons]

theorem decodeFields_eq_map (fields : List (String × Json)) :
    decodeFields fields = fields.map fun field => (field.1, decode field.2) := by
  induction fields with
  | nil => rfl
  | cons field fields ih => rw [decodeFields, ih, List.map_cons]

/-! ## Semantic equality -/

theorem semanticallyEqual_eq (left right : Value) :
    left.semanticallyEqual right = left.normalize.equal right.normalize := by
  rw [semanticallyEqual, decode_encode, decode_encode]
  rfl

@[simp] theorem semanticallyEqual_self (value : Value) :
    value.semanticallyEqual value = true := by
  rw [semanticallyEqual_eq]
  exact normalize_equal_self value

theorem semanticallyEqual_symm (left right : Value) :
    left.semanticallyEqual right = right.semanticallyEqual left := by
  rw [semanticallyEqual_eq, semanticallyEqual_eq, equal_symm]

theorem semanticallyEqual_trans {left middle right : Value}
    (first : left.semanticallyEqual middle = true)
    (second : middle.semanticallyEqual right = true) :
    left.semanticallyEqual right = true := by
  rw [semanticallyEqual_eq] at *
  exact equal_trans _ _ _ first second

end Value

/-! ## Documents of finite numbers -/

namespace Json

mutual

/-- Whether all numbers of a document are finite, as those of every JSON text are. -/
def isFinite : Json → Bool
  | .number (.real value) => value.isFinite
  | .array items => isFiniteItems items
  | .object fields => isFiniteFields fields
  | _ => true

def isFiniteItems : List Json → Bool
  | [] => true
  | item :: items => item.isFinite && isFiniteItems items

def isFiniteFields : List (String × Json) → Bool
  | [] => true
  | (_, value) :: fields => value.isFinite && isFiniteFields fields

end

theorem isFiniteItems_iff {items : List Json} :
    isFiniteItems items = true ↔ ∀ item ∈ items, item.isFinite = true := by
  induction items with
  | nil => simp [isFiniteItems]
  | cons item items ih => simp [isFiniteItems, ih]

theorem isFiniteFields_iff {fields : List (String × Json)} :
    isFiniteFields fields = true ↔ ∀ field ∈ fields, field.2.isFinite = true := by
  induction fields with
  | nil => simp [isFiniteFields]
  | cons field fields ih => simp [isFiniteFields, ih]

end Json

namespace Value

theorem normalize_ofBinary64 {value : Binary64} (finite : value.isFinite = true) :
    (ofBinary64 value).normalize = ofBinary64 value := by
  have settled := normalize_normalizeFloat value
  rwa [normalizeFloat, if_pos finite] at settled

theorem normalize_ofNumber {number : Json.Number}
    (finite : (Json.number number).isFinite = true) :
    (ofNumber number).normalize = ofNumber number := by
  cases number with
  | natural value =>
      rw [ofNumber]
      cases whole : int64? value.toNat with
      | some small => rw [normalize]
      | none =>
          -- an integer that is none of 64 bits with a sign has its leading bit set
          have large : Binary64.signUnit ≤ value.toNat := by
            apply Nat.le_of_not_lt
            intro small
            have fits : Int64.minValue.toInt ≤ (value.toNat : Int) ∧
                (value.toNat : Int) ≤ Int64.maxValue.toInt := by
              have sign : Binary64.signUnit = 2 ^ 63 := rfl
              have least : Int64.minValue.toInt = -2 ^ 63 := rfl
              have most : Int64.maxValue.toInt = 2 ^ 63 - 1 := rfl
              omega
            rw [int64?, if_pos fits] at whole
            cases whole
          exact normalize_ofBinary64 (Binary64.isFinite_ofNat large value.toNat_lt)
  | negative value => rw [ofNumber, normalize]
  | real value =>
      rw [Json.isFinite] at finite
      exact normalize_ofBinary64 finite

mutual

/-- What is read from a document is in its normal form. -/
theorem normalize_decode : (document : Json) → document.isFinite = true →
    (decode document).normalize = decode document
  | .null, _ => by rw [decode, normalize]
  | .bool _, _ => by rw [decode, normalize]
  | .number _, finite => by rw [decode]; exact normalize_ofNumber finite
  | .string _, _ => by rw [decode, normalize]
  | .array items, finite => by
      rw [Json.isFinite] at finite
      rw [decode, normalize, normalizeItems_decodeItems items finite]
  | .object fields, finite => by
      rw [Json.isFinite] at finite
      rw [decode, normalize, normalizeFields_decodeFields fields finite]

theorem normalizeItems_decodeItems : (items : List Json) → Json.isFiniteItems items = true →
    normalizeItems (decodeItems items) = decodeItems items
  | [], _ => by rw [decodeItems, normalizeItems]
  | item :: items, finite => by
      rw [Json.isFiniteItems, Bool.and_eq_true] at finite
      rw [decodeItems, normalizeItems, normalize_decode item finite.1,
        normalizeItems_decodeItems items finite.2]

theorem normalizeFields_decodeFields : (fields : List (String × Json)) →
    Json.isFiniteFields fields = true →
    normalizeFields (decodeFields fields) = decodeFields fields
  | [], _ => by rw [decodeFields, normalizeFields]
  | (_, value) :: fields, finite => by
      rw [Json.isFiniteFields, Bool.and_eq_true] at finite
      rw [decodeFields, normalizeFields, normalize_decode value finite.1,
        normalizeFields_decodeFields fields finite.2]

end

/-! ## Values that may be absent -/

/-- What an optional value comes back as from its document: null says that there is none. -/
def returned (value : Option Value) : Option Value :=
  (value.map normalize).filter fun value => !value.isNull

theorem isNull_ofBinary64 (value : Binary64) : (ofBinary64 value).isNull = false := by
  rw [ofBinary64]
  split <;> rfl

/-- Only null is read as null. -/
theorem isNull_decode {document : Json} (notNull : document ≠ .null) :
    (decode document).isNull = false := by
  cases document with
  | null => exact absurd rfl notNull
  | number number =>
      rw [decode, ofNumber.eq_def]
      split
      · split
        · rfl
        · exact isNull_ofBinary64 _
      · rfl
      · exact isNull_ofBinary64 _
  | _ => rfl

theorem isNull_normalize {value : Value} :
    value.normalize.isNull = true ↔ value.encode = .null := by
  cases value with
  | float number =>
      rw [normalize, normalizeFloat, encode, Json.ofBinary64]
      split
      · rw [ofBinary64]
        split <;> simp [isNull]
      · simp [isNull]
  | _ => simp [normalize, encode, isNull, Json.ofInt64]

end Value

end Converge
