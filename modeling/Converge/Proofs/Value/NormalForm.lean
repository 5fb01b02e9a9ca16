import Converge.Proofs.Value

/-!
# The normal form of values

A float is worth an exact dyadic number. In the normal form of a value, whatever is not finite
is null, whatever is worth an integer of 64 bits is that integer, and every other float is left
as it is; so equal normal forms are the same, NaN and both zeros included. Writing a value and
reading it again leads to its normal form, two values mean the same exactly when they have one
normal form, and a part of a value may be replaced by another one that means the same.
-/

namespace Converge

/-! ## What floats are worth -/

namespace Binary64

/-- What a finite number is worth, over its denominator. -/
def signedNumerator (number : Binary64) : Int :=
  if number.isNegative then -(number.numerator : Int) else number.numerator

/-- The number is finite and worth the integer. -/
def Denotes (number : Binary64) (value : Int) : Prop :=
  number.isFinite = true ∧ number.signedNumerator = value * number.denominator

theorem denominator_pos (number : Binary64) : 0 < number.denominator := by
  rw [denominator, Nat.shiftLeft_eq, Nat.one_mul]
  exact Nat.two_pow_pos _

theorem Denotes.toInt? {number : Binary64} {value : Int} (denotes : number.Denotes value) :
    number.toInt? = some value := by
  obtain ⟨finite, worth⟩ := denotes
  have positive := number.denominator_pos
  have magnitude : number.numerator = value.natAbs * number.denominator := by
    have absolute := congrArg Int.natAbs worth
    rw [Int.natAbs_mul, Int.natAbs_natCast] at absolute
    rw [← absolute, signedNumerator]
    split <;> simp
  have exact : number.numerator % number.denominator = 0 := by
    rw [magnitude, Nat.mul_mod_left]
  have quotient : number.numerator / number.denominator = value.natAbs := by
    rw [magnitude, Nat.mul_div_cancel _ positive]
  have signed : (if number.isNegative then -(value.natAbs : Int) else value.natAbs) *
      number.denominator = value * number.denominator := by
    rw [← worth, signedNumerator, magnitude]
    split
    · rw [Int.neg_mul, Int.natCast_mul]
    · rw [Int.natCast_mul]
  rw [Binary64.toInt?, if_pos ⟨finite, exact⟩, quotient]
  exact congrArg some (Int.eq_of_mul_eq_mul_right (by omega) signed)

theorem denotes_of_toInt? {number : Binary64} {value : Int} (found : number.toInt? = some value) :
    number.Denotes value := by
  rw [Binary64.toInt?] at found
  split at found
  · rename_i whole
    obtain ⟨finite, exact⟩ := whole
    refine ⟨finite, ?_⟩
    have split := Nat.div_mul_cancel (Nat.dvd_of_mod_eq_zero exact)
    rw [← Option.some.inj found, signedNumerator]
    split
    · rw [Int.neg_mul, ← Int.natCast_mul, split]
    · rw [← Int.natCast_mul, split]
  · cases found

theorem toInt?_eq_some_iff {number : Binary64} {value : Int} :
    number.toInt? = some value ↔ number.Denotes value :=
  ⟨denotes_of_toInt?, Denotes.toInt?⟩

/-- Both zeros are worth zero. -/
theorem denotes_zero {number : Binary64} (isZero : number.magnitude = 0) : number.Denotes 0 := by
  have exponent : number.biasedExponent = 0 := by
    rw [biasedExponent, isZero, Nat.zero_div]
  have nothing : number.numerator = 0 := by
    rw [numerator, significand, if_pos exponent, fraction, isZero, Nat.zero_mod, Nat.zero_shiftLeft]
  refine ⟨?_, ?_⟩
  · rw [isFinite, exponent]
    rfl
  · rw [signedNumerator, nothing]
    simp

end Binary64

namespace Value

theorem int64?_eq_some_iff {value : Int} {whole : Int64} :
    int64? value = some whole ↔ value = whole.toInt := by
  constructor
  · intro found
    rw [int64?] at found
    split at found
    · rename_i bounds
      rw [← Option.some.inj found]
      exact (Int64.toInt_ofInt_of_le bounds.1 (Int.lt_add_one_of_le bounds.2)).symm
    · cases found
  · rintro rfl
    exact int64?_toInt whole

theorem bind_int64?_eq_some_iff {number : Binary64} {whole : Int64} :
    number.toInt?.bind int64? = some whole ↔ number.Denotes whole.toInt := by
  rw [Option.bind_eq_some_iff]
  simp only [Binary64.toInt?_eq_some_iff, int64?_eq_some_iff]
  constructor
  · rintro ⟨value, denotes, rfl⟩
    exact denotes
  · intro denotes
    exact ⟨whole.toInt, denotes, rfl⟩

/-! ## Normal forms of floats -/

theorem normalizeFloat_infinite {number : Binary64} (infinite : number.isFinite = false) :
    normalizeFloat number = .null := by
  rw [normalizeFloat, infinite, if_neg (by simp)]

theorem normalizeFloat_whole {number : Binary64} {whole : Int64}
    (denotes : number.Denotes whole.toInt) : normalizeFloat number = .int whole := by
  rw [normalizeFloat, if_pos denotes.1, ofBinary64, bind_int64?_eq_some_iff.mpr denotes]

theorem normalizeFloat_other {number : Binary64} (finite : number.isFinite = true)
    (other : ∀ whole : Int64, ¬ number.Denotes whole.toInt) :
    normalizeFloat number = .float number := by
  rw [normalizeFloat, if_pos finite, ofBinary64]
  cases found : number.toInt?.bind int64? with
  | none => rfl
  | some whole => exact absurd (bind_int64?_eq_some_iff.mp found) (other whole)

/-- A normal form that equals a value is that value. -/
theorem eq_of_normalizeFloat_equal {number : Binary64} {other : Value}
    (same : (normalizeFloat number).equal other = true) : normalizeFloat number = other := by
  by_cases finite : number.isFinite = true
  · by_cases isWhole : ∃ whole : Int64, number.Denotes whole.toInt
    · obtain ⟨whole, denotes⟩ := isWhole
      rw [normalizeFloat_whole denotes] at same ⊢
      cases other <;> simp_all [equal]
    · rw [normalizeFloat_other finite (not_exists.mp isWhole)] at same ⊢
      cases other with
      | float found =>
          rw [equal, Binary64.equal_iff] at same
          rcases same.2.2 with rfl | ⟨isZero, _⟩
          · rfl
          · -- a zero is worth an integer
            exact absurd ⟨0, Binary64.denotes_zero isZero⟩ isWhole
      | _ => cases same
  · rw [normalizeFloat_infinite (by simpa using finite)] at same ⊢
    cases other <;> simp_all [equal]

/-! ## Normal forms that are equal -/

mutual

theorem eq_of_normalize_equal : {value other : Value} →
    value.normalize.equal other = true → value.normalize = other
  | .null, other, same => by cases other <;> simp_all [normalize, equal]
  | .bool _, other, same => by cases other <;> simp_all [normalize, equal]
  | .int _, other, same => by cases other <;> simp_all [normalize, equal]
  | .float _, other, same => by
      rw [normalize] at same ⊢
      exact eq_of_normalizeFloat_equal same
  | .text _, other, same => by cases other <;> simp_all [normalize, equal]
  | .list items, other, same => by
      cases other with
      | list others =>
          rw [normalize, equal] at same
          rw [normalize, eq_of_normalizeItems_equal same]
      | _ => simp [normalize, equal] at same
  | .map fields, other, same => by
      cases other with
      | map others =>
          rw [normalize, equal] at same
          rw [normalize, eq_of_normalizeFields_equal same]
      | _ => simp [normalize, equal] at same

theorem eq_of_normalizeItems_equal : {items others : List Value} →
    equalItems (normalizeItems items) others = true → normalizeItems items = others
  | [], [], _ => by rw [normalizeItems]
  | [], _ :: _, same => by simp [normalizeItems, equalItems] at same
  | _ :: _, [], same => by simp [normalizeItems, equalItems] at same
  | item :: items, other :: others, same => by
      rw [normalizeItems, equalItems, Bool.and_eq_true] at same
      rw [normalizeItems, eq_of_normalize_equal same.1, eq_of_normalizeItems_equal same.2]

theorem eq_of_normalizeFields_equal : {fields others : List (String × Value)} →
    equalFields (normalizeFields fields) others = true → normalizeFields fields = others
  | [], [], _ => by rw [normalizeFields]
  | [], _ :: _, same => by simp [normalizeFields, equalFields] at same
  | (_, _) :: _, [], same => by simp [normalizeFields, equalFields] at same
  | (key, value) :: fields, (otherKey, other) :: others, same => by
      rw [normalizeFields, equalFields, Bool.and_eq_true, Bool.and_eq_true, beq_iff_eq] at same
      obtain ⟨⟨rfl, sameValue⟩, sameFields⟩ := same
      rw [normalizeFields, eq_of_normalize_equal sameValue,
        eq_of_normalizeFields_equal sameFields]

end

/-- Two values mean the same exactly when they have one normal form. -/
theorem semanticallyEqual_iff {left right : Value} :
    left.semanticallyEqual right = true ↔ left.normalize = right.normalize := by
  rw [semanticallyEqual_eq]
  constructor
  · exact eq_of_normalize_equal
  · intro same
    rw [← same]
    exact normalize_equal_self left

/-! ## Places -/

theorem normalizeItems_eq_map (items : List Value) :
    normalizeItems items = items.map normalize := by
  induction items with
  | nil => rfl
  | cons item items ih => rw [normalizeItems, ih, List.map_cons]

theorem normalizeFields_eq_map (fields : List (String × Value)) :
    normalizeFields fields = fields.map fun field => (field.1, field.2.normalize) := by
  induction fields with
  | nil => rfl
  | cons field fields ih => rw [normalizeFields, ih, List.map_cons]

/-- A place inside a value: the value itself, or a place inside an item of a list or inside what
a map holds under a key, with everything that stands around it. -/
inductive Place where
  | here
  | item (before : List Value) (place : Place) (after : List Value)
  | field (before : List (String × Value)) (key : String) (place : Place)
      (after : List (String × Value))

/-- The value that has the given one at the place. -/
def Place.fill : Place → Value → Value
  | .here, value => value
  | .item before place after, value => .list (before ++ place.fill value :: after)
  | .field before key place after, value => .map (before ++ (key, place.fill value) :: after)

/-- What stands around a place does not tell one normal form from itself. -/
theorem Place.normalize_fill {left right : Value} (same : left.normalize = right.normalize)
    (place : Place) : (place.fill left).normalize = (place.fill right).normalize := by
  induction place with
  | here => exact same
  | item before place after ih =>
      rw [fill, fill, normalize, normalize, normalizeItems_eq_map, normalizeItems_eq_map,
        List.map_append, List.map_append, List.map_cons, List.map_cons, ih]
  | field before key place after ih =>
      rw [fill, fill, normalize, normalize, normalizeFields_eq_map, normalizeFields_eq_map,
        List.map_append, List.map_append, List.map_cons, List.map_cons, ih]

/-! ## The codec -/

/-- **Values come back in their normal form.** The normal form of a float that is not finite is
null, of one that is worth an integer of 64 bits that integer, and of any other the float itself.
A value comes back from its document in its normal form, which is its own; what has been read
from a document of finite numbers comes back as it was. Two values mean the same exactly when
their normal forms are one, so that this is an equivalence, and it is kept by whatever stands
around the two. -/
theorem codec_normal_form :
    (∀ number : Binary64,
      (number.isFinite = false → normalizeFloat number = .null) ∧
      (∀ whole : Int64, number.Denotes whole.toInt → normalizeFloat number = .int whole) ∧
      (number.isFinite = true → (∀ whole : Int64, ¬ number.Denotes whole.toInt) →
        normalizeFloat number = .float number)) ∧
    (∀ value : Value, decode value.encode = value.normalize) ∧
    (∀ value : Value, value.normalize.normalize = value.normalize) ∧
    (∀ document : Json, document.isFinite = true →
      decode (decode document).encode = decode document) ∧
    (∀ left right : Value,
      left.semanticallyEqual right = true ↔ left.normalize = right.normalize) ∧
    Equivalence (fun left right : Value => left.semanticallyEqual right = true) ∧
    ∀ (place : Place) (left right : Value), left.semanticallyEqual right = true →
      (place.fill left).semanticallyEqual (place.fill right) = true := by
  refine ⟨?_, decode_encode, normalize_normalize, ?_, ?_, ?_, ?_⟩
  · intro number
    exact ⟨normalizeFloat_infinite, fun _ => normalizeFloat_whole, normalizeFloat_other⟩
  · intro document finite
    rw [decode_encode, normalize_decode document finite]
  · exact fun _ _ => semanticallyEqual_iff
  · constructor
    · exact semanticallyEqual_self
    · intro left right same
      rwa [semanticallyEqual_symm]
    · exact semanticallyEqual_trans
  · intro place left right same
    rw [semanticallyEqual_iff] at same ⊢
    exact place.normalize_fill same

/-- The least integer of 64 bits as a float, a negative zero and an integer of more bits than 63,
and NaN under a key next to a float that is no integer. -/
theorem codec_normal_form_bounds :
    let least : Binary64 := ⟨0xC3E0000000000000⟩
    let nan : Binary64 := ⟨0x7FF8000000000000⟩
    let half : Binary64 := ⟨0x3FE0000000000000⟩
    let document : Json := .array [.number (.real least), .number (.real ⟨0x8000000000000000⟩),
      .number (.natural 0xFFFFFFFFFFFFFFFF)]
    let place : Place := .field [] "a" .here [("b", .float half)]
    normalizeFloat least = .int Int64.minValue ∧ normalizeFloat nan = .null ∧
      normalizeFloat half = .float half ∧
      decode (decode document).encode = decode document ∧
      (place.fill (.float nan)).semanticallyEqual (place.fill .null) = true := by
  intro least nan half document place
  obtain ⟨floats, _, _, documents, _, _, places⟩ := codec_normal_form
  have isLeast : least.Denotes Int64.minValue.toInt := ⟨by decide, by decide⟩
  have isFraction : ∀ whole : Int64, ¬ half.Denotes whole.toInt := by
    intro whole denotes
    have isNone : half.toInt? = none := by decide
    rw [denotes.toInt?] at isNone
    cases isNone
  exact ⟨(floats least).2.1 _ isLeast, (floats nan).1 (by decide),
    (floats half).2.2 (by decide) isFraction, documents document (by decide),
    places place (.float nan) .null (by decide)⟩

end Value

end Converge
