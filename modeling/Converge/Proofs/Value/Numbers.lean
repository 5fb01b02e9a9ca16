import Mathlib
import Converge.Proofs.Binary64.Worth

/-!
# Numbers of documents as values

The content of a document is the document with an exact number for each of its numbers. Reading
a document as a value and writing it back keeps the content, up to integers beyond those of 64
bits with a sign: these come back as the nearest binary floating-point words. A number that was
read is told by what it is worth, so that two documents are read as values that mean the same
exactly when their contents, with those integers rounded, are one.
-/

namespace Converge

namespace Json

/-! ## Content -/

/-- The exact number of a document number. -/
def Number.worth : Number → ℚ
  | .natural value => value.toNat
  | .negative value => value.toInt
  | .real value => value.worth

/-- What is kept of the exact number: an integer beyond those of 64 bits with a sign is
rounded. -/
def Number.kept : Number → ℚ
  | .natural value =>
    if value.toNat < Binary64.signUnit then value.toNat else (Binary64.ofNat value.toNat).worth
  | .negative value => value.toInt
  | .real value => value.worth

/-- What a document says, with exact numbers. -/
inductive Content where
  | null
  | bool (value : Bool)
  | number (value : ℚ)
  | string (value : String)
  | array (items : List Content)
  | object (fields : List (String × Content))

mutual

/-- The content of a document, given what its numbers are worth. -/
def content (worth : Number → ℚ) : Json → Content
  | .null => .null
  | .bool value => .bool value
  | .number value => .number (worth value)
  | .string value => .string value
  | .array items => .array (contentItems worth items)
  | .object fields => .object (contentFields worth fields)

def contentItems (worth : Number → ℚ) : List Json → List Content
  | [] => []
  | item :: items => item.content worth :: contentItems worth items

def contentFields (worth : Number → ℚ) : List (String × Json) → List (String × Content)
  | [] => []
  | (key, value) :: fields => (key, value.content worth) :: contentFields worth fields

end

theorem Number.kept_natural {value : UInt64} (large : Binary64.signUnit ≤ value.toNat) :
    (Number.natural value).kept = (Binary64.ofNat value.toNat).worth := by
  rw [kept, if_neg (Nat.not_lt.mpr large)]

/-- Other numbers are kept as they are. -/
theorem Number.kept_eq_worth {number : Number}
    (small : ∀ value, number = .natural value → value.toNat < Binary64.signUnit) :
    number.kept = number.worth := by
  cases number with
  | natural value => rw [kept, if_pos (small value rfl), worth]
  | negative value => rw [kept, worth]
  | real value => rw [kept, worth]

theorem Number.worth_ofInt64 (value : Int64) : (Number.ofInt64 value).worth = value.toInt := by
  rw [ofInt64]
  split
  · rw [worth]
  · rename_i notNegative
    rw [worth, ← Value.toNat_toUInt64 notNegative, Int.cast_natCast]

end Json

namespace Value

/-! ## Numbers that were read -/

/-- The value holds a number: as an integer wherever it is one of 64 bits, and else as a float
that is worth it. -/
inductive Held : Value → ℚ → Prop where
  | int (whole : Int64) : Held (.int whole) whole.toInt
  | float {number : Binary64} (finite : number.isFinite = true)
      (other : ∀ whole : Int64, ¬ number.Denotes whole.toInt) : Held (.float number) number.worth

theorem held_ofBinary64 {number : Binary64} (finite : number.isFinite = true) :
    Held (ofBinary64 number) number.worth := by
  have settled : normalizeFloat number = ofBinary64 number := by rw [normalizeFloat, if_pos finite]
  rw [← settled]
  by_cases isWhole : ∃ whole : Int64, number.Denotes whole.toInt
  · obtain ⟨whole, denotes⟩ := isWhole
    rw [normalizeFloat_whole denotes, (Binary64.worth_eq_iff finite).mpr denotes]
    exact .int whole
  · rw [normalizeFloat_other finite (not_exists.mp isWhole)]
    exact .float finite (not_exists.mp isWhole)

theorem held_ofNumber {number : Json.Number} (finite : (Json.number number).isFinite = true) :
    Held (ofNumber number) number.kept := by
  cases number with
  | natural value =>
      have sign : Binary64.signUnit = 9223372036854775808 := rfl
      have least : Int64.minValue.toInt = -9223372036854775808 := rfl
      have most : Int64.maxValue.toInt = 9223372036854775807 := rfl
      by_cases small : value.toNat < Binary64.signUnit
      · have fits : int64? value.toNat = some (.ofInt value.toNat) := by
          rw [int64?, if_pos (by omega)]
        have same : (value.toNat : Int) = (Int64.ofInt value.toNat).toInt :=
          int64?_eq_some_iff.mp fits
        have held := Held.int (.ofInt value.toNat)
        rw [← same, Int.cast_natCast] at held
        rw [ofNumber, fits, Json.Number.kept, if_pos small]
        exact held
      · have tooLarge : int64? value.toNat = none := by
          rw [int64?, if_neg (by omega)]
        have large : Binary64.signUnit ≤ value.toNat := Nat.not_lt.mp small
        rw [ofNumber, tooLarge, Json.Number.kept_natural large]
        exact held_ofBinary64 (Binary64.isFinite_ofNat large value.toNat_lt)
  | negative value => exact .int value
  | real value => exact held_ofBinary64 finite

/-- There is one way to hold a number. -/
theorem Held.unique {value other : Value} {number : ℚ} (held : Held value number)
    (alsoHeld : Held other number) : value = other := by
  cases held with
  | int whole =>
      generalize same : (whole.toInt : ℚ) = worth at alsoHeld
      cases alsoHeld with
      | int otherWhole => rw [Int64.toInt_inj.mp (Int.cast_injective same)]
      | float finite isOther =>
          exact absurd ((Binary64.worth_eq_iff finite).mp same.symm) (isOther whole)
  | @float word finite isOther =>
      generalize same : word.worth = worth at alsoHeld
      cases alsoHeld with
      | int whole => exact absurd ((Binary64.worth_eq_iff finite).mp same) (isOther whole)
      | float _ _ =>
          -- a zero is worth an integer
          have nonzero : word.magnitude ≠ 0 := fun isZero =>
            isOther 0 (Binary64.denotes_zero isZero)
          rw [Binary64.eq_of_worth nonzero same]

theorem Held.content_encode {value : Value} {number : ℚ} (held : Held value number) :
    value.encode.content Json.Number.worth = .number number := by
  cases held with
  | int whole => rw [encode, Json.ofInt64, Json.content, Json.Number.worth_ofInt64]
  | float finite _ => rw [encode, Json.ofBinary64, if_pos finite, Json.content, Json.Number.worth]

/-! ## Documents that were read -/

mutual

/-- The content of a document comes back from its value. -/
theorem content_encode_decode : (document : Json) → document.isFinite = true →
    (decode document).encode.content Json.Number.worth = document.content Json.Number.kept
  | .null, _ => by rw [decode, encode, Json.content, Json.content]
  | .bool _, _ => by rw [decode, encode, Json.content, Json.content]
  | .number _, finite => by
      rw [decode, (held_ofNumber finite).content_encode, Json.content]
  | .string _, _ => by rw [decode, encode, Json.content, Json.content]
  | .array items, finite => by
      rw [Json.isFinite] at finite
      rw [decode, encode, Json.content, Json.content, contentItems_encode_decode items finite]
  | .object fields, finite => by
      rw [Json.isFinite] at finite
      rw [decode, encode, Json.content, Json.content, contentFields_encode_decode fields finite]

theorem contentItems_encode_decode : (items : List Json) →
    Json.isFiniteItems items = true →
    Json.contentItems Json.Number.worth (encodeItems (decodeItems items)) =
      Json.contentItems Json.Number.kept items
  | [], _ => by rw [decodeItems, encodeItems, Json.contentItems, Json.contentItems]
  | item :: items, finite => by
      rw [Json.isFiniteItems, Bool.and_eq_true] at finite
      rw [decodeItems, encodeItems, Json.contentItems, Json.contentItems,
        content_encode_decode item finite.1, contentItems_encode_decode items finite.2]

theorem contentFields_encode_decode : (fields : List (String × Json)) →
    Json.isFiniteFields fields = true →
    Json.contentFields Json.Number.worth (encodeFields (decodeFields fields)) =
      Json.contentFields Json.Number.kept fields
  | [], _ => by rw [decodeFields, encodeFields, Json.contentFields, Json.contentFields]
  | (_, value) :: fields, finite => by
      rw [Json.isFiniteFields, Bool.and_eq_true] at finite
      rw [decodeFields, encodeFields, Json.contentFields, Json.contentFields,
        content_encode_decode value finite.1, contentFields_encode_decode fields finite.2]

end

mutual

/-- What is read from a document depends on the content that is kept of it. -/
theorem decode_eq_of_content : (document other : Json) → document.isFinite = true →
    other.isFinite = true →
    document.content Json.Number.kept = other.content Json.Number.kept →
    decode document = decode other
  | .null, other, _, _, same => by cases other <;> simp_all [Json.content, decode]
  | .bool _, other, _, _, same => by cases other <;> simp_all [Json.content, decode]
  | .number number, other, finite, otherFinite, same => by
      cases other with
      | number otherNumber =>
          rw [Json.content, Json.content, Json.Content.number.injEq] at same
          have held := held_ofNumber otherFinite
          rw [← same] at held
          rw [decode, decode, (held_ofNumber finite).unique held]
      | _ => simp [Json.content] at same
  | .string _, other, _, _, same => by cases other <;> simp_all [Json.content, decode]
  | .array items, other, finite, otherFinite, same => by
      cases other with
      | array others =>
          rw [Json.content, Json.content, Json.Content.array.injEq] at same
          rw [decode, decode, decodeItems_eq_of_content items others finite otherFinite same]
      | _ => simp [Json.content] at same
  | .object fields, other, finite, otherFinite, same => by
      cases other with
      | object others =>
          rw [Json.content, Json.content, Json.Content.object.injEq] at same
          rw [decode, decode, decodeFields_eq_of_content fields others finite otherFinite same]
      | _ => simp [Json.content] at same

theorem decodeItems_eq_of_content : (items others : List Json) →
    Json.isFiniteItems items = true → Json.isFiniteItems others = true →
    Json.contentItems Json.Number.kept items = Json.contentItems Json.Number.kept others →
    decodeItems items = decodeItems others
  | [], others, _, _, same => by cases others <;> simp_all [Json.contentItems]
  | item :: items, others, finite, otherFinite, same => by
      cases others with
      | nil => simp [Json.contentItems] at same
      | cons other others =>
          rw [Json.isFiniteItems, Bool.and_eq_true] at finite otherFinite
          rw [Json.contentItems, Json.contentItems, List.cons.injEq] at same
          rw [decodeItems, decodeItems,
            decode_eq_of_content item other finite.1 otherFinite.1 same.1,
            decodeItems_eq_of_content items others finite.2 otherFinite.2 same.2]

theorem decodeFields_eq_of_content : (fields others : List (String × Json)) →
    Json.isFiniteFields fields = true → Json.isFiniteFields others = true →
    Json.contentFields Json.Number.kept fields = Json.contentFields Json.Number.kept others →
    decodeFields fields = decodeFields others
  | [], others, _, _, same => by cases others <;> simp_all [Json.contentFields]
  | (key, value) :: fields, others, finite, otherFinite, same => by
      cases others with
      | nil => simp [Json.contentFields] at same
      | cons other others =>
          obtain ⟨otherKey, otherValue⟩ := other
          rw [Json.isFiniteFields, Bool.and_eq_true] at finite otherFinite
          rw [Json.contentFields, Json.contentFields, List.cons.injEq, Prod.mk.injEq] at same
          rw [decodeFields, decodeFields, same.1.1,
            decode_eq_of_content value otherValue finite.1 otherFinite.1 same.1.2,
            decodeFields_eq_of_content fields others finite.2 otherFinite.2 same.2]

end

/-- Two documents are read as values that mean the same exactly when the contents that are kept
of them are one. -/
theorem semanticallyEqual_decode_iff {document other : Json} (finite : document.isFinite = true)
    (otherFinite : other.isFinite = true) :
    (decode document).semanticallyEqual (decode other) = true ↔
      document.content Json.Number.kept = other.content Json.Number.kept := by
  rw [semanticallyEqual_iff, normalize_decode document finite, normalize_decode other otherFinite]
  constructor
  · intro same
    rw [← content_encode_decode document finite, same, content_encode_decode other otherFinite]
  · exact decode_eq_of_content document other finite otherFinite

end Value

end Converge
