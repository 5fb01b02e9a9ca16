import Converge.Binary64
import Converge.Dictionary

/-!
# JSON documents

A document is a tree of JSON values. Its numbers come in three exact kinds, which is
how they are read: natural numbers and negative integers of 64 bits, and binary64
numbers for everything else. Objects list their members in key order; `Json.ofEntries`
builds one from members in any order.
-/

namespace Converge

/-- A number as a document holds it. The kinds do not overlap in what is read: an integer
that fits its 64 bits is never `real`. -/
inductive Json.Number where
  | natural (value : UInt64)
  | negative (value : Int64)
  | real (value : Binary64)
deriving DecidableEq, Repr

/-- A JSON document. -/
inductive Json where
  | null
  | bool (value : Bool)
  | number (value : Json.Number)
  | string (value : String)
  | array (items : List Json)
  | object (fields : List (String × Json))
deriving Repr, Inhabited

namespace Json

/-- The number that holds a 64-bit integer. -/
def Number.ofInt64 (value : Int64) : Number :=
  if value < 0 then .negative value else .natural value.toUInt64

/-- The number that holds a finite binary64 number; a number that is not finite has no
JSON form and leaves null. -/
def ofBinary64 (value : Binary64) : Json :=
  if value.isFinite then .number (.real value) else .null

def ofInt64 (value : Int64) : Json := .number (.ofInt64 value)

def ofUInt64 (value : UInt64) : Json := .number (.natural value)

/-- A count as a document number. -/
def ofNat (value : Nat) : Json := ofUInt64 (UInt64.ofNat value)

/-- The object with the given members, in key order; of members with one key the last
counts. -/
def ofEntries (entries : List (String × Json)) : Json :=
  .object (Entries.ofList entries)

/-- The object of a dictionary of documents. -/
def ofDictionary (dictionary : Dictionary Json) : Json := .object dictionary.entries

/-- A member that is left out where there is no value. -/
def member (key : String) (value : Option Json) : List (String × Json) :=
  match value with
  | some value => [(key, value)]
  | none => []

/-- The members of an object. -/
def members? : Json → Option (List (String × Json))
  | .object fields => some fields
  | _ => none

/-- The member of an object with the given key. -/
def member? (key : String) (document : Json) : Option Json :=
  document.members?.bind (Entries.find? key)

mutual

/-- Structural equality of documents. -/
def same : Json → Json → Bool
  | .null, .null => true
  | .bool left, .bool right => left == right
  | .number left, .number right => decide (left = right)
  | .string left, .string right => left == right
  | .array left, .array right => sameItems left right
  | .object left, .object right => sameFields left right
  | _, _ => false

def sameItems : List Json → List Json → Bool
  | [], [] => true
  | left :: lefts, right :: rights => left.same right && sameItems lefts rights
  | _, _ => false

def sameFields : List (String × Json) → List (String × Json) → Bool
  | [], [] => true
  | (leftKey, left) :: lefts, (rightKey, right) :: rights =>
    leftKey == rightKey && left.same right && sameFields lefts rights
  | _, _ => false

end

mutual

theorem same_eq_true_iff : (left right : Json) → (left.same right = true ↔ left = right)
  | .null, right => by cases right <;> simp [same]
  | .bool _, right => by cases right <;> simp [same]
  | .number _, right => by cases right <;> simp [same]
  | .string _, right => by cases right <;> simp [same]
  | .array items, right => by cases right <;> simp [same, sameItems_eq_true_iff items]
  | .object fields, right => by cases right <;> simp [same, sameFields_eq_true_iff fields]

theorem sameItems_eq_true_iff :
    (left right : List Json) → (sameItems left right = true ↔ left = right)
  | [], right => by cases right <;> simp [sameItems]
  | item :: items, right => by
    cases right <;> simp [sameItems, same_eq_true_iff item, sameItems_eq_true_iff items]

theorem sameFields_eq_true_iff :
    (left right : List (String × Json)) → (sameFields left right = true ↔ left = right)
  | [], right => by cases right <;> simp [sameFields]
  | (key, value) :: fields, right => by
    cases right <;>
      simp [sameFields, same_eq_true_iff value, sameFields_eq_true_iff fields, Prod.ext_iff]

end

instance : DecidableEq Json := fun left right =>
  decidable_of_iff (left.same right = true) (same_eq_true_iff left right)

end Json

end Converge
