import Converge.Json.Printer

/-!
# Dynamic values

Configuration blobs and filter queries have no schema of their own; they are held as
dynamic values. `Value.decode` reads one from a document and `Value.encode` writes it
back. A number of a document whose value is an integer of 64 bits becomes `int`, however
it is spelled, so that `100.0` and `100` are one value; any other number becomes `float`.

`Value.normalize` is the form in which values come out of a document, and two values are
semantically equal when their documents decode to the same value.
-/

namespace Converge

/-- A value whose structure is not fixed by a schema. Maps list their entries in key
order. -/
inductive Value where
  | null
  | bool (value : Bool)
  | int (value : Int64)
  | float (value : Binary64)
  | text (value : String)
  | list (items : List Value)
  | map (fields : List (String × Value))
deriving Repr, Inhabited

/-- The shape of a dynamic value. -/
inductive Value.Kind where
  | null
  | bool
  | int
  | float
  | text
  | list
  | map
deriving DecidableEq, Repr

/-- What a kind is called in messages. -/
def Value.Kind.name : Value.Kind → String
  | .null => "null"
  | .bool => "bool"
  | .int => "integer"
  | .float => "number"
  | .text => "string"
  | .list => "list"
  | .map => "object"

/-- Why a dynamic value does not fit. -/
inductive ShapeError where
  /-- A field holds another kind of value. -/
  | unexpectedShape (field : String) (expected found : Value.Kind)
  /-- A field that the discriminator's value asks for is absent. -/
  | missingField (discriminator value field : String)
  | missingDiscriminator (field : String)
  | unknownDiscriminator (field value : String)
  /-- The typed form refuses the value. -/
  | invalid (context reason : String)
deriving DecidableEq, Repr

def ShapeError.message : ShapeError → String
  | .unexpectedShape field expected found =>
    field ++ ": expected " ++ expected.name ++ ", found " ++ found.name
  | .missingField discriminator value field =>
    discriminator ++ " '" ++ value ++ "': missing required field '" ++ field ++ "'"
  | .missingDiscriminator field => "missing discriminator field '" ++ field ++ "'"
  | .unknownDiscriminator field value => "unsupported " ++ field ++ " '" ++ value ++ "'"
  | .invalid context reason => "invalid " ++ context ++ ": " ++ reason

namespace Value

/-! ## Views -/

def kind : Value → Kind
  | .null => .null
  | .bool _ => .bool
  | .int _ => .int
  | .float _ => .float
  | .text _ => .text
  | .list _ => .list
  | .map _ => .map

def isNull : Value → Bool
  | .null => true
  | _ => false

def asText? : Value → Option String
  | .text value => some value
  | _ => none

def asList? : Value → Option (List Value)
  | .list items => some items
  | _ => none

/-- The entries of a map, in key order. -/
def asMap? : Value → Option (Dictionary Value)
  | .map fields => some (.ofList fields)
  | _ => none

/-- The map of a dictionary. -/
def ofDictionary (dictionary : Dictionary Value) : Value := .map dictionary.entries

/-- The entries of a map; any other value is not what `field` asks for. -/
def expectMap (field : String) (value : Value) : Except ShapeError (Dictionary Value) :=
  match value.asMap? with
  | some fields => .ok fields
  | none => .error (.unexpectedShape field .map value.kind)

/-! ## Equality -/

mutual

/-- Equality of values, in which floats compare as numbers do: NaN equals nothing. -/
def equal : Value → Value → Bool
  | .null, .null => true
  | .bool left, .bool right => left == right
  | .int left, .int right => left == right
  | .float left, .float right => left.equal right
  | .text left, .text right => left == right
  | .list left, .list right => equalItems left right
  | .map left, .map right => equalFields left right
  | _, _ => false

def equalItems : List Value → List Value → Bool
  | [], [] => true
  | left :: lefts, right :: rights => left.equal right && equalItems lefts rights
  | _, _ => false

def equalFields : List (String × Value) → List (String × Value) → Bool
  | [], [] => true
  | (leftKey, left) :: lefts, (rightKey, right) :: rights =>
    leftKey == rightKey && left.equal right && equalFields lefts rights
  | _, _ => false

end

instance : BEq Value := ⟨equal⟩

/-! ## Documents -/

/-- The integer of 64 bits that a number denotes, where it denotes one. -/
def int64? (value : Int) : Option Int64 :=
  if Int64.minValue.toInt ≤ value ∧ value ≤ Int64.maxValue.toInt then some (.ofInt value) else none

/-- A float as a value: an integer where it is one of 64 bits. -/
def ofBinary64 (value : Binary64) : Value :=
  match value.toInt?.bind int64? with
  | some value => .int value
  | none => .float value

/-- A number of a document as a value. -/
def ofNumber : Json.Number → Value
  | .natural value =>
    match int64? value.toNat with
    | some value => .int value
    | none => .ofBinary64 (Binary64.ofNat value.toNat)
  | .negative value => .int value
  | .real value => .ofBinary64 value

mutual

/-- The value of a document. -/
def decode : Json → Value
  | .null => .null
  | .bool value => .bool value
  | .number value => .ofNumber value
  | .string value => .text value
  | .array items => .list (decodeItems items)
  | .object fields => .map (decodeFields fields)

def decodeItems : List Json → List Value
  | [] => []
  | item :: items => decode item :: decodeItems items

def decodeFields : List (String × Json) → List (String × Value)
  | [] => []
  | (key, value) :: fields => (key, decode value) :: decodeFields fields

end

mutual

/-- The document of a value. A float that is not finite has no written form and becomes
null. -/
def encode : Value → Json
  | .null => .null
  | .bool value => .bool value
  | .int value => .ofInt64 value
  | .float value => .ofBinary64 value
  | .text value => .string value
  | .list items => .array (encodeItems items)
  | .map fields => .object (encodeFields fields)

def encodeItems : List Value → List Json
  | [] => []
  | item :: items => encode item :: encodeItems items

def encodeFields : List (String × Value) → List (String × Json)
  | [] => []
  | (key, value) :: fields => (key, encode value) :: encodeFields fields

end

/-- The text of a value's document. -/
def render (value : Value) : String := value.encode.render

/-- A float as it comes back from a document: an integer of 64 bits is `int`, and what is
not finite is null. -/
def normalizeFloat (value : Binary64) : Value :=
  if value.isFinite then .ofBinary64 value else .null

mutual

/-- The value in the form in which values come out of a document. -/
def normalize : Value → Value
  | .null => .null
  | .bool value => .bool value
  | .int value => .int value
  | .float value => normalizeFloat value
  | .text value => .text value
  | .list items => .list (normalizeItems items)
  | .map fields => .map (normalizeFields fields)

def normalizeItems : List Value → List Value
  | [] => []
  | item :: items => normalize item :: normalizeItems items

def normalizeFields : List (String × Value) → List (String × Value)
  | [] => []
  | (key, value) :: fields => (key, normalize value) :: normalizeFields fields

end

/-- Whether two values have documents that decode to the same value. -/
def semanticallyEqual (left right : Value) : Bool :=
  decode left.encode == decode right.encode

/-! ## Groups of keys -/

/-- Only the entries with an allowed key. -/
def sanitize (fields : Dictionary Value) (allowed : List String) : Dictionary Value :=
  fields.filterKeys (allowed.contains ·)

/-- Two groups of declared keys out of one flat object; keys declared in neither group are
dropped. -/
def partition (fields : Dictionary Value) (first second : List String) :
    Dictionary Value × Dictionary Value :=
  (sanitize fields first, sanitize fields second)

end Value

end Converge
