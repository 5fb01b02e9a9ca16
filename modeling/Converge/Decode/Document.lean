import Converge.Decode

/-!
# Document trees as a source

A document has been read already, so nothing in it breaks off: its members come in key
order and each once.
-/

namespace Converge.Decode

/-- What a document holds. -/
def Found.ofJson : Json → Found
  | .null => .null
  | .bool value => .bool value
  | .number (.natural value) => .integer value.toNat
  | .number (.negative value) => .integer value.toInt
  | .number (.real value) => .real value
  | .string value => .text value
  | .array _ => .list
  | .object _ => .map

/-- Members or items that are all there. -/
def Run.whole {α : Type} (items : List α) : Run α := ⟨items, none⟩

/-- The whole number of a document number. -/
def wholeNumber? : Json.Number → Option Int
  | .natural value => some value.toNat
  | .negative value => some value.toInt
  | .real _ => none

/-- A whole number within bounds, both included. -/
def bounded (first last : Int) (expected : String) (number : Json.Number) : Except Fault Int :=
  match wholeNumber? number with
  | some value =>
    if first ≤ value ∧ value ≤ last then .ok value
    else .error (.unexpectedValue (.integer value) expected)
  | none => .error (.unexpectedType (Found.ofJson (.number number)) expected)

/-- A signed number of 64 bits. -/
def signed64 (number : Json.Number) : Except Fault Int64 :=
  (bounded Int64.minValue.toInt Int64.maxValue.toInt "i64" number).map Int64.ofInt

/-- An unsigned number of 64 bits. -/
def unsigned64 (number : Json.Number) : Except Fault UInt64 :=
  (bounded 0 (UInt64.size - 1) "u64" number).map fun value => UInt64.ofNat value.toNat

instance : Source Json where
  text expected
    | .string value => .ok value
    | other => .error (.unexpectedType (.ofJson other) expected)
  bool
    | .bool value => .ok value
    | other => .error (.unexpectedType (.ofJson other) "a boolean")
  int64
    | .number value => signed64 value
    | other => .error (.unexpectedType (.ofJson other) "i64")
  uint64
    | .number value => unsigned64 value
    | other => .error (.unexpectedType (.ofJson other) "u64")
  document := .ok
  skip _ := .ok ()
  present?
    | .null => .ok none
    | other => .ok (some other)
  list
    | .array items => .ok (.whole items)
    | other => .error (.unexpectedType (.ofJson other) "a sequence")
  map
    | .object fields => .ok (.whole fields)
    | other => .error (.unexpectedType (.ofJson other) "a map")
  record expected
    | .object fields => .ok (.named (.whole fields))
    | .array items => .ok (.positional (.whole items) fun count =>
        if count < items.length then
          some (.wrongLength items.length "fewer elements in array")
        else none)
    | other => .error (.unexpectedType (.ofJson other) expected)
  choice select
    | .string name => select name
    | .object [(name, content)] => do
      let value ← select name
      match content with
      | .null => .ok value
      | other => .error (.unexpectedType (.ofJson other) "unit")
    | .object _ => .error (.unexpectedValue .map "map with a single key")
    | other => .error (.unexpectedType (.ofJson other) "string or map")

/-- Read a type from a document. -/
def ofDocument {α : Type} (decode : Decoder Json α) (source : Json) : Except Fault α :=
  decode source

end Converge.Decode
