import Converge.Decode.Document
import Converge.Encode

/-!
# Dynamic values as a source

A dynamic value is read into a type, and a type is written as one, by way of the document.
-/

namespace Converge.Value

/-- Read a type from a dynamic value; `context` says in messages what was to be read. -/
def read {α : Type} (decode : Decode.Decoder Json α) (context : String) (value : Value) :
    Except ShapeError α :=
  (decode value.encode).mapError fun fault => .invalid context fault.message

/-- Write a type as a dynamic value; `context` says in messages what was to be written. -/
def write {α : Type} (encode : Encode.Encoder α) (context : String) (value : α) :
    Except ShapeError Value :=
  ((encode value).map decode).mapError fun fault => .invalid context fault.message

end Converge.Value
