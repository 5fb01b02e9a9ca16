import Converge.Binary64.Layout
import Converge.Text.Shown
import Converge.Value

/-!
# Values in messages

The form in which messages show a value: its kind, and what it holds in parentheses.
-/

namespace Converge

namespace Value

/-- Numbers from `0.0001` up to `10 ^ 16` are shown positionally, and others without a plus
sign before the exponent. -/
def floatLayout : Binary64.Layout := ⟨-4, 15, false⟩

/-- A float as it is shown. -/
def shownFloat (value : Binary64) : String :=
  if value.isFinite then floatLayout.write value
  else if value.isNaN then "NaN"
  else if value.isNegative then "-inf"
  else "inf"

mutual

/-- A value as it is shown. -/
def shown : Value → String
  | .null => "Null"
  | .bool true => "Bool(true)"
  | .bool false => "Bool(false)"
  | .int value => "Int(" ++ toString value.toInt ++ ")"
  | .float value => "Float(" ++ shownFloat value ++ ")"
  | .text value => "String(" ++ Text.quoted value ++ ")"
  | .list items => "List([" ++ ", ".intercalate (shownItems items) ++ "])"
  | .map fields => "Map(\x7b" ++ ", ".intercalate (shownEntries fields) ++ "\x7d)"

def shownItems : List Value → List String
  | [] => []
  | item :: items => item.shown :: shownItems items

/-- The entries of a map, each with its key in front. -/
def shownEntries : List (String × Value) → List String
  | [] => []
  | (key, value) :: fields => (Text.quoted key ++ ": " ++ value.shown) :: shownEntries fields

end

end Value

namespace Dictionary

/-- A dictionary of values as it is shown. -/
def shown (fields : Dictionary Value) : String :=
  "\x7b" ++ ", ".intercalate (Value.shownEntries fields.entries) ++ "\x7d"

end Dictionary

end Converge
