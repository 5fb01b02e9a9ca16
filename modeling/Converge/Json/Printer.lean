import Converge.Binary64.Layout
import Converge.Json

/-!
# Writing JSON text

`Json.render` writes a document without blanks and `Json.renderIndented` over several
lines, two blanks for each level. Members are written in the order in which the object
lists them.
-/

namespace Converge

namespace Json

/-! ## Strings -/

def hexDigit (value : Nat) : Char := (Nat.digitChar value)

/-- The written form of one character of a string. Only the quotation mark, the
backslash and the control characters are escaped. -/
def escapeChar (character : Char) : List Char :=
  match character with
  | '"' => ['\\', '"']
  | '\\' => ['\\', '\\']
  | '\n' => ['\\', 'n']
  | '\r' => ['\\', 'r']
  | '\t' => ['\\', 't']
  | character =>
    if character.toNat = 8 then ['\\', 'b']
    else if character.toNat = 12 then ['\\', 'f']
    else if character.toNat < 32 then
      ['\\', 'u', '0', '0', hexDigit (character.toNat / 16), hexDigit (character.toNat % 16)]
    else [character]

/-- A string between quotation marks. -/
def quote (text : String) : String :=
  String.ofList ('"' :: text.toList.flatMap escapeChar ++ ['"'])

/-! ## Numbers -/

/-- Numbers from `0.00001` up to `10 ^ 16` are written positionally, and others with a sign
before the exponent. -/
def realLayout : Binary64.Layout := ⟨-5, 15, true⟩

/-- The shortest text of a finite binary64 number. -/
def realText (value : Binary64) : String := realLayout.write value

def Number.text : Number → String
  | .natural value => toString value.toNat
  | .negative value => toString value.toInt
  | .real value => realText value

/-! ## Documents -/

mutual

/-- The document as one line without blanks. -/
def render : Json → String
  | .null => "null"
  | .bool true => "true"
  | .bool false => "false"
  | .number value => value.text
  | .string value => quote value
  | .array items => "[" ++ ",".intercalate (renderItems items) ++ "]"
  | .object fields => "\x7b" ++ ",".intercalate (renderFields fields) ++ "\x7d"

def renderItems : List Json → List String
  | [] => []
  | item :: items => item.render :: renderItems items

def renderFields : List (String × Json) → List String
  | [] => []
  | (key, value) :: fields => (quote key ++ ":" ++ value.render) :: renderFields fields

end

/-- The start of a line at the given depth. -/
def lineStart (depth : Nat) : String :=
  "\n" ++ String.ofList (List.replicate (2 * depth) ' ')

/-- Pieces between brackets, each on a line one level deeper; nothing between the brackets
when there is no piece. -/
def onLines (depth : Nat) (opening closing : String) : List String → String
  | [] => opening ++ closing
  | pieces =>
    opening ++ lineStart (depth + 1) ++ ("," ++ lineStart (depth + 1)).intercalate pieces
      ++ lineStart depth ++ closing

mutual

/-- The document with every item and member on a line of its own, at the given depth. -/
def renderAt : Json → Nat → String
  | .array items, depth => onLines depth "[" "]" (renderItemsAt items (depth + 1))
  | .object fields, depth => onLines depth "\x7b" "\x7d" (renderFieldsAt fields (depth + 1))
  | .null, _ => "null"
  | .bool true, _ => "true"
  | .bool false, _ => "false"
  | .number value, _ => value.text
  | .string value, _ => quote value

def renderItemsAt : List Json → Nat → List String
  | [], _ => []
  | item :: items, depth => item.renderAt depth :: renderItemsAt items depth

def renderFieldsAt : List (String × Json) → Nat → List String
  | [], _ => []
  | (key, value) :: fields, depth =>
    (quote key ++ ": " ++ value.renderAt depth) :: renderFieldsAt fields depth

end

/-- The document over several lines, two blanks for each level. -/
def renderIndented (document : Json) : String := document.renderAt 0

end Json

end Converge
