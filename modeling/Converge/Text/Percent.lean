/-!
# Percent encoding

Text as part of a web address. `percentEncode` keeps letters, digits and the four marks
`-`, `_`, `.`, `~` and writes every other byte of the text's UTF-8 form as `%` with two
upper-case hexadecimal digits. `formEncode` is the form of query values: it keeps `*`
instead of `~` and writes a blank as `+`.
-/

namespace Converge.Text

/-- An upper-case hexadecimal digit. -/
def upperHexDigit (digit : Nat) : Char :=
  if digit < 10 then Char.ofNat (48 + digit) else Char.ofNat (55 + digit)

/-- A byte as `%` and two hexadecimal digits. -/
def percentByte (byte : UInt8) : List Char :=
  ['%', upperHexDigit (byte.toNat / 16), upperHexDigit (byte.toNat % 16)]

/-- Whether a byte is an ASCII letter or digit. -/
def isAlphanumericByte (byte : UInt8) : Bool :=
  (48 ≤ byte && byte ≤ 57) || (65 ≤ byte && byte ≤ 90) || (97 ≤ byte && byte ≤ 122)

/-- Whether a byte stands for itself in a path segment: letters, digits, `-`, `.`, `_`
and `~`. -/
def isUnreserved (byte : UInt8) : Bool :=
  isAlphanumericByte byte || byte == 45 || byte == 46 || byte == 95 || byte == 126

/-- How a byte is written in a path segment. -/
def percentUnit (byte : UInt8) : List Char :=
  if isUnreserved byte then [Char.ofNat byte.toNat] else percentByte byte

/-- A text as a path segment. -/
def percentEncode (text : String) : List Char := text.toUTF8.toList.flatMap percentUnit

/-- How a byte is written in a query value. -/
def formUnit (byte : UInt8) : List Char :=
  if byte == 32 then ['+']
  else if isAlphanumericByte byte || byte == 42 || byte == 45 || byte == 46 || byte == 95 then
    [Char.ofNat byte.toNat]
  else percentByte byte

/-- A text as a query value. -/
def formEncode (text : String) : List Char := text.toUTF8.toList.flatMap formUnit

end Converge.Text
