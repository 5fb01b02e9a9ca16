/-!
# Faults of JSON text

A fault is the first place where a text stops being a document. A reader that wants a
value and a reader that skips one come to the same place, but word a few faults
differently, so the wording takes the reader's purpose.
-/

namespace Converge

namespace Json

/-- What a reader does with the value at hand. -/
inductive Purpose where
  | keep
  | skip
deriving DecidableEq, Repr

/-- Why a text is no document. -/
inductive Fault where
  /-- The text ends where a value has to come. -/
  | endBeforeValue
  | endInString
  | endInList
  | endInObject
  /-- The text ends behind a comma between members. -/
  | endBeforeKey
  /-- The text ends inside a number. -/
  | endInNumber
  | valueExpected
  /-- A word that starts like `null`, `true` or `false` and goes on differently. -/
  | literalExpected
  | colonExpected
  | listSeparatorExpected
  | objectSeparatorExpected
  | keyExpected
  | commaBeforeListEnd
  | commaBeforeObjectEnd
  | invalidNumber
  | numberOutOfRange
  | invalidEscape
  | controlCharacter
  /-- The second half of a surrogate pair without its first. -/
  | loneSurrogate
  /-- The first half of a surrogate pair without its second. -/
  | unpairedSurrogate
  | tooDeep
  | trailingCharacters
deriving DecidableEq, Repr

/-- The wording of a fault for a reader with the given purpose. -/
def Fault.message (purpose : Purpose) : Fault → String
  | .endBeforeValue => "EOF while parsing a value"
  | .endInString => "EOF while parsing a string"
  | .endInList => "EOF while parsing a list"
  | .endInObject => "EOF while parsing an object"
  | .endBeforeKey =>
    match purpose with
    | .keep => "EOF while parsing a value"
    | .skip => "EOF while parsing an object"
  | .endInNumber =>
    match purpose with
    | .keep => "EOF while parsing a value"
    | .skip => "invalid number"
  | .valueExpected => "expected value"
  | .literalExpected => "expected ident"
  | .colonExpected => "expected `:`"
  | .listSeparatorExpected => "expected `,` or `]`"
  | .objectSeparatorExpected => "expected `,` or `\x7d`"
  | .keyExpected => "key must be a string"
  | .commaBeforeListEnd =>
    match purpose with
    | .keep => "trailing comma"
    | .skip => "expected value"
  | .commaBeforeObjectEnd =>
    match purpose with
    | .keep => "trailing comma"
    | .skip => "key must be a string"
  | .invalidNumber => "invalid number"
  | .numberOutOfRange => "number out of range"
  | .invalidEscape => "invalid escape"
  | .controlCharacter => "control character (\\u0000-\\u001F) found while parsing a string"
  | .loneSurrogate => "lone leading surrogate in hex escape"
  | .unpairedSurrogate => "unexpected end of hex escape"
  | .tooDeep => "recursion limit exceeded"
  | .trailingCharacters => "trailing characters"

end Json

end Converge
