import Converge.Decode.Document
import Converge.Json.Reading

/-!
# JSON texts as a source

A text is judged as it is read, so a value of the wrong type is reported before a fault
of the text behind it. Skipped values may be nested without limit; all others have as
many levels left as the cursor says.
-/

namespace Converge.Decode

/-- A place in a text, with the levels of nesting that are left. -/
structure Cursor where
  levels : Nat
  reading : Json.Reading

namespace Cursor

/-- The fault of a text for a reader who wants the value. -/
def stopped {α : Type} (fault : Json.Fault) : Except Fault α := .error (.broken .keep fault)

/-- The result of reading a piece of the text. -/
def ofReading {α : Type} (result : Except Json.Fault α) : Except Fault α :=
  result.mapError (.broken .keep)

/-- The fault of a value that is not of the expected type. -/
def mismatch {α : Type} (expected : String) : Json.Reading → Except Fault α
  | .null => .error (.unexpectedType .null expected)
  | .bool value => .error (.unexpectedType (.bool value) expected)
  | .number value => do
    let number ← ofReading value.number
    .error (.unexpectedType (.ofJson (.number number)) expected)
  | .string value => do
    let characters ← ofReading value.value
    .error (.unexpectedType (.text (String.ofList characters)) expected)
  | .array _ _ => .error (.unexpectedType .list expected)
  | .object _ _ => .error (.unexpectedType .map expected)
  | .broken fault => stopped fault

/-- Whether a level of nesting is left. -/
def enter (cursor : Cursor) : Except Fault Unit :=
  if cursor.levels = 0 then stopped .tooDeep else .ok ()

/-- The items of a list that is entered from the cursor. -/
def items (cursor : Cursor) (items : List Json.Reading) (stop : Option Json.Fault) :
    Run Cursor :=
  ⟨items.map fun reading => ⟨cursor.levels - 1, reading⟩, stop.map (.broken .keep)⟩

/-- The members of an object that is entered from the cursor, up to the first broken key. -/
def members (cursor : Cursor) (stop : Option Json.Fault) :
    List (Json.Quoted × Json.Reading) → Run (String × Cursor)
  | [] => ⟨[], stop.map (.broken .keep)⟩
  | (key, reading) :: rest =>
    match key.value with
    | .error fault => ⟨[], some (.broken .keep fault)⟩
    | .ok characters =>
      let run := members cursor stop rest
      { run with items := (String.ofList characters, ⟨cursor.levels - 1, reading⟩) :: run.items }

/-- The fault of ending a list behind `count` of its items. -/
def overrun (items : List Json.Reading) (stop : Option Json.Fault) (count : Nat) :
    Option Fault :=
  if count < items.length then some (.broken .keep .trailingCharacters)
  else
    match stop with
    | none => none
    | some .endInList => some (.broken .keep .endInList)
    | some .commaBeforeListEnd => some (.broken .keep .commaBeforeListEnd)
    | some _ => some (.broken .keep .trailingCharacters)

/-- What the name of a choice given as an object leads to: null and the end. -/
def choiceContent (stop : Option Json.Fault) :
    List (Json.Quoted × Json.Reading) → Except Fault Unit
  | (_, .null) :: rest =>
    match rest, stop with
    | [], none => .ok ()
    | [], some .endInObject => stopped .endInObject
    | _, _ => stopped .valueExpected
  | (_, reading) :: _ => mismatch "unit" reading
  | [] => .ok ()

end Cursor

instance : Source Cursor where
  text expected cursor :=
    match cursor.reading with
    | .string value => do
      let characters ← Cursor.ofReading value.value
      return String.ofList characters
    | other => Cursor.mismatch expected other
  bool cursor :=
    match cursor.reading with
    | .bool value => .ok value
    | other => Cursor.mismatch "a boolean" other
  int64 cursor :=
    match cursor.reading with
    | .number value => do signed64 (← Cursor.ofReading value.number)
    | other => Cursor.mismatch "i64" other
  uint64 cursor :=
    match cursor.reading with
    | .number value => do unsigned64 (← Cursor.ofReading value.number)
    | other => Cursor.mismatch "u64" other
  document cursor := Cursor.ofReading (cursor.reading.document cursor.levels)
  skip cursor :=
    match cursor.reading.skipFault? with
    | some fault => .error (.broken .skip fault)
    | none => .ok ()
  present? cursor :=
    match cursor.reading with
    | .null => .ok none
    | _ => .ok (some cursor)
  list cursor :=
    match cursor.reading with
    | .array items stop => do
      cursor.enter
      return cursor.items items stop
    | other => Cursor.mismatch "a sequence" other
  map cursor :=
    match cursor.reading with
    | .object fields stop => do
      cursor.enter
      return cursor.members stop fields
    | other => Cursor.mismatch "a map" other
  record expected cursor :=
    match cursor.reading with
    | .object fields stop => do
      cursor.enter
      return .named (cursor.members stop fields)
    | .array items stop => do
      cursor.enter
      return .positional (cursor.items items stop) (Cursor.overrun items stop)
    | other => Cursor.mismatch expected other
  choice select cursor :=
    match cursor.reading with
    | .string value => do select (String.ofList (← Cursor.ofReading value.value))
    | .object [] (some .endInObject) => Cursor.stopped .endBeforeValue
    | .object [] _ => Cursor.stopped .valueExpected
    | .object ((key, content) :: rest) stop => do
      cursor.enter
      let value ← select (String.ofList (← Cursor.ofReading key.value))
      Cursor.choiceContent stop ((key, content) :: rest)
      return value
    | .broken .endBeforeValue => Cursor.stopped .endBeforeValue
    | _ => Cursor.stopped .valueExpected

/-- Read a type from a text. -/
def ofText {α : Type} (decode : Decoder Cursor α) (text : String) : Except Fault α := do
  let text := Json.Text.ofString text
  let value ← decode ⟨Json.Reading.nestingLimit, text.root⟩
  if text.trailing then Cursor.stopped .trailingCharacters else return value

end Converge.Decode
