import Converge.Json.Token

/-!
# JSON text read up to its first fault

A `Reading` is the tree of a text as far as it goes: where the text has a fault, the
tree breaks off with it. Members keep the order and the repetitions of the text, numbers
and strings are kept as they are written. Whoever walks the tree in order therefore
meets faults and values in the order of the text, and may judge a value before a fault
behind it is noticed.

`Reading.document` is the plain way to walk it: it takes every value in, refuses
documents nested deeper than `nestingLimit`, and lets the last of several members with
one key count.
-/

namespace Converge

namespace Json

/-- A text as a tree that may break off. -/
inductive Reading where
  | null
  | bool (value : Bool)
  | number (value : Numeral)
  | string (value : Quoted)
  | array (items : List Reading) (stop : Option Fault)
  | object (fields : List (Quoted × Reading)) (stop : Option Fault)
  | broken (fault : Fault)

/-- A container whose end has not been read, with what it holds so far, last first. -/
inductive Reading.Frame where
  | array (items : List Reading)
  | object (fields : List (Quoted × Reading)) (key : Quoted)

namespace Reading

/-- The tree of a value in front of which the given containers have been opened, broken
off behind the value. -/
def breakOff (fault : Fault) (value : Reading) : List Frame → Reading
  | [] => value
  | .array items :: frames =>
    breakOff fault (.array (value :: items).reverse (some fault)) frames
  | .object fields key :: frames =>
    breakOff fault (.object ((key, value) :: fields).reverse (some fault)) frames

/-- Whether a token may open a value, and the fault if not. -/
def valueFault : List Token → Fault
  | [] => .endBeforeValue
  | .fault fault :: _ => fault
  | _ => .valueExpected

mutual

/-- Read a value. -/
def readValue (frames : List Frame) : List Token → Reading × Bool
  | .null :: rest => resume .null frames rest
  | .bool value :: rest => resume (.bool value) frames rest
  | .number value :: rest => resume (.number value) frames rest
  | .string value :: rest =>
    match value.broken with
    | some fault => (breakOff fault (.string value) frames, false)
    | none => resume (.string value) frames rest
  | .openList :: .closeList :: rest => resume (.array [] none) frames rest
  | .openList :: rest =>
    match rest with
    | [] => (breakOff .endInList (.array [] (some .endInList)) frames, false)
    | rest => readValue (.array [] :: frames) rest
  | .openObject :: .closeObject :: rest => resume (.object [] none) frames rest
  | .openObject :: .string key :: rest => readMember [] key frames rest
  | .openObject :: [] => (breakOff .endInObject (.object [] (some .endInObject)) frames, false)
  | .openObject :: _ => (breakOff .keyExpected (.object [] (some .keyExpected)) frames, false)
  | tokens => (breakOff (valueFault tokens) (.broken (valueFault tokens)) frames, false)

/-- Read the value of a member whose key has been read. -/
def readMember (fields : List (Quoted × Reading)) (key : Quoted) (frames : List Frame) :
    List Token → Reading × Bool
  | .colon :: rest =>
    match key.broken with
    | some fault => (breakOff fault (.broken fault) (.object fields key :: frames), false)
    | none => readValue (.object fields key :: frames) rest
  | rest =>
    let fault := key.broken.getD (if rest.isEmpty then .endInObject else .colonExpected)
    (breakOff fault (.broken fault) (.object fields key :: frames), false)

/-- Go on behind a value. The flag tells whether anything follows the whole document. -/
def resume (value : Reading) : List Frame → List Token → Reading × Bool
  | [], rest => (value, !rest.isEmpty)
  | .array items :: frames, .closeList :: rest =>
    resume (.array (value :: items).reverse none) frames rest
  | .array items :: frames, [.comma] =>
    (breakOff .endBeforeValue value (.array items :: frames), false)
  | .array items :: frames, .comma :: .closeList :: _ =>
    (breakOff .commaBeforeListEnd value (.array items :: frames), false)
  | .array items :: frames, .comma :: rest => readValue (.array (value :: items) :: frames) rest
  | .array items :: frames, [] => (breakOff .endInList value (.array items :: frames), false)
  | .array items :: frames, _ =>
    (breakOff .listSeparatorExpected value (.array items :: frames), false)
  | .object fields key :: frames, .closeObject :: rest =>
    resume (.object ((key, value) :: fields).reverse none) frames rest
  | .object fields key :: frames, .comma :: .string next :: rest =>
    readMember ((key, value) :: fields) next frames rest
  | .object fields key :: frames, [.comma] =>
    (breakOff .endBeforeKey value (.object fields key :: frames), false)
  | .object fields key :: frames, .comma :: .closeObject :: _ =>
    (breakOff .commaBeforeObjectEnd value (.object fields key :: frames), false)
  | .object fields key :: frames, .comma :: _ =>
    (breakOff .keyExpected value (.object fields key :: frames), false)
  | .object fields key :: frames, [] =>
    (breakOff .endInObject value (.object fields key :: frames), false)
  | .object fields key :: frames, _ =>
    (breakOff .objectSeparatorExpected value (.object fields key :: frames), false)

end

/-! ## Walking a reading -/

/-- How deep a document may be nested. -/
def nestingLimit : Nat := 127

mutual

/-- The fault that a reader meets who skips the value. Strings need not be well formed
inside, numbers need not be in range, and the nesting may be of any depth. -/
def skipFault? : Reading → Option Fault
  | .null | .bool _ | .number _ => none
  | .string value => value.broken
  | .array items stop => (skipItems? items).or stop
  | .object fields stop => (skipFields? fields).or stop
  | .broken fault => some fault

def skipItems? : List Reading → Option Fault
  | [] => none
  | item :: items => (skipFault? item).or (skipItems? items)

def skipFields? : List (Quoted × Reading) → Option Fault
  | [] => none
  | (key, value) :: fields => (key.broken.or (skipFault? value)).or (skipFields? fields)

end

/-- Go on unless a container breaks off here. -/
def orStop {α : Type} (stop : Option Fault) (result : α) : Except Fault α :=
  match stop with
  | some fault => .error fault
  | none => .ok result

mutual

/-- The document, with as many levels of nesting as are left. -/
def document (levels : Nat) : Reading → Except Fault Json
  | .null => .ok .null
  | .bool value => .ok (.bool value)
  | .number value => value.number.map .number
  | .string value => value.value.map fun characters => .string (String.ofList characters)
  | .array items stop =>
    if levels = 0 then .error .tooDeep
    else do
      let items ← documentItems (levels - 1) items
      orStop stop (.array items)
  | .object fields stop =>
    if levels = 0 then .error .tooDeep
    else do
      let fields ← documentFields (levels - 1) fields
      orStop stop (.ofEntries fields)
  | .broken fault => .error fault

def documentItems (levels : Nat) : List Reading → Except Fault (List Json)
  | [] => .ok []
  | item :: items => do
    let item ← document levels item
    return item :: (← documentItems levels items)

def documentFields (levels : Nat) :
    List (Quoted × Reading) → Except Fault (List (String × Json))
  | [] => .ok []
  | (key, value) :: fields => do
    let key ← key.value
    let value ← document levels value
    return (String.ofList key, value) :: (← documentFields levels fields)

end

end Reading

/-- A text read up to its first fault, and whether anything follows the document. -/
structure Text where
  root : Reading
  trailing : Bool

/-- Read a text. -/
def Text.ofString (text : String) : Text :=
  let (root, trailing) := Reading.readValue [] (tokens text.toList)
  ⟨root, trailing⟩

/-- The document of a text. -/
def parse (text : String) : Except Fault Json := do
  let text := Text.ofString text
  let document ← text.root.document Reading.nestingLimit
  if text.trailing then .error .trailingCharacters else return document

end Json

end Converge
