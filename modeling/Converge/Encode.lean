import Converge.Value

/-!
# Encoding types as documents

The counterpart of decoding. A type is written member by member, and what it is written as may
be refused: the members of a document are named by texts, so that a map has a document only
where each of its keys is a scalar. The first refusal ends the writing.
-/

namespace Converge.Encode

/-- Why a value has no document. -/
inductive Fault where
  /-- A key of a map is null, a list or a map itself. -/
  | keyNotText
deriving DecidableEq, Repr

def Fault.message : Fault → String
  | .keyNotText => "key must be a string"

/-- A writer of a type. -/
abbrev Encoder (α : Type) := α → Except Fault Json

variable {α κ : Type}

/-! ## Types -/

def text : Encoder String := fun value => .ok (.string value)

def int64 : Encoder Int64 := fun value => .ok (.ofInt64 value)

/-- A dynamic value, which is written as its document. -/
def dynamic : Encoder Value := fun value => .ok value.encode

def list (encode : Encoder α) : Encoder (List α) := fun values =>
  (values.mapM encode).map .array

/-! ## Members -/

/-- Members of an object, unless writing one of them was refused. -/
abbrev Members := Except Fault (List (String × Json))

/-- The name that a key stands for. -/
def keyText : Json → Except Fault String
  | .string text => .ok text
  | .bool value => .ok (if value then "true" else "false")
  | .number number => .ok number.text
  | .null | .array _ | .object _ => .error .keyNotText

/-- The entries of a map in turn, each key before its value. -/
def entries (key : Encoder κ) (value : Encoder α) (map : List (κ × α)) : Members :=
  map.mapM fun entry => do
    let name ← keyText (← key entry.1)
    let document ← value entry.2
    return (name, document)

/-- A dictionary as an object of its own. -/
def dictionary (value : Encoder α) : Encoder (Dictionary α) := fun values =>
  (entries text value values.entries).map .ofEntries

def field (name : String) (encode : Encoder α) (value : α) : Members :=
  (encode value).map fun document => [(name, document)]

/-- A field that is left out where there is no value. -/
def optional (name : String) (encode : Encoder α) : Option α → Members
  | some value => field name encode value
  | none => .ok []

/-- Members that are left out where the condition holds. -/
def omitIf (condition : Bool) (members : Members) : Members :=
  if condition then .ok [] else members

/-- Members in turn. -/
def together : List Members → Members
  | [] => .ok []
  | members :: rest => do return (← members) ++ (← together rest)

/-- The object of the given members. -/
def record (members : List Members) : Except Fault Json := (together members).map .ofEntries

end Converge.Encode
