import Converge.Json
import Converge.Json.Fault
import Converge.Json.Printer
import Converge.Text.Quoted
import Converge.Timestamp
import Converge.Value

/-!
# Decoding documents into types

A type is read from whatever can be a `Source`: a document tree, a text that is still to
be read, a node of a configuration file. The source knows how each shape is looked up in
it; what the fields of a type are is said once, by `Fields`, for all sources.

The members of a record are judged in the order in which the source gives them, and only
then are absent fields looked at, in the order of their declaration. Unknown members are
skipped. A record may also be given as a list of its fields in the order of their
declaration.
-/

namespace Converge.Decode

/-- What a source holds, as far as messages tell. -/
inductive Found where
  | null
  | bool (value : Bool)
  | integer (value : Int)
  | real (value : Binary64)
  | text (value : String)
  | list
  | map
deriving DecidableEq, Repr

def Found.describe : Found → String
  | .null => "null"
  | .bool value => "boolean `" ++ (if value then "true" else "false") ++ "`"
  | .integer value => "integer `" ++ toString value ++ "`"
  | .real value => "floating point `" ++ Json.realText value ++ "`"
  | .text value => "string " ++ Text.quoted value
  | .list => "sequence"
  | .map => "map"

/-- Why a source does not hold a value of a type. -/
inductive Fault where
  | missingField (name : String)
  | duplicateField (name : String)
  | unexpectedType (found : Found) (expected : String)
  | unexpectedValue (found : Found) (expected : String)
  | wrongLength (length : Nat) (expected : String)
  | unknownChoice (name : String) (known : List String)
  | timestamp (fault : Timestamp.Fault)
  /-- The text breaks off for a reader with the given purpose. -/
  | broken (purpose : Json.Purpose) (fault : Json.Fault)
deriving DecidableEq, Repr

/-- How the known names of a choice are listed. -/
def listChoices : List String → String
  | [] => "there are no variants"
  | [name] => "expected `" ++ name ++ "`"
  | [first, second] => "expected `" ++ first ++ "` or `" ++ second ++ "`"
  | names => "expected one of " ++ ", ".intercalate (names.map fun name => "`" ++ name ++ "`")

def Fault.message : Fault → String
  | .missingField name => "missing field `" ++ name ++ "`"
  | .duplicateField name => "duplicate field `" ++ name ++ "`"
  | .unexpectedType found expected =>
    "invalid type: " ++ found.describe ++ ", expected " ++ expected
  | .unexpectedValue found expected =>
    "invalid value: " ++ found.describe ++ ", expected " ++ expected
  | .wrongLength length expected =>
    "invalid length " ++ toString length ++ ", expected " ++ expected
  | .unknownChoice name known => "unknown variant `" ++ name ++ "`, " ++ listChoices known
  | .timestamp fault => fault.message
  | .broken purpose fault => fault.message purpose

/-- Items in the order in which a source gives them, up to a fault if there is one. -/
structure Run (α : Type) where
  items : List α
  stop : Option Fault

/-- The items, unless the run breaks off. -/
def Run.finish {α : Type} (run : Run α) : Except Fault Unit :=
  match run.stop with
  | some fault => .error fault
  | none => .ok ()

/-- The members of a record as a source gives them. -/
inductive Members (σ : Type) where
  | named (members : Run (String × σ))
  /-- A list of fields; `overrun` is the fault of ending behind so many of them. -/
  | positional (items : Run σ) (overrun : Nat → Option Fault)

/-- What values of types can be read from. -/
class Source (σ : Type) where
  text : (expected : String) → σ → Except Fault String
  bool : σ → Except Fault Bool
  int64 : σ → Except Fault Int64
  uint64 : σ → Except Fault UInt64
  /-- Anything, as a document. -/
  document : σ → Except Fault Json
  /-- Pass over anything. -/
  skip : σ → Except Fault Unit
  /-- Nothing where the source holds null. -/
  present? : σ → Except Fault (Option σ)
  list : σ → Except Fault (Run σ)
  map : σ → Except Fault (Run (String × σ))
  record : (expected : String) → σ → Except Fault (Members σ)
  /-- A name out of a closed set, with the value that the name selects. -/
  choice : {α : Type} → (select : String → Except Fault α) → σ → Except Fault α

variable {σ α β : Type} [Source σ]

/-- A reader of a type. -/
abbrev Decoder (σ α : Type) := σ → Except Fault α

/-- Read each item. -/
def each (decode : σ → Except Fault α) : List σ → Except Fault (List α)
  | [] => .ok []
  | item :: items =>
    match decode item with
    | .error fault => .error fault
    | .ok value =>
      match each decode items with
      | .error fault => .error fault
      | .ok values => .ok (value :: values)

/-- Read each member. -/
def eachMember (decode : σ → Except Fault α) :
    List (String × σ) → Except Fault (List (String × α))
  | [] => .ok []
  | (key, item) :: items =>
    match decode item with
    | .error fault => .error fault
    | .ok value =>
      match eachMember decode items with
      | .error fault => .error fault
      | .ok values => .ok ((key, value) :: values)

/-! ## Types -/

def text : Decoder σ String := Source.text "a string"

def bool : Decoder σ Bool := Source.bool

def int64 : Decoder σ Int64 := Source.int64

def uint64 : Decoder σ UInt64 := Source.uint64

def document : Decoder σ Json := Source.document

/-- Anything, as a dynamic value. -/
def dynamic : Decoder σ Value := fun source => (document source).map Value.decode

/-- A value, or null for none. -/
def optional (decode : Decoder σ α) : Decoder σ (Option α) := fun source =>
  match Source.present? source with
  | .error fault => .error fault
  | .ok none => .ok none
  | .ok (some source) => (decode source).map some

def list (decode : Decoder σ α) : Decoder σ (List α) := fun source => do
  let run ← Source.list source
  let values ← each decode run.items
  run.finish
  return values

/-- A map with values of one type; the last of several members with one key counts. -/
def dictionary (decode : Decoder σ α) : Decoder σ (Dictionary α) := fun source => do
  let run ← Source.map source
  let members ← eachMember decode run.items
  run.finish
  return .ofList members

/-- One of the given names, as the value that belongs to it. -/
def choice (choices : List (String × α)) : Decoder σ α :=
  Source.choice fun name =>
    match choices.lookup name with
    | some value => .ok value
    | none => .error (.unknownChoice name (choices.map Prod.fst))

/-- The wording for a text that has to be a timestamp. -/
def timestampWording : String := "an RFC 3339 formatted date and time string"

def timestamp : Decoder σ Timestamp := fun source => do
  let text ← Source.text timestampWording source
  (Timestamp.parse text).mapError .timestamp

/-! ## Records -/

/-- A field: its name and the judgement of what is given for it. -/
structure Field (σ : Type) where
  name : String
  check : σ → Except Fault Unit

/-- What becomes of a field that is not given. -/
structure Absence where
  /-- The fault for a required field, by its place and its name. -/
  fault : (index : Nat) → (name : String) → Fault
  /-- Whether a field of an optional value may be left out for none. -/
  lenient : Bool

/-- What becomes of a field that is no member of a record. -/
def Absence.ofMember : Absence := ⟨fun _ name => .missingField name, true⟩

/-- What becomes of a field behind the end of a list of fields. -/
def Absence.ofItem (expected : String) : Absence :=
  ⟨fun index _ => .wrongLength index expected, false⟩

/-- The fields of a type, in the order of their declaration, and how it is built of them. -/
structure Fields (σ α : Type) where
  declared : List (Field σ)
  build : (String → Option σ) → Absence → Except Fault α

namespace Fields

/-- No field. -/
def none (value : α) : Fields σ α := ⟨[], fun _ _ => .ok value⟩

/-- One field more, of which the given treatment is used where it is absent. -/
def add (name : String) (decode : Decoder σ α)
    (absent : (index : Nat) → Absence → Except Fault α) (fields : Fields σ (α → β)) :
    Fields σ β where
  declared := fields.declared ++ [⟨name, fun source => (decode source).map fun _ => ()⟩]
  build lookup absence :=
    match fields.build lookup absence with
    | .error fault => .error fault
    | .ok make =>
      match lookup name with
      | some source => (decode source).map make
      | Option.none => (absent fields.declared.length absence).map make

/-- A field that has to be given. -/
def required (name : String) (decode : Decoder σ α) (fields : Fields σ (α → β)) :
    Fields σ β :=
  fields.add name decode fun index absence => .error (absence.fault index name)

/-- A field with a value to fall back on. -/
def defaulted (name : String) (decode : Decoder σ α) (value : α)
    (fields : Fields σ (α → β)) : Fields σ β :=
  fields.add name decode fun _ _ => .ok value

/-- A field that is none unless it is given. -/
def optional (name : String) (decode : Decoder σ α) (fields : Fields σ (Option α → β)) :
    Fields σ β :=
  fields.defaulted name (Decode.optional decode) Option.none

/-- A field that may be left out of the members of a record, but not out of a list. -/
def omissible (name : String) (decode : Decoder σ α) (fields : Fields σ (Option α → β)) :
    Fields σ β :=
  fields.add name (Decode.optional decode) fun index absence =>
    if absence.lenient then .ok Option.none else .error (absence.fault index name)

/-- Judge the members in order; the names that have been given so far are `seen`. -/
def checkMembers (declared : List (Field σ)) (seen : List String) :
    List (String × σ) → Except Fault Unit
  | [] => .ok ()
  | (key, source) :: rest =>
    match declared.find? (·.name == key) with
    | Option.none => do
      Source.skip source
      checkMembers declared seen rest
    | some field =>
      if seen.contains key then .error (.duplicateField key)
      else do
        field.check source
        checkMembers declared (key :: seen) rest

/-- Read the fields from members that are all there. -/
def ofMembers (fields : Fields σ α) (members : List (String × σ)) : Except Fault α := do
  checkMembers fields.declared [] members
  fields.build (fun name => Entries.find? name members) .ofMember

/-- Judge a list of fields in order. -/
def checkItems : List (Field σ) → List σ → Except Fault Unit
  | field :: fields, source :: rest => do
    field.check source
    checkItems fields rest
  | _, _ => .ok ()

/-- A number of fields in words. -/
def countText (count : Nat) : String :=
  toString count ++ (if count = 1 then " element" else " elements")

end Fields

/-- A record with the given fields. -/
def record (expected : String) (fields : Fields σ α) : Decoder σ α := fun source => do
  match ← Source.record expected source with
  | .named members =>
    Fields.checkMembers fields.declared [] members.items
    members.finish
    fields.build (fun name => Entries.find? name members.items) .ofMember
  | .positional items overrun =>
    let count := fields.declared.length
    Fields.checkItems fields.declared items.items
    if items.items.length < count then items.finish
    let names := fields.declared.map Field.name
    let value ← fields.build (fun name => Entries.find? name (names.zip items.items))
      (.ofItem (expected ++ " with " ++ Fields.countText count))
    match overrun count with
    | some fault => .error fault
    | none => .ok value

end Converge.Decode
