import Converge.Connector.Provider
import Converge.Decode.Dynamic
import Converge.Text.Shown

/-!
# Connector configurations

A connector's configuration is one flat object. Its `provider` says which keys it has to
hold; besides those every configuration has a name and some common keys, and any other
key is carried along unchanged. The flat object comes in two groups, credentials and the
rest, which may not share a key.

The object is judged with its texts and numbers replaced by placeholders before it is read,
so no message can show a credential.
-/

namespace Converge.Connector

open Decode

/-- The key that names the provider. -/
def providerKey : String := "provider"

/-- What every configuration has. -/
structure Common where
  name : String
  pageSize : Option Int64
  pollingPeriod : Option String
  provider : Option String
deriving DecidableEq, Repr

namespace Common

variable {σ : Type} [Source σ]

def fields : Fields σ Common :=
  (Fields.none Common.mk).required "name" text |>.optional "pageSize" int64
    |>.optional "pollingPeriod" text |>.optional providerKey text

def decode : Decoder σ Common := record "struct CommonConfig" fields

/-- The keys of the common part. -/
def keys : List String := ["name", "pageSize", "pollingPeriod", providerKey]

def members (common : Common) : Encode.Members :=
  Encode.together [Encode.field "name" Encode.text common.name,
    Encode.optional "pageSize" Encode.int64 common.pageSize,
    Encode.optional "pollingPeriod" Encode.text common.pollingPeriod,
    Encode.optional providerKey Encode.text common.provider]

def encode : Encode.Encoder Common := fun common => Encode.record [common.members]

end Common

/-- A configuration of one provider. -/
structure Configuration where
  provider : Provider
  /-- The provider's own keys that are there. -/
  details : Dictionary String
  common : Common
  /-- Every other key. -/
  extra : Dictionary Value

namespace Detail

/-- Read what is given for the key. -/
def read (detail : Detail) (source : Json) : Except Fault (Option String) :=
  if detail.isRequired then (text source).map some else Decode.optional text source

/-- Read the keys by looking them up. -/
def collect (lookup : String → Option Json) :
    List Detail → Except Fault (List (String × String))
  | [] => .ok []
  | detail :: rest => do
    let value ←
      match lookup detail.key with
      | some source => detail.read source
      | none => if detail.isRequired then .error (.missingField detail.key) else .ok none
    let values ← collect lookup rest
    return (value.map fun value => (detail.key, value)).toList ++ values

/-- The keys as fields. -/
def fields (details : List Detail) : Fields Json (List (String × String)) where
  declared := details.map fun detail =>
    ⟨detail.key, fun source => (detail.read source).map fun _ => ()⟩
  build lookup _ := collect lookup details

end Detail

mutual

/-- The value with the same structure in which placeholders stand for texts and numbers. -/
def placeholder : Value → Value
  | .null => .null
  | .bool _ => .bool false
  | .int _ => .int 0
  | .float _ => .float ⟨0x3FE0000000000000⟩
  | .text _ => .text ""
  | .list items => .list (placeholders items)
  | .map fields => .map (placeholderFields fields)

def placeholders : List Value → List Value
  | [] => []
  | item :: items => placeholder item :: placeholders items

def placeholderFields : List (String × Value) → List (String × Value)
  | [] => []
  | (key, value) :: fields => (key, placeholder value) :: placeholderFields fields

end

namespace Configuration

/-- Read a configuration of a provider from the members of its object. The provider's own
keys are judged before the common ones. -/
def ofMembers (provider : Provider) (members : List (String × Json)) :
    Except Fault Configuration := do
  let details ← (Detail.fields provider.details).ofMembers members
  let common ← Common.fields.ofMembers members
  let known := provider.details.map Detail.key ++ Common.keys
  let extra := members.filter fun (key, _) => !known.contains key
  return ⟨provider, .ofList details, common,
    (Dictionary.ofList extra).mapValues Value.decode⟩

/-- What a provider's message calls its configuration. -/
def context (provider : Provider) : String := provider.name ++ " connector"

/-- The error that a fault of the placeholders stands for. -/
def shapeError (provider : Provider) : Fault → ShapeError
  | .missingField field => .missingField providerKey provider.name field
  | fault => .invalid (context provider) fault.message

/-- Read a configuration of a provider. -/
def ofDictionary (provider : Provider) (flat : Dictionary Value) :
    Except ShapeError Configuration :=
  match ofMembers provider (Value.encodeFields (placeholderFields flat.entries)) with
  | .error fault => .error (shapeError provider fault)
  | .ok _ =>
    match ofMembers provider (Value.encodeFields flat.entries) with
    | .error _ =>
      .error (.invalid (context provider) "configuration does not match the provider shape")
    | .ok configuration => .ok configuration

/-- The provider that a flat object names. -/
def providerOf (flat : Dictionary Value) : Except ShapeError Provider :=
  match flat.get? providerKey with
  | none | some .null => .error (.missingDiscriminator providerKey)
  | some (.text name) =>
    match Provider.ofName? name with
    | some provider => .ok provider
    | none => .error (.unknownDiscriminator providerKey name)
  | some other => .error (.unexpectedShape providerKey .text other.kind)

/-- Read a flat object, as a configuration of the provider that it names. -/
def decode (flat : Dictionary Value) : Except ShapeError Configuration := do
  let provider ← providerOf flat
  ofDictionary provider (flat.insert providerKey (.text provider.name))

/-- Read a configuration whose keys come in two groups. -/
def ofParts (credentials config : Dictionary Value) : Except ShapeError Configuration :=
  match credentials.keys.find? config.contains with
  | some key =>
    .error (.invalid "connector"
      ("key '" ++ key ++ "' is declared in both credentials and config"))
  | none => decode (config.extend credentials)

/-- The flat object of a configuration as a document. -/
def document : Encode.Encoder Configuration := fun configuration =>
  Encode.record [
    Encode.entries Encode.text Encode.text configuration.details.entries,
    configuration.common.members,
    Encode.entries Encode.text Encode.dynamic configuration.extra.entries]

/-- The flat object of a configuration. -/
def encode (configuration : Configuration) : Except ShapeError (Dictionary Value) := do
  let shape := "stackform_runtime::connectors::" ++ configuration.provider.shapeName
  (← Value.write document shape configuration).expectMap "connector"

/-- The flat object that is sent for two groups of keys. -/
def payload (credentials config : Dictionary Value) : Except ShapeError (Dictionary Value) := do
  (← ofParts credentials config).encode

/-- The configuration without its keys, for messages. -/
def shown (configuration : Configuration) : String :=
  Text.shownPartly "ConnectorConfig"
    [("provider", configuration.provider.name), ("name", Text.quoted configuration.common.name)]

end Configuration

end Converge.Connector
