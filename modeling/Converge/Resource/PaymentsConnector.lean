import Converge.Connector.Configuration
import Converge.Resource
import Converge.Value.Shown

/-!
# Payments connectors

A connector is installed for a provider and configured by one flat object, which is
declared in two groups: the credentials and the rest. The stack may leave out credentials
from what it shows, and may show keys that were never declared; neither changes what is
held locally. The provider cannot be changed in place.
-/

namespace Converge.Resource

open Decode (Fields text dictionary dynamic)
open Encode (field optional)
open Remote Connector

structure PaymentsConnector where
  id : Option String
  credentials : Dictionary Value
  /-- The rest of the configuration, with the provider. -/
  config : Dictionary Value

namespace PaymentsConnector

def decode {σ : Type} [Decode.Source σ] : Decode.Decoder σ PaymentsConnector :=
  Decode.record "struct PaymentsConnectorModel"
    ((Fields.none PaymentsConnector.mk).optional "id" text
      |>.defaulted "credentials" (dictionary dynamic) ∅
      |>.defaulted "config" (dictionary dynamic) ∅)

def encode : Encode.Encoder PaymentsConnector := fun connector =>
  Encode.record [optional "id" Encode.text connector.id,
    field "credentials" (Encode.dictionary Encode.dynamic) connector.credentials,
    field "config" (Encode.dictionary Encode.dynamic) connector.config]

/-- The connector for messages. Of the credentials only the keys are shown. -/
def shown (connector : PaymentsConnector) : String :=
  Text.shownRecord "PaymentsConnectorModel"
    [("id", Text.shownText connector.id),
      ("credentials", Text.shownList Text.quoted connector.credentials.keys),
      ("config", connector.config.shown)]

/-- The name of the provider in the group without credentials, in canonical spelling where
it names one. -/
def providerName (config : Dictionary Value) : Option String :=
  (config.get? providerKey).map fun
  | .text raw => ((Provider.ofName? raw).map Provider.name).getD raw
  | other => other.render

/-- Take over what the stack shows. Only declared keys are looked at, a credential that is
not shown stays as it is, and so does the spelling of the provider. -/
def applyRemote (connector : PaymentsConnector) (flat : Dictionary Value) :
    PaymentsConnector :=
  let (credentials, config) :=
    Value.partition flat connector.credentials.keys connector.config.keys
  let sameProvider := providerName connector.config == providerName config
  { connector with
    credentials := connector.credentials.extend credentials
    config :=
      match connector.config.get? providerKey with
      | some declared => if sameProvider then config.insert providerKey declared else config
      | none => config }

def replaceFields : List String := ["config.provider"]

def changedFields (prior desired : PaymentsConnector) : List String :=
  (if prior.credentials == desired.credentials then [] else ["credentials"])
  ++ (if prior.config == desired.config then [] else ["config"])
  ++ (if providerName prior.config == providerName desired.config then []
    else ["config.provider"])

/-- The report on a configuration that cannot be read. -/
def configurationFault (error : ShapeError) : Diagnostic :=
  let subject :=
    match error with
    | .missingDiscriminator _ => "config.provider"
    | .unknownDiscriminator _ _ => "config.provider"
    | _ => "config"
  .invalid subject error.message

def validate (desired : PaymentsConnector) : Diagnostics :=
  let missing : Diagnostics :=
    (if desired.credentials.isEmpty then
        [.invalid "credentials" "credentials cannot be empty"] else [])
    ++ (if desired.config.isEmpty then [.invalid "config" "config cannot be empty"] else [])
  if missing.hasError then missing
  else
    match Configuration.ofParts desired.credentials desired.config with
    | .error error => [configurationFault error]
    | .ok _ => []

/-- What is reported where the identifier is not known. -/
def missingId : Diagnostic :=
  .invalid "id" "connector id is unknown; the connector must be installed first"

def create (desired : PaymentsConnector) : Program (Transition PaymentsConnector) :=
  if (validate desired).hasError then .done (.failed (validate desired))
  else
    match Configuration.ofParts desired.credentials desired.config with
    | .error error => .done (.failed [configurationFault error])
    | .ok configuration =>
      match configuration.encode with
      | .error error => .done (.failed [configurationFault error])
      | .ok payload => whenReady .paymentsConnector none <|
        .call (.installConnector configuration.provider.name payload) fun
        | .error failure => .done (.failed [failure])
        | .ok id => .done (.ok { desired with id := some id })

def read (state : PaymentsConnector) : Program (Transition PaymentsConnector) :=
  match state.id with
  | none => .done (.keeping state [missingId])
  | some id => whenReady .paymentsConnector (some state) <|
    .call (.getConnector id) fun
    | .error failure => .done (.keeping state [failure])
    | .ok flat => .done (.ok (state.applyRemote flat))

def update (observed desired : PaymentsConnector) : Program (Transition PaymentsConnector) :=
  match observed.id with
  | none => .done (.keeping observed [missingId])
  | some id =>
    if providerName observed.config != providerName desired.config then
      .done (.keeping observed [requiresReplacement "config.provider"])
    else
      match Configuration.payload desired.credentials desired.config with
      | .error error => .done (.keeping observed [configurationFault error])
      | .ok payload => whenReady .paymentsConnector (some observed) <|
        .call (.command (.updateConnector id payload)) fun
        | .error failure => .done (.keeping observed [failure])
        | .ok () => .done (.ok { desired with id := some id })

def delete (state : PaymentsConnector) : Program Diagnostics :=
  match state.id with
  | none => .done [missingId]
  | some id => deleteBy .paymentsConnector (.uninstallConnector id)

def resource : Resource PaymentsConnector where
  kind := .paymentsConnector
  decode := decode
  encode := encode
  replaceFields := replaceFields
  changedFields := changedFields
  check? := some validate
  create := create
  read := read
  update := update
  delete := delete
  adopt? := none

end PaymentsConnector

end Converge.Resource
