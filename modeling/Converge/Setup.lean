import Converge.Credentials
import Converge.Http.Client

/-!
# From a configuration to a client

A setup is a configuration with what surrounds it: the defaults of the credentials and the
environment. It is checked without the network by `Setup.validate`, and `Setup.connect`
makes a client of it whose requests carry a trace and the access token. The credentials are
resolved before anything else, so that a client that does not belong to an organization
never gets that far.
-/

namespace Converge

open Remote

/-- A configuration in its surroundings. -/
structure Setup where
  config : Config
  defaults : Credentials.Defaults
  environment : Environment

/-- Why no client can be made. -/
inductive Setup.Error where
  | config (error : Config.Error)
  | missingUri
  | missingToken
  /-- The client cannot be built. -/
  | client
deriving DecidableEq, Repr

def Setup.Error.message : Setup.Error → String
  | .config error => error.message
  | .missingUri => "stack.uri is not set"
  | .missingToken => "no stack access token: set auth.access_token or auth.access_token_env"
  | .client => "failed to build the stack client: " ++ Http.unbuildable

/-- A client, and how long to wait for modules. -/
structure Connection where
  client : Http.Client
  patience : Patience

namespace Config

/-- How long a configuration waits for modules. -/
def Health.patience (health : Health) : Patience :=
  .ofMilliseconds (health.timeoutSeconds.toNat * 1000) health.pollMilliseconds.toNat

/-- The name under which a configuration's client sends requests. -/
def Http.sender (http : Http) : String := http.userAgent.getD Http.Client.standardUserAgent

end Config

namespace Setup

/-! ## Checks without the network -/

/-- What is reported about an entry of the credentials that the configuration does not give,
if there is a default and if there is none. -/
def reportEntry (subject : String) (configured defaulted : Bool) : Diagnostics :=
  if configured then []
  else if defaulted then
    [(Diagnostic.warning .invalidConfiguration "DEFAULT_CREDENTIAL"
      (subject ++ " is not set; using the value from the environment")).withSubject subject]
  else [.invalid subject (subject ++ " is not set in the configuration or the environment")]

/-- The credentials that the setup leads to. -/
def credentials (setup : Setup) : Except Error Credentials :=
  (Credentials.resolve setup.config.cloud setup.defaults setup.environment).mapError .config

/-- What is reported about the credentials. They are resolved only if their entries are
there. -/
def reportCredentials (setup : Setup) : Diagnostics :=
  let cloud := setup.config.cloud
  let entries : Diagnostics :=
    reportEntry "cloud.client_id" (Config.given cloud.clientId).isSome
      setup.defaults.clientId.isSome
    ++ reportEntry "cloud.client_secret" (Config.given (cloud.secret setup.environment)).isSome
      setup.defaults.clientSecret.isSome
  if entries.hasError then entries
  else
    match setup.credentials with
    | .ok _ => entries
    | .error error => entries ++ [.invalid "cloud.client_id" error.message]

/-- What is reported about a setup. -/
def validate (setup : Setup) : Diagnostics :=
  setup.reportCredentials
  ++ if setup.config.stack.uri.isEmpty then [.invalid "stack.uri" Error.missingUri.message]
    else []

/-! ## Connecting -/

/-- The access token. -/
def token (setup : Setup) : Except Error String :=
  match Config.given (setup.config.access.token? setup.environment) with
  | some token => .ok token
  | none => .error .missingToken

/-- A client whose requests carry traces and tokens from the given sources. -/
def connect (setup : Setup) (trace : Nat → String) (token : Nat → Except Failure.Cause String) :
    Except Error Connection := do
  let _ ← setup.credentials
  let config := setup.config
  if config.stack.uri.isEmpty then throw .missingUri
  match Http.Client.build? config.stack.uri config.http.sender [.stamp trace, .bearer token] with
  | some client => return ⟨client, config.health.patience⟩
  | none => throw .client

/-- Wait for the modules that the configuration expects. -/
def awaitExpected (setup : Setup) : Program Diagnostics :=
  .awaitAll setup.config.stack.expectedModules

end Setup

end Converge
