import Converge.Decode
import Converge.Text.Shown

/-!
# Configuration

The configuration names the stack, the credentials of the cloud account, how long to wait
for modules, how to reach the stack over HTTP, the access token and the logging. Every
section and every entry has a default.

A secret may be named by an environment variable. The variable, when it is set, counts
before the entry of the configuration, even when it is set to nothing.
-/

namespace Converge

open Decode

/-- The environment of the process: the values of the variables that are set. -/
abbrev Environment := String → Option String

/-- Which stack is meant, and where it answers. -/
structure Config.Stack where
  stackId : String
  organizationId : String
  uri : String
  expectedModules : List String
deriving DecidableEq, Repr, Inhabited

/-- The credentials of the cloud account. -/
structure Config.Cloud where
  clientId : Option String
  clientSecret : Option String
  /-- The variable that holds the secret. -/
  clientSecretVariable : Option String
  endpoint : Option String
deriving DecidableEq, Repr, Inhabited

/-- How to wait for modules. -/
structure Config.Health where
  timeoutSeconds : UInt64
  pollMilliseconds : UInt64
deriving DecidableEq, Repr

/-- How to talk to the stack. -/
structure Config.Http where
  timeoutSeconds : UInt64
  userAgent : Option String
deriving DecidableEq, Repr

/-- The access token of the stack. -/
structure Config.Access where
  token : Option String
  /-- The variable that holds the token. -/
  tokenVariable : Option String
deriving DecidableEq, Repr, Inhabited

structure Config.Logging where
  level : String
  asJson : Bool
deriving DecidableEq, Repr

/-- A whole configuration. -/
structure Config where
  stack : Config.Stack
  cloud : Config.Cloud
  health : Config.Health
  http : Config.Http
  access : Config.Access
  logging : Config.Logging
deriving DecidableEq, Repr

namespace Config

variable {σ : Type} [Source σ]

/-- The value of a secret: the variable's where one is named and set, else the entry's. -/
def secret (variableName entry : Option String) (environment : Environment) :
    Option String :=
  (variableName.bind environment).or entry

/-- A value of a configuration that is set to something. -/
def given (value : Option String) : Option String := value.filter fun text => !text.isEmpty

namespace Stack

def decode : Decoder σ Stack :=
  record "struct StackConfig"
    ((Fields.none Stack.mk).defaulted "stack_id" text "" |>.defaulted "organization_id" text ""
      |>.defaulted "uri" text "" |>.defaulted "expected_modules" (list text) [])

def toJson (stack : Stack) : Json :=
  .ofEntries (
    [("stack_id", .string stack.stackId), ("organization_id", .string stack.organizationId),
      ("uri", .string stack.uri)]
    ++ (if stack.expectedModules.isEmpty then []
      else [("expected_modules", .array (stack.expectedModules.map .string))]))

end Stack

namespace Cloud

def decode : Decoder σ Cloud :=
  record "struct CloudConfig"
    ((Fields.none Cloud.mk).optional "client_id" text |>.optional "client_secret" text
      |>.optional "client_secret_env" text |>.optional "endpoint" text)

def toJson (cloud : Cloud) : Json :=
  .ofEntries (
    Json.member "client_id" (cloud.clientId.map .string)
    ++ Json.member "client_secret" (cloud.clientSecret.map .string)
    ++ Json.member "client_secret_env" (cloud.clientSecretVariable.map .string)
    ++ Json.member "endpoint" (cloud.endpoint.map .string))

/-- The secret that the section leads to. -/
def secret (cloud : Cloud) (environment : Environment) : Option String :=
  Config.secret cloud.clientSecretVariable cloud.clientSecret environment

/-- The section without its secret, for messages. -/
def shown (cloud : Cloud) : String :=
  Text.shownRecord "CloudConfig"
    [("client_id", Text.shownText cloud.clientId),
      ("client_secret", Text.shownSecret cloud.clientSecret),
      ("client_secret_env", Text.shownText cloud.clientSecretVariable),
      ("endpoint", Text.shownText cloud.endpoint)]

end Cloud

namespace Health

/-- Two minutes, with a poll every two seconds. -/
def standard : Health := ⟨120, 2000⟩

def decode : Decoder σ Health :=
  record "struct HealthConfig"
    ((Fields.none Health.mk).defaulted "timeout_seconds" uint64 standard.timeoutSeconds
      |>.defaulted "poll_interval_ms" uint64 standard.pollMilliseconds)

def toJson (health : Health) : Json :=
  .ofEntries [("timeout_seconds", .ofUInt64 health.timeoutSeconds),
    ("poll_interval_ms", .ofUInt64 health.pollMilliseconds)]

end Health

namespace Http

def standard : Http := ⟨30, none⟩

def decode : Decoder σ Http :=
  record "struct HttpConfig"
    ((Fields.none Http.mk).defaulted "request_timeout_seconds" uint64 standard.timeoutSeconds
      |>.optional "user_agent" text)

def toJson (http : Http) : Json :=
  .ofEntries (
    [("request_timeout_seconds", .ofUInt64 http.timeoutSeconds)]
    ++ Json.member "user_agent" (http.userAgent.map .string))

end Http

namespace Access

def decode : Decoder σ Access :=
  record "struct AuthConfig"
    ((Fields.none Access.mk).optional "access_token" text
      |>.optional "access_token_env" text)

def toJson (access : Access) : Json :=
  .ofEntries (
    Json.member "access_token" (access.token.map .string)
    ++ Json.member "access_token_env" (access.tokenVariable.map .string))

/-- The token that the section leads to. -/
def token? (access : Access) (environment : Environment) : Option String :=
  secret access.tokenVariable access.token environment

/-- The section without its token, for messages. -/
def shown (access : Access) : String :=
  Text.shownRecord "AuthConfig"
    [("access_token", Text.shownSecret access.token),
      ("access_token_env", Text.shownText access.tokenVariable)]

end Access

namespace Logging

def standard : Logging := ⟨"info", false⟩

def decode : Decoder σ Logging :=
  record "struct LoggingConfig"
    ((Fields.none Logging.mk).defaulted "level" text standard.level
      |>.defaulted "json" bool standard.asJson)

def toJson (logging : Logging) : Json :=
  .ofEntries [("level", .string logging.level), ("json", .bool logging.asJson)]

end Logging

/-- The configuration that says nothing. -/
def standard : Config := ⟨default, default, .standard, .standard, default, .standard⟩

def decode : Decoder σ Config :=
  record "struct StackformConfig"
    ((Fields.none Config.mk).defaulted "stack" Stack.decode default
      |>.defaulted "cloud" Cloud.decode default
      |>.defaulted "health" Health.decode .standard |>.defaulted "http" Http.decode .standard
      |>.defaulted "auth" Access.decode default
      |>.defaulted "logging" Logging.decode .standard)

def toJson (config : Config) : Json :=
  .ofEntries [("stack", config.stack.toJson), ("cloud", config.cloud.toJson),
    ("health", config.health.toJson), ("http", config.http.toJson),
    ("auth", config.access.toJson), ("logging", config.logging.toJson)]

/-! ## Checks -/

/-- Why a configuration cannot be used. -/
inductive Error where
  | zeroPollInterval
  /-- The address of the stack is no web address. -/
  | foreignScheme (uri : String)
  | missingClientId
  | missingClientSecret
  /-- The client does not belong to an organization. -/
  | foreignClient
deriving DecidableEq, Repr

/-- How the identifiers of an organization's clients start. -/
def organizationMark : String := "organization_"

/-- The variables that hold the defaults of the credentials. -/
def clientIdVariable : String := "FORMANCE_CLOUD_CLIENT_ID"

def clientSecretVariable : String := "FORMANCE_CLOUD_CLIENT_SECRET"

def endpointVariable : String := "FORMANCE_CLOUD_API_ENDPOINT"

def Error.message (error : Error) : String :=
  "Configuration error: " ++
  match error with
  | .zeroPollInterval => "health.poll_interval_ms must be greater than zero"
  | .foreignScheme uri => "stack.uri must be an http(s) URL, got '" ++ uri ++ "'"
  | .missingClientId => "cloud.client_id is not set and " ++ clientIdVariable ++ " is empty"
  | .missingClientSecret =>
    "cloud.client_secret is not set and " ++ clientSecretVariable ++ " is empty"
  | .foreignClient => "cloud.client_id must start with '" ++ organizationMark ++ "'"

/-- Whether the address is empty or starts like one of the web. -/
def isWebAddress (uri : String) : Bool :=
  uri.isEmpty || uri.startsWith "http://" || uri.startsWith "https://"

/-- Check what the types of the entries leave open. -/
def validate (config : Config) : Except Error Unit :=
  if config.health.pollMilliseconds = 0 then .error .zeroPollInterval
  else if isWebAddress config.stack.uri then .ok ()
  else .error (.foreignScheme config.stack.uri)

end Config

end Converge
