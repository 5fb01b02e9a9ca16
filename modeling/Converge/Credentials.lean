import Converge.Config

/-!
# Credentials

The credentials of the cloud account are a client, its secret and the address of the
cloud. What the configuration gives counts before the defaults; the client has to belong
to an organization.
-/

namespace Converge

/-- What is used where the configuration gives nothing. -/
structure Credentials.Defaults where
  clientId : Option String
  clientSecret : Option String
  endpoint : Option String
deriving DecidableEq, Repr

/-- A client of the cloud account. -/
structure Credentials where
  clientId : String
  clientSecret : String
  endpoint : String
deriving DecidableEq, Repr

namespace Credentials

open Config (given)

/-- The address of the cloud where none is given. -/
def standardEndpoint : String := "https://app.formance.cloud/api"

/-- The defaults that the environment sets to something. -/
def Defaults.ofEnvironment (environment : Environment) : Defaults :=
  ⟨given (environment Config.clientIdVariable),
    given (environment Config.clientSecretVariable),
    given (environment Config.endpointVariable)⟩

/-- The defaults without their secret, for messages. -/
def Defaults.shown (defaults : Defaults) : String :=
  Text.shownRecord "CredentialDefaults"
    [("client_id", Text.shownText defaults.clientId),
      ("client_secret", Text.shownSecret defaults.clientSecret),
      ("endpoint", Text.shownText defaults.endpoint)]

/-- What the configuration gives, or else the default. -/
def pick (own fallback : Option String) : Option String := (given own).or fallback

/-- Whether the client belongs to an organization. -/
def isOrganizationClient (credentials : Credentials) : Bool :=
  credentials.clientId.startsWith Config.organizationMark

/-- The credentials that a configuration and the defaults lead to. -/
def resolve (cloud : Config.Cloud) (defaults : Defaults) (environment : Environment) :
    Except Config.Error Credentials := do
  let some clientId := pick cloud.clientId defaults.clientId
    | throw .missingClientId
  let some clientSecret := pick (cloud.secret environment) defaults.clientSecret
    | throw .missingClientSecret
  let endpoint := (pick cloud.endpoint defaults.endpoint).getD standardEndpoint
  let credentials : Credentials := ⟨clientId, clientSecret, endpoint⟩
  if credentials.isOrganizationClient then return credentials else throw .foreignClient

/-- The credentials without their secret, for messages. -/
def shown (credentials : Credentials) : String :=
  Text.shownRecord "CredentialSet"
    [("client_id", Text.quoted credentials.clientId),
      ("client_secret", Text.quoted Text.redacted),
      ("endpoint", Text.quoted credentials.endpoint)]

end Credentials

end Converge
