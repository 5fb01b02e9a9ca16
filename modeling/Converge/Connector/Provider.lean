/-!
# Connector providers

The payment providers that a connector can be installed for, and the keys that each of
them knows. A provider is named by its canonical spelling, in any ASCII case.
-/

namespace Converge.Connector

inductive Provider where
  | adyen
  | atlar
  | bankingcircle
  | column
  | currencycloud
  | dummypay
  | generic
  | increase
  | mangopay
  | modulr
  | moneycorp
  | qonto
  | stripe
  | wise
deriving DecidableEq, Repr

/-- A key that holds a text which only some providers know. -/
structure Detail where
  key : String
  isRequired : Bool
deriving DecidableEq, Repr

namespace Provider

def all : List Provider :=
  [.adyen, .atlar, .bankingcircle, .column, .currencycloud, .dummypay, .generic, .increase,
    .mangopay, .modulr, .moneycorp, .qonto, .stripe, .wise]

/-- The canonical spelling. -/
def name : Provider → String
  | .adyen => "Adyen"
  | .atlar => "Atlar"
  | .bankingcircle => "Bankingcircle"
  | .column => "Column"
  | .currencycloud => "Currencycloud"
  | .dummypay => "Dummypay"
  | .generic => "Generic"
  | .increase => "Increase"
  | .mangopay => "Mangopay"
  | .modulr => "Modulr"
  | .moneycorp => "Moneycorp"
  | .qonto => "Qonto"
  | .stripe => "Stripe"
  | .wise => "Wise"

/-- What messages call the typed form of a provider's configuration. Providers with the same
keys share one. -/
def shapeName : Provider → String
  | .column | .generic => "ApiKeyEndpointConfig"
  | .mangopay | .moneycorp => "ClientIdConfig"
  | provider => provider.name ++ "Config"

/-- Whether two texts are equal but for the case of ASCII letters. -/
def sameLetters (left right : String) : Bool :=
  left.toList.map Char.toLower == right.toList.map Char.toLower

/-- The provider that a text names. -/
def ofName? (text : String) : Option Provider := all.find? fun one => sameLetters one.name text

/-- A key that has to be there. -/
def needed (key : String) : Detail := ⟨key, true⟩

/-- A key that may be absent. -/
def free (key : String) : Detail := ⟨key, false⟩

/-- The provider's own keys. -/
def details : Provider → List Detail
  | .adyen =>
    [needed "apiKey", needed "companyID", free "liveEndpointPrefix", free "webhookPassword",
      free "webhookUsername"]
  | .atlar => [needed "accessKey", needed "baseURL", needed "secret"]
  | .bankingcircle =>
    [needed "authorizationEndpoint", needed "endpoint", needed "password",
      needed "userCertificate", needed "userCertificateKey", needed "username"]
  | .column => [needed "apiKey", needed "endpoint"]
  | .currencycloud => [needed "apiKey", needed "endpoint", needed "loginID"]
  | .dummypay => [needed "directory"]
  | .generic => [needed "apiKey", needed "endpoint"]
  | .increase => [needed "apiKey", needed "endpoint", needed "webhookSharedSecret"]
  | .mangopay => [needed "apiKey", needed "clientID", needed "endpoint"]
  | .modulr => [needed "apiKey", needed "apiSecret", needed "endpoint"]
  | .moneycorp => [needed "apiKey", needed "clientID", needed "endpoint"]
  | .qonto =>
    [needed "apiKey", needed "clientID", needed "endpoint", free "stagingToken"]
  | .stripe => [needed "apiKey"]
  | .wise => [needed "apiKey", needed "webhookPublicKey"]

end Provider

end Converge.Connector
