import Converge.Http.Message
import Converge.Remote.Call
import Converge.Stack.Envelope

/-!
# Where calls go

Each call has a route: a method, a path of parts, and for one call a query. The parts of
the path are the fixed ones of the module and the identifiers of the call. Each part is
percent-encoded, so that a separator within an identifier stays part of it.

A call also says what its failures look like and how the body of a successful response is
read.
-/

namespace Converge

open Decode Http Stack

/-- The method and the place of a call, relative to the address of the stack. -/
structure Http.Route where
  method : Method
  /-- The parts of the path, as they are meant. -/
  parts : List String
  /-- The entries of the query. -/
  query : List (String × String)
deriving DecidableEq, Repr

namespace Http.Route

/-- The entries of a query, as they are written. -/
def renderQuery (entries : List (String × String)) : List Char :=
  ['&'].intercalate (entries.map fun (name, value) =>
    Text.formEncode name ++ '=' :: Text.formEncode value)

/-- The route as it is written behind the address of the stack. -/
def render (route : Route) : String :=
  String.ofList (
    Address.renderPath (route.parts.map Text.percentEncode)
    ++ if route.query.isEmpty then [] else '?' :: renderQuery route.query)

end Http.Route

namespace Remote

/-- The parts of every path of the ledger module; the other modules follow. -/
def ledgerRoot : List String := ["api", "ledger", "v2"]

def paymentsRoot : List String := ["api", "payments", "v3"]

def webhooksRoot : List String := ["api", "webhooks"]

def reconciliationRoot : List String := ["api", "reconciliation"]

def Command.route : Command → Route
  | .createLedger name _ => ⟨.post, ledgerRoot ++ [name], []⟩
  | .setLedgerMetadata name _ => ⟨.put, ledgerRoot ++ [name, "metadata"], []⟩
  | .deleteLedgerMetadata name key => ⟨.delete, ledgerRoot ++ [name, "metadata", key], []⟩
  | .insertSchema ledger version _ _ => ⟨.post, ledgerRoot ++ [ledger, "schema", version], []⟩
  | .deletePool id => ⟨.delete, paymentsRoot ++ ["pools", id], []⟩
  | .addAccount pool account =>
    ⟨.post, paymentsRoot ++ ["pools", pool, "accounts", account], []⟩
  | .removeAccount pool account =>
    ⟨.delete, paymentsRoot ++ ["pools", pool, "accounts", account], []⟩
  | .setPoolQuery pool _ => ⟨.put, paymentsRoot ++ ["pools", pool, "query"], []⟩
  | .updateConnector id _ => ⟨.patch, paymentsRoot ++ ["connectors", id, "config"], []⟩
  | .uninstallConnector id => ⟨.delete, paymentsRoot ++ ["connectors", id], []⟩
  | .updateWebhook id _ => ⟨.put, webhooksRoot ++ ["configs", id], []⟩
  | .deleteWebhook id => ⟨.delete, webhooksRoot ++ ["configs", id], []⟩
  | .deletePolicy id => ⟨.delete, reconciliationRoot ++ ["policies", id], []⟩

/-- The document that a command sends. -/
def Command.payload? : Command → Option Json
  | .insertSchema _ _ schema _ => some schema.toJson
  | .setPoolQuery _ query => some (PoolQuery.toJson ⟨query⟩)
  | command => command.body?

/-- The key under which a command is carried out only once. -/
def Command.idempotencyKey? : Command → Option String
  | .insertSchema _ _ _ key => key
  | _ => none

def Command.flavor : Command → Flavor
  | .createLedger .. => .ledger
  | .setLedgerMetadata .. => .ledger
  | .deleteLedgerMetadata .. => .ledger
  | .insertSchema .. => .ledger
  | .deletePool _ => .payments
  | .addAccount .. => .payments
  | .removeAccount .. => .payments
  | .setPoolQuery .. => .payments
  | .updateConnector .. => .payments
  | .uninstallConnector _ => .payments
  | .updateWebhook .. => .plain
  | .deleteWebhook _ => .plain
  | .deletePolicy _ => .plain

namespace Call

def route : Call → Route
  | .command order => order.route
  | .listModules => ⟨.get, ["versions"], []⟩
  | .getLedger name => ⟨.get, ledgerRoot ++ [name], []⟩
  | .getSchema ledger version => ⟨.get, ledgerRoot ++ [ledger, "schema", version], []⟩
  | .createPool _ => ⟨.post, paymentsRoot ++ ["pools"], []⟩
  | .getPool id => ⟨.get, paymentsRoot ++ ["pools", id], []⟩
  | .installConnector provider _ =>
    ⟨.post, paymentsRoot ++ ["connectors", "install", provider], []⟩
  | .getConnector id => ⟨.get, paymentsRoot ++ ["connectors", id, "config"], []⟩
  | .createWebhook _ => ⟨.post, webhooksRoot ++ ["configs"], []⟩
  | .getWebhooks id => ⟨.get, webhooksRoot ++ ["configs"], [("id", id)]⟩
  | .createPolicy _ => ⟨.post, reconciliationRoot ++ ["policies"], []⟩
  | .getPolicy id => ⟨.get, reconciliationRoot ++ ["policies", id], []⟩

/-- The document that a call sends. -/
def payload? : Call → Option Json
  | .command order => order.payload?
  | call => call.body?

def idempotencyKey? : Call → Option String
  | .command order => order.idempotencyKey?
  | _ => none

/-- Which envelope the failures of a call come in. -/
def flavor : Call → Flavor
  | .command order => order.flavor
  | .getLedger _ => .ledger
  | .getSchema .. => .ledger
  | .createPool _ => .payments
  | .getPool _ => .payments
  | .installConnector .. => .payments
  | .getConnector _ => .payments
  | _ => .plain

/-- Read the body of a successful response. A command does not look at it. -/
def readAnswer : (call : Call) → (body : String) → Except Fault call.Answer
  | .command _, _ => .ok ()
  | .listModules, body => ofText Listing.decode body
  | .getWebhooks _, body => (ofText (Page.decode Webhook.decode) body).map Page.items
  | call, body => (ofText (Data.decode call.decodeAnswer) body).map Data.content

end Call

end Remote

end Converge
