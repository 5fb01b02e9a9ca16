import Converge.Failure
import Converge.Stack.Ledger
import Converge.Stack.Module
import Converge.Stack.Policy
import Converge.Stack.Pool
import Converge.Stack.Webhook

/-!
# Calls to a stack

Everything that can be asked of a stack. Commands are answered by nothing but success;
the other calls have an answer of their own.
-/

namespace Converge.Remote

open Stack

/-- A call that is answered by success alone. -/
inductive Command where
  | createLedger (name : String) (request : LedgerRequest)
  /-- Set the given metadata; other keys stay. -/
  | setLedgerMetadata (name : String) (metadata : Dictionary String)
  | deleteLedgerMetadata (name key : String)
  | insertSchema (ledger version : String) (schema : SchemaRequest)
      (idempotencyKey : Option String)
  | deletePool (id : String)
  | addAccount (pool account : String)
  | removeAccount (pool account : String)
  | setPoolQuery (pool : String) (query : Value)
  | updateConnector (id : String) (config : Dictionary Value)
  | uninstallConnector (id : String)
  | updateWebhook (id : String) (request : WebhookRequest)
  | deleteWebhook (id : String)
  | deletePolicy (id : String)

/-- A call. -/
inductive Call where
  | command (command : Command)
  | listModules
  | getLedger (name : String)
  | getSchema (ledger version : String)
  /-- Answered by the identifier of the pool. -/
  | createPool (request : PoolRequest)
  | getPool (id : String)
  /-- Answered by the identifier of the connector. -/
  | installConnector (provider : String) (config : Dictionary Value)
  /-- Answered by the flat configuration, as far as the stack shows it. -/
  | getConnector (id : String)
  | createWebhook (request : WebhookRequest)
  /-- Answered by the webhooks with the identifier. -/
  | getWebhooks (id : String)
  | createPolicy (request : PolicyRequest)
  | getPolicy (id : String)

namespace Call

/-- What a call is answered with. -/
abbrev Answer : Call → Type
  | .command _ => Unit
  | .listModules => Listing
  | .getLedger _ => Ledger
  | .getSchema _ _ => Schema
  | .createPool _ => String
  | .getPool _ => Pool
  | .installConnector _ _ => String
  | .getConnector _ => Dictionary Value
  | .createWebhook _ => Webhook
  | .getWebhooks _ => List Webhook
  | .createPolicy _ => Policy
  | .getPolicy _ => Policy

/-- Whether the call may change what the stack holds. -/
def mutates : Call → Bool
  | .command _ => true
  | .createPool _ => true
  | .installConnector _ _ => true
  | .createWebhook _ => true
  | .createPolicy _ => true
  | _ => false

end Call

/-- The words that a command is logged with. -/
def Command.words : Command → List String
  | .createLedger name _ => ["create_ledger", name]
  | .setLedgerMetadata name _ => ["update_ledger_metadata", name]
  | .deleteLedgerMetadata name key => ["delete_ledger_metadata", name, key]
  | .insertSchema ledger version _ _ => ["insert_schema", ledger, version]
  | .deletePool id => ["delete_pool", id]
  | .addAccount pool account => ["add_account_to_pool", pool, account]
  | .removeAccount pool account => ["remove_account_from_pool", pool, account]
  | .setPoolQuery pool _ => ["update_pool_query", pool]
  | .updateConnector id _ => ["update_connector_config", id]
  | .uninstallConnector id => ["uninstall_connector", id]
  | .updateWebhook id _ => ["update_config", id]
  | .deleteWebhook id => ["delete_config", id]
  | .deletePolicy id => ["delete_policy", id]

/-- What a command carries besides its identifiers. -/
def Command.body? : Command → Option Json
  | .createLedger _ request => some request.toJson
  | .setLedgerMetadata _ metadata => some (textsToJson metadata)
  | .insertSchema _ _ schema key =>
    some (.ofEntries [("schema", schema.toJson),
      ("idempotency_key", (key.map Json.string).getD .null)])
  | .setPoolQuery _ query => some query.encode
  | .updateConnector _ config => some (valuesToJson config)
  | .updateWebhook _ request => some request.toJson
  | _ => none

namespace Call

/-- The words that a call is logged with: its name and its identifiers. -/
def words : Call → List String
  | .command order => order.words
  | .listModules => ["list_module_versions"]
  | .getLedger name => ["get_ledger", name]
  | .getSchema ledger version => ["get_schema", ledger, version]
  | .createPool request => ["create_pool", request.name]
  | .getPool id => ["get_pool", id]
  | .installConnector provider _ => ["install_connector", provider]
  | .getConnector id => ["get_connector_config", id]
  | .createWebhook request => ["insert_config", request.endpoint]
  | .getWebhooks id => ["get_configs", id]
  | .createPolicy request => ["create_policy", request.name]
  | .getPolicy id => ["get_policy", id]

/-- What a call carries besides its identifiers. -/
def body? : Call → Option Json
  | .command order => order.body?
  | .createPool request => some request.toJson
  | .installConnector _ config => some (valuesToJson config)
  | .createWebhook request => some request.toJson
  | .createPolicy request => some request.toJson
  | _ => none

/-- The line that a call is logged with. -/
def label (call : Call) : String := " ".intercalate call.words

/-- The name of a call. -/
def name (call : Call) : String := call.words.headD ""

/-- The document of an answer. -/
def answerToJson : (call : Call) → call.Answer → Json
  | .command _, () => .null
  | .listModules, listing => listing.toJson
  | .getLedger _, ledger => ledger.toJson
  | .getSchema _ _, schema => schema.toJson
  | .createPool _, id => .string id
  | .getPool _, pool => pool.toJson
  | .installConnector _ _, id => .string id
  | .getConnector _, config => valuesToJson config
  | .createWebhook _, webhook => webhook.toJson
  | .getWebhooks _, webhooks => .array (webhooks.map Webhook.toJson)
  | .createPolicy _, policy => policy.toJson
  | .getPolicy _, policy => policy.toJson

/-- How an answer is read from its document. -/
def decodeAnswer {σ : Type} [Decode.Source σ] : (call : Call) → Decode.Decoder σ call.Answer
  | .command _ => fun source => (Decode.document source).map fun _ => ()
  | .listModules => Listing.decode
  | .getLedger _ => Ledger.decode
  | .getSchema _ _ => Schema.decode
  | .createPool _ => Decode.text
  | .getPool _ => Pool.decode
  | .installConnector _ _ => Decode.text
  | .getConnector _ => Decode.dictionary Decode.dynamic
  | .createWebhook _ => Webhook.decode
  | .getWebhooks _ => Decode.list Webhook.decode
  | .createPolicy _ => Policy.decode
  | .getPolicy _ => Policy.decode

end Call

end Converge.Remote
