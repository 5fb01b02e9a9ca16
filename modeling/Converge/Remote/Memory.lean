import Converge.Remote.Run

/-!
# A stack in memory

The stores of a stack, and what each call does to them. Objects whose identifier the stack
gives are numbered in the order in which they come into being. What is not there is
answered with a failure.
-/

namespace Converge.Remote

open Stack

/-- What a stack holds. -/
structure Memory where
  ledgers : Dictionary Ledger
  /-- By the ledger and the version, with a blank between. -/
  schemas : Dictionary Schema
  pools : Dictionary Pool
  connectors : Dictionary (Dictionary Value)
  webhooks : Dictionary Webhook
  policies : Dictionary Policy
  /-- How many identifiers have been given. -/
  issued : Nat

namespace Memory

def empty : Memory := ⟨∅, ∅, ∅, ∅, ∅, ∅, 0⟩

/-- What a call leads to. -/
abbrev Effect (α : Type) := Except Failure α × Memory

/-- The failure for an object that is not there. -/
def notFound (object : String) : Failure :=
  ⟨.enveloped .payments ⟨"NOT_FOUND", object ++ " not found", none⟩, some 404, none⟩

/-- The bucket of a ledger that asks for none. -/
def standardBucket : String := "_default"

/-- The secret of a webhook that brings none. -/
def generatedSecret : String := "whsec_generated"

/-- When policies are created. -/
def creationTime : Timestamp := ⟨19844, 43200, 0⟩

/-- The store's key of a schema. -/
def schemaKey (ledger version : String) : String := ledger ++ " " ++ version

/-- Look an object up. -/
def fetch {α : Type} (memory : Memory) (object : String) (found : Option α) : Effect α :=
  match found with
  | some found => (.ok found, memory)
  | none => (.error (notFound object), memory)

/-- Change an object that has to be there. -/
def modify {α : Type} (memory : Memory) (object : String) (found : Option α)
    (change : α → Memory) : Effect Unit :=
  match found with
  | some found => (.ok (), change found)
  | none => (.error (notFound object), memory)

/-- The next identifier, and the memory in which it is given. -/
def issue (memory : Memory) (kind : String) : String × Memory :=
  (kind ++ "-" ++ toString (memory.issued + 1), { memory with issued := memory.issued + 1 })

/-- Carry out a command. -/
def execute (memory : Memory) : Command → Effect Unit
  | .createLedger name request =>
    let ledger : Ledger :=
      ⟨name, request.bucket.getD standardBucket, request.metadata, request.features, none⟩
    (.ok (), { memory with ledgers := memory.ledgers.insert name ledger })
  | .setLedgerMetadata name metadata =>
    modify memory "ledger" (memory.ledgers.get? name) fun ledger =>
      let ledger := { ledger with metadata := ledger.metadata.extend metadata }
      { memory with ledgers := memory.ledgers.insert name ledger }
  | .deleteLedgerMetadata name key =>
    modify memory "ledger" (memory.ledgers.get? name) fun ledger =>
      let ledger := { ledger with metadata := ledger.metadata.erase key }
      { memory with ledgers := memory.ledgers.insert name ledger }
  | .insertSchema ledger version schema _ =>
    let stored : Schema :=
      ⟨version, schema.chart.getD .null, schema.transactions.getD .null, none⟩
    (.ok (), { memory with schemas := memory.schemas.insert (schemaKey ledger version) stored })
  | .deletePool id =>
    modify memory "pool" (memory.pools.get? id) fun _ =>
      { memory with pools := memory.pools.erase id }
  | .addAccount id account =>
    modify memory "pool" (memory.pools.get? id) fun pool =>
      let pool := { pool with accounts := pool.accounts ++ [account] }
      { memory with pools := memory.pools.insert id pool }
  | .removeAccount id account =>
    modify memory "pool" (memory.pools.get? id) fun pool =>
      let pool := { pool with accounts := pool.accounts.filter (· != account) }
      { memory with pools := memory.pools.insert id pool }
  | .setPoolQuery id query =>
    modify memory "pool" (memory.pools.get? id) fun pool =>
      let pool := { pool with query := some query }
      { memory with pools := memory.pools.insert id pool }
  | .updateConnector id config =>
    modify memory "connector" (memory.connectors.get? id) fun _ =>
      { memory with connectors := memory.connectors.insert id config }
  | .uninstallConnector id =>
    modify memory "connector" (memory.connectors.get? id) fun _ =>
      { memory with connectors := memory.connectors.erase id }
  | .updateWebhook id request =>
    modify memory "webhook" (memory.webhooks.get? id) fun webhook =>
      let webhook := { webhook with
        endpoint := request.endpoint
        eventTypes := request.eventTypes
        name := request.name
        secret := request.secret }
      { memory with webhooks := memory.webhooks.insert id webhook }
  | .deleteWebhook id =>
    modify memory "webhook" (memory.webhooks.get? id) fun _ =>
      { memory with webhooks := memory.webhooks.erase id }
  | .deletePolicy id =>
    modify memory "policy" (memory.policies.get? id) fun _ =>
      { memory with policies := memory.policies.erase id }

/-- The listing of a stack whose modules are all healthy. -/
def healthyListing (healthy : List String) : Listing :=
  ⟨none, none, ["ledger", "payments", "webhooks", "reconciliation"].map fun name =>
    ⟨name, "v2.0.0", healthy.contains name⟩⟩

/-- The modules of a stack. -/
def modules : List String := ["ledger", "payments", "webhooks", "reconciliation"]

/-- Answer a call. -/
def answer (memory : Memory) : (call : Call) → Effect call.Answer
  | .command command => memory.execute command
  | .listModules => (.ok (healthyListing modules), memory)
  | .getLedger name => fetch memory "ledger" (memory.ledgers.get? name)
  | .getSchema ledger version =>
    fetch memory "schema" (memory.schemas.get? (schemaKey ledger version))
  | .createPool request =>
    let (id, memory) := memory.issue "pool"
    let pool : Pool := ⟨id, request.name, none, request.accounts, request.query⟩
    (.ok id, { memory with pools := memory.pools.insert id pool })
  | .getPool id => fetch memory "pool" (memory.pools.get? id)
  | .installConnector _ config =>
    let (id, memory) := memory.issue "conn"
    (.ok id, { memory with connectors := memory.connectors.insert id config })
  | .getConnector id => fetch memory "connector" (memory.connectors.get? id)
  | .createWebhook request =>
    let (id, memory) := memory.issue "wh"
    let webhook : Webhook := ⟨id, request.endpoint, request.eventTypes, request.name,
      some (request.secret.getD generatedSecret), true, none⟩
    (.ok webhook, { memory with webhooks := memory.webhooks.insert id webhook })
  | .getWebhooks id => (.ok (memory.webhooks.get? id).toList, memory)
  | .createPolicy request =>
    let (id, memory) := memory.issue "pol"
    let policy : Policy := ⟨id, request.name, request.ledgerName, some request.ledgerQuery,
      request.paymentsPool, creationTime⟩
    (.ok policy, { memory with policies := memory.policies.insert id policy })
  | .getPolicy id => fetch memory "policy" (memory.policies.get? id)

/-- The stack in memory as a remote side that answers at once. -/
def remote : Responder Memory where
  reply memory call :=
    let (answer, after) := memory.answer call
    ⟨0, answer, after, memory⟩

/-- A store as a document. -/
def storeToJson {α : Type} (toJson : α → Json) (store : Dictionary α) : Json :=
  .ofDictionary (store.mapValues toJson)

/-- The stores that hold something. -/
def toJson (memory : Memory) : Json :=
  let store {α : Type} (name : String) (toJson : α → Json) (store : Dictionary α) :
      List (String × Json) :=
    if store.isEmpty then [] else [(name, storeToJson toJson store)]
  .ofEntries (
    store "ledgers" Ledger.toJson memory.ledgers
    ++ store "schemas" Schema.toJson memory.schemas
    ++ store "pools" Pool.toJson memory.pools
    ++ store "connectors" valuesToJson memory.connectors
    ++ store "webhooks" Webhook.toJson memory.webhooks
    ++ store "policies" Policy.toJson memory.policies)

end Memory

end Converge.Remote
