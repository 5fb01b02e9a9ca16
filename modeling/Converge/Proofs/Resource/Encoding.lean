import Converge.Proofs.Encode
import Converge.Proofs.Value
import Converge.Resource.Documents

/-!
# Every state has a document

A state is handed over as a document, and a state without one would be dropped. No kind has such
a state: maps are kept under texts, and everything else can be written. So a transition between
documents holds a state where the transition between models does, and reports the same.
-/

namespace Converge

/-! ## Kinds -/

/-- The type of the states and declarations of a kind. -/
def Kind.Model : Kind → Type
  | .ledger => Resource.Ledger
  | .ledgerSchema => Resource.LedgerSchema
  | .paymentsPool => Resource.PaymentsPool
  | .paymentsConnector => Resource.PaymentsConnector
  | .webhooks => Resource.Webhook
  | .reconciliationPolicy => Resource.ReconciliationPolicy

/-- What can be done with a kind, by its own type. -/
def Kind.resource : (kind : Kind) → Resource kind.Model
  | .ledger => Resource.Ledger.resource
  | .ledgerSchema => Resource.LedgerSchema.resource
  | .paymentsPool => Resource.PaymentsPool.resource
  | .paymentsConnector => Resource.PaymentsConnector.resource
  | .webhooks => Resource.Webhook.resource
  | .reconciliationPolicy => Resource.ReconciliationPolicy.resource

theorem Kind.documents_eq (kind : Kind) : kind.documents = kind.resource.documents := by
  cases kind <;> rfl

theorem Kind.kind_resource (kind : Kind) : kind.resource.kind = kind := by
  cases kind <;> rfl

namespace Resource

/-! ## The documents of states -/

def Ledger.toJson (ledger : Ledger) : Json :=
  .ofEntries (
    [("name", .string ledger.name)]
    ++ Json.member "bucket" (ledger.bucket.map .string)
    ++ (if ledger.features.isEmpty then []
      else [("features", .ofDictionary (ledger.features.mapValues .string))])
    ++ [("metadata", .ofDictionary (ledger.metadata.mapValues .string))])

theorem Ledger.encode_writes : Encode.Writes Ledger.encode Ledger.toJson := by
  intro ledger
  rw [encode, Encode.text_writes.field, Encode.text_writes.optional,
    Encode.text_writes.dictionary.field, Encode.text_writes.dictionary.field, Encode.omitIf_ok]
  refine (Encode.record_ok [_, _, _, _]).trans ?_
  simp [toJson]

def LedgerSchema.toJson (schema : LedgerSchema) : Json :=
  .ofEntries (
    [("ledger", .string schema.ledger), ("version", .string schema.version)]
    ++ Json.member "chart" (schema.chart.map Value.encode)
    ++ Json.member "transactions" (schema.transactions.map Value.encode)
    ++ Json.member "idempotency_key" (schema.idempotencyKey.map .string))

theorem LedgerSchema.encode_writes : Encode.Writes LedgerSchema.encode LedgerSchema.toJson := by
  intro schema
  rw [encode, Encode.text_writes.field, Encode.text_writes.field, Encode.dynamic_writes.optional,
    Encode.dynamic_writes.optional, Encode.text_writes.optional]
  refine (Encode.record_ok [_, _, _, _, _]).trans ?_
  simp [toJson]

def PaymentsPool.toJson (pool : PaymentsPool) : Json :=
  .ofEntries (
    Json.member "id" (pool.id.map .string)
    ++ [("name", .string pool.name)]
    ++ (if pool.accounts.isEmpty then []
      else [("accounts_ids", .array (pool.accounts.map .string))])
    ++ Json.member "query" (pool.query.map Value.encode))

theorem PaymentsPool.encode_writes : Encode.Writes PaymentsPool.encode PaymentsPool.toJson := by
  intro pool
  rw [encode, Encode.text_writes.optional, Encode.text_writes.field,
    Encode.text_writes.list.field, Encode.omitIf_ok, Encode.dynamic_writes.optional]
  refine (Encode.record_ok [_, _, _, _]).trans ?_
  simp [toJson]

def PaymentsConnector.toJson (connector : PaymentsConnector) : Json :=
  .ofEntries (
    Json.member "id" (connector.id.map .string)
    ++ [("credentials", .ofDictionary (connector.credentials.mapValues Value.encode)),
      ("config", .ofDictionary (connector.config.mapValues Value.encode))])

theorem PaymentsConnector.encode_writes :
    Encode.Writes PaymentsConnector.encode PaymentsConnector.toJson := by
  intro connector
  rw [encode, Encode.text_writes.optional, Encode.dynamic_writes.dictionary.field,
    Encode.dynamic_writes.dictionary.field]
  refine (Encode.record_ok [_, _, _]).trans ?_
  simp [toJson]

def Webhook.toJson (webhook : Webhook) : Json :=
  .ofEntries (
    Json.member "id" (webhook.id.map .string)
    ++ [("endpoint", .string webhook.endpoint),
      ("event_types", .array (webhook.eventTypes.map .string))]
    ++ Json.member "name" (webhook.name.map .string)
    ++ Json.member "secret" (webhook.secret.map .string))

theorem Webhook.encode_writes : Encode.Writes Webhook.encode Webhook.toJson := by
  intro webhook
  rw [encode, Encode.text_writes.optional, Encode.text_writes.field,
    Encode.text_writes.list.field, Encode.text_writes.optional, Encode.text_writes.optional]
  refine (Encode.record_ok [_, _, _, _, _]).trans ?_
  simp [toJson]

def ReconciliationPolicy.toJson (policy : ReconciliationPolicy) : Json :=
  .ofEntries (
    Json.member "id" (policy.id.map .string)
    ++ Json.member "created_at" (policy.createdAt.map .string)
    ++ [("name", .string policy.name), ("ledger_name", .string policy.ledgerName),
      ("payments_pool_id", .string policy.paymentsPool)]
    ++ Json.member "ledger_query" (policy.ledgerQuery.map Value.encode))

theorem ReconciliationPolicy.encode_writes :
    Encode.Writes ReconciliationPolicy.encode ReconciliationPolicy.toJson := by
  intro policy
  rw [encode, Encode.text_writes.optional, Encode.text_writes.optional,
    Encode.text_writes.field, Encode.text_writes.field, Encode.text_writes.field,
    Encode.dynamic_writes.optional]
  refine (Encode.record_ok [_, _, _, _, _, _]).trans ?_
  simp [toJson]

end Resource

/-- The document of a state. -/
def Kind.toJson : (kind : Kind) → kind.Model → Json
  | .ledger => Resource.Ledger.toJson
  | .ledgerSchema => Resource.LedgerSchema.toJson
  | .paymentsPool => Resource.PaymentsPool.toJson
  | .paymentsConnector => Resource.PaymentsConnector.toJson
  | .webhooks => Resource.Webhook.toJson
  | .reconciliationPolicy => Resource.ReconciliationPolicy.toJson

theorem Kind.encode_writes (kind : Kind) : Encode.Writes kind.resource.encode kind.toJson := by
  cases kind with
  | ledger => exact Resource.Ledger.encode_writes
  | ledgerSchema => exact Resource.LedgerSchema.encode_writes
  | paymentsPool => exact Resource.PaymentsPool.encode_writes
  | paymentsConnector => exact Resource.PaymentsConnector.encode_writes
  | webhooks => exact Resource.Webhook.encode_writes
  | reconciliationPolicy => exact Resource.ReconciliationPolicy.encode_writes

namespace Resource

/-! ## Transitions between documents -/

variable {M : Type} {resource : Resource M} {toJson : M → Json}

/-- Where every state has a document, the transition keeps its state and its reports. -/
theorem toDocument_eq (writes : Encode.Writes resource.encode toJson) (transition : Transition M) :
    resource.toDocument transition = transition.map toJson := by
  obtain ⟨state, diagnostics⟩ := transition
  cases state with
  | none => rfl
  | some state =>
      rw [toDocument]
      dsimp only
      rw [writes]
      rfl

end Resource

end Converge
