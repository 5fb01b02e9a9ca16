import Converge.Proofs.Decode
import Converge.Proofs.Resource.Encoding

/-!
# States come back from their documents

A state is handed over as a document and read again before the next transition. What comes back
is the state, save that its dynamic values are in their normal form; and a state that has been
read from a document has them in that form already. So nothing is lost between transitions.
-/

namespace Converge

open Decode Remote

namespace Resource

/-! ## Members of written objects -/

@[simp] theorem find?_ofList_member (key name : String) (value : Option Json) :
    Entries.find? key (Entries.ofList (Json.member name value)) =
      if name = key then value else none := by
  cases value with
  | none => exact (ite_self none).symm
  | some value => rfl

@[simp] theorem find?_ofList_unless (key : String) {empty : Prop} [Decidable empty]
    (entries : List (String × Json)) :
    Entries.find? key (Entries.ofList (if empty then [] else entries)) =
      if empty then none else Entries.find? key (Entries.ofList entries) := by
  split <;> rfl

@[simp] theorem find?_ofList_nil (key : String) :
    Entries.find? key (Entries.ofList ([] : List (String × Json))) = none := rfl

theorem text_string (value : String) : text (Json.string value) = .ok value := rfl

theorem decode_texts (texts : Dictionary String) :
    dictionary text (Json.ofDictionary (texts.mapValues Json.string)) = .ok texts := by
  have each : ∀ value, text (Json.string value) = .ok (id value) := text_string
  have read : dictionary text (Json.ofDictionary (texts.mapValues Json.string)) =
      .ok (texts.mapValues id) := dictionary_map each texts
  have same : texts.mapValues id = texts := by
    apply Dictionary.ext_get?
    intro key
    rw [Dictionary.get?_mapValues, Option.map_id]
    rfl
  rw [read, same]

theorem decode_values (values : Dictionary Value) :
    dictionary dynamic (Json.ofDictionary (values.mapValues Value.encode)) =
      .ok (values.mapValues Value.normalize) := by
  apply dictionary_map
  intro value
  rw [← Value.decode_encode]
  rfl

theorem eq_of_isEmpty {α : Type} {values : Dictionary α} (empty : values.isEmpty = true) :
    ∅ = values := by
  apply Dictionary.ext
  rw [Dictionary.isEmpty, List.isEmpty_iff] at empty
  exact empty.symm

/-! ## Models that come back -/

open Fields (reads_none)

theorem Ledger.decode_toJson (ledger : Ledger) : Ledger.decode ledger.toJson = .ok ledger := by
  obtain ⟨name, bucket, features, metadata⟩ := ledger
  refine record_ofEntries (.present (.unless (.optionalText (.present (reads_none _)
    ?name (text_string name)) ?bucket) ?features (decode_texts features) eq_of_isEmpty)
    ?metadata (decode_texts metadata))
  all_goals simp [Entries.find?_ofList_append, Entries.find?_ofList_cons]

/-- The schema as it comes back from its document. -/
def LedgerSchema.recoded (schema : LedgerSchema) : LedgerSchema :=
  { schema with
    chart := Value.returned schema.chart
    transactions := Value.returned schema.transactions }

theorem LedgerSchema.decode_toJson (schema : LedgerSchema) :
    LedgerSchema.decode schema.toJson = .ok schema.recoded := by
  obtain ⟨ledger, version, chart, transactions, key⟩ := schema
  refine record_ofEntries (.optionalText (.optionalValue (.optionalValue (.present (.present
    (reads_none _) ?ledger (text_string ledger)) ?version (text_string version)) ?chart)
    ?transactions) ?key)
  all_goals simp [Entries.find?_ofList_append, Entries.find?_ofList_cons]

theorem LedgerSchema.recoded_of_decode {document : Json} (finite : document.isFinite = true)
    {schema : LedgerSchema} (read : LedgerSchema.decode document = .ok schema) :
    schema.recoded = schema := by
  refine holds_of_record (fun schema => schema.recoded = schema) ?_ finite read
  refine .anyOptional (.optionalValue (.optionalValue (.any (.any (Fields.yields_none ?_)))))
  intro ledger version chart chartSettled transactions transactionsSettled key
  rw [recoded, chartSettled, transactionsSettled]

/-- The pool as it comes back from its document. -/
def PaymentsPool.recoded (pool : PaymentsPool) : PaymentsPool :=
  { pool with query := Value.returned pool.query }

theorem PaymentsPool.decode_toJson (pool : PaymentsPool) :
    PaymentsPool.decode pool.toJson = .ok pool.recoded := by
  obtain ⟨id, name, accounts, query⟩ := pool
  refine record_ofEntries (.optionalValue (.unless (.present (.optionalText
    (reads_none _) ?id) ?name (text_string name)) ?accounts (list_text accounts)
    fun none : accounts.isEmpty = true => (List.isEmpty_iff.mp none).symm) ?query)
  all_goals simp [Entries.find?_ofList_append, Entries.find?_ofList_cons]

theorem PaymentsPool.recoded_of_decode {document : Json} (finite : document.isFinite = true)
    {pool : PaymentsPool} (read : PaymentsPool.decode document = .ok pool) :
    pool.recoded = pool := by
  refine holds_of_record (fun pool => pool.recoded = pool) ?_ finite read
  refine .optionalValue (.any (.any (.anyOptional (Fields.yields_none ?_))))
  intro id name accounts query settled
  rw [recoded, settled]

/-- The connector as it comes back from its document. -/
def PaymentsConnector.recoded (connector : PaymentsConnector) : PaymentsConnector :=
  { connector with
    credentials := connector.credentials.mapValues Value.normalize
    config := connector.config.mapValues Value.normalize }

theorem PaymentsConnector.decode_toJson (connector : PaymentsConnector) :
    PaymentsConnector.decode connector.toJson = .ok connector.recoded := by
  obtain ⟨id, credentials, config⟩ := connector
  refine record_ofEntries (.present (.present (.optionalText (reads_none _) ?id)
    ?credentials (decode_values credentials)) ?config (decode_values config))
  all_goals simp [Entries.find?_ofList_append, Entries.find?_ofList_cons]

theorem PaymentsConnector.recoded_of_decode {document : Json} (finite : document.isFinite = true)
    {connector : PaymentsConnector} (read : PaymentsConnector.decode document = .ok connector) :
    connector.recoded = connector := by
  refine holds_of_record (fun connector => connector.recoded = connector) ?_ finite read
  refine .defaultedValues (.defaultedValues (.anyOptional (Fields.yields_none ?_)))
  intro id credentials credentialsSettled config configSettled
  rw [recoded, credentialsSettled, configSettled]

theorem Webhook.decode_toJson (webhook : Webhook) :
    Webhook.decode webhook.toJson = .ok webhook := by
  obtain ⟨id, endpoint, eventTypes, name, secret⟩ := webhook
  refine record_ofEntries (.optionalText (.optionalText (.present (.present (.optionalText
    (reads_none _) ?id) ?endpoint (text_string endpoint)) ?eventTypes (list_text eventTypes))
    ?name) ?secret)
  all_goals simp [Entries.find?_ofList_append, Entries.find?_ofList_cons]

/-- The policy as it comes back from its document. -/
def ReconciliationPolicy.recoded (policy : ReconciliationPolicy) : ReconciliationPolicy :=
  { policy with ledgerQuery := Value.returned policy.ledgerQuery }

theorem ReconciliationPolicy.decode_toJson (policy : ReconciliationPolicy) :
    ReconciliationPolicy.decode policy.toJson = .ok policy.recoded := by
  obtain ⟨id, createdAt, name, ledger, pool, query⟩ := policy
  refine record_ofEntries (.optionalValue (.present (.present (.present (.optionalText
    (.optionalText (reads_none _) ?id) ?createdAt) ?name (text_string name)) ?ledger
    (text_string ledger)) ?pool (text_string pool)) ?query)
  all_goals simp [Entries.find?_ofList_append, Entries.find?_ofList_cons]

theorem ReconciliationPolicy.recoded_of_decode {document : Json}
    (finite : document.isFinite = true) {policy : ReconciliationPolicy}
    (read : ReconciliationPolicy.decode document = .ok policy) : policy.recoded = policy := by
  refine holds_of_record (fun policy => policy.recoded = policy) ?_ finite read
  refine .optionalValue (.any (.any (.any (.anyOptional (.anyOptional (Fields.yields_none ?_))))))
  intro id createdAt name ledger pool query settled
  rw [recoded, settled]

end Resource

/-- The model as it comes back from its document. -/
def Kind.recoded : (kind : Kind) → kind.Model → kind.Model
  | .ledger => fun ledger => ledger
  | .ledgerSchema => Resource.LedgerSchema.recoded
  | .paymentsPool => Resource.PaymentsPool.recoded
  | .paymentsConnector => Resource.PaymentsConnector.recoded
  | .webhooks => fun webhook => webhook
  | .reconciliationPolicy => Resource.ReconciliationPolicy.recoded

theorem Kind.decode_toJson_eq {kind : Kind} (model : kind.Model) :
    kind.resource.decode (kind.toJson model) = .ok (kind.recoded model) := by
  cases kind with
  | ledger => exact Resource.Ledger.decode_toJson model
  | ledgerSchema => exact Resource.LedgerSchema.decode_toJson model
  | paymentsPool => exact Resource.PaymentsPool.decode_toJson model
  | paymentsConnector => exact Resource.PaymentsConnector.decode_toJson model
  | webhooks => exact Resource.Webhook.decode_toJson model
  | reconciliationPolicy => exact Resource.ReconciliationPolicy.decode_toJson model

theorem Kind.recoded_of_decode {kind : Kind} {document : Json} (finite : document.isFinite = true)
    {model : kind.Model} (read : kind.resource.decode document = .ok model) :
    kind.recoded model = model := by
  cases kind with
  | ledger => rfl
  | ledgerSchema => exact Resource.LedgerSchema.recoded_of_decode finite read
  | paymentsPool => exact Resource.PaymentsPool.recoded_of_decode finite read
  | paymentsConnector => exact Resource.PaymentsConnector.recoded_of_decode finite read
  | webhooks => rfl
  | reconciliationPolicy => exact Resource.ReconciliationPolicy.recoded_of_decode finite read

/-- **A state comes back from its document.** What has been read from a document of finite
numbers is read again from the document that it is written as. -/
theorem Kind.decode_toJson {kind : Kind} {document : Json} (finite : document.isFinite = true)
    {model : kind.Model} (read : kind.resource.decode document = .ok model) :
    kind.resource.decode (kind.toJson model) = .ok model := by
  rw [Kind.decode_toJson_eq, Kind.recoded_of_decode finite read]

end Converge
