import Converge.Proofs.Resource.History
import Converge.Proofs.Resource.PaymentsConnector
import Converge.Proofs.Value.NormalForm

/-!
# States survive saving and reloading

A state is saved as its document, and read again when it is needed next. What a state holds has
been read before: it comes from the declarations and states that a transition was given, or from
what the stack has answered. Documents hold finite numbers, so every dynamic value in a state is
in its normal form, and one that may be absent is never null. Each transition keeps that, and it
is all that has to hold for the document to be read as the state that it was written for.
-/

namespace Converge

open Decode Remote Program Connector

/-! ## What has been read -/

namespace Value

/-- An optional value that comes back as itself is in its normal form. -/
theorem normalize_of_returned {value : Value} (settled : returned (some value) = some value) :
    value.normalize = value := by
  rw [returned, Option.map_some, Option.filter_eq_some_iff] at settled
  exact Option.some.inj settled.1

theorem returned_filter {value : Option Value} (settled : returned value = value)
    (keep : Value → Bool) : returned (value.filter keep) = value.filter keep := by
  cases value with
  | none => rfl
  | some value =>
      rw [Option.filter_some]
      split
      · exact settled
      · rfl

theorem returned_or {first second : Option Value} (firstSettled : returned first = first)
    (secondSettled : returned second = second) :
    returned (first.or second) = first.or second := by
  cases first with
  | none => exact secondSettled
  | some value => exact firstSettled

/-- A value in its normal form that is not null comes back as itself. -/
theorem returned_some {value : Value} (normal : value.normalize = value)
    (notNull : value.isNull = false) : returned (some value) = some value := by
  rw [returned, Option.map_some, normal, Option.filter_some, notNull]
  rfl

/-! ## Dictionaries in their normal form -/

/-- A dictionary is in its normal form when every value in it is. -/
theorem mapValues_normalize_iff {values : Dictionary Value} :
    values.mapValues normalize = values ↔
      ∀ key value, values.get? key = some value → value.normalize = value := by
  constructor
  · intro settled key value held
    have returned := congrArg (Dictionary.get? · key) settled
    rw [Dictionary.get?_mapValues, held, Option.map_some] at returned
    exact Option.some.inj returned
  · intro each
    apply Dictionary.ext_get?
    intro key
    rw [Dictionary.get?_mapValues]
    cases held : values.get? key with
    | none => rfl
    | some value => rw [Option.map_some, each key value held]

theorem normalize_ofDictionary {values : Dictionary Value}
    (settled : values.mapValues normalize = values) :
    (ofDictionary values).normalize = ofDictionary values := by
  have entries := congrArg Dictionary.entries settled
  rw [Dictionary.entries_mapValues] at entries
  rw [ofDictionary, normalize, normalizeFields_eq_map, entries]

/-! ## Equality with itself -/

/-- A normal form holds no NaN. -/
theorem equal_of_normalize {value : Value} (normal : value.normalize = value) :
    value.equal value = true := by
  have self := normalize_equal_self value
  rwa [normal] at self

theorem beq_of_returned {value : Option Value} (settled : returned value = value) :
    (value == value) = true := by
  cases value with
  | none => rfl
  | some value => exact equal_of_normalize (normalize_of_returned settled)

theorem beq_of_mapValues {values : Dictionary Value}
    (settled : values.mapValues normalize = values) : (values == values) = true := by
  have entries := congrArg Dictionary.entries settled
  rw [Dictionary.entries_mapValues, ← normalizeFields_eq_map] at entries
  change (values.entries == values.entries) = true
  rw [← equalFields_eq_beq, ← entries]
  exact normalizeFields_equal_self values.entries

end Value

namespace Remote

/-- A good answer has been read from a document of finite numbers, as all JSON texts are. -/
def Exchange.Documented (exchange : Exchange) : Prop :=
  ∀ answer, exchange.answer? = some (.ok answer) →
    ∃ document : Json, document.isFinite = true ∧
      exchange.call.decodeAnswer document = .ok answer

/-- The program may leave the state behind: it ends with it on some remote side whose good answers
have all been read from documents. -/
def Program.Leaves {M : Type} (program : Program (Transition M)) (state : M) : Prop :=
  ∃ (σ : Type) (remote : Responder σ) (patience : Patience) (context : Context) (world : σ)
    (now : Nat),
    (∀ exchange ∈ program.exchanges remote patience context world now, exchange.Documented) ∧
    (program.run remote patience context world now).value.state = some state

end Remote

/-- A model of the kind has been read from a document, or is the state that a transition has ended
with which was given such models and told of the rest by the stack. -/
inductive Kind.Obtained (kind : Kind) : kind.Model → Prop where
  | read {document : Json} {model : kind.Model} (finite : document.isFinite = true)
      (decoded : kind.resource.decode document = .ok model) : Obtained kind model
  | created {desired model : kind.Model} (declared : Obtained kind desired)
      (leaves : (kind.resource.create desired).Leaves model) : Obtained kind model
  | refreshed {state model : kind.Model} (before : Obtained kind state)
      (leaves : (kind.resource.read state).Leaves model) : Obtained kind model
  | updated {observed desired model : kind.Model} (before : Obtained kind observed)
      (declared : Obtained kind desired)
      (leaves : (kind.resource.update observed desired).Leaves model) : Obtained kind model
  | adopted {id : String} {model : kind.Model}
      (leaves : (kind.resource.adopt id).Leaves model) : Obtained kind model

/-! ## What the stack answers -/

namespace Stack

theorem Schema.normalize_of_decode {document : Json} (finite : document.isFinite = true)
    {info : Schema} (read : Schema.decode document = .ok info) :
    info.chart.normalize = info.chart ∧ info.transactions.normalize = info.transactions := by
  refine holds_of_record (fun info : Schema =>
    info.chart.normalize = info.chart ∧ info.transactions.normalize = info.transactions)
    ?_ finite read
  refine .anyOptional (.defaultedValue (.defaultedValue (.any (Fields.yields_none ?_))))
  intro version chart chartNormal transactions transactionsNormal createdAt
  exact ⟨chartNormal, transactionsNormal⟩

theorem Pool.returned_of_decode {document : Json} (finite : document.isFinite = true)
    {info : Pool} (read : Pool.decode document = .ok info) :
    Value.returned info.query = info.query := by
  refine holds_of_record (fun info : Pool => Value.returned info.query = info.query) ?_ finite read
  refine .optionalValue (.any (.anyOptional (.any (.any (Fields.yields_none ?_)))))
  intro id name createdAt accounts query settled
  exact settled

theorem Policy.normalize_of_decode {document : Json} (finite : document.isFinite = true)
    {info : Policy} (read : Policy.decode document = .ok info) :
    ∀ query, info.ledgerQuery = some query → query.mapValues Value.normalize = query := by
  refine holds_of_record (fun info : Policy => ∀ query, info.ledgerQuery = some query →
    query.mapValues Value.normalize = query) ?_ finite read
  refine .any (.any (.optionalValues (.any (.any (.any (Fields.yields_none ?_))))))
  intro id name ledgerName query settled pool createdAt
  exact settled

end Stack

namespace Resource

variable {M : Type}

/-! ## Transitions that leave what comes back -/

/-- The state of the transition comes back from its document as it is, if what was answered has
been read from documents. -/
def ReloadsIf (recoded : M → M) (made : List Exchange) (transition : Transition M) : Prop :=
  (∀ exchange ∈ made, exchange.Documented) →
    ∀ state, transition.state = some state → recoded state = state

/-- The course of a transition that leaves only what comes back. -/
def reloading (recoded : M → M) : Course (Transition M) :=
  .uniform fun made _ => ReloadsIf recoded made

section Reloads

variable {recoded : M → M}

theorem reloads_failed (made : List Exchange) (diagnostics : Diagnostics) :
    ReloadsIf recoded made (.failed diagnostics) := by
  rintro _ state ⟨⟩

theorem reloads_with {state : M} (settled : recoded state = state) (made : List Exchange)
    (diagnostics : Diagnostics) : ReloadsIf recoded made (.keeping state diagnostics) := by
  rintro _ _ ⟨⟩
  exact settled

/-- A last call behind a wait. -/
theorem reloads_asks {kind : Kind} {prior : Option M} {call : Call}
    {next : Except Diagnostic call.Answer → Program (Transition M)}
    (settled : ∀ state, prior = some state → recoded state = state)
    (notListing : call.isListing = false)
    (stops : ∀ failure, next (.error failure) = .done ⟨prior, [failure]⟩)
    (goesOn : ∀ answer, ∃ transition, next (.ok answer) = .done transition ∧
      ∀ document : Json, document.isFinite = true → call.decodeAnswer document = .ok answer →
        ∀ state, transition.state = some state → recoded state = state) :
    (whenReady kind prior (.call call next)).Takes (reloading recoded) [] := by
  refine ⟨fun failure => ⟨_, rfl, fun _ _ => settled⟩, notListing, ?_, ?_⟩
  · exact fun failure => ⟨_, stops failure, fun _ _ => settled⟩
  · intro answer
    obtain ⟨transition, ends, reloads⟩ := goesOn answer
    rw [ends]
    intro documented
    obtain ⟨document, finite, read⟩ := documented _ (List.mem_singleton_self _) answer rfl
    exact reloads document finite read

/-- Changes in turn leave what comes back if each change of a plan does. -/
theorem reloads_makes {named : (made pending : List (Change M)) → List String} {final : M}
    {made pending : List (Change M)} {state : M} {program : Program (Transition M)}
    (plan : M → List (Change M))
    (steps : ∀ {state change rest}, recoded state = state → plan state = change :: rest →
      recoded (change.apply state) = change.apply state ∧ plan (change.apply state) = rest)
    (makes : Change.Makes named final made state pending program) (planned : plan state = pending)
    (settled : recoded state = state) (finalSettled : recoded final = final) :
    program.Takes (reloading recoded) (carriedOut (Change.commands made)) := by
  induction makes with
  | done made state => exact reloads_with finalSettled _ []
  | @call made state change rest next stops goesOn ih =>
      obtain ⟨applied, remaining⟩ := steps settled planned
      refine ⟨rfl, fun failure => ⟨_, stops failure, fun _ => reloads_with settled _ _⟩, ?_⟩
      intro answer
      rw [← carriedOut_snoc]
      exact ih remaining applied

/-- An import leaves what its read leaves, or nothing. -/
theorem adoptBy_reloads {read : M → Program (Transition M)} {state : M}
    (reloads : (read state).Takes (reloading recoded) []) :
    (adoptBy read state).Takes (reloading recoded) [] := by
  refine Takes.map_uniform ?_ reloads
  intro made tried transition held
  split
  · exact reloads_failed _ _
  · exact held

end Reloads

/-- The transitions of a kind that are given what comes back leave what comes back. -/
structure Reloading (resource : Resource M) (recoded : M → M) : Prop where
  create : ∀ {desired}, recoded desired = desired →
    (resource.create desired).Takes (reloading recoded) []
  read : ∀ {state}, recoded state = state → (resource.read state).Takes (reloading recoded) []
  update : ∀ {observed desired}, recoded observed = observed → recoded desired = desired →
    (resource.update observed desired).Takes (reloading recoded) []
  adopt : ∀ id, (resource.adopt id).Takes (reloading recoded) []

/-! ## Ledger schemas -/

theorem LedgerSchema.recoded_iff {schema : LedgerSchema} :
    schema.recoded = schema ↔ Value.returned schema.chart = schema.chart ∧
      Value.returned schema.transactions = schema.transactions := by
  obtain ⟨ledger, version, chart, transactions, key⟩ := schema
  simp [recoded]

/-- Neither a value that the stack reports nor the empty document in its place is null. -/
theorem LedgerSchema.returned_remoteOrPrior {remote : Value} (normal : remote.normalize = remote)
    (declared : Bool) :
    Value.returned (remoteOrPrior remote declared) = remoteOrPrior remote declared := by
  have empty : Value.returned (if declared then some (.map []) else none) =
      if declared then some (.map []) else none := by
    cases declared <;> simp [Value.returned, Value.normalize, Value.normalizeFields, Value.isNull]
  rw [remoteOrPrior.eq_def]
  split
  · exact empty
  · exact empty
  · rename_i notNull _
    apply Value.returned_some normal
    cases remote with
    | null => exact absurd rfl notNull
    | _ => rfl

theorem LedgerSchema.reloading : LedgerSchema.resource.Reloading LedgerSchema.recoded where
  create {desired} settled := by
    refine Takes.unless (reloads_failed _ _) (reloads_asks nofun rfl (fun _ => rfl) ?_)
    intro answer
    refine ⟨.ok desired, rfl, ?_⟩
    rintro _ _ _ _ ⟨⟩
    exact settled
  read {state} settled := by
    refine reloads_asks ?_ rfl (fun _ => rfl) fun info => ⟨_, rfl, ?_⟩
    · rintro _ ⟨⟩
      exact settled
    · rintro document finite read _ ⟨⟩
      obtain ⟨chartNormal, transactionsNormal⟩ := Stack.Schema.normalize_of_decode finite read
      exact recoded_iff.mpr ⟨returned_remoteOrPrior chartNormal _,
        returned_remoteOrPrior transactionsNormal _⟩
  update settled _ := by
    have documents := recoded_iff.mp settled
    rintro _ _ ⟨⟩
    exact recoded_iff.mpr documents
  adopt _ := reloads_failed _ _

/-! ## Payments pools -/

theorem PaymentsPool.recoded_iff {pool : PaymentsPool} :
    pool.recoded = pool ↔ Value.returned pool.query = pool.query := by
  obtain ⟨id, name, accounts, query⟩ := pool
  simp [recoded]

theorem PaymentsPool.read_reloads {state : PaymentsPool} (settled : state.recoded = state) :
    (PaymentsPool.read state).Takes (reloading PaymentsPool.recoded) [] := by
  rw [PaymentsPool.read]
  cases state.id with
  | none => exact reloads_with settled _ _
  | some id =>
      refine reloads_asks ?_ rfl (fun _ => rfl) fun info => ⟨_, rfl, ?_⟩
      · rintro _ ⟨⟩
        exact settled
      · rintro document finite read _ ⟨⟩
        have answered := Stack.Pool.returned_of_decode finite read
        exact recoded_iff.mpr (Value.returned_or (Value.returned_filter answered _)
          (recoded_iff.mp settled))

theorem PaymentsPool.reloading : PaymentsPool.resource.Reloading PaymentsPool.recoded where
  create {desired} settled := by
    refine Takes.unless (reloads_failed _ _) (reloads_asks nofun rfl (fun _ => rfl) ?_)
    intro id
    refine ⟨.ok { desired with id := some id }, rfl, ?_⟩
    have query := recoded_iff.mp settled
    rintro _ _ _ _ ⟨⟩
    exact recoded_iff.mpr query
  read settled := PaymentsPool.read_reloads settled
  update {observed desired} settled desiredSettled := by
    change (PaymentsPool.update observed desired).Takes _ []
    rcases PaymentsPool.update_cases observed desired with ⟨_, _, refused⟩ | ⟨_, equal, makes⟩
    · rw [refused]
      exact reloads_with settled _ _
    · have desiredQuery := recoded_iff.mp desiredSettled
      rw [equal]
      refine ⟨fun failure => ⟨_, rfl, fun _ => reloads_with settled _ _⟩, ?_⟩
      refine reloads_makes (fun state => PaymentsPool.plan state desired) ?_ makes rfl settled
        (recoded_iff.mpr desiredQuery)
      intro state change rest stateSettled planned
      obtain ⟨found, known, first, remaining⟩ := PaymentsPool.plan_cases planned
      have query := recoded_iff.mp stateSettled
      refine ⟨recoded_iff.mpr ?_, remaining⟩
      cases first with
      | addition wanted => exact query
      | removal unwanted => exact query
      | querySetting => exact desiredQuery
  adopt _ := adoptBy_reloads (PaymentsPool.read_reloads rfl)

/-! ## Payments connectors -/

theorem PaymentsConnector.recoded_iff {connector : PaymentsConnector} :
    connector.recoded = connector ↔
      connector.credentials.mapValues Value.normalize = connector.credentials ∧
      connector.config.mapValues Value.normalize = connector.config := by
  obtain ⟨id, credentials, config⟩ := connector
  simp [recoded]

/-- What a read takes over has been shown, or was held before. -/
theorem PaymentsConnector.recoded_applyRemote {connector : PaymentsConnector}
    {flat : Dictionary Value} (settled : connector.recoded = connector)
    (flatSettled : flat.mapValues Value.normalize = flat) :
    (connector.applyRemote flat).recoded = connector.applyRemote flat := by
  obtain ⟨credentialsSettled, configSettled⟩ := recoded_iff.mp settled
  rw [Value.mapValues_normalize_iff] at credentialsSettled configSettled flatSettled
  refine recoded_iff.mpr ⟨Value.mapValues_normalize_iff.mpr ?_,
    Value.mapValues_normalize_iff.mpr ?_⟩
  · intro key value held
    rw [get?_credentials_applyRemote] at held
    split at held
    · rcases Option.or_eq_some_iff.mp held with isShown | ⟨_, isHeld⟩
      · exact flatSettled key value isShown
      · exact credentialsSettled key value isHeld
    · cases held
  · intro key value held
    rcases (applyRemote_takes connector flat).config key value held with isShown | ⟨_, isHeld⟩
    · exact flatSettled key value isShown
    · exact configSettled providerKey value isHeld

theorem PaymentsConnector.reloading :
    PaymentsConnector.resource.Reloading PaymentsConnector.recoded where
  create {desired} settled := by
    change (PaymentsConnector.create desired).Takes _ []
    refine Takes.unless (reloads_failed _ _) ?_
    cases Connector.Configuration.ofParts desired.credentials desired.config with
    | error error => exact reloads_failed _ _
    | ok configuration =>
        dsimp only
        cases configuration.encode with
        | error error => exact reloads_failed _ _
        | ok payload =>
            refine reloads_asks nofun rfl (fun _ => rfl) fun id =>
              ⟨.ok { desired with id := some id }, rfl, ?_⟩
            have values := recoded_iff.mp settled
            rintro _ _ _ _ ⟨⟩
            exact recoded_iff.mpr values
  read {state} settled := by
    change (PaymentsConnector.read state).Takes _ []
    rw [PaymentsConnector.read]
    cases state.id with
    | none => exact reloads_with settled _ _
    | some id =>
        refine reloads_asks ?_ rfl (fun _ => rfl) fun flat => ⟨_, rfl, ?_⟩
        · rintro _ ⟨⟩
          exact settled
        · rintro document finite read _ ⟨⟩
          exact recoded_applyRemote settled (mapValues_of_dictionary finite read)
  update {observed desired} settled desiredSettled := by
    change (PaymentsConnector.update observed desired).Takes _ []
    rw [PaymentsConnector.update]
    cases observed.id with
    | none => exact reloads_with settled _ _
    | some id =>
        refine Takes.unless (reloads_with settled _ _) ?_
        cases Connector.Configuration.payload desired.credentials desired.config with
        | error error => exact reloads_with settled _ _
        | ok payload =>
            refine reloads_asks ?_ rfl (fun _ => rfl) fun _ =>
              ⟨.ok { desired with id := some id }, rfl, ?_⟩
            · rintro _ ⟨⟩
              exact settled
            · have values := recoded_iff.mp desiredSettled
              rintro _ _ _ _ ⟨⟩
              exact recoded_iff.mpr values
  adopt _ := reloads_failed _ _

/-! ## Reconciliation policies -/

theorem ReconciliationPolicy.recoded_iff {policy : ReconciliationPolicy} :
    policy.recoded = policy ↔ Value.returned policy.ledgerQuery = policy.ledgerQuery := by
  obtain ⟨id, createdAt, name, ledger, pool, query⟩ := policy
  simp [recoded]

/-- A query that the stack reports is an object, and so not null. -/
theorem ReconciliationPolicy.returned_query {query : Option (Dictionary Value)}
    (settled : ∀ found, query = some found → found.mapValues Value.normalize = found) :
    Value.returned (query.map Value.ofDictionary) = query.map Value.ofDictionary := by
  cases query with
  | none => rfl
  | some found =>
      exact Value.returned_some (Value.normalize_ofDictionary (settled found rfl)) rfl

theorem ReconciliationPolicy.read_reloads {state : ReconciliationPolicy}
    (settled : state.recoded = state) :
    (ReconciliationPolicy.read state).Takes (reloading ReconciliationPolicy.recoded) [] := by
  rw [ReconciliationPolicy.read]
  cases state.id with
  | none => exact reloads_with settled _ _
  | some id =>
      refine reloads_asks ?_ rfl (fun _ => rfl) fun info => ⟨_, rfl, ?_⟩
      · rintro _ ⟨⟩
        exact settled
      · rintro document finite read _ ⟨⟩
        have answered := Stack.Policy.normalize_of_decode finite read
        refine recoded_iff.mpr (Value.returned_or (returned_query ?_) (recoded_iff.mp settled))
        intro found isGiven
        rw [Option.filter_eq_some_iff] at isGiven
        exact answered found isGiven.1

theorem ReconciliationPolicy.reloading :
    ReconciliationPolicy.resource.Reloading ReconciliationPolicy.recoded where
  create {desired} settled := by
    refine Takes.unless (reloads_failed _ _) (reloads_asks nofun rfl (fun _ => rfl) ?_)
    intro info
    refine ⟨_, rfl, ?_⟩
    have query := recoded_iff.mp settled
    rintro _ _ _ _ ⟨⟩
    exact recoded_iff.mpr query
  read settled := ReconciliationPolicy.read_reloads settled
  update settled _ := reloads_with settled _ _
  adopt _ := adoptBy_reloads (ReconciliationPolicy.read_reloads rfl)

/-! ## Equality of models -/

/-- Equality of schemas, in which floats compare as numbers do: NaN equals nothing. -/
def LedgerSchema.equal (left right : LedgerSchema) : Bool :=
  left.ledger == right.ledger && left.version == right.version && left.chart == right.chart
    && left.transactions == right.transactions && left.idempotencyKey == right.idempotencyKey

/-- Equality of pools. -/
def PaymentsPool.equal (left right : PaymentsPool) : Bool :=
  left.id == right.id && left.name == right.name && left.accounts == right.accounts
    && left.query == right.query

/-- Equality of connectors. -/
def PaymentsConnector.equal (left right : PaymentsConnector) : Bool :=
  left.id == right.id && left.credentials == right.credentials && left.config == right.config

/-- Equality of policies. -/
def ReconciliationPolicy.equal (left right : ReconciliationPolicy) : Bool :=
  left.id == right.id && left.createdAt == right.createdAt && left.name == right.name
    && left.ledgerName == right.ledgerName && left.paymentsPool == right.paymentsPool
    && left.ledgerQuery == right.ledgerQuery

end Resource

/-- Equality of models of a kind. -/
def Kind.equal : (kind : Kind) → kind.Model → kind.Model → Bool
  | .ledger => fun (left right : Resource.Ledger) => left == right
  | .ledgerSchema => Resource.LedgerSchema.equal
  | .paymentsPool => Resource.PaymentsPool.equal
  | .paymentsConnector => Resource.PaymentsConnector.equal
  | .webhooks => fun (left right : Resource.Webhook) => left == right
  | .reconciliationPolicy => Resource.ReconciliationPolicy.equal

/-- What comes back as itself equals itself. -/
theorem Kind.equal_self {kind : Kind} {model : kind.Model}
    (settled : kind.recoded model = model) : kind.equal model model = true := by
  cases kind with
  | ledger => exact beq_self_eq_true (α := Resource.Ledger) model
  | ledgerSchema =>
      obtain ⟨chart, transactions⟩ := Resource.LedgerSchema.recoded_iff.mp settled
      simp [Kind.equal, Resource.LedgerSchema.equal, Value.beq_of_returned chart,
        Value.beq_of_returned transactions]
  | paymentsPool =>
      have query := Resource.PaymentsPool.recoded_iff.mp settled
      simp [Kind.equal, Resource.PaymentsPool.equal, Value.beq_of_returned query]
  | paymentsConnector =>
      obtain ⟨credentials, config⟩ := Resource.PaymentsConnector.recoded_iff.mp settled
      simp [Kind.equal, Resource.PaymentsConnector.equal, Value.beq_of_mapValues credentials,
        Value.beq_of_mapValues config]
  | webhooks => exact beq_self_eq_true (α := Resource.Webhook) model
  | reconciliationPolicy =>
      have query := Resource.ReconciliationPolicy.recoded_iff.mp settled
      simp [Kind.equal, Resource.ReconciliationPolicy.equal, Value.beq_of_returned query]

/-! ## All kinds -/

/-- What a transition leaves that leaves only what comes back. -/
theorem Resource.recoded_of_leaves {M : Type} {recoded : M → M}
    {program : Program (Transition M)} (takes : program.Takes (Resource.reloading recoded) [])
    {model : M} (leaves : program.Leaves model) : recoded model = model := by
  obtain ⟨σ, remote, patience, context, world, now, documented, isState⟩ := leaves
  obtain ⟨answered, failed, tried, split, reloads, _, _⟩ :=
    Program.comes takes remote patience context world now
  refine reloads ?_ model isState
  intro exchange member
  apply documented exchange
  apply Resource.mem_of_mem_demands
  rw [split]
  exact List.mem_append_left _ member

/-- Every model of a kind whose transitions keep to what comes back is such a model. -/
theorem Kind.recoded_of_reloading (kind : Kind)
    (reloading : kind.resource.Reloading kind.recoded) {model : kind.Model}
    (obtained : kind.Obtained model) : kind.recoded model = model := by
  induction obtained with
  | read finite decoded => exact Kind.recoded_of_decode finite decoded
  | created declared leaves ih => exact Resource.recoded_of_leaves (reloading.create ih) leaves
  | refreshed before leaves ih => exact Resource.recoded_of_leaves (reloading.read ih) leaves
  | updated before declared leaves ih ihDeclared =>
      exact Resource.recoded_of_leaves (reloading.update ih ihDeclared) leaves
  | adopted leaves => exact Resource.recoded_of_leaves (reloading.adopt _) leaves

theorem Kind.recoded_of_obtained {kind : Kind} {model : kind.Model}
    (obtained : kind.Obtained model) : kind.recoded model = model := by
  cases kind with
  | ledger => rfl
  | ledgerSchema =>
      exact Kind.recoded_of_reloading .ledgerSchema Resource.LedgerSchema.reloading obtained
  | paymentsPool =>
      exact Kind.recoded_of_reloading .paymentsPool Resource.PaymentsPool.reloading obtained
  | paymentsConnector =>
      exact Kind.recoded_of_reloading .paymentsConnector
        Resource.PaymentsConnector.reloading obtained
  | webhooks => rfl
  | reconciliationPolicy =>
      exact Kind.recoded_of_reloading .reconciliationPolicy
        Resource.ReconciliationPolicy.reloading obtained

/-- **States survive saving and reloading.** For every kind, whatever has been read from a
document of finite numbers, and every state that a transition ends with which was given such
models and whose answers have been read from such documents, is written as a document and read
again from it. Floats compare as numbers do, and it equals what comes back in that sense as well,
since it holds no NaN. -/
theorem Kind.obtained_reloads {kind : Kind} {model : kind.Model} (obtained : kind.Obtained model) :
    (∃ document, kind.resource.encode model = .ok document ∧
      kind.resource.decode document = .ok model) ∧ kind.equal model model = true := by
  have settled := Kind.recoded_of_obtained obtained
  refine ⟨⟨kind.toJson model, kind.encode_writes model, ?_⟩, Kind.equal_self settled⟩
  rw [Kind.decode_toJson_eq, settled]

/-- A schema whose only segment has a limit, spelled as the float 3.0. -/
def limitedSchema : Json :=
  .ofEntries [("ledger", .string "main"), ("version", .string "v1"),
    ("chart", .ofEntries [("bank", .ofEntries [(".metadata",
      .ofEntries [("limit", .number (.real ⟨0x4008000000000000⟩))])])])]

/-- The schema as the stack reports it, with templates that are null. -/
def limitedInfo : Stack.Schema :=
  ⟨"v1", .map [("bank", .map [(".metadata", .map [("limit", .int 3)])])], .null, none⟩

/-- The limit is the integer 3 in the state, and the templates stay absent behind a read. -/
theorem Kind.obtained_reloads_limitedSchema :
    let schema : Resource.LedgerSchema := ⟨"main", "v1", some limitedInfo.chart, none, none⟩
    let held : Memory := { Memory.empty with schemas := .ofList [("main v1", limitedInfo)] }
    Kind.ledgerSchema.resource.decode limitedSchema = .ok schema ∧
      ((Kind.ledgerSchema.resource.read schema).run Memory.remote .standard .free held
        0).value.state = some schema ∧
      (∃ document, Kind.ledgerSchema.resource.encode schema = .ok document ∧
        Kind.ledgerSchema.resource.decode document = .ok schema) ∧
      schema.equal schema = true := by
  intro schema held
  have decoded : Kind.ledgerSchema.resource.decode limitedSchema = .ok schema := rfl
  have isState : ((Kind.ledgerSchema.resource.read schema).run Memory.remote .standard .free held
      0).value.state = some schema := rfl
  have exchanges : (Kind.ledgerSchema.resource.read schema).exchanges Memory.remote .standard .free
      held 0 = [⟨.listModules, some (.ok (Memory.healthyListing Memory.modules))⟩,
        ⟨.getSchema "main" "v1", some (.ok limitedInfo)⟩] := rfl
  have documented : ∀ exchange ∈ (Kind.ledgerSchema.resource.read schema).exchanges Memory.remote
      .standard .free held 0, exchange.Documented := by
    rw [exchanges]
    refine List.forall_mem_cons.mpr ⟨?_, List.forall_mem_cons.mpr ⟨?_, List.forall_mem_nil _⟩⟩
    · rintro _ ⟨⟩
      exact ⟨(Memory.healthyListing Memory.modules).toJson, by decide, rfl⟩
    · rintro _ ⟨⟩
      exact ⟨limitedInfo.toJson, by decide, rfl⟩
  have isRead : Kind.ledgerSchema.Obtained schema :=
    .refreshed (.read (by decide) decoded)
      ⟨Memory, Memory.remote, .standard, .free, held, 0, documented, isState⟩
  exact ⟨decoded, isState, Kind.obtained_reloads isRead⟩

end Converge
