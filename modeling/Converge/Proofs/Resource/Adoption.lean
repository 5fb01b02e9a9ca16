import Converge.Proofs.Resource.Drift
import Converge.Proofs.Resource.Ledger
import Converge.Proofs.Resource.Roundtrip
import Converge.Proofs.Resource.Webhook

/-!
# What has been created is adopted as it is

An import reads from a state that holds nothing but the identifier, so what it ends with is what
the stack reports. For what a creation has stored that is the declaration again, and the plan
finds nothing to do. The features of a ledger are the exception: a read looks at those that are
declared, of which an import knows none.
-/

namespace Converge

open Remote

theorem Remote.Program.run_map {σ α β : Type} {remote : Responder σ} {patience : Patience}
    {context : Context} (change : α → β) (program : Program α) (world : σ) (now : Nat) :
    ((program.map change).run remote patience context world now).value =
      change (program.run remote patience context world now).value := by
  induction program generalizing world now with
  | done value => rfl
  | await module next ih => exact ih _ _ _
  | call request next ih => exact ih _ _ _

namespace Resource

variable {M σ : Type}

/-! ## Imports from a memory -/

section Adopt

variable {remote : Responder σ} {patience : Patience} {context : Context} {world : σ} {now : Nat}
variable {read : M → Program (Transition M)} {state imported : M}

theorem adoptBy_value :
    ((adoptBy read state).run remote patience context world now).value =
      let transition := ((read state).run remote patience context world now).value
      if transition.hasError then .failed transition.diagnostics else transition :=
  Program.run_map _ _ _ _

theorem adoptBy_hasError
    (failed : ((read state).run remote patience context world now).value.hasError = true) :
    ((adoptBy read state).run remote patience context world now).value.hasError = true := by
  rw [adoptBy_value]
  dsimp only
  rw [if_pos failed]
  exact failed

theorem adoptBy_ok
    (ended : ((read state).run remote patience context world now).value = .ok imported) :
    ((adoptBy read state).run remote patience context world now).value = .ok imported := by
  rw [adoptBy_value, ended]
  rfl

end Adopt

/-- What an import of an identifier takes over from a memory: whoever keeps the memory, it
reports an error or ends with the state, and against the memory itself it ends with the state. -/
structure Adopts (resource : Resource M) (memory : Memory) (id : String) (imported : M) : Prop where
  kept : ∀ {σ : Type} {remote : Responder σ} {remembered : σ → Memory},
    remote.Keeps remembered → ∀ {world : σ}, remembered world = memory →
    ∀ (patience : Patience) (context : Context) (now : Nat),
      let outcome := (resource.adopt id).run remote patience context world now
      outcome.value.hasError = true ∨ outcome.value = .ok imported
  free : ∀ (patience : Patience) (now : Nat), 0 < patience.timeout →
    ((resource.adopt id).run Memory.remote patience .free memory now).value = .ok imported

/-- An import that asks for what the memory holds. -/
theorem adopts_of_answer {resource : Resource M} {memory : Memory} {id : String}
    {state imported : M} {kind : Kind} {call : Call} {found : call.Answer}
    {read : M → Program (Transition M)} (adopt : resource.adopt id = adoptBy read state)
    {next : Except Diagnostic call.Answer → Program (Transition M)}
    (asks : read state = whenReady kind (some state) (.call call next))
    (stops : ∀ failure, next (.error failure) = .done (.keeping state [failure]))
    (goesOn : next (.ok found) = .done (.ok imported)) (notListing : call ≠ .listModules)
    (held : memory.answer call = (.ok found, memory)) :
    resource.Adopts memory id imported where
  kept := by
    intro σ remote remembered keeps world same patience context now outcome
    simp only [outcome]
    rw [adopt]
    rcases whenReady_call_keeps keeps asks notListing stops patience context world now with
      ⟨failure, isError, ended, _⟩ | ⟨answer, reached, instant, answered, ended, _⟩
    · refine .inl (adoptBy_hasError ?_)
      rw [ended]
      exact hasError_of_failure isError _
    · rw [same, held] at answered
      have isFound : found = answer := Except.ok.inj (Prod.mk.inj answered).1
      rw [← isFound, goesOn] at ended
      exact .inr (adoptBy_ok ended)
  free := by
    intro patience now patient
    rw [adopt]
    apply adoptBy_ok
    have healthy : Gate.await Memory.remote ⟨kind.module, patience, .free, now⟩ memory = _ :=
      memory.await_remote (module_mem_modules kind) patient rfl
    have ready : (Gate.await Memory.remote ⟨kind.module, patience, .free, now⟩ memory).value =
        .ok () := by rw [healthy]
    rw [asks, whenReady_run_healthy ready, healthy]
    change ((next ((memory.answer call).1.mapError Failure.diagnose)).run _ _ _ _ _).value = _
    rw [held, mapError_ok, goesOn]
    rfl

/-! ## All kinds -/

/-- What has been created without an error has an identifier, and an import of it takes over a
state that differs from the declaration only in fields that the import cannot see. -/
def AdoptsCreated (resource : Resource M) (identifier? : M → Option String) (Plain : M → Prop)
    (unseen : M → List String) : Prop :=
  ∀ {σ : Type} {remote : Responder σ} {memory : σ → Memory}, remote.Keeps memory →
    ∀ {desired : M}, Plain desired → ∀ (patience : Patience) (context : Context) (world : σ)
      (now : Nat),
    let outcome := (resource.create desired).run remote patience context world now
    outcome.value.hasError = false →
      ∃ state id imported, outcome.value.state = some state ∧ identifier? state = some id ∧
        resource.Adopts (memory outcome.world) id imported ∧
        resource.changedFields imported desired = unseen desired

namespace Ledger

def identifier? (ledger : Ledger) : Option String := some ledger.name

/-- An import knows of no features. -/
def unseen (ledger : Ledger) : List String :=
  if ledger.features = ∅ then [] else ["features"]

theorem adopts_stored {memory : Memory} {desired : Ledger}
    (held : memory.ledgers.get? desired.name = some (stored desired)) :
    resource.Adopts memory desired.name
      (applyRemote ⟨desired.name, none, ∅, ∅⟩ (stored desired)) :=
  adopts_of_answer rfl rfl (fun _ => rfl) rfl (by simp) (answer_getLedger held)

theorem isEmpty_of_requireGiven {value subject : String}
    (valid : (requireGiven value subject).hasError = false) : value.isEmpty = false := by
  rw [← Bool.not_eq_true]
  intro isEmpty
  have isNothing : value = "" := String.isEmpty_iff.mp isEmpty
  rw [isNothing] at valid
  cases valid

/-- A ledger is never stored without a bucket. -/
theorem bucket_stored {desired : Ledger} (valid : (validate desired).hasError = false) :
    (stored desired).bucket.isEmpty = false := by
  rw [validate, Diagnostics.hasError, List.any_append, Bool.or_eq_false_iff] at valid
  rw [stored]
  cases declared : desired.bucket with
  | none => rfl
  | some bucket =>
      rw [declared] at valid
      exact isEmpty_of_requireGiven valid.2

theorem changedFields_stored {desired : Ledger} (valid : (validate desired).hasError = false) :
    changedFields (applyRemote ⟨desired.name, none, ∅, ∅⟩ (stored desired)) desired =
      unseen desired := by
  let imported := applyRemote ⟨desired.name, none, ∅, ∅⟩ (stored desired)
  have name : imported.name = desired.name := name_applyRemote rfl
  have bucket : desired.bucket.isNone ∨ imported.bucket = desired.bucket := by
    have taken : imported.bucket = some (stored desired).bucket :=
      if_neg (by simp [bucket_stored valid])
    rw [taken, stored]
    cases desired.bucket with
    | none => exact .inl rfl
    | some bucket => exact .inr rfl
  have features : imported.features = ∅ := by
    apply Dictionary.ext_get?
    intro key
    exact Dictionary.get?_filterKeys _ _ key
  have metadata : imported.metadata = desired.metadata := rfl
  change changedFields imported desired = _
  rw [changedFields, if_pos name, if_pos bucket, features, if_pos metadata, unseen,
    List.append_nil, List.nil_append, List.nil_append]
  simp only [eq_comm]

theorem adoptsCreated : resource.AdoptsCreated identifier? (fun _ => True) unseen := by
  intro σ remote memory keeps desired _ patience context world now outcome succeeded
  obtain ⟨valid, ⟨state, isState, isLedger⟩, held⟩ :=
    created_stored keeps desired patience context world now succeeded
  refine ⟨state, desired.name, _, isState, ?_, adopts_stored held, changedFields_stored valid⟩
  rcases isLedger with rfl | rfl
  · rfl
  · exact congrArg some (name_applyRemote rfl)

end Ledger

namespace PaymentsPool

theorem adopts_stored {memory : Memory} {desired : PaymentsPool} {id : String}
    (held : memory.pools.get? id = some (stored id desired)) :
    resource.Adopts memory id (applyRemote ⟨some id, "", [], none⟩ (stored id desired)) := by
  refine adopts_of_answer rfl rfl (fun _ => rfl) rfl (by simp) ?_
  change Memory.fetch _ _ _ = _
  rw [held]
  rfl

theorem changedFields_stored {desired : PaymentsPool}
    (valid : (validate desired).hasError = false) (id : String) :
    changedFields (applyRemote ⟨some id, "", [], none⟩ (stored id desired)) desired = [] := by
  let imported := applyRemote ⟨some id, "", [], none⟩ (stored id desired)
  have name : imported.name = desired.name := rfl
  have accounts : (Delta.between desired.accounts imported.accounts).isEmpty = true := by
    have taken : imported.accounts = desired.accounts := by
      change (if desired.accounts.isEmpty then [] else desired.accounts) = _
      cases desired.accounts <;> rfl
    rw [taken, Delta.isEmpty_between_iff]
    exact fun _ => Iff.rfl
  have query : imported.effectiveQuery.semanticallyEqual desired.effectiveQuery = true := by
    have given : givenQuery (stored id desired).query = givenQuery desired.query := by
      simp [stored, givenQuery]
    have same : imported.effectiveQuery = desired.effectiveQuery := by
      rw [effectiveQuery_applyRemote, heldQuery, given]
      exact givenQuery_getD valid
    rw [same]
    exact Value.semanticallyEqual_self _
  change changedFields imported desired = _
  rw [changedFields, if_pos name, if_pos accounts, if_pos query]
  rfl

theorem adoptsCreated :
    resource.AdoptsCreated PaymentsPool.id (fun _ => True) (fun _ => []) := by
  intro σ remote memory keeps desired _ patience context world now outcome succeeded
  obtain ⟨valid, id, isState, held⟩ :=
    created_stored keeps desired patience context world now succeeded
  exact ⟨_, id, _, isState, rfl, adopts_stored held, changedFields_stored valid id⟩

end PaymentsPool

namespace Webhook

/-- A name or a secret that is declared says something. -/
def Plain (webhook : Webhook) : Prop := webhook.name ≠ some "" ∧ webhook.secret ≠ some ""

theorem adopts_stored {memory : Memory} {desired : Webhook} {id : String}
    (held : memory.webhooks.get? id = some (stored id desired)) :
    resource.Adopts memory id (applyRemote ⟨some id, "", [], none, none⟩ (stored id desired)) := by
  obtain ⟨next, asks, stops, goesOn⟩ :=
    read_asks (show (⟨some id, "", [], none, none⟩ : Webhook).id = some (stored id desired).id from
      rfl)
  refine adopts_of_answer rfl asks stops goesOn (by simp) ?_
  change (Except.ok (memory.webhooks.get? id).toList, memory) = _
  rw [held]
  rfl

theorem given_eq_self {text : Option String} (plain : text ≠ some "") : given text = text := by
  cases text with
  | none => rfl
  | some text =>
      have said : text.isEmpty = false := by
        rw [← Bool.not_eq_true, String.isEmpty_iff]
        exact fun empty => plain (congrArg some empty)
      simp [given, said]

theorem changedFields_stored {desired : Webhook} (plain : desired.Plain) (id : String) :
    changedFields (applyRemote ⟨some id, "", [], none, none⟩ (stored id desired)) desired = [] := by
  let imported := applyRemote ⟨some id, "", [], none, none⟩ (stored id desired)
  have endpoint : imported.endpoint = desired.endpoint := rfl
  have eventTypes : imported.sameEventTypes desired = true := by
    rw [sameEventTypes, Delta.isEmpty_between_iff]
    exact fun _ => Iff.rfl
  have name : imported.name = desired.name := by
    change (given (given desired.name)).or none = _
    rw [Option.or_none, given_given, given_eq_self plain.1]
  -- a secret that is not declared is generated, and not compared
  have secret : desired.secret.isNone ∨ imported.secret = desired.secret := by
    change _ ∨ (given (some ((given desired.secret).getD _))).or none = _
    rw [Option.or_none, given_eq_self plain.2]
    cases declared : desired.secret with
    | none => exact .inl rfl
    | some secret =>
        rw [Option.getD_some, ← declared]
        exact .inr (given_eq_self plain.2)
  change changedFields imported desired = _
  rw [changedFields, if_pos endpoint, if_pos eventTypes, if_pos (.inr name), if_pos secret]
  rfl

theorem adoptsCreated : resource.AdoptsCreated Webhook.id Plain (fun _ => []) := by
  intro σ remote memory keeps desired plain patience context world now outcome succeeded
  obtain ⟨id, isState, held⟩ := created_stored keeps desired patience context world now succeeded
  exact ⟨_, id, _, isState, rfl, adopts_stored held, changedFields_stored plain id⟩

end Webhook

namespace ReconciliationPolicy

/-- What a policy is stored as when it is created. -/
def stored (id : String) (desired : ReconciliationPolicy) : Stack.Policy :=
  ⟨id, desired.name, desired.ledgerName, some desired.queryObject, desired.paymentsPool,
    Memory.creationTime⟩

theorem created_stored {remote : Responder σ} {memory : σ → Memory} (keeps : remote.Keeps memory)
    (desired : ReconciliationPolicy) (patience : Patience) (context : Context) (world : σ)
    (now : Nat) :
    let outcome := (create desired).run remote patience context world now
    outcome.value.hasError = false →
      ∃ id state, outcome.value.state = some state ∧ state.id = some id ∧
        (memory outcome.world).policies.get? id = some (stored id desired) := by
  intro outcome succeeded
  obtain ⟨next, asks, stops, goesOn⟩ : ∃ next,
      create desired = (if (validate desired).hasError then .done (.failed (validate desired))
        else whenReady .reconciliationPolicy none (.call (.createPolicy desired.request) next)) ∧
      (∀ failure, next (.error failure) = .done (.failed [failure])) ∧
      ∀ info, next (.ok info) = .done (.ok { desired with
        id := some info.id, createdAt := some info.createdAt.renderOffset }) :=
    ⟨_, rfl, fun _ => rfl, fun _ => rfl⟩
  obtain ⟨_, info, reached, instant, answered, ended, there⟩ :=
    create_keeps keeps asks (by simp) stops succeeded
  rw [goesOn] at ended there
  obtain ⟨isInfo, after⟩ := Prod.mk.inj answered
  have isStored : stored ((memory world).issue "pol").1 desired = info := Except.ok.inj isInfo
  refine ⟨((memory world).issue "pol").1, _, congrArg Transition.state ended, ?_, ?_⟩
  · rw [← isStored]
    rfl
  · rw [there, Program.run, ← after]
    exact Dictionary.get?_insert_self _ _ _

theorem adopts_stored {memory : Memory} {desired : ReconciliationPolicy} {id : String}
    (held : memory.policies.get? id = some (stored id desired)) :
    resource.Adopts memory id
      (applyRemote ⟨some id, none, "", "", "", none⟩ (stored id desired)) := by
  refine adopts_of_answer rfl rfl (fun _ => rfl) rfl (by simp) ?_
  change Memory.fetch _ _ _ = _
  rw [held]
  rfl

theorem changedFields_stored (desired : ReconciliationPolicy) (id : String) :
    changedFields (applyRemote ⟨some id, none, "", "", "", none⟩ (stored id desired)) desired =
      [] := by
  let imported := applyRemote ⟨some id, none, "", "", "", none⟩ (stored id desired)
  have name : imported.name = desired.name := rfl
  have ledger : imported.ledgerName = desired.ledgerName := rfl
  have pool : imported.paymentsPool = desired.paymentsPool := rfl
  have query : imported.queryObject = desired.queryObject := by
    change (((((some desired.queryObject).filter fun query => !query.isEmpty).map
      Value.ofDictionary).or none).bind Value.asMap?).getD ∅ = _
    cases empty : desired.queryObject.isEmpty with
    | true =>
        rw [Option.filter_some_neg (by simp [empty])]
        exact eq_of_isEmpty empty
    | false =>
        rw [Option.filter_some_pos (by simp [empty])]
        exact Dictionary.ofList_entries _
  change changedFields imported desired = _
  rw [changedFields, if_pos name, if_pos ledger, if_pos pool, query,
    if_pos (Value.semanticallyEqual_self _)]
  rfl

theorem adoptsCreated :
    resource.AdoptsCreated ReconciliationPolicy.id (fun _ => True) (fun _ => []) := by
  intro σ remote memory keeps desired _ patience context world now outcome succeeded
  obtain ⟨id, state, isState, known, held⟩ :=
    created_stored keeps desired patience context world now succeeded
  exact ⟨state, id, _, isState, known, adopts_stored held, changedFields_stored desired id⟩

end ReconciliationPolicy

end Resource

/-- The identifier under which a state of the kind can be imported. -/
def Kind.identifier? : (kind : Kind) → kind.Model → Option String
  | .ledger => Resource.Ledger.identifier?
  | .ledgerSchema => fun _ => none
  | .paymentsPool => Resource.PaymentsPool.id
  | .paymentsConnector => Resource.PaymentsConnector.id
  | .webhooks => Resource.Webhook.id
  | .reconciliationPolicy => Resource.ReconciliationPolicy.id

/-- The fields of a declaration that an import cannot see. -/
def Kind.unseen : (kind : Kind) → kind.Model → List String
  | .ledger => Resource.Ledger.unseen
  | _ => fun _ => []

/-- What a declaration gives says something. -/
def Kind.Plain : (kind : Kind) → kind.Model → Prop
  | .webhooks => Resource.Webhook.Plain
  | _ => fun _ => True

theorem Kind.adoptsCreated {kind : Kind} (imports : kind.resource.adopt?.isSome = true) :
    kind.resource.AdoptsCreated kind.identifier? kind.Plain kind.unseen := by
  cases kind with
  | ledger => exact Resource.Ledger.adoptsCreated
  | ledgerSchema => cases imports
  | paymentsPool => exact Resource.PaymentsPool.adoptsCreated
  | paymentsConnector => cases imports
  | webhooks => exact Resource.Webhook.adoptsCreated
  | reconciliationPolicy => exact Resource.ReconciliationPolicy.adoptsCreated

/-- **What has been created is adopted as it is.** Let a declaration of a kind that can import
have been created without an error against a remote side that keeps a memory, a webhook's name
and secret, where it declares them, saying something. An import of the identifier that the
creation has returned takes over a state from that memory, and the plan of that state for the
declaration finds nothing to do. Only the features of a ledger, where it declares any, are found
changed. -/
theorem Kind.adopts_created {σ : Type} {kind : Kind}
    (imports : kind.resource.adopt?.isSome = true) {remote : Responder σ} {memory : σ → Memory}
    (keeps : remote.Keeps memory) {desired : kind.Model} (plain : kind.Plain desired)
    (patience : Patience) (context : Context) (world : σ) (now : Nat) :
    let created := (kind.resource.create desired).run remote patience context world now
    created.value.hasError = false →
      ∃ state id imported, created.value.state = some state ∧ kind.identifier? state = some id ∧
        kind.resource.Adopts (memory created.world) id imported ∧
        (kind.resource.plan (some imported) desired).changed = kind.unseen desired ∧
        ((kind.resource.plan (some imported) desired).action = .noOp ↔
          kind.unseen desired = []) := by
  intro created succeeded
  obtain ⟨state, id, imported, isState, identified, adopts, changed⟩ :=
    Kind.adoptsCreated imports keeps plain patience context world now succeeded
  refine ⟨state, id, imported, isState, identified, adopts, changed, ?_⟩
  rw [Resource.plan, Plan.ofChanges_noOp_iff, changed]

/-- A webhook whose secret has been generated is adopted with it. -/
theorem Kind.adopts_created_named :
    let created := (Resource.Webhook.create Resource.Webhook.named).run Memory.remote .standard
      .free .empty 0
    ∃ imported : Resource.Webhook,
      ((Resource.Webhook.resource.adopt "wh-1").run Memory.remote .standard .free created.world
        0).value = .ok imported ∧
      (Resource.Webhook.resource.plan (some imported) Resource.Webhook.named).action = .noOp := by
  intro created
  have imports : Kind.webhooks.resource.adopt?.isSome = true := rfl
  have plain : Kind.webhooks.Plain Resource.Webhook.named :=
    ⟨by simp [Resource.Webhook.named], by simp [Resource.Webhook.named]⟩
  obtain ⟨state, id, imported, isState, identified, adopts, _, plans⟩ :=
    Kind.adopts_created imports Memory.remote_keeps plain .standard .free Memory.empty 0 (by rfl)
  have isNamed : state = Resource.Webhook.namedFirst := (Option.some.inj isState).symm
  rw [isNamed] at identified
  cases identified
  exact ⟨imported, adopts.free .standard 0 (by decide), plans.mpr rfl⟩

/-- A ledger that declares a feature. -/
def tuned : Resource.Ledger := ⟨"main", none, .ofList [("HASH_LOGS", "SYNC")], ∅⟩

/-- A webhook that declares an empty name. -/
def unnamed : Resource.Webhook := ⟨none, "https://a", ["created"], some "", none⟩

/-- A ledger that declares a feature is imported without it, and plans to be replaced for it. A
webhook with an empty name is imported without a name, and plans to be given one. -/
theorem Kind.adopted_with_changes :
    let created := (Resource.Ledger.create tuned).run Memory.remote .standard .free .empty 0
    let ledger : Resource.Ledger := ⟨"main", some "_default", ∅, ∅⟩
    let webhook : Resource.Webhook :=
      ⟨some "wh-1", "https://a", ["created"], none, some "whsec_generated"⟩
    let again := (Resource.Webhook.create unnamed).run Memory.remote .standard .free created.world 0
    created.value.diagnostics = [] ∧ again.value.diagnostics = [] ∧
      ((Resource.Ledger.resource.adopt "main").run Memory.remote .standard .free created.world
        0).value = .ok ledger ∧
      Resource.Ledger.resource.plan (some ledger) tuned =
        ⟨.replace, ["features"], ["features"]⟩ ∧
      ((Resource.Webhook.resource.adopt "wh-1").run Memory.remote .standard .free again.world
        0).value = .ok webhook ∧
      Resource.Webhook.resource.plan (some webhook) unnamed = ⟨.update, ["name"], []⟩ :=
  ⟨rfl, rfl, rfl, rfl, rfl, rfl⟩

end Converge
