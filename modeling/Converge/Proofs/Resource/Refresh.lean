import Converge.Proofs.Dictionary
import Converge.Proofs.Resource.PaymentsConnector
import Converge.Proofs.Resource.PaymentsPool
import Converge.Proofs.Resource.Roundtrip
import Converge.Proofs.Resource.Webhook

/-!
# Reads settle at once

A read takes over what the stack reports, and what it takes over depends on what the state has:
the features and the keys that it declares, the documents that it has, and what it keeps where
the stack is silent. What it leaves is another state, with other keys, so a second read goes by
another measure. It comes to the same state all the same: a report that has been taken over once
is found again in what it has left.
-/

namespace Converge

open Remote Connector

variable {σ : Type}

/-! ## Refreshed states -/

/-- What a read of a kind is answered with; of a listing, the webhook that is looked for. -/
def Kind.Report : Kind → Type
  | .ledger => Stack.Ledger
  | .ledgerSchema => Stack.Schema
  | .paymentsPool => Stack.Pool
  | .paymentsConnector => Dictionary Value
  | .webhooks => Stack.Webhook
  | .reconciliationPolicy => Stack.Policy

/-- The state that a read leaves of a state behind a report. -/
def Kind.refreshed : (kind : Kind) → kind.Model → kind.Report → kind.Model
  | .ledger => Resource.Ledger.applyRemote
  | .ledgerSchema => Resource.LedgerSchema.applyRemote
  | .paymentsPool => Resource.PaymentsPool.applyRemote
  | .paymentsConnector => Resource.PaymentsConnector.applyRemote
  | .webhooks => Resource.Webhook.applyRemote
  | .reconciliationPolicy => Resource.ReconciliationPolicy.applyRemote

namespace Resource

/-- What is kept where nothing is reported is what has been kept before. -/
theorem or_or_self {α : Type} (reported held : Option α) :
    reported.or (reported.or held) = reported.or held := by
  rw [← Option.or_assoc, Option.or_self]

theorem ite_ite_self {α : Type} (empty : Bool) (held reported : α) :
    (if empty then (if empty then held else reported) else reported) =
      if empty then held else reported := by
  cases empty <;> rfl

namespace Ledger

/-- The features that are declared and reported are the same ones behind a read. -/
theorem applyRemote_applyRemote (state : Ledger) (info : Stack.Ledger) :
    (state.applyRemote info).applyRemote info = state.applyRemote info := by
  have features : info.features.filterKeys
      (info.features.filterKeys state.features.contains).contains =
        info.features.filterKeys state.features.contains := by
    apply Dictionary.filterKeys_congr
    intro key reported
    rw [Dictionary.contains, Dictionary.get?_filterKeys]
    cases state.features.contains key with
    | true => exact reported
    | false => rfl
  rw [applyRemote, applyRemote]
  simp only [features, ite_ite_self]

end Ledger

namespace LedgerSchema

/-- Whether a document is declared is seen from the one that is kept. -/
theorem remoteOrPrior_isSome (reported : Value) (declared : Bool) :
    remoteOrPrior reported (remoteOrPrior reported declared).isSome =
      remoteOrPrior reported declared := by
  rw [remoteOrPrior.eq_def, remoteOrPrior.eq_def]
  cases declared <;> split <;> rfl

theorem applyRemote_applyRemote (state : LedgerSchema) (info : Stack.Schema) :
    (state.applyRemote info).applyRemote info = state.applyRemote info := by
  rw [applyRemote, applyRemote]
  simp only [remoteOrPrior_isSome, ite_ite_self]

end LedgerSchema

namespace PaymentsPool

theorem applyRemote_applyRemote (state : PaymentsPool) (info : Stack.Pool) :
    (state.applyRemote info).applyRemote info = state.applyRemote info := by
  rw [applyRemote, applyRemote]
  simp only [or_or_self, ite_ite_self]

end PaymentsPool

namespace Webhook

theorem applyRemote_applyRemote (state : Webhook) (info : Stack.Webhook) :
    (state.applyRemote info).applyRemote info = state.applyRemote info := by
  rw [applyRemote, applyRemote]
  simp only [or_or_self]

end Webhook

namespace ReconciliationPolicy

theorem applyRemote_applyRemote (state : ReconciliationPolicy) (info : Stack.Policy) :
    (state.applyRemote info).applyRemote info = state.applyRemote info := by
  rw [applyRemote, applyRemote]
  simp only [or_or_self]

theorem read_asks {state : ReconciliationPolicy} {id : String} (known : state.id = some id) :
    ∃ next,
      read state = whenReady .reconciliationPolicy (some state) (.call (.getPolicy id) next) ∧
      (∀ failure, next (.error failure) = .done (.keeping state [failure])) ∧
      ∀ info, next (.ok info) = .done (.ok (state.applyRemote info)) := by
  rw [read, known]
  exact ⟨_, rfl, fun _ => rfl, fun _ => rfl⟩

end ReconciliationPolicy

namespace PaymentsConnector

/-- Keys that are not shown make no difference to what is taken of the shown ones. -/
theorem sanitize_congr {shown : Dictionary Value} {allowed other : List String}
    (same : ∀ key, (shown.get? key).isSome = true → (key ∈ allowed ↔ key ∈ other)) :
    Value.sanitize shown allowed = Value.sanitize shown other := by
  apply Dictionary.filterKeys_congr
  intro key isShown
  rw [Bool.eq_iff_iff, List.contains_iff_mem, List.contains_iff_mem]
  exact same key isShown

/-- Of the configuration a read takes over what is shown under its keys, with the provider as it
is declared where that is shown by the same name. -/
theorem config_applyRemote_cases (connector : PaymentsConnector) (shown : Dictionary Value) :
    let taken := Value.sanitize shown connector.config.keys
    let next := connector.applyRemote shown
    (next.config = taken ∧ ∀ declared, connector.config.get? providerKey = some declared →
      providerName connector.config ≠ providerName taken) ∨
    ∃ declared, connector.config.get? providerKey = some declared ∧
      providerName connector.config = providerName taken ∧
      next.config = taken.insert providerKey declared := by
  intro taken next
  cases found : connector.config.get? providerKey with
  | none =>
      refine .inl ⟨?_, nofun⟩
      simp only [next, applyRemote, Value.partition, found]
      rfl
  | some declared =>
      by_cases same : providerName connector.config = providerName taken
      · refine .inr ⟨declared, rfl, same, ?_⟩
        simp only [next, applyRemote, Value.partition, found]
        exact if_pos (beq_iff_eq.mpr same)
      · refine .inl ⟨?_, fun _ _ => same⟩
        simp only [next, applyRemote, Value.partition, found]
        exact if_neg fun equal => same (beq_iff_eq.mp equal)

/-- What was taken of the shown keys is found again under the keys that are left. -/
theorem sanitize_config_applyRemote (connector : PaymentsConnector) (shown : Dictionary Value) :
    Value.sanitize shown (connector.applyRemote shown).config.keys =
      Value.sanitize shown connector.config.keys := by
  apply sanitize_congr
  intro key isShown
  have kept : key ∈ (Value.sanitize shown connector.config.keys).keys ↔
      key ∈ connector.config.keys := by
    rw [Dictionary.mem_keys_iff, get?_sanitize]
    split
    · exact iff_of_true isShown ‹_›
    · exact iff_of_false (by simp) ‹_›
  rcases config_applyRemote_cases connector shown with
    ⟨taken, _⟩ | ⟨declared, isDeclared, _, respelled⟩
  · rw [taken, kept]
  · rw [respelled, Dictionary.mem_keys_iff, Dictionary.get?_insert]
    split
    · rename_i isProvider
      subst isProvider
      rw [Dictionary.mem_keys_iff, isDeclared]
    · rw [← Dictionary.mem_keys_iff, kept]

/-- The configuration keeps its keys, and the provider keeps its spelling or takes over the shown
one for good. -/
theorem config_applyRemote_applyRemote (connector : PaymentsConnector) (shown : Dictionary Value) :
    ((connector.applyRemote shown).applyRemote shown).config =
      (connector.applyRemote shown).config := by
  let next := connector.applyRemote shown
  let taken := Value.sanitize shown connector.config.keys
  have same : Value.sanitize shown next.config.keys = taken :=
    sanitize_config_applyRemote connector shown
  have again := config_applyRemote_cases next shown
  simp only [same] at again
  rcases config_applyRemote_cases connector shown with
    ⟨isTaken, _⟩ | ⟨declared, isDeclared, sameProvider, respelled⟩
  · -- what is shown under the declared keys, the provider among them if it is there
    rcases again with ⟨equal, _⟩ | ⟨shownProvider, isShown, _, equal⟩
    · exact equal.trans isTaken.symm
    · have held : taken.get? providerKey = some shownProvider := by
        rw [show taken = next.config from isTaken.symm]
        exact isShown
      rw [equal, Dictionary.insert_eq_self held]
      exact isTaken.symm
  · -- the provider is declared still, by the name by which it is shown
    have kept : next.config.get? providerKey = some declared := by
      simp only [next, respelled]
      exact Dictionary.get?_insert_self _ _ _
    have sameName : providerName next.config = providerName connector.config := by
      rw [providerName, providerName, kept, isDeclared]
    rcases again with ⟨_, different⟩ | ⟨declaredAgain, isDeclaredAgain, _, equal⟩
    · exact absurd (sameName.trans sameProvider) (different declared kept)
    · rw [kept] at isDeclaredAgain
      cases isDeclaredAgain
      exact equal.trans respelled.symm

theorem credentials_applyRemote_applyRemote (connector : PaymentsConnector)
    (shown : Dictionary Value) :
    ((connector.applyRemote shown).applyRemote shown).credentials =
      (connector.applyRemote shown).credentials := by
  apply Dictionary.ext_get?
  intro key
  rw [get?_credentials_applyRemote, get?_credentials_applyRemote,
    (applyRemote_takes connector shown).credentialKeys]
  split
  · rw [or_or_self]
  · rfl

theorem eq_of_parts {left right : PaymentsConnector} (id : left.id = right.id)
    (credentials : left.credentials = right.credentials) (config : left.config = right.config) :
    left = right := by
  cases left
  cases right
  simp only at id credentials config
  rw [id, credentials, config]

theorem applyRemote_applyRemote (connector : PaymentsConnector) (shown : Dictionary Value) :
    (connector.applyRemote shown).applyRemote shown = connector.applyRemote shown :=
  eq_of_parts rfl (credentials_applyRemote_applyRemote connector shown)
    (config_applyRemote_applyRemote connector shown)

/-- A key that is not shown is dropped, one that was never declared is not taken over, and the
provider keeps its spelling. -/
example :
    let connector : PaymentsConnector :=
      { id := some "conn-1", credentials := .ofList [("apiKey", .text "k")]
        config := .ofList [("name", .text "main"), ("provider", .text "Stripe")] }
    let shown : Dictionary Value := .ofList [("extra", .text "x"), ("provider", .text "STRIPE")]
    connector.applyRemote shown =
      { connector with config := .ofList [("provider", .text "Stripe")] } := by
  rfl

end PaymentsConnector

end Resource

theorem Kind.refreshed_refreshed {kind : Kind} (state : kind.Model) (report : kind.Report) :
    kind.refreshed (kind.refreshed state report) report = kind.refreshed state report := by
  cases kind with
  | ledger => exact Resource.Ledger.applyRemote_applyRemote state report
  | ledgerSchema => exact Resource.LedgerSchema.applyRemote_applyRemote state report
  | paymentsPool => exact Resource.PaymentsPool.applyRemote_applyRemote state report
  | paymentsConnector => exact Resource.PaymentsConnector.applyRemote_applyRemote state report
  | webhooks => exact Resource.Webhook.applyRemote_applyRemote state report
  | reconciliationPolicy =>
      exact Resource.ReconciliationPolicy.applyRemote_applyRemote state report

/-! ## Reads -/

/-- In the exchange a read of the state is given the report. -/
def Kind.Reports : (kind : Kind) → kind.Model → kind.Report → Exchange → Prop
  | .ledger, (state : Resource.Ledger), (info : Stack.Ledger), exchange =>
      exchange = ⟨.getLedger state.name, some (.ok info)⟩
  | .ledgerSchema, (state : Resource.LedgerSchema), (info : Stack.Schema), exchange =>
      exchange = ⟨.getSchema state.ledger state.version, some (.ok info)⟩
  | .paymentsPool, (state : Resource.PaymentsPool), (info : Stack.Pool), exchange =>
      ∃ id, state.id = some id ∧ exchange = ⟨.getPool id, some (.ok info)⟩
  | .paymentsConnector, (state : Resource.PaymentsConnector), (flat : Dictionary Value), exchange =>
      ∃ id, state.id = some id ∧ exchange = ⟨.getConnector id, some (.ok flat)⟩
  | .webhooks, (state : Resource.Webhook), (info : Stack.Webhook), exchange =>
      ∃ id listed, state.id = some id ∧ exchange = ⟨.getWebhooks id, some (.ok listed)⟩ ∧
        listed.find? (·.id == id) = some info
  | .reconciliationPolicy, (state : Resource.ReconciliationPolicy), (info : Stack.Policy),
      exchange => ∃ id, state.id = some id ∧ exchange = ⟨.getPolicy id, some (.ok info)⟩

/-- A read that is given a report ends with the state that it leaves. -/
theorem Kind.read_refreshed {kind : Kind} {state : kind.Model} {report : kind.Report}
    {remote : Responder σ} {patience : Patience} {context : Context} {world : σ} {now : Nat}
    {exchange : Exchange}
    (exchanged :
      exchange ∈ (kind.resource.read state).exchanges remote patience context world now)
    (reports : kind.Reports state report exchange) :
    ((kind.resource.read state).run remote patience context world now).value =
      .ok (kind.refreshed state report) := by
  cases kind with
  | ledger =>
      cases reports
      exact Resource.read_answered_of_asks rfl (by simp) (fun _ => rfl) (fun _ => rfl) exchanged
  | ledgerSchema =>
      cases reports
      exact Resource.read_answered_of_asks rfl (by simp) (fun _ => rfl) (fun _ => rfl) exchanged
  | paymentsPool =>
      obtain ⟨id, known, rfl⟩ := reports
      obtain ⟨next, asks, stops, goesOn⟩ := Resource.PaymentsPool.read_asks known
      exact Resource.read_answered_of_asks asks (by simp) stops goesOn exchanged
  | paymentsConnector =>
      obtain ⟨id, known, rfl⟩ := reports
      obtain ⟨next, asks, stops, goesOn⟩ := Resource.PaymentsConnector.read_asks known
      exact Resource.read_answered_of_asks asks (by simp) stops goesOn exchanged
  | webhooks =>
      obtain ⟨id, listed, known, rfl, isListed⟩ := reports
      obtain ⟨next, asks, stops, goesOn⟩ := Resource.Webhook.read_listing known
      have ended := Resource.read_answered_of_asks asks (by simp) stops goesOn exchanged
      rw [isListed] at ended
      exact ended
  | reconciliationPolicy =>
      obtain ⟨id, known, rfl⟩ := reports
      obtain ⟨next, asks, stops, goesOn⟩ := Resource.ReconciliationPolicy.read_asks known
      exact Resource.read_answered_of_asks asks (by simp) stops goesOn exchanged

/-- **Refreshing is idempotent.** In every kind, for all states and reports: what a read leaves
behind a report is left as it is by the same report. So a read that is given the report ends with
that state, and a read of that state that is given it again ends with it too. -/
theorem Kind.refresh_settles (kind : Kind) (state : kind.Model) (report : kind.Report) :
    let next := kind.refreshed state report
    kind.refreshed next report = next ∧
      ∀ {σ : Type} (remote : Responder σ) (patience : Patience) (context : Context) (world : σ)
        (now : Nat),
        let exchanges := fun state =>
          (kind.resource.read state).exchanges remote patience context world now
        let value := fun state =>
          ((kind.resource.read state).run remote patience context world now).value
        (∀ exchange ∈ exchanges state, kind.Reports state report exchange →
          value state = .ok next) ∧
        ∀ exchange ∈ exchanges next, kind.Reports next report exchange →
          value next = .ok next := by
  intro next
  have settled : kind.refreshed next report = next := Kind.refreshed_refreshed state report
  refine ⟨settled, ?_⟩
  intro σ remote patience context world now exchanges value
  constructor
  · intro exchange member reports
    exact Kind.read_refreshed member reports
  · intro exchange member reports
    have ended := Kind.read_refreshed member reports
    rw [settled] at ended
    exact ended

end Converge
