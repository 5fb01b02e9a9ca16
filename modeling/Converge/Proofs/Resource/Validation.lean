import Converge.Proofs.Resource.Interruption
import Converge.Proofs.Resource.ProviderKept
import Converge.Proofs.Resource.Roundtrip

/-!
# Validation comes before the stack

A declaration is validated without the stack. A creation is refused exactly where validation
finds an error, and with what it finds; a creation that goes on reports nothing but steps that
fail, and never blames the declaration. The updates that make calls are refused for an invalid
declaration as well. The one of connectors does not validate, but reads what it is to send: it
overlooks that a group is empty where the other group makes up for it.
-/

namespace Converge

open Remote Program

/-! ## Causes of failed steps -/

theorem Failure.category_diagnose (failure : Failure) : failure.diagnose.category = .remote := by
  rw [diagnose]
  cases failure.traceparent <;> rfl

/-- No failed step blames the declaration. -/
theorem Remote.Setback.category_ne {flights : List Flight} {failure : Diagnostic}
    (setback : Setback flights failure) : failure.category ≠ .invalidConfiguration := by
  cases setback with
  | overdue module elapsed allowed =>
      exact show Category.healthTimeout ≠ .invalidConfiguration from nofun
  | @failed call failure answered =>
      rw [failure.category_diagnose]
      exact nofun

namespace Resource

variable {M σ : Type}

/-! ## What is reported once a declaration is accepted -/

/-- A report on a failed step: the failure, as it is or as a warning, or the changes that were
made before it. -/
inductive Follows (failure : Diagnostic) : Diagnostic → Prop where
  | itself : Follows failure failure
  | warning : Follows failure (Ledger.notReadBack failure)
  | between (applied pending : List String) : Follows failure (partialUpdate applied pending)

/-- Nothing is reported but a step that has failed. -/
def reportsSteps : Course Diagnostics where
  ended _ diagnostics := diagnostics = []
  stopped _ _ failure diagnostics := ∀ diagnostic ∈ diagnostics, Follows failure diagnostic

theorem follows_alone (failure : Diagnostic) :
    ∀ diagnostic ∈ [failure], Follows failure diagnostic := by
  intro diagnostic member
  rw [List.mem_singleton.mp member]
  exact .itself

theorem follows_stopped (failure : Diagnostic) (applied pending : List String) :
    ∀ diagnostic ∈ stopped failure applied pending, Follows failure diagnostic := by
  rw [stopped]
  split
  · exact follows_alone failure
  · intro diagnostic member
    rcases List.mem_cons.mp member with rfl | second
    · exact .itself
    · rw [List.mem_singleton.mp second]
      exact .between applied pending

/-- A last call behind a wait, whose answer ends the transition well. -/
theorem steps_asks {kind : Kind} {state : Option M} {call : Call}
    {next : Except Diagnostic call.Answer → Program (Transition M)}
    (notListing : call.isListing = false)
    (stops : ∀ failure, ∃ state, next (.error failure) = .done ⟨state, [failure]⟩)
    (goesOn : ∀ answer, ∃ state, next (.ok answer) = .done (.ok state)) :
    Reports reportsSteps (whenReady kind state (.call call next)) := by
  refine ⟨fun failure => ⟨_, rfl, follows_alone failure⟩, notListing, ?_, ?_⟩
  · intro failure
    obtain ⟨state, ends⟩ := stops failure
    exact ⟨_, ends, follows_alone failure⟩
  · intro answer
    obtain ⟨state, ends⟩ := goesOn answer
    rw [ends]
    rfl

theorem Change.Makes.steps {named : (made pending : List (Change M)) → List String} {final : M}
    {made pending : List (Change M)} {state : M} {program : Program (Transition M)}
    (makes : Makes named final made state pending program) (exchanges : List Exchange) :
    program.Takes (reportsSteps.before Transition.diagnostics) exchanges := by
  induction makes generalizing exchanges with
  | done made state => rfl
  | @call made state change rest next stops goesOn ih =>
      refine ⟨rfl, ?_, fun done => ih _⟩
      intro failure
      exact ⟨_, stops failure, follows_stopped _ _ _⟩

theorem steps_makes {named : (made pending : List (Change M)) → List String} {final observed : M}
    {pending : List (Change M)} {kind : Kind} {body : Program (Transition M)}
    (makes : Change.Makes named final [] observed pending body) :
    Reports reportsSteps (whenReady kind (some observed) body) :=
  ⟨fun failure => ⟨_, rfl, follows_alone failure⟩, makes.steps []⟩

section Raised

variable {program : Program (Transition M)} {remote : Responder σ} {patience : Patience}
  {context : Context} {world : σ} {now : Nat} {diagnostic : Diagnostic}

/-- What is reported follows a step that the remote side or an interruption has made fail. -/
theorem Reports.raised (reports : Reports reportsSteps program)
    (member : diagnostic ∈
      (program.run remote patience context world now).value.diagnostics) :
    ∃ failure, Follows failure diagnostic ∧
      (Setback (program.flights remote patience context world now) failure ∨
        IsInterruption failure) := by
  cases (program.runs remote patience context world now).concludes reports with
  | ended silent requested same early =>
      change (program.run remote patience context world now).value.diagnostics = [] at silent
      rw [silent] at member
      cases member
  | failed stopped cause same early => exact ⟨_, stopped.value diagnostic member, .inl cause⟩
  | interrupted stopped cause stops unfinished late instant =>
      exact ⟨_, stopped.value diagnostic member, .inr cause⟩

/-- The declaration is not blamed. -/
theorem Reports.blameless (reports : Reports reportsSteps program)
    (member : diagnostic ∈
      (program.run remote patience context world now).value.diagnostics) :
    diagnostic.category ≠ .invalidConfiguration := by
  obtain ⟨failure, follows, cause⟩ := reports.raised member
  have failed : failure.category ≠ .invalidConfiguration := by
    rcases cause with setback | interruption
    · exact setback.category_ne
    · rw [interruption.category]
      exact nofun
  cases follows with
  | itself => exact failed
  | warning => exact failed
  | between applied pending => exact show Category.partialUpdate ≠ .invalidConfiguration from nofun

/-- A report whose code is neither local nor that of a partial update tells of a failure that the
remote side has answered with. -/
theorem Reports.answered (reports : Reports reportsSteps program)
    (member : diagnostic ∈
      (program.run remote patience context world now).value.diagnostics) {code : String}
    (isCode : diagnostic.code = code) (foreign : code ∉ localCodes)
    (notPartial : code ≠ "PARTIAL_UPDATE") :
    ∃ call failure, (⟨call, some (.error failure)⟩ : Exchange) ∈
        program.exchanges remote patience context world now ∧ failure.diagnose.code = code := by
  obtain ⟨failure, follows, cause⟩ := reports.raised member
  have carried : failure.code = code := by
    cases follows with
    | itself => exact isCode
    | warning => exact isCode
    | between applied pending => exact absurd isCode.symm notPartial
  rw [program.exchanges_eq]
  exact answered_of_cause cause carried foreign

end Raised

/-! ## Creations -/

/-- Creations of a kind are refused exactly for what validation finds. -/
structure Validating (resource : Resource M) : Prop where
  refused : ∀ {desired}, (resource.validate desired).hasError = true →
    resource.create desired = .done (.failed (resource.validate desired))
  accepted : ∀ {desired}, (resource.validate desired).hasError = false →
    Reports reportsSteps (resource.create desired)

/-- A creation that validates first and then reports nothing but failed steps. -/
theorem validating_of_create {resource : Resource M} {body : M → Program (Transition M)}
    (creates : ∀ desired, resource.create desired =
      if (resource.validate desired).hasError then .done (.failed (resource.validate desired))
      else body desired)
    (goesOn : ∀ desired, (resource.validate desired).hasError = false →
      Reports reportsSteps (body desired)) : resource.Validating where
  refused {desired} invalid := (creates desired).trans (if_pos invalid)
  accepted {desired} valid := by
    rw [creates, if_neg (by simpa using valid)]
    exact goesOn desired valid

theorem Ledger.validating : Ledger.resource.Validating := by
  refine validating_of_create (fun _ => rfl) fun desired _ => ?_
  refine ⟨fun failure => ⟨_, rfl, follows_alone failure⟩, rfl,
    fun failure => ⟨_, rfl, follows_alone failure⟩, fun created => ⟨rfl, ?_, fun info => rfl⟩⟩
  -- only the read-back is left, and its failure is turned into a warning
  intro failure
  refine ⟨_, rfl, ?_⟩
  intro diagnostic member
  rw [List.mem_singleton.mp member]
  exact .warning

theorem LedgerSchema.validating : LedgerSchema.resource.Validating :=
  validating_of_create (fun _ => rfl) fun _ _ =>
    steps_asks rfl (fun _ => ⟨_, rfl⟩) fun _ => ⟨_, rfl⟩

theorem PaymentsPool.validating : PaymentsPool.resource.Validating :=
  validating_of_create (fun _ => rfl) fun _ _ =>
    steps_asks rfl (fun _ => ⟨_, rfl⟩) fun _ => ⟨_, rfl⟩

/-- Validation asks for two groups that are not empty and can be read together. -/
theorem PaymentsConnector.valid_iff {desired : PaymentsConnector} :
    (PaymentsConnector.validate desired).hasError = false ↔
      desired.credentials.isEmpty = false ∧ desired.config.isEmpty = false ∧
        ∃ configuration, Connector.Configuration.ofParts desired.credentials desired.config =
          .ok configuration := by
  cases secrets : desired.credentials.isEmpty <;> cases rest : desired.config.isEmpty <;>
    cases read : Connector.Configuration.ofParts desired.credentials desired.config <;>
    simp [PaymentsConnector.validate, Diagnostics.hasError, configurationFault, secrets, rest, read]

/-- What validation has read once is read again, and is written. -/
theorem PaymentsConnector.validating : PaymentsConnector.resource.Validating := by
  refine validating_of_create (fun _ => rfl) fun desired valid => ?_
  obtain ⟨_, _, configuration, read⟩ := valid_iff.mp valid
  obtain ⟨payload, written, _⟩ := configuration.encode_eq
  rw [read]
  dsimp only
  rw [written]
  exact steps_asks rfl (fun _ => ⟨_, rfl⟩) fun _ => ⟨_, rfl⟩

theorem Webhook.validating : Webhook.resource.Validating :=
  validating_of_create (fun _ => rfl) fun _ _ =>
    steps_asks rfl (fun _ => ⟨_, rfl⟩) fun _ => ⟨_, rfl⟩

theorem ReconciliationPolicy.validating : ReconciliationPolicy.resource.Validating :=
  validating_of_create (fun _ => rfl) fun _ _ =>
    steps_asks rfl (fun _ => ⟨_, rfl⟩) fun _ => ⟨_, rfl⟩

/-- A document is refused where it cannot be read, or else as what is read from it is. -/
theorem Validating.createDocument {resource : Resource M} (validating : resource.Validating)
    {toJson : M → Json} (writes : Encode.Writes resource.encode toJson) (desired : Json) :
    ((resource.validateDocument desired).hasError = true →
      resource.createDocument desired = .done (.failed (resource.validateDocument desired))) ∧
    ((resource.validateDocument desired).hasError = false →
      Reports reportsSteps (resource.createDocument desired)) := by
  rw [Resource.validateDocument, Resource.createDocument, Resource.ofDocument]
  cases resource.decode desired with
  | error fault =>
      constructor
      · exact fun _ => rfl
      · intro valid
        cases valid
  | ok model =>
      refine ⟨?_, fun valid => (validating.accepted valid).toDocument writes⟩
      intro invalid
      change (resource.create model).map resource.toDocument = _
      rw [validating.refused invalid]
      rfl

end Resource

theorem Kind.validating (kind : Kind) : kind.resource.Validating := by
  cases kind with
  | ledger => exact Resource.Ledger.validating
  | ledgerSchema => exact Resource.LedgerSchema.validating
  | paymentsPool => exact Resource.PaymentsPool.validating
  | paymentsConnector => exact Resource.PaymentsConnector.validating
  | webhooks => exact Resource.Webhook.validating
  | reconciliationPolicy => exact Resource.ReconciliationPolicy.validating

/-- **Validation decides what is created.** In every kind and for every document: where
validation finds an error, a creation ends at once with exactly what validation finds, without a
state and without a call. Where it finds none, no report of the creation blames the declaration,
whatever the remote side answers and the context does. -/
theorem Kind.validation_decides_creation {σ : Type} (kind : Kind) (desired : Json)
    (remote : Responder σ) (patience : Patience) (context : Context) (world : σ) (now : Nat) :
    let found := kind.documents.validate desired
    let outcome := (kind.documents.create desired).run remote patience context world now
    (found.hasError = true → outcome = ⟨.failed found, world, now, []⟩) ∧
    (found.hasError = false →
      ∀ diagnostic ∈ outcome.value.diagnostics, diagnostic.category ≠ .invalidConfiguration) := by
  intro found outcome
  simp only [found, outcome]
  rw [kind.documents_eq]
  obtain ⟨refused, accepted⟩ := kind.validating.createDocument kind.encode_writes desired
  constructor
  · intro invalid
    change (kind.resource.createDocument desired).run remote patience context world now = _
    rw [refused invalid]
    rfl
  · intro valid diagnostic member
    exact (accepted valid).blameless member

/-! ## Updates -/

namespace Resource

/-- One of the diagnostics is an error that blames the declaration. -/
def Blames (diagnostics : Diagnostics) : Prop :=
  ∃ diagnostic ∈ diagnostics, diagnostic.isError = true ∧
    diagnostic.category = .invalidConfiguration

theorem Blames.hasError {diagnostics : Diagnostics} (blames : Blames diagnostics) :
    diagnostics.hasError = true := by
  obtain ⟨diagnostic, member, isError, _⟩ := blames
  exact List.any_eq_true.mpr ⟨diagnostic, member, isError⟩

theorem Blames.append {first : Diagnostics} (blames : Blames first) (second : Diagnostics) :
    Blames (first ++ second) := by
  obtain ⟨diagnostic, member, isError, category⟩ := blames
  exact ⟨diagnostic, List.mem_append_left _ member, isError, category⟩

theorem OfInput.blames {diagnostics : Diagnostics} (ofInput : OfInput diagnostics)
    (hasError : diagnostics.hasError = true) : Blames diagnostics := by
  obtain ⟨diagnostic, member, isError⟩ := List.any_eq_true.mp hasError
  obtain ⟨subject, message, rfl⟩ := ofInput diagnostic member
  exact ⟨_, member, isError, rfl⟩

/-- The program ends at once: it keeps the state and blames the declaration. -/
def Refuses (observed : M) (program : Program (Transition M)) : Prop :=
  ∃ diagnostics, program = .done (.keeping observed diagnostics) ∧ Blames diagnostics

theorem Ledger.update_refuses (observed : Ledger) {desired : Ledger}
    (invalid : (Ledger.validate desired).hasError = true) :
    Refuses observed (Ledger.update observed desired) := by
  have blames : Blames (Ledger.objections observed desired) :=
    ((Ledger.validate_ofInput desired).blames invalid).append _
  exact ⟨_, if_pos blames.hasError, blames⟩

theorem PaymentsPool.update_refuses (observed : PaymentsPool) {desired : PaymentsPool}
    (invalid : (PaymentsPool.validate desired).hasError = true) :
    Refuses observed (PaymentsPool.update observed desired) := by
  have blames : Blames (PaymentsPool.objections observed desired) :=
    ((PaymentsPool.validate_ofInput desired).blames invalid).append _
  rw [PaymentsPool.update]
  cases observed.id with
  | none => exact ⟨_, rfl, blames.append _⟩
  | some id => exact ⟨_, if_pos blames.hasError, blames⟩

theorem Webhook.update_refuses (observed : Webhook) {desired : Webhook}
    (invalid : (Webhook.validate desired).hasError = true) :
    Refuses observed (Webhook.update observed desired) :=
  ⟨_, if_pos invalid, (Webhook.validate_ofInput desired).blames invalid⟩

namespace PaymentsConnector

/-- One group of the declaration is empty, but the groups can be read together, and the state has
an identifier and names the same provider. -/
structure Overlooks (observed desired : PaymentsConnector) : Prop where
  known : ∃ id, observed.id = some id
  provider : providerName observed.config = providerName desired.config
  empty : desired.credentials.isEmpty = true ∨ desired.config.isEmpty = true
  read : ∃ configuration,
    Connector.Configuration.ofParts desired.credentials desired.config = .ok configuration

theorem update_refuses {observed desired : PaymentsConnector}
    (invalid : (validate desired).hasError = true) (noticed : ¬ Overlooks observed desired) :
    Refuses observed (update observed desired) := by
  cases known : observed.id with
  | none =>
      rw [update, known]
      exact ⟨_, rfl, missingId, List.mem_singleton_self _, rfl, rfl⟩
  | some id =>
      rcases update_decided known desired with
        ⟨_, equal⟩ | ⟨error, _, equal⟩ | ⟨same, payload, next, sent, _⟩
      · exact ⟨_, equal, _, List.mem_singleton_self _, rfl, rfl⟩
      · exact ⟨_, equal, _, List.mem_singleton_self _, rfl, rfl⟩
      · have read := ofParts_of_payload sent
        have secrets : desired.credentials.isEmpty = false :=
          Bool.eq_false_iff.mpr fun empty => noticed ⟨⟨id, known⟩, same, .inl empty, read⟩
        have rest : desired.config.isEmpty = false :=
          Bool.eq_false_iff.mpr fun empty => noticed ⟨⟨id, known⟩, same, .inr empty, read⟩
        exact absurd (invalid.symm.trans (valid_iff.mpr ⟨secrets, rest, read⟩)) (by simp)

/-- An overlooked declaration is invalid, and is sent. -/
theorem update_overlooked {observed desired : PaymentsConnector}
    (overlooks : Overlooks observed desired) :
    (validate desired).hasError = true ∧ ∃ id payload next,
      update observed desired = whenReady .paymentsConnector (some observed)
        (.call (.command (.updateConnector id payload)) next) := by
  obtain ⟨⟨id, known⟩, same, empty, configuration, read⟩ := overlooks
  obtain ⟨payload, sent⟩ := payload_of_ofParts read
  constructor
  · rw [← Bool.not_eq_false, valid_iff]
    rintro ⟨secrets, rest, _⟩
    rcases empty with empty | empty
    · exact absurd (empty.symm.trans secrets) (by simp)
    · exact absurd (empty.symm.trans rest) (by simp)
  · rcases update_decided known desired with
      ⟨different, _⟩ | ⟨error, fault, _⟩ | ⟨_, payload, next, _, asks, _⟩
    · exact absurd same different
    · rw [sent] at fault
      cases fault
    · exact ⟨id, payload, next, asks⟩

end PaymentsConnector

end Resource

/-- The kinds whose updates make calls. -/
def Kind.updatesInPlace : Kind → Bool
  | .ledger | .paymentsPool | .paymentsConnector | .webhooks => true
  | .ledgerSchema | .reconciliationPolicy => false

/-- The update of the kind does not notice that the declaration is invalid. -/
def Kind.Overlooks : (kind : Kind) → (observed desired : kind.Model) → Prop
  | .paymentsConnector => Resource.PaymentsConnector.Overlooks
  | _ => fun _ _ => False

theorem Kind.update_refuses {kind : Kind} (updates : kind.updatesInPlace = true)
    {observed desired : kind.Model} (invalid : (kind.resource.validate desired).hasError = true)
    (noticed : ¬ kind.Overlooks observed desired) :
    Resource.Refuses observed (kind.resource.update observed desired) := by
  cases kind with
  | ledger => exact Resource.Ledger.update_refuses observed invalid
  | ledgerSchema => cases updates
  | paymentsPool => exact Resource.PaymentsPool.update_refuses observed invalid
  | paymentsConnector => exact Resource.PaymentsConnector.update_refuses invalid noticed
  | webhooks => exact Resource.Webhook.update_refuses observed invalid
  | reconciliationPolicy => cases updates

/-- **Updates validate before the network.** In every kind whose updates make calls, and for
every state: where validation finds an error in what is desired, the update makes no call, keeps
the state and reports an error that blames what is desired. Only the update of a connector
overlooks an empty group, where the other group makes up for it and the provider stays. -/
theorem Kind.invalid_update_refused {σ : Type} {kind : Kind}
    (updates : kind.updatesInPlace = true) {observed desired : kind.Model}
    (invalid : (kind.resource.validate desired).hasError = true)
    (noticed : ¬ kind.Overlooks observed desired) (remote : Responder σ) (patience : Patience)
    (context : Context) (world : σ) (now : Nat) :
    let outcome := (kind.resource.update observed desired).run remote patience context world now
    outcome.log = [] ∧ outcome.value.state = some observed ∧
      ∃ diagnostic ∈ outcome.value.diagnostics, diagnostic.isError = true ∧
        diagnostic.category = .invalidConfiguration := by
  intro outcome
  obtain ⟨diagnostics, refused, blames⟩ := kind.update_refuses updates invalid noticed
  have ended : outcome = ⟨.keeping observed diagnostics, world, now, []⟩ := by
    simp only [outcome, refused]
    rfl
  rw [ended]
  exact ⟨rfl, rfl, blames⟩

namespace Resource.PaymentsConnector

/-- A connector of a provider that there is not. -/
def unheardOf : PaymentsConnector :=
  ⟨none, .ofList [("apiKey", .text "k")],
    .ofList [("name", .text "main"), ("provider", .text "nobody")]⟩

theorem invalid_update_refused_unheardOf :
    let outcome := (update stripe unheardOf).run Memory.remote .standard .free .empty 0
    (validate unheardOf).hasError = true ∧ outcome.log = [] ∧
      outcome.value.state = some stripe := by
  intro outcome
  have invalid : (validate unheardOf).hasError = true := by rfl
  have noticed : ¬ Overlooks stripe unheardOf := by
    rintro ⟨_, _, empty | empty, _⟩
    · cases empty
    · cases empty
  obtain ⟨silent, kept, _⟩ := @Kind.invalid_update_refused _ .paymentsConnector rfl stripe unheardOf
    invalid noticed Memory.remote .standard .free .empty 0
  exact ⟨invalid, silent, kept⟩

/-- The connector with all keys in one group. -/
def ungrouped : PaymentsConnector :=
  ⟨none, ∅, .ofList [("apiKey", .text "key"), ("name", .text "main"), ("provider", .text "stripe")]⟩

/-- An invalid declaration is sent, and the update succeeds. -/
theorem invalid_update_sent :
    let outcome := (update stripe ungrouped).run Memory.remote .standard .free
      ((create stripe).run Memory.remote .standard .free .empty 0).world 0
    (validate ungrouped).hasError = true ∧
      outcome.log.map (·.call.words) =
        [["list_module_versions"], ["update_connector_config", "conn-1"]] ∧
      outcome.value = .ok { ungrouped with id := some "conn-1" } :=
  ⟨rfl, rfl, rfl⟩

end Resource.PaymentsConnector

end Converge
