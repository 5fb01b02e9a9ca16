import Converge.Proofs.Resource.PaymentsConnector

/-!
# The provider of an installed connector

An update compares providers before it sends anything, and it compares what the configuration
names: the group with the credentials is left out. Where a connector declares its provider in
the configuration, or moves the declaration from one group to the other, an update that is sent
keeps the provider. Where both declarations stand among the credentials the comparison finds no
provider on either side, and the update is sent whatever the two are.
-/

namespace Converge.Resource.PaymentsConnector

open Remote Connector

variable {σ : Type}

/-! ## Where the provider is declared -/

/-- A provider that is named is compared in its canonical spelling. -/
theorem providerName_of_named {config : Dictionary Value} {name : String} {provider : Provider}
    (declared : config.get? providerKey = some (.text name))
    (named : Provider.sameLetters provider.name name = true) :
    providerName config = some provider.name := by
  rw [providerName, declared]
  simp only [Option.map_some, Provider.ofName?_eq_some_iff.mpr named, Option.getD_some]

/-- Groups that are read name their provider in one of them, and the comparison sees it in the
configuration alone. -/
theorem providerName_of_ofParts {credentials config : Dictionary Value}
    {configuration : Configuration}
    (read : Configuration.ofParts credentials config = .ok configuration) :
    (providerKey ∈ credentials.keys ∧ providerName config = none) ∨
      (providerKey ∉ credentials.keys ∧
        providerName config = some configuration.provider.name) := by
  have apart : Configuration.Apart credentials config := by
    rw [← Configuration.apart_iff]
    rw [Configuration.ofParts] at read
    split at read
    · cases read
    · assumption
  rw [Configuration.ofParts_eq apart] at read
  obtain ⟨provider, named, _, isReading⟩ := Configuration.decode_eq_ok_iff.mp read
  have isProvider : configuration.provider = provider := by
    rw [isReading]
    rfl
  by_cases secret : providerKey ∈ credentials.keys
  · have absent := Dictionary.get?_eq_none_of_not_mem (apart providerKey secret)
    refine .inl ⟨secret, ?_⟩
    rw [providerName, absent]
    rfl
  · obtain ⟨name, found, spelled⟩ := Configuration.providerOf_eq_ok_iff.mp named
    rw [Dictionary.get?_extend, Dictionary.get?_eq_none_of_not_mem secret, Option.none_or] at found
    rw [isProvider]
    exact .inr ⟨secret, providerName_of_named found spelled⟩

theorem provider_eq_of_name {first second : Provider} (same : first.name = second.name) :
    first = second := by
  apply Provider.eq_of_sameLetters first.sameLetters_name
  rw [same]
  exact second.sameLetters_name

/-- Where the comparison finds no difference the providers are the same, unless both are
declared among the credentials. -/
theorem provider_eq_of_providerName {observed desired : PaymentsConnector}
    {old new : Configuration}
    (readOld : Configuration.ofParts observed.credentials observed.config = .ok old)
    (readNew : Configuration.ofParts desired.credentials desired.config = .ok new)
    (same : providerName observed.config = providerName desired.config) :
    new.provider = old.provider ∨
      (providerKey ∈ observed.credentials.keys ∧ providerKey ∈ desired.credentials.keys) := by
  rcases providerName_of_ofParts readOld with ⟨oldSecret, oldName⟩ | ⟨_, oldName⟩ <;>
    rcases providerName_of_ofParts readNew with ⟨newSecret, newName⟩ | ⟨_, newName⟩ <;>
    rw [oldName, newName] at same
  · exact .inr ⟨oldSecret, newSecret⟩
  · cases same
  · cases same
  · exact .inl (provider_eq_of_name (Option.some.inj same).symm)

/-! ## Installed connectors -/

/-- A connector that a create or an update without an error has ended with, against any remote
side and in any circumstances. -/
inductive Installed : PaymentsConnector → Prop where
  | created {σ : Type} (remote : Responder σ) (patience : Patience) (context : Context) (world : σ)
      (now : Nat) (desired : PaymentsConnector) {state : PaymentsConnector}
      (succeeded :
        ((create desired).run remote patience context world now).value.hasError = false)
      (ended : ((create desired).run remote patience context world now).value.state = some state) :
      Installed state
  | updated {σ : Type} (remote : Responder σ) (patience : Patience) (context : Context) (world : σ)
      (now : Nat) (observed desired : PaymentsConnector) {state : PaymentsConnector}
      (succeeded :
        ((update observed desired).run remote patience context world now).value.hasError = false)
      (ended :
        ((update observed desired).run remote patience context world now).value.state =
          some state) :
      Installed state

/-- The stack has been told of an installed connector, and has given it an identifier. -/
theorem Installed.sent {state : PaymentsConnector} (installed : Installed state) :
    ∃ id payload, state.id = some id ∧
      Configuration.payload state.credentials state.config = .ok payload := by
  have one_error : ∀ (prior : Option PaymentsConnector) (failure : Diagnostic),
      failure.isError = true → (⟨prior, [failure]⟩ : Transition _).hasError = true := by
    intro prior failure isError
    simp [Transition.hasError, Diagnostics.hasError, isError]
  cases installed with
  | created remote patience context world now desired succeeded ended =>
      rcases create_cases desired with
        ⟨diagnostics, refused, equal⟩ | ⟨provider, payload, next, sent, asks, stops, goesOn⟩
      · rw [equal] at succeeded
        exact absurd (refused.symm.trans succeeded) (by simp)
      · rcases whenReady_call_answered asks (by simp) stops goesOn remote patience context world
          now with ⟨failure, isError, failed, _⟩ | ⟨id, succeededWith, _⟩
        · rw [failed] at succeeded
          exact absurd ((one_error _ _ isError).symm.trans succeeded) (by simp)
        · rw [succeededWith] at ended
          cases ended
          exact ⟨id, payload, rfl, sent⟩
  | updated remote patience context world now observed desired succeeded ended =>
      cases known : observed.id with
      | none =>
          rw [update, known] at succeeded
          cases succeeded
      | some id =>
          rcases update_decided known desired with
            ⟨_, equal⟩ | ⟨_, _, equal⟩ | ⟨_, payload, next, sent, asks, stops, goesOn⟩
          · rw [equal] at succeeded
            cases succeeded
          · rw [equal] at succeeded
            cases succeeded
          · rcases whenReady_call_answered asks (by simp) stops goesOn remote patience context
              world now with ⟨failure, isError, failed, _⟩ | ⟨done, succeededWith, _⟩
            · rw [failed] at succeeded
              exact absurd ((one_error _ _ isError).symm.trans succeeded) (by simp)
            · rw [succeededWith] at ended
              cases ended
              exact ⟨id, payload, rfl, sent⟩

/-- Groups that are sent are read. -/
theorem ofParts_of_payload {credentials config payload : Dictionary Value}
    (sent : Configuration.payload credentials config = .ok payload) :
    ∃ configuration, Configuration.ofParts credentials config = .ok configuration := by
  cases read : Configuration.ofParts credentials config with
  | error fault =>
      rw [Configuration.payload, read] at sent
      cases sent
  | ok configuration => exact ⟨configuration, rfl⟩

/-- Groups that can be read can be sent. -/
theorem payload_of_ofParts {credentials config : Dictionary Value}
    {configuration : Configuration}
    (read : Configuration.ofParts credentials config = .ok configuration) :
    ∃ payload, Configuration.payload credentials config = .ok payload := by
  obtain ⟨payload, written, _⟩ := configuration.encode_eq
  rw [Configuration.payload, read]
  exact ⟨payload, written⟩

/-- **The provider that the configuration names is kept.** An update of an installed connector
is refused without any call where the configurations name different providers and where the
declaration cannot be read. Otherwise, and so whenever the stack is told of an update, the
declared provider is the installed one, or both are declared among the credentials, where the
comparison does not look. -/
theorem provider_kept {observed : PaymentsConnector} (installed : Installed observed)
    (desired : PaymentsConnector) (remote : Responder σ) (patience : Patience)
    (context : Context) (world : σ) (now : Nat) :
    let outcome := (update observed desired).run remote patience context world now
    ∃ old, Configuration.ofParts observed.credentials observed.config = .ok old ∧
      ((outcome.log = [] ∧
          outcome.value = .keeping observed [requiresReplacement "config.provider"] ∧
          providerName observed.config ≠ providerName desired.config) ∨
        (outcome.log = [] ∧ ∃ error,
          Configuration.payload desired.credentials desired.config = .error error ∧
          outcome.value = .keeping observed [configurationFault error]) ∨
        ∃ new, Configuration.ofParts desired.credentials desired.config = .ok new ∧
          (new.provider = old.provider ∨
            providerKey ∈ observed.credentials.keys ∧
              providerKey ∈ desired.credentials.keys)) := by
  intro outcome
  obtain ⟨id, held, known, sentBefore⟩ := installed.sent
  obtain ⟨old, readOld⟩ := ofParts_of_payload sentBefore
  refine ⟨old, readOld, ?_⟩
  rcases update_decided known desired with
    ⟨different, equal⟩ | ⟨error, fault, equal⟩ | ⟨same, payload, next, sent, _⟩
  · refine .inl ⟨?_, ?_, different⟩
    · simp only [outcome, equal, Program.run]
    · simp only [outcome, equal, Program.run]
  · refine .inr (.inl ⟨?_, error, fault, ?_⟩)
    · simp only [outcome, equal, Program.run]
    · simp only [outcome, equal, Program.run]
  · obtain ⟨new, readNew⟩ := ofParts_of_payload sent
    exact .inr (.inr ⟨new, readNew, provider_eq_of_providerName readOld readNew same⟩)

/-- A connector that declares its provider among the credentials. -/
def hidden : PaymentsConnector :=
  ⟨none, .ofList [("apiKey", .text "k"), ("provider", .text "Stripe")],
    .ofList [("name", .text "main")]⟩

/-- A declaration of another provider, again among the credentials. -/
def hiddenOther : PaymentsConnector :=
  ⟨none, .ofList [("apiKey", .text "k"), ("endpoint", .text "https://x"),
      ("provider", .text "Generic")], .ofList [("name", .text "main")]⟩

theorem provider_kept_stripe :
    let moved : PaymentsConnector :=
      ⟨none, .ofList [("apiKey", .text "k"), ("endpoint", .text "https://x")],
        .ofList [("name", .text "main"), ("provider", .text "Generic")]⟩
    let outcome := (update stripe moved).run Memory.remote .standard .free .empty 0
    Installed stripe ∧ outcome.log = [] ∧
      outcome.value = .keeping stripe [requiresReplacement "config.provider"] := by
  intro moved outcome
  have born : Installed stripe :=
    .created Memory.remote .standard .free Memory.empty 0 stripe rfl rfl
  obtain ⟨old, readOld, ⟨silent, refused, _⟩ | ⟨_, error, fault, _⟩ | ⟨new, readNew, kept⟩⟩ :=
    provider_kept born moved Memory.remote .standard .free .empty 0
  · exact ⟨born, silent, refused⟩
  · cases fault
  · have isStripe : Except.map (·.provider) (Except.ok (ε := ShapeError) old) = .ok .stripe := by
      rw [← readOld]
      rfl
    have isGeneric : (.ok new : Except ShapeError _).map Configuration.provider = .ok .generic := by
      rw [← readNew]
      rfl
    rcases kept with same | ⟨secret, _⟩
    · rw [Except.map, same] at isGeneric
      exact nomatch (Except.ok.inj isGeneric).symm.trans (Except.ok.inj isStripe)
    · exact absurd secret (by decide)

/-- Where both declarations stand among the credentials an installed connector is given another
provider in place. -/
theorem provider_switched :
    let made := (create hidden).run Memory.remote .standard .free .empty 0
    let installed : PaymentsConnector := { hidden with id := some "conn-1" }
    let outcome := (update installed hiddenOther).run Memory.remote .standard .free made.world 0
    made.value = .ok installed ∧ outcome.value.hasError = false ∧
      outcome.log.map (·.call.words) =
        [["list_module_versions"], ["update_connector_config", "conn-1"]] ∧
      (Configuration.ofParts installed.credentials installed.config).map (·.provider) =
        .ok .stripe ∧
      (Configuration.ofParts hiddenOther.credentials hiddenOther.config).map (·.provider) =
        .ok .generic :=
  ⟨rfl, rfl, rfl, rfl, rfl⟩

end Converge.Resource.PaymentsConnector
