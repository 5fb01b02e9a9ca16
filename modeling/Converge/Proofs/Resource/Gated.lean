import Converge.Proofs.Remote.Exchange
import Converge.Resource.Documents

/-!
# Nothing before the module is healthy

A gated program either ends at once or waits for its module first, and ends when that fails.
Every transition of every kind is gated by the kind's module. In the exchanges of a gated
program every call but a listing comes behind a listing in which the module is healthy, and
a wait that fails is followed by nothing.
-/

namespace Converge

open Remote

namespace Remote.Program

variable {σ α β : Type}

/-- A program that ends at once, or first waits for the module and ends if that fails. -/
def Gated (module : String) : Program α → Prop
  | .done _ => True
  | .await awaited next =>
      awaited = module ∧ ∀ diagnostic, ∃ value, next (.error diagnostic) = .done value
  | .call _ _ => False

theorem Gated.map {module : String} {program : Program α} (gated : program.Gated module)
    (change : α → β) : (program.map change).Gated module := by
  cases program with
  | done value => trivial
  | call request next => exact gated
  | await awaited next =>
      obtain ⟨same, ends⟩ := gated
      refine ⟨same, ?_⟩
      intro diagnostic
      obtain ⟨value, equal⟩ := ends diagnostic
      refine ⟨change value, ?_⟩
      dsimp only
      rw [equal]
      rfl

/-- A gated program may be refused beforehand. -/
theorem Gated.unless {module : String} {program : Program α} (gated : program.Gated module)
    {refused : Prop} {decided : Decidable refused} {value : α} :
    (if refused then .done value else program).Gated module := by
  split
  · trivial
  · exact gated

/-- The exchanges of a gated program are those of its wait, and others only behind a listing
in which the module is healthy. -/
theorem Gated.exchanges_eq {module : String} {program : Program α}
    (gated : program.Gated module) (remote : Responder σ) (patience : Patience)
    (context : Context) (world : σ) (now : Nat) :
    ∃ polls others,
      program.exchanges remote patience context world now = polls ++ others ∧
      (∀ exchange ∈ polls, exchange.call = .listModules) ∧
      (others = [] ∨ ∃ exchange ∈ polls, exchange.FindsHealthy module) ∧
      (∀ error, (Gate.await remote ⟨module, patience, context, now⟩ world).value =
        .error error → others = []) := by
  cases program with
  | done value => exact ⟨[], [], rfl, by simp, .inl rfl, fun _ _ => rfl⟩
  | call request next => exact gated.elim
  | await awaited next =>
      obtain ⟨rfl, ends⟩ := gated
      let gate : Gate := ⟨awaited, patience, context, now⟩
      obtain ⟨polls, equal, polled, healthy⟩ := gate.recorded_await remote world []
      rw [List.nil_append] at equal
      cases result : (gate.await remote world).value with
      | error error =>
          obtain ⟨value, stops⟩ := ends error.diagnose
          refine ⟨polls, [], ?_, polled, .inl rfl, fun _ _ => rfl⟩
          simp only [exchanges, run]
          rw [equal]
          simp only [Outcome.recording, result, mapError_error, stops, run, Outcome.behind,
            List.append_nil]
      | ok done =>
          obtain ⟨others, continued⟩ := (next (.ok ())).recorded_run remote patience context
            (gate.await remote world).world polls (gate.await remote world).instant
          refine ⟨polls, others, ?_, polled, .inr (healthy result), ?_⟩
          · simp only [exchanges, run]
            rw [equal]
            simp only [Outcome.recording, result, mapError_ok] at continued ⊢
            rw [continued]
            rfl
          · intro error failed
            cases failed

end Remote.Program

/-! ## Transitions -/

namespace Resource

variable {M : Type}

open Program (Gated)

theorem whenReady_gated (kind : Kind) (state : Option M) (next : Program (Transition M)) :
    (whenReady kind state next).Gated kind.module :=
  ⟨rfl, fun diagnostic => ⟨⟨state, [diagnostic]⟩, rfl⟩⟩

theorem deleteBy_gated (kind : Kind) (command : Command) :
    (deleteBy kind command).Gated kind.module :=
  ⟨rfl, fun diagnostic => ⟨[diagnostic], rfl⟩⟩

theorem adoptBy_gated {module : String} {read : M → Program (Transition M)} {state : M}
    (gated : (read state).Gated module) : (adoptBy read state).Gated module :=
  gated.map _

/-- All transitions of a kind are gated by its module. -/
structure Guarded (resource : Resource M) : Prop where
  create : ∀ desired, (resource.create desired).Gated resource.kind.module
  read : ∀ state, (resource.read state).Gated resource.kind.module
  update : ∀ observed desired, (resource.update observed desired).Gated resource.kind.module
  delete : ∀ state, (resource.delete state).Gated resource.kind.module
  adopt : ∀ id, (resource.adopt id).Gated resource.kind.module

theorem Ledger.guarded : Ledger.resource.Guarded where
  create _ := (whenReady_gated _ _ _).unless
  read _ := whenReady_gated _ _ _
  update _ _ := (whenReady_gated _ _ _).unless
  delete _ := trivial
  adopt _ := adoptBy_gated (whenReady_gated _ _ _)

theorem LedgerSchema.guarded : LedgerSchema.resource.Guarded where
  create _ := (whenReady_gated _ _ _).unless
  read _ := whenReady_gated _ _ _
  update _ _ := trivial
  delete _ := trivial
  adopt _ := trivial

theorem PaymentsPool.read_gated (state : PaymentsPool) :
    (PaymentsPool.read state).Gated Kind.paymentsPool.module := by
  rw [PaymentsPool.read]
  cases state.id with
  | none => trivial
  | some id => exact whenReady_gated _ _ _

theorem PaymentsPool.guarded : PaymentsPool.resource.Guarded where
  create _ := (whenReady_gated _ _ _).unless
  read := PaymentsPool.read_gated
  update observed desired := by
    change (PaymentsPool.update observed desired).Gated _
    rw [PaymentsPool.update]
    cases observed.id with
    | none => trivial
    | some id => exact (whenReady_gated _ _ _).unless
  delete state := by
    change (PaymentsPool.delete state).Gated _
    rw [PaymentsPool.delete]
    cases state.id with
    | none => trivial
    | some id => exact deleteBy_gated _ _
  adopt id := adoptBy_gated (PaymentsPool.read_gated ⟨some id, "", [], none⟩)

theorem PaymentsConnector.guarded : PaymentsConnector.resource.Guarded where
  create desired := by
    change (PaymentsConnector.create desired).Gated _
    rw [PaymentsConnector.create]
    apply Gated.unless
    cases Connector.Configuration.ofParts desired.credentials desired.config with
    | error error => trivial
    | ok configuration =>
        dsimp only
        cases configuration.encode with
        | error error => trivial
        | ok payload => exact whenReady_gated _ _ _
  read state := by
    change (PaymentsConnector.read state).Gated _
    rw [PaymentsConnector.read]
    cases state.id with
    | none => trivial
    | some id => exact whenReady_gated _ _ _
  update observed desired := by
    change (PaymentsConnector.update observed desired).Gated _
    rw [PaymentsConnector.update]
    cases observed.id with
    | none => trivial
    | some id =>
        apply Gated.unless
        cases Connector.Configuration.payload desired.credentials desired.config with
        | error error => trivial
        | ok payload => exact whenReady_gated _ _ _
  delete state := by
    change (PaymentsConnector.delete state).Gated _
    rw [PaymentsConnector.delete]
    cases state.id with
    | none => trivial
    | some id => exact deleteBy_gated _ _
  adopt _ := trivial

theorem Webhook.read_gated (state : Webhook) :
    (Webhook.read state).Gated Kind.webhooks.module := by
  rw [Webhook.read]
  cases state.id with
  | none => trivial
  | some id => exact whenReady_gated _ _ _

theorem Webhook.guarded : Webhook.resource.Guarded where
  create _ := (whenReady_gated _ _ _).unless
  read := Webhook.read_gated
  update observed desired := by
    change (Webhook.update observed desired).Gated _
    rw [Webhook.update]
    apply Gated.unless
    cases observed.id with
    | none => trivial
    | some id => exact (whenReady_gated _ _ _).unless
  delete state := by
    change (Webhook.delete state).Gated _
    rw [Webhook.delete]
    cases state.id with
    | none => trivial
    | some id => exact deleteBy_gated _ _
  adopt id := adoptBy_gated (Webhook.read_gated ⟨some id, "", [], none, none⟩)

theorem ReconciliationPolicy.read_gated (state : ReconciliationPolicy) :
    (ReconciliationPolicy.read state).Gated Kind.reconciliationPolicy.module := by
  rw [ReconciliationPolicy.read]
  cases state.id with
  | none => trivial
  | some id => exact whenReady_gated _ _ _

theorem ReconciliationPolicy.guarded : ReconciliationPolicy.resource.Guarded where
  create _ := (whenReady_gated _ _ _).unless
  read := ReconciliationPolicy.read_gated
  update _ _ := trivial
  delete state := by
    change (ReconciliationPolicy.delete state).Gated _
    rw [ReconciliationPolicy.delete]
    cases state.id with
    | none => trivial
    | some id => exact deleteBy_gated _ _
  adopt id := adoptBy_gated (ReconciliationPolicy.read_gated ⟨some id, none, "", "", "", none⟩)

end Resource

/-- A transition with the documents that it is given. -/
inductive Operation where
  | create (desired : Json)
  | read (state : Json)
  | update (observed desired : Json)
  | delete (state : Json)
  | adopt (id : String)

/-- The program of a transition. A deletion ends without a state. -/
def Operation.program (documents : Documents) : Operation → Program (Transition Json)
  | .create desired => documents.create desired
  | .read state => documents.read state
  | .update observed desired => documents.update observed desired
  | .delete state => (documents.delete state).map .failed
  | .adopt id => documents.adopt id

theorem Resource.Guarded.program_gated {M : Type} {resource : Resource M}
    (guarded : resource.Guarded) (operation : Operation) :
    (operation.program resource.documents).Gated resource.kind.module := by
  cases operation with
  | create desired =>
      change (resource.createDocument desired).Gated _
      rw [createDocument]
      split
      · trivial
      · exact (guarded.create _).map _
  | read state =>
      change (resource.readDocument state).Gated _
      rw [readDocument]
      split
      · trivial
      · exact (guarded.read _).map _
  | update observed desired =>
      change (resource.updateDocument observed desired).Gated _
      rw [updateDocument]
      split
      · trivial
      · split
        · trivial
        · exact (guarded.update _ _).map _
  | delete state =>
      change ((resource.deleteDocument state).map _).Gated _
      rw [deleteDocument]
      split
      · trivial
      · exact (guarded.delete _).map _
  | adopt id => exact (guarded.adopt id).map _

theorem Kind.program_gated (kind : Kind) (operation : Operation) :
    (operation.program kind.documents).Gated kind.module := by
  cases kind with
  | ledger => exact Resource.Ledger.guarded.program_gated operation
  | ledgerSchema => exact Resource.LedgerSchema.guarded.program_gated operation
  | paymentsPool => exact Resource.PaymentsPool.guarded.program_gated operation
  | paymentsConnector => exact Resource.PaymentsConnector.guarded.program_gated operation
  | webhooks => exact Resource.Webhook.guarded.program_gated operation
  | reconciliationPolicy => exact Resource.ReconciliationPolicy.guarded.program_gated operation

/-- **Health comes first.** In the log of any transition of any kind, whatever the documents
and the answers, every call but a listing of modules comes behind a listing of the same
transition whose first entry with the name of the kind's module is healthy. A wait that
fails, be it by timeout, interruption or a failing listing, is followed by no call. -/
theorem Kind.health_first {σ : Type} (kind : Kind) (operation : Operation)
    (remote : Responder σ) (patience : Patience) (context : Context) (world : σ) (now : Nat) :
    let program := operation.program kind.documents
    let log := (program.run remote patience context world now).log
    let exchanges := program.exchanges remote patience context world now
    exchanges.map Exchange.call = log.map Entry.call ∧
    (∀ before exchange after, exchanges = before ++ exchange :: after →
      exchange.call ≠ .listModules →
      ∃ listing entry, ⟨.listModules, some (.ok listing)⟩ ∈ before ∧
        listing.modules.find? (·.name == kind.module) = some entry ∧ entry.healthy = true) ∧
    (∀ error, (Gate.await remote ⟨kind.module, patience, context, now⟩ world).value =
      .error error → ∀ entry ∈ log, entry.call = .listModules) := by
  intro program log exchanges
  obtain ⟨polls, others, equal, polled, behind, failing⟩ :=
    (kind.program_gated operation).exchanges_eq remote patience context world now
  have calls := program.exchanges_calls remote patience context world now
  change exchanges = polls ++ others at equal
  refine ⟨calls, ?_, ?_⟩
  · intro before exchange after split different
    rw [equal] at split
    -- the exchange is no poll, so all polls stand before it
    have pollsBefore : ∃ between, before = polls ++ between := by
      rcases List.append_eq_append_iff.mp split with
        ⟨between, beforeEqual, _⟩ | ⟨between, pollsEqual, rest⟩
      · exact ⟨between, beforeEqual⟩
      · cases between with
        | nil => exact ⟨[], by simpa using pollsEqual.symm⟩
        | cons first between =>
            have isFirst : exchange = first := (List.cons.inj rest).1
            have member : exchange ∈ polls := by simp [pollsEqual, isFirst]
            exact (different (polled exchange member)).elim
    obtain ⟨between, rfl⟩ := pollsBefore
    rcases behind with nothing | ⟨poll, member, listing, rfl, healthy⟩
    · rw [nothing, List.append_assoc] at split
      simp at split
    · obtain ⟨entry, found, isHealthy⟩ := Stack.Listing.isHealthy_iff.mp healthy
      exact ⟨listing, entry, List.mem_append_left _ member, found, isHealthy⟩
  · intro error failed entry member
    have inCalls : entry.call ∈ exchanges.map Exchange.call := by
      rw [calls]
      exact List.mem_map_of_mem member
    rw [equal, failing error failed, List.append_nil] at inCalls
    obtain ⟨exchange, isPoll, same⟩ := List.mem_map.mp inCalls
    rw [← same]
    exact polled exchange isPoll

end Converge
