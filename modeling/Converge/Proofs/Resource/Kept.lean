import Converge.Proofs.Resource.Interruption
import Converge.Proofs.Resource.Roundtrip

/-!
# Failures leave the state alone

A read or an update that reports an error, and behind which no mutating call has been answered
well, returns the state that it was given. For the model this is read off each program: every
way out of it either reports no error, or comes behind a mutating call, or keeps the state.
Between documents the state is written and read once more, and comes back as it was; a document
that cannot be read is returned untouched, and nothing is asked of the stack.
-/

namespace Converge

open Remote Program

/-- The state that a read or an update is about. -/
def Operation.observed? : Operation → Option Json
  | .read state => some state
  | .update observed _ => some observed
  | _ => none

namespace Resource

variable {M : Type}

/-! ## Programs that keep their state -/

/-- The transition keeps the state, unless it reports no error or something was changed. -/
def Keeps (state : M) (made : List Exchange) (transition : Transition M) : Prop :=
  transition.hasError = true → (∀ exchange ∈ made, exchange.call.mutates = false) →
    transition.state = some state

theorem keeps_keeping (state : M) (made : List Exchange) (diagnostics : Diagnostics) :
    Keeps state made (.keeping state diagnostics) :=
  fun _ _ => rfl

theorem keeps_ok (state next : M) (made : List Exchange) : Keeps state made (.ok next) := by
  intro failed
  cases failed

/-- The course of a transition that keeps its state when it fails. -/
def keeping (state : M) : Course (Transition M) := .uniform fun made _ => Keeps state made

/-- A last call behind a wait. -/
theorem keeping_asks {kind : Kind} {state : M} {call : Call}
    {next : Except Diagnostic call.Answer → Program (Transition M)}
    (notListing : call.isListing = false)
    (stops : ∀ failure, next (.error failure) = .done (.keeping state [failure]))
    (goesOn : ∀ answer, ∃ transition, next (.ok answer) = .done transition ∧
      Keeps state [⟨call, some (.ok answer)⟩] transition) :
    (whenReady kind (some state) (.call call next)).Takes (keeping state) [] := by
  refine ⟨fun failure => ⟨_, rfl, fun _ _ _ => rfl⟩, notListing, ?_, ?_⟩
  · exact fun failure => ⟨_, stops failure, fun _ => keeps_keeping _ _ _⟩
  · intro answer
    obtain ⟨transition, ends, keeps⟩ := goesOn answer
    rw [ends]
    exact keeps

/-- Behind a change that has been made nothing is promised; before the first the state is still
the one that was observed. -/
theorem keeping_makes {named : (made pending : List (Change M)) → List String} {final : M}
    {observed state : M} {made pending : List (Change M)} {program : Program (Transition M)}
    (makes : Change.Makes named final made state pending program)
    (untouched : made = [] → state = observed) :
    program.Takes (keeping observed) (carriedOut (Change.commands made)) := by
  induction makes with
  | done made state => exact keeps_ok _ _ _
  | @call made state change rest next stops goesOn ih =>
      refine ⟨rfl, fun failure => ⟨_, stops failure, fun _ => ?_⟩, fun answer => ?_⟩
      · cases made with
        | nil =>
            rw [untouched rfl]
            exact keeps_keeping _ _ _
        | cons first made =>
            intro _ nothing
            have mutating := nothing _ List.mem_cons_self
            cases mutating
      · rw [← carriedOut_snoc]
        exact ih (by simp)

/-! ## All kinds -/

/-- Reads and updates of a kind keep their state when they fail. -/
structure Keeping (resource : Resource M) : Prop where
  read : ∀ state, (resource.read state).Takes (keeping state) []
  update : ∀ observed desired, (resource.update observed desired).Takes (keeping observed) []

theorem Ledger.keeping : Ledger.resource.Keeping where
  read _ := keeping_asks rfl (fun _ => rfl) fun _ => ⟨_, rfl, keeps_ok _ _ _⟩
  update observed desired := by
    change (Ledger.update observed desired).Takes _ []
    rcases Ledger.update_cases observed desired with ⟨_, _, refused⟩ | ⟨_, equal, makes⟩
    · rw [refused]
      exact keeps_keeping _ _ _
    · rw [equal]
      exact ⟨fun _ => ⟨_, rfl, fun _ _ _ => rfl⟩, keeping_makes makes fun _ => rfl⟩

/-- An update of a schema reports no error. -/
theorem LedgerSchema.keeping : LedgerSchema.resource.Keeping where
  read _ := keeping_asks rfl (fun _ => rfl) fun _ => ⟨_, rfl, keeps_ok _ _ _⟩
  update _ _ := by
    intro failed
    cases failed

theorem PaymentsPool.keeping : PaymentsPool.resource.Keeping where
  read state := by
    change (PaymentsPool.read state).Takes _ []
    rw [PaymentsPool.read]
    cases state.id with
    | none => exact keeps_keeping _ _ _
    | some id => exact keeping_asks rfl (fun _ => rfl) fun _ => ⟨_, rfl, keeps_ok _ _ _⟩
  update observed desired := by
    change (PaymentsPool.update observed desired).Takes _ []
    rcases PaymentsPool.update_cases observed desired with ⟨_, _, refused⟩ | ⟨_, equal, makes⟩
    · rw [refused]
      exact keeps_keeping _ _ _
    · rw [equal]
      exact ⟨fun _ => ⟨_, rfl, fun _ _ _ => rfl⟩, keeping_makes makes fun _ => rfl⟩

theorem PaymentsConnector.keeping : PaymentsConnector.resource.Keeping where
  read state := by
    change (PaymentsConnector.read state).Takes _ []
    rw [PaymentsConnector.read]
    cases state.id with
    | none => exact keeps_keeping _ _ _
    | some id => exact keeping_asks rfl (fun _ => rfl) fun _ => ⟨_, rfl, keeps_ok _ _ _⟩
  update observed desired := by
    change (PaymentsConnector.update observed desired).Takes _ []
    rw [PaymentsConnector.update]
    cases observed.id with
    | none => exact keeps_keeping _ _ _
    | some id =>
        refine Takes.unless (keeps_keeping _ _ _) ?_
        cases Connector.Configuration.payload desired.credentials desired.config with
        | error error => exact keeps_keeping _ _ _
        | ok payload => exact keeping_asks rfl (fun _ => rfl) fun _ => ⟨_, rfl, keeps_ok _ _ _⟩

theorem Webhook.keeping : Webhook.resource.Keeping where
  read state := by
    change (Webhook.read state).Takes _ []
    rw [Webhook.read]
    cases state.id with
    | none => exact keeps_keeping _ _ _
    | some id =>
        refine keeping_asks rfl (fun _ => rfl) fun listed => ?_
        dsimp only
        split
        · exact ⟨_, rfl, keeps_ok _ _ _⟩
        · exact ⟨_, rfl, keeps_keeping _ _ _⟩
  update observed desired := by
    change (Webhook.update observed desired).Takes _ []
    rw [Webhook.update]
    refine Takes.unless (keeps_keeping _ _ _) ?_
    cases observed.id with
    | none => exact keeps_keeping _ _ _
    | some id =>
        refine Takes.unless (keeps_ok _ _ _) ?_
        exact keeping_asks rfl (fun _ => rfl) fun _ => ⟨_, rfl, keeps_ok _ _ _⟩

theorem ReconciliationPolicy.keeping : ReconciliationPolicy.resource.Keeping where
  read state := by
    change (ReconciliationPolicy.read state).Takes _ []
    rw [ReconciliationPolicy.read]
    cases state.id with
    | none => exact keeps_keeping _ _ _
    | some id => exact keeping_asks rfl (fun _ => rfl) fun _ => ⟨_, rfl, keeps_ok _ _ _⟩
  update _ _ := keeps_keeping _ _ _

end Resource

theorem Kind.keeping (kind : Kind) : kind.resource.Keeping := by
  cases kind with
  | ledger => exact Resource.Ledger.keeping
  | ledgerSchema => exact Resource.LedgerSchema.keeping
  | paymentsPool => exact Resource.PaymentsPool.keeping
  | paymentsConnector => exact Resource.PaymentsConnector.keeping
  | webhooks => exact Resource.Webhook.keeping
  | reconciliationPolicy => exact Resource.ReconciliationPolicy.keeping

/-! ## Documents -/

/-- The transition keeps a document of the model, unless it reports no error or something was
changed. -/
def Kind.KeepsModel (kind : Kind) (model : kind.Model) (made : List Exchange)
    (transition : Transition Json) : Prop :=
  transition.hasError = true → (∀ exchange ∈ made, exchange.call.mutates = false) →
    ∃ document, transition.state = some document ∧ kind.resource.decode document = .ok model

/-- The course of a transition between documents that keeps its model when it fails. -/
def Kind.keepingModel (kind : Kind) (model : kind.Model) : Course (Transition Json) :=
  .uniform fun made _ => kind.KeepsModel model made

variable {kind : Kind} {model : kind.Model}

theorem Resource.Keeps.toDocument
    (returns : kind.resource.decode (kind.toJson model) = .ok model)
    {made : List Exchange} {transition : Transition kind.Model}
    (keeps : Resource.Keeps model made transition) :
    kind.KeepsModel model made (kind.resource.toDocument transition) := by
  rw [Resource.toDocument_eq kind.encode_writes]
  intro failed nothing
  refine ⟨kind.toJson model, ?_, returns⟩
  have kept : transition.state = some model := keeps failed nothing
  change transition.state.map _ = _
  rw [kept]
  rfl

theorem Kind.takes_toDocument
    (returns : kind.resource.decode (kind.toJson model) = .ok model)
    {program : Program (Transition kind.Model)}
    (takes : program.Takes (Resource.keeping model) []) :
    (program.map kind.resource.toDocument).Takes (kind.keepingModel model) [] := by
  exact Takes.map_uniform (fun keeps => Resource.Keeps.toDocument returns keeps) takes

/-- A read or an update of a document that can be read keeps its model when it fails. -/
theorem Kind.keepingModel_of_observed {operation : Operation} {state : Json}
    (observes : operation.observed? = some state) (finite : state.isFinite = true)
    (read : kind.resource.decode state = .ok model) :
    (operation.program kind.documents).Takes (kind.keepingModel model) [] := by
  have returns := kind.decode_toJson finite read
  have isModel : ∀ subject, kind.resource.ofDocument subject state = .ok model := by
    intro subject
    rw [Resource.ofDocument, read]
    rfl
  rw [kind.documents_eq]
  cases operation with
  | read observed =>
      cases observes
      change (kind.resource.readDocument state).Takes _ []
      rw [Resource.readDocument, isModel]
      exact Kind.takes_toDocument returns (kind.keeping.read model)
  | update observed desired =>
      cases observes
      change (kind.resource.updateDocument state desired).Takes _ []
      rw [Resource.updateDocument, isModel]
      dsimp only
      cases kind.resource.ofDocument "desired" desired with
      | error fault => exact fun _ _ => ⟨state, rfl, read⟩
      | ok desired => exact Kind.takes_toDocument returns (kind.keeping.update model desired)
  | _ => cases observes

/-- A read or an update of a document that cannot be read is over before it begins. -/
theorem Kind.done_of_observed {operation : Operation} {state : Json}
    (observes : operation.observed? = some state) {fault : Decode.Fault}
    (unread : kind.resource.decode state = .error fault) :
    ∃ diagnostics, operation.program kind.documents = .done (.keeping state diagnostics) := by
  have notModel : ∃ diagnostic, kind.resource.ofDocument "state" state = .error diagnostic := by
    rw [Resource.ofDocument, unread]
    exact ⟨_, rfl⟩
  obtain ⟨diagnostic, notModel⟩ := notModel
  refine ⟨[diagnostic], ?_⟩
  rw [kind.documents_eq]
  cases operation with
  | read observed =>
      cases observes
      change kind.resource.readDocument state = _
      rw [Resource.readDocument, notModel]
  | update observed desired =>
      cases observes
      change kind.resource.updateDocument state desired = _
      rw [Resource.updateDocument, notModel]
  | _ => cases observes

/-- **A failure leaves the state alone.** In a read or an update of any kind, whatever is
desired, answered and interrupted: if it reports an error and no mutating call in it was answered
well, it returns a state, which is the document of the model that it was given. A state that is
no document of a model is returned as it is, and nothing is asked. Documents hold finite numbers,
as all JSON texts do. -/
theorem Kind.failure_keeps_state {σ : Type} (kind : Kind) {operation : Operation} {state : Json}
    (observes : operation.observed? = some state) (remote : Responder σ) (patience : Patience)
    (context : Context) (world : σ) (now : Nat) :
    let program := operation.program kind.documents
    let outcome := program.run remote patience context world now
    let exchanges := program.exchanges remote patience context world now
    (∀ model, state.isFinite = true → kind.resource.decode state = .ok model →
      outcome.value.hasError = true →
      (∀ call answer, (⟨call, some (.ok answer)⟩ : Exchange) ∈ exchanges →
        call.mutates = false) →
      ∃ document, outcome.value.state = some document ∧
        kind.resource.decode document = .ok model) ∧
    (∀ fault, kind.resource.decode state = .error fault →
      outcome.value.state = some state ∧ outcome.log = []) := by
  intro program outcome exchanges
  constructor
  · intro model finite read failed nothing
    obtain ⟨answered, rest, tried, split, keeps, good, _⟩ :=
      Program.comes (Kind.keepingModel_of_observed observes finite read) remote patience context
        world now
    apply keeps failed
    intro exchange member
    obtain ⟨call, answer, rfl⟩ := good exchange member
    apply nothing call answer
    have asked : ⟨call, some (.ok answer)⟩ ∈ demands exchanges := by
      rw [split]
      exact List.mem_append_left _ member
    exact (List.mem_filter.mp asked).1
  · intro fault unread
    obtain ⟨diagnostics, isDone⟩ := Kind.done_of_observed observes unread
    have ended : outcome = ⟨.keeping state diagnostics, world, now, []⟩ := by
      change (operation.program kind.documents).run remote patience context world now = _
      rw [isDone]
      rfl
    rw [ended]
    exact ⟨rfl, rfl⟩

/-- A stack that holds a pool of one account and refuses any other. -/
def closedPool : Rehearsal :=
  { Rehearsal.empty with
    memory := { Memory.empty with
      pools := .ofList [("pool-1", ⟨"pool-1", "savings", none, ["a"], none⟩)] }
    failures := .ofList [("add_account_to_pool", Memory.notFound "account")] }

/-- The first of two accounts is refused, and the pool that is returned is the one that was
observed. -/
theorem Kind.failure_keeps_state_closedPool :
    let program := widening.program Kind.paymentsPool.documents
    let outcome := program.run Rehearsal.remote .standard .free closedPool 0
    outcome.log.map (fun entry => entry.call.label) =
        ["list_module_versions", "add_account_to_pool pool-1 b"] ∧
      outcome.value.hasError = true ∧
      ∃ document, outcome.value.state = some document ∧
        Kind.paymentsPool.resource.decode document =
          .ok (⟨some "pool-1", "savings", ["a"], none⟩ : Resource.PaymentsPool) := by
  have observes : widening.observed? = some (.ofEntries [("id", .string "pool-1"),
      ("name", .string "savings"), ("accounts_ids", .array [.string "a"])]) := rfl
  have kept := (Kind.failure_keeps_state .paymentsPool observes Rehearsal.remote .standard .free
    closedPool 0).1
  refine ⟨rfl, rfl, kept _ rfl rfl rfl ?_⟩
  intro call answer member
  cases member with
  | head => rfl
  | tail _ member =>
      cases member with
      | tail _ member => cases member

end Converge
