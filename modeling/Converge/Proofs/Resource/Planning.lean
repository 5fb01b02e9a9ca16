import Converge.Proofs.Resource.Drift
import Converge.Proofs.Resource.History
import Converge.Proofs.Resource.Validation

/-!
# Updates follow their plans

A plan compares a state with a declaration, and an update compares them again in its own way:
by fields, by sets of accounts, by keys of metadata. The two agree. An update refuses a
declaration for exactly the fields for which the plan asks for a replacement, and where the plan
finds nothing to do an update changes nothing; but the update of a connector does not look, and
tells the stack again what it holds.
-/

namespace Converge

open Remote Program

/-! ## Plans of differences -/

theorem Plan.ofChanges_replace_iff {changed replaceFields : List String} :
    (Plan.ofChanges changed replaceFields).action = .replace ↔
      changed.filter replaceFields.contains ≠ [] := by
  rw [ofChanges]
  cases changed with
  | nil => simp
  | cons field fields =>
      simp only [List.isEmpty_cons, Bool.false_eq_true, if_false]
      split <;> simp_all

namespace Resource

variable {M σ : Type}

/-! ## Replacements -/

theorem hasError_requiresReplacement (fields : List String) :
    Diagnostics.hasError (fields.map requiresReplacement) = !fields.isEmpty := by
  cases fields <;> rfl

theorem OfInput.eq_nil {diagnostics : Diagnostics} (ofInput : OfInput diagnostics)
    (noError : diagnostics.hasError = false) : diagnostics = [] := by
  cases diagnostics with
  | nil => rfl
  | cons diagnostic diagnostics =>
      obtain ⟨subject, message, rfl⟩ := ofInput diagnostic (List.mem_cons_self ..)
      cases noError

/-- An update is refused for the fields for which a replacement is planned, and where there are
none it reports nothing but steps that fail. -/
structure Replacing (resource : Resource M) (observed desired : M) : Prop where
  refused : (resource.plan (some observed) desired).action = .replace →
    resource.update observed desired = .done (.keeping observed
      ((resource.plan (some observed) desired).requiresReplace.map requiresReplacement))
  accepted : (resource.plan (some observed) desired).action ≠ .replace →
    Reports reportsSteps (resource.update observed desired)

theorem replacing_of_fields {resource : Resource M} {observed desired : M} {fields : List String}
    (planned :
      (resource.changedFields observed desired).filter resource.replaceFields.contains = fields)
    (refused : fields ≠ [] → resource.update observed desired =
      .done (.keeping observed (fields.map requiresReplacement)))
    (accepted : fields = [] → Reports reportsSteps (resource.update observed desired)) :
    resource.Replacing observed desired := by
  subst planned
  constructor
  · intro replace
    exact refused (Plan.ofChanges_replace_iff.mp replace)
  · intro notReplace
    apply accepted
    exact Decidable.of_not_not fun some => notReplace (Plan.ofChanges_replace_iff.mpr some)

/-- An update whose objections are the planned replacements. -/
theorem replacing_of_objections {resource : Resource M} {observed desired : M}
    {fields : List String} {objections : Diagnostics}
    (planned :
      (resource.changedFields observed desired).filter resource.replaceFields.contains = fields)
    (objects : objections = fields.map requiresReplacement)
    (refused : objections.hasError = true →
      resource.update observed desired = .done (.keeping observed objections))
    (accepted : objections.hasError = false →
      Reports reportsSteps (resource.update observed desired)) :
    resource.Replacing observed desired := by
  subst objects
  rw [hasError_requiresReplacement] at refused accepted
  apply replacing_of_fields planned
  · intro some
    apply refused
    simp [some]
  · intro none
    apply accepted
    simp [none]

theorem Ledger.replacing {observed desired : Ledger}
    (valid : (Ledger.validate desired).hasError = false) :
    Ledger.resource.Replacing observed desired := by
  have objections : Ledger.objections observed desired =
      ((Ledger.changedFields observed desired).filter Ledger.replaceFields.contains).map
        requiresReplacement := by
    rw [Ledger.objections, (Ledger.validate_ofInput desired).eq_nil valid]
    rfl
  apply replacing_of_objections rfl objections
  · exact fun objected => if_pos objected
  · intro notObjected
    obtain ⟨body, equal, makes⟩ := Ledger.accepted notObjected
    change Reports reportsSteps (Ledger.update observed desired)
    rw [equal]
    exact steps_makes makes

theorem PaymentsPool.replacing {observed desired : PaymentsPool} {id : String}
    (known : observed.id = some id) (valid : (PaymentsPool.validate desired).hasError = false) :
    PaymentsPool.resource.Replacing observed desired := by
  have planned : (PaymentsPool.changedFields observed desired).filter
      PaymentsPool.replaceFields.contains =
        if observed.name = desired.name then [] else ["name"] := by
    simp [PaymentsPool.changedFields, filter_unless, PaymentsPool.replaceFields]
  have objections : PaymentsPool.objections observed desired =
      (if observed.name = desired.name then [] else ["name"]).map requiresReplacement := by
    rw [PaymentsPool.objections, (PaymentsPool.validate_ofInput desired).eq_nil valid]
    split <;> rfl
  apply replacing_of_objections planned objections
  · intro objected
    change PaymentsPool.update observed desired = _
    rw [PaymentsPool.update, known]
    exact if_pos objected
  · intro notObjected
    obtain ⟨body, equal, makes⟩ := PaymentsPool.update_makes known notObjected
    change Reports reportsSteps (PaymentsPool.update observed desired)
    rw [equal]
    exact steps_makes makes

theorem PaymentsConnector.replacing {observed desired : PaymentsConnector} {id : String}
    (known : observed.id = some id)
    (valid : (PaymentsConnector.validate desired).hasError = false) :
    PaymentsConnector.resource.Replacing observed desired := by
  have planned : (PaymentsConnector.changedFields observed desired).filter
      PaymentsConnector.replaceFields.contains =
        if providerName observed.config == providerName desired.config then []
        else ["config.provider"] := by
    simp [PaymentsConnector.changedFields, filter_unless, PaymentsConnector.replaceFields]
  apply replacing_of_fields planned
  · intro some
    have different : providerName observed.config ≠ providerName desired.config := by
      simpa using some
    change PaymentsConnector.update observed desired = _
    rw [PaymentsConnector.update, known]
    simp [different]
  · intro none
    have same : providerName observed.config = providerName desired.config := by
      simpa using none
    obtain ⟨_, _, configuration, read⟩ := valid_iff.mp valid
    obtain ⟨payload, sent⟩ := payload_of_ofParts read
    change Reports reportsSteps (PaymentsConnector.update observed desired)
    rcases update_decided known desired with
      ⟨different, _⟩ | ⟨error, fault, _⟩ | ⟨_, _, next, _, asks, stops, goesOn⟩
    · exact absurd same different
    · rw [sent] at fault
      cases fault
    · rw [asks]
      exact steps_asks rfl (fun failure => ⟨_, stops failure⟩) fun done => ⟨_, goesOn done⟩

theorem Webhook.replacing {observed desired : Webhook} {id : String}
    (known : observed.id = some id) (valid : (Webhook.validate desired).hasError = false) :
    Webhook.resource.Replacing observed desired := by
  have planned : (Webhook.changedFields observed desired).filter
      Webhook.resource.replaceFields.contains = [] :=
    List.filter_eq_nil_iff.mpr fun _ _ => by simp [Webhook.resource]
  apply replacing_of_fields planned
  · exact fun some => absurd rfl some
  · intro _
    change Reports reportsSteps (Webhook.update observed desired)
    rw [Webhook.update, if_neg (by simp [valid]), known]
    dsimp only
    split
    · rfl
    · exact steps_asks rfl (fun _ => ⟨_, rfl⟩) fun _ => ⟨_, rfl⟩

theorem ReconciliationPolicy.replacing {observed desired : ReconciliationPolicy} :
    ReconciliationPolicy.resource.Replacing observed desired := by
  have planned : (ReconciliationPolicy.changedFields observed desired).filter
      ReconciliationPolicy.replaceFields.contains =
        ReconciliationPolicy.changedFields observed desired := by
    simp [ReconciliationPolicy.changedFields, filter_unless, ReconciliationPolicy.replaceFields]
  apply replacing_of_fields planned
  · exact fun _ => rfl
  · intro none
    change (ReconciliationPolicy.changedFields observed desired).map requiresReplacement = []
    rw [none]
    rfl

end Resource

/-- The kinds of which an update asks for a replacement. -/
theorem Kind.replacing {kind : Kind} (replaced : kind ≠ .ledgerSchema)
    {observed desired : kind.Model} (known : kind.identity? observed ≠ none)
    (valid : (kind.resource.validate desired).hasError = false) :
    kind.resource.Replacing observed desired := by
  have ofIdentity : ∀ {id : Option String} {identify : String → Identity},
      id.map identify ≠ none → ∃ found, id = some found := by
    intro id identify
    cases id with
    | none => exact fun unknown => absurd rfl unknown
    | some found => exact fun _ => ⟨found, rfl⟩
  cases kind with
  | ledger => exact Resource.Ledger.replacing valid
  | ledgerSchema => exact absurd rfl replaced
  | paymentsPool =>
      obtain ⟨id, isId⟩ := ofIdentity known
      exact Resource.PaymentsPool.replacing isId valid
  | paymentsConnector =>
      obtain ⟨id, isId⟩ := ofIdentity known
      exact Resource.PaymentsConnector.replacing isId valid
  | webhooks =>
      obtain ⟨id, isId⟩ := ofIdentity known
      exact Resource.Webhook.replacing isId valid
  | reconciliationPolicy => exact Resource.ReconciliationPolicy.replacing

/-- **What a plan replaces an update refuses.** In every kind but schemas, for a state with its
identifier known and a valid declaration: a replacement is planned exactly where the update
reports that one is required. It then reports this of exactly the fields of the plan, in their
order, and reports nothing else, makes no call, takes no time and keeps the state. Where no
replacement is planned, a report of that code is the remote side's own. -/
theorem Kind.replacement_refused {σ : Type} {kind : Kind} (replaced : kind ≠ .ledgerSchema)
    {observed desired : kind.Model} (known : kind.identity? observed ≠ none)
    (valid : (kind.resource.validate desired).hasError = false) (remote : Responder σ)
    (patience : Patience) (context : Context) (world : σ) (now : Nat) :
    let plan := kind.resource.plan (some observed) desired
    let program := kind.resource.update observed desired
    let outcome := program.run remote patience context world now
    (plan.action = .replace ↔ ∃ diagnostic ∈ outcome.value.diagnostics,
      diagnostic.code = "REQUIRES_REPLACEMENT" ∧ diagnostic.category = .invalidConfiguration) ∧
    (plan.action = .replace →
      outcome = ⟨.keeping observed (plan.requiresReplace.map Resource.requiresReplacement), world,
        now, []⟩ ∧
      outcome.value.diagnostics.map (fun diagnostic => (diagnostic.code, diagnostic.subject)) =
        plan.requiresReplace.map fun field => ("REQUIRES_REPLACEMENT", some field)) ∧
    (plan.action ≠ .replace → ∀ diagnostic ∈ outcome.value.diagnostics,
      diagnostic.code = "REQUIRES_REPLACEMENT" →
      ∃ call failure, (⟨call, some (.error failure)⟩ : Exchange) ∈
          program.exchanges remote patience context world now ∧
        failure.diagnose.code = "REQUIRES_REPLACEMENT") := by
  intro plan program outcome
  obtain ⟨refused, accepted⟩ := kind.replacing replaced known valid
  have ended : plan.action = .replace → outcome = ⟨.keeping observed
      (plan.requiresReplace.map Resource.requiresReplacement), world, now, []⟩ := by
    intro replace
    simp only [outcome, program]
    rw [refused replace]
    rfl
  refine ⟨⟨?_, ?_⟩, ?_, ?_⟩
  · intro replace
    obtain ⟨field, member⟩ :=
      List.exists_mem_of_ne_nil _ (Plan.ofChanges_replace_iff.mp replace)
    refine ⟨Resource.requiresReplacement field, ?_, rfl, rfl⟩
    rw [ended replace]
    exact List.mem_map_of_mem member
  · rintro ⟨diagnostic, member, _, blamed⟩
    apply Decidable.of_not_not
    intro notReplace
    exact (accepted notReplace).blameless member blamed
  · intro replace
    refine ⟨ended replace, ?_⟩
    rw [ended replace]
    exact List.map_map
  · intro notReplace diagnostic member isCode
    exact (accepted notReplace).answered member isCode (by decide) (by decide)

namespace Resource.Ledger

def original : Ledger := ⟨"main", some "a", ∅, .ofList [("owner", "x")]⟩

/-- The ledger with another name, another bucket, a feature and other metadata. -/
def moved : Ledger := ⟨"other", some "b", .ofList [("HASH_LOGS", "SYNC")], ∅⟩

theorem replacement_refused_moved :
    let outcome := (update original moved).run Memory.remote .standard .free .empty 0
    (validate moved).hasError = false ∧
      (resource.plan (some original) moved).changed = ["name", "bucket", "features", "metadata"] ∧
      outcome.log = [] ∧ outcome.value.state = some original ∧
      outcome.value.diagnostics.map Diagnostic.subject =
        [some "name", some "bucket", some "features"] := by
  intro outcome
  have valid : (validate moved).hasError = false := by rfl
  have refused := @Kind.replacement_refused _ .ledger nofun original moved nofun valid
    Memory.remote .standard .free .empty 0
  have ended := (refused.2.1 rfl).1
  refine ⟨valid, rfl, ?_, ?_, ?_⟩
  · exact congrArg Outcome.log ended
  · exact congrArg (·.value.state) ended
  · exact congrArg (·.value.diagnostics.map Diagnostic.subject) ended

end Resource.Ledger

/-! ## Nothing to do -/

namespace Resource

theorem plan_noOp_iff {resource : Resource M} {observed desired : M} :
    (resource.plan (some observed) desired).action = .noOp ↔
      resource.changedFields observed desired = [] :=
  Plan.ofChanges_noOp_iff

/-- No call is made but those that are repeated, and nothing is planned for the state that is
left. -/
def settling (resource : Resource M) (desired : M) (repeated : List Call) :
    Course (Transition M) :=
  .uniform fun made tried transition =>
    made.map Exchange.call ++ tried.toList <+: repeated ∧
      ∀ state, transition.state = some state → resource.changedFields state desired = []

section Settling

variable {resource : Resource M} {observed desired : M} {repeated : List Call}

theorem settles_keeping (same : resource.changedFields observed desired = [])
    (diagnostics : Diagnostics) :
    (Program.done (Transition.keeping observed diagnostics)).Takes
      (settling resource desired repeated) [] := by
  constructor
  · exact List.nil_prefix
  · rintro _ ⟨⟩
    exact same

theorem settles_whenReady {kind : Kind} {next : Program (Transition M)}
    (same : resource.changedFields observed desired = [])
    (takes : next.Takes (settling resource desired repeated) []) :
    (whenReady kind (some observed) next).Takes (settling resource desired repeated) [] := by
  constructor
  · intro failure
    exact ⟨_, rfl, fun _ => settles_keeping same [failure]⟩
  · exact takes

/-- What a settling program comes to. -/
theorem settled {program : Program (Transition M)}
    (takes : program.Takes (settling resource desired repeated) []) (remote : Responder σ)
    (patience : Patience) (context : Context) (world : σ) (now : Nat) :
    let outcome := program.run remote patience context world now
    requests outcome.log <+: repeated ∧
      ∀ state, outcome.value.state = some state → resource.changedFields state desired = [] := by
  intro outcome
  -- a step that fails does not undo that the calls made are among the repeated ones
  have stops : ∀ {tried failure},
      Stopped (settling resource desired repeated) []
        (program.flights remote patience context world now) outcome tried failure →
      requests outcome.log <+: repeated ∧
        ∀ state, outcome.value.state = some state → resource.changedFields state desired = [] := by
    intro tried failure stopped
    obtain ⟨calls, same⟩ := stopped.value stopped.isError
    exact ⟨stopped.requested.trans calls, same⟩
  cases (program.runs remote patience context world now).concludes takes with
  | ended value requested early =>
      obtain ⟨calls, same⟩ := value
      rw [Option.toList_none, List.append_nil] at calls
      rw [requested]
      exact ⟨calls, same⟩
  | failed stopped cause early => exact stops stopped
  | interrupted stopped cause isStop unfinished late instant => exact stops stopped

end Settling

theorem Ledger.settling_update {observed desired : Ledger}
    (same : Ledger.changedFields observed desired = []) :
    (Ledger.update observed desired).Takes (settling Ledger.resource desired []) [] := by
  have metadata : observed.metadata = desired.metadata := by
    simp only [Ledger.changedFields, List.append_eq_nil_iff, unless_eq_nil_iff] at same
    exact same.2
  rw [Ledger.update, changes_eq_nil_iff.mpr metadata]
  apply Takes.unless
  · exact settles_keeping same _
  · apply settles_whenReady same
    exact settles_keeping same []

theorem LedgerSchema.settling_update {observed desired : LedgerSchema}
    (same : LedgerSchema.changedFields observed desired = []) :
    (LedgerSchema.update observed desired).Takes
      (settling LedgerSchema.resource desired []) [] := by
  have key : observed.idempotencyKey = desired.idempotencyKey := by
    simp only [LedgerSchema.changedFields, List.append_eq_nil_iff, unless_eq_nil_iff] at same
    exact same.2
  have kept : { observed with idempotencyKey := desired.idempotencyKey } = observed := by
    rw [← key]
  rw [LedgerSchema.update, kept]
  exact settles_keeping same _

theorem PaymentsPool.changedFields_id (desired : PaymentsPool) (id : Option String) :
    PaymentsPool.changedFields { desired with id := id } desired = [] := by
  simp only [PaymentsPool.changedFields, List.append_eq_nil_iff, unless_eq_nil_iff, true_and]
  constructor
  · simp [Delta.isEmpty_between_iff]
  · exact Value.semanticallyEqual_self desired.effectiveQuery

theorem PaymentsPool.settling_update {observed desired : PaymentsPool}
    (same : PaymentsPool.changedFields observed desired = []) :
    (PaymentsPool.update observed desired).Takes
      (settling PaymentsPool.resource desired []) [] := by
  cases known : observed.id with
  | none =>
      rw [PaymentsPool.update, known]
      exact settles_keeping same _
  | some id =>
      have nothing : changes id observed desired = [] ∧ queryChange id observed desired = [] := by
        rw [← List.append_eq_nil_iff, ← plan_eq known, plan_eq_nil_iff known]
        simp only [PaymentsPool.changedFields, List.append_eq_nil_iff, unless_eq_nil_iff] at same
        exact ⟨Delta.isEmpty_between_iff.mp same.1.2, same.2⟩
      rw [PaymentsPool.update, known]
      dsimp only
      rw [nothing.1, nothing.2]
      apply Takes.unless
      · exact settles_keeping same _
      · apply settles_whenReady same
        exact settles_keeping (changedFields_id desired (some id)) []

/-- The call with which an update tells the stack the connector again. -/
def PaymentsConnector.repeated (observed desired : PaymentsConnector) : List Call :=
  match observed.id, Connector.Configuration.payload desired.credentials desired.config with
  | some id, .ok payload => [.command (.updateConnector id payload)]
  | _, _ => []

theorem PaymentsConnector.changedFields_id {observed desired : PaymentsConnector}
    (same : PaymentsConnector.changedFields observed desired = []) (id : Option String) :
    PaymentsConnector.changedFields { desired with id := id } desired = [] := by
  simp only [PaymentsConnector.changedFields, List.append_eq_nil_iff, unless_eq_nil_iff] at same ⊢
  obtain ⟨⟨credentials, config⟩, _⟩ := same
  exact ⟨⟨Value.beq_self_of_beq credentials, Value.beq_self_of_beq config⟩, beq_self_eq_true _⟩

theorem PaymentsConnector.settling_update {observed desired : PaymentsConnector}
    (same : PaymentsConnector.changedFields observed desired = []) :
    (PaymentsConnector.update observed desired).Takes
      (settling PaymentsConnector.resource desired (repeated observed desired)) [] := by
  cases known : observed.id with
  | none =>
      rw [PaymentsConnector.update, known]
      exact settles_keeping same _
  | some id =>
      rcases update_decided known desired with
        ⟨_, equal⟩ | ⟨error, _, equal⟩ | ⟨_, payload, next, sent, asks, stops, goesOn⟩
      · rw [equal]
        exact settles_keeping same _
      · rw [equal]
        exact settles_keeping same _
      · have again : repeated observed desired = [.command (.updateConnector id payload)] := by
          rw [repeated, known, sent]
        rw [asks, again]
        apply settles_whenReady same
        refine ⟨rfl, ?_, ?_⟩
        · intro failure
          refine ⟨_, stops failure, fun _ => ⟨List.prefix_rfl, ?_⟩⟩
          rintro _ ⟨⟩
          exact same
        · intro done
          rw [goesOn]
          refine ⟨List.prefix_rfl, ?_⟩
          rintro _ ⟨⟩
          exact changedFields_id same (some id)

theorem Webhook.settling_update {observed desired : Webhook}
    (same : Webhook.changedFields observed desired = []) :
    (Webhook.update observed desired).Takes (settling Webhook.resource desired []) [] := by
  rw [Webhook.update, same]
  apply Takes.unless
  · exact settles_keeping same _
  · cases observed.id with
    | none => exact settles_keeping same _
    | some id => exact settles_keeping same []

theorem ReconciliationPolicy.settling_update {observed desired : ReconciliationPolicy}
    (same : ReconciliationPolicy.changedFields observed desired = []) :
    (ReconciliationPolicy.update observed desired).Takes
      (settling ReconciliationPolicy.resource desired []) [] :=
  settles_keeping same _

end Resource

/-- The calls that an update makes where there is nothing to do: none, but for connectors. -/
def Kind.repeated : (kind : Kind) → (observed desired : kind.Model) → List Call
  | .paymentsConnector => Resource.PaymentsConnector.repeated
  | _ => fun _ _ => []

theorem Kind.settling_update {kind : Kind} {observed desired : kind.Model}
    (same : kind.resource.changedFields observed desired = []) :
    (kind.resource.update observed desired).Takes
      (Resource.settling kind.resource desired (kind.repeated observed desired)) [] := by
  cases kind with
  | ledger => exact Resource.Ledger.settling_update same
  | ledgerSchema => exact Resource.LedgerSchema.settling_update same
  | paymentsPool => exact Resource.PaymentsPool.settling_update same
  | paymentsConnector => exact Resource.PaymentsConnector.settling_update same
  | webhooks => exact Resource.Webhook.settling_update same
  | reconciliationPolicy => exact Resource.ReconciliationPolicy.settling_update same

/-- **Nothing planned, nothing changed.** In every kind and for all states and declarations:
where the plan finds nothing to do, an update makes no call but listings of modules, whatever
the remote side answers and the context does, and nothing is planned for the state that it leaves.
Only an update of a connector tells the stack once more what is declared. -/
theorem Kind.noOp_update_settles {σ : Type} {kind : Kind} {observed desired : kind.Model}
    (noOp : (kind.resource.plan (some observed) desired).action = .noOp) (remote : Responder σ)
    (patience : Patience) (context : Context) (world : σ) (now : Nat) :
    let outcome := (kind.resource.update observed desired).run remote patience context world now
    requests outcome.log <+: kind.repeated observed desired ∧
      ∀ state, outcome.value.state = some state →
        (kind.resource.plan (some state) desired).action = .noOp := by
  have same := Resource.plan_noOp_iff.mp noOp
  obtain ⟨requested, settled⟩ :=
    Resource.settled (kind.settling_update same) remote patience context world now
  refine ⟨requested, ?_⟩
  intro state isState
  exact Resource.plan_noOp_iff.mpr (settled state isState)

namespace Resource.PaymentsPool

/-- The pool of two accounts, in another order and with one of them repeated. -/
def reordered : PaymentsPool := ⟨none, "savings", ["c", "b", "c"], none⟩

theorem noOp_update_settles_reordered :
    let observed : PaymentsPool := { exchanged with id := some "pool-1" }
    let outcome := (update observed reordered).run Memory.remote .standard .free .empty 0
    (resource.plan (some observed) reordered).action = .noOp ∧ requests outcome.log = [] ∧
      outcome.value = .ok { reordered with id := some "pool-1" } ∧
      (resource.plan (some { reordered with id := some "pool-1" }) reordered).action = .noOp := by
  intro observed outcome
  have noOp : (Kind.paymentsPool.resource.plan (some observed) reordered).action = .noOp := by rfl
  obtain ⟨requested, settled⟩ :=
    Kind.noOp_update_settles noOp Memory.remote .standard .free Memory.empty 0
  exact ⟨noOp, List.prefix_nil.mp requested, rfl, settled _ rfl⟩

end Resource.PaymentsPool

namespace Resource.PaymentsConnector

/-- A connector that is exactly as declared is sent again. -/
theorem noOp_update_sent :
    let outcome := (update stripe stripe).run Memory.remote .standard .free
      ((create stripe).run Memory.remote .standard .free .empty 0).world 0
    (validate stripe).hasError = false ∧ (resource.plan (some stripe) stripe).action = .noOp ∧
      outcome.log.map (·.call.words) =
        [["list_module_versions"], ["update_connector_config", "conn-1"]] :=
  ⟨rfl, rfl, rfl⟩

end Resource.PaymentsConnector

end Converge
