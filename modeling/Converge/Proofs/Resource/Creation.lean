import Converge.Proofs.Dictionary
import Converge.Proofs.Remote.Course
import Converge.Proofs.Resource.Encoding

/-!
# Creations account for what they create

A creation ends with a state exactly where its creating call has been answered well: what the
stack has made is not lost, and nothing is held that the stack has not made. The creations of
all kinds take one course. They are refused before any call, or stopped before the creating call
has succeeded, and then report an error and hold no state; or the creating call has succeeded,
and then whatever follows can only warn.
-/

namespace Converge

open Remote

/-- The call that creates an object of the kind. -/
def Kind.creates : Kind → Call → Bool
  | .ledger, .command (.createLedger _ _) => true
  | .ledgerSchema, .command (.insertSchema _ _ _ _) => true
  | .paymentsPool, .createPool _ => true
  | .paymentsConnector, .installConnector _ _ => true
  | .webhooks, .createWebhook _ => true
  | .reconciliationPolicy, .createPolicy _ => true
  | _, _ => false

theorem Kind.isListing_of_creates {kind : Kind} {call : Call}
    (creates : kind.creates call = true) : call.isListing = false := by
  cases call with
  | listModules => cases kind <;> cases creates
  | _ => rfl

/-- The identifier that the stack gives with a good answer to a creating call. -/
def Remote.Exchange.assigned? : Exchange → Option String
  | ⟨.createPool _, some (.ok id)⟩ => some id
  | ⟨.installConnector _ _, some (.ok id)⟩ => some id
  | ⟨.createWebhook _, some (.ok info)⟩ => some info.id
  | ⟨.createPolicy _, some (.ok info)⟩ => some info.id
  | _ => none

/-- Only a good answer gives an identifier. -/
theorem Remote.Exchange.answer_of_assigned {exchange : Exchange} {id : String}
    (assigned : exchange.assigned? = some id) :
    ∃ call answer, exchange = ⟨call, some (.ok answer)⟩ := by
  obtain ⟨call, answer?⟩ := exchange
  cases answer? with
  | none => cases call <;> cases assigned
  | some result =>
      cases result with
      | error failure => cases call <;> cases assigned
      | ok answer => exact ⟨call, answer, rfl⟩

namespace Resource

variable {M σ : Type}

/-! ## Local reports -/

/-- The diagnostics are about the input alone. -/
def OfInput (diagnostics : Diagnostics) : Prop :=
  ∀ diagnostic ∈ diagnostics, ∃ subject message, diagnostic = .invalid subject message

@[simp] theorem ofInput_nil : OfInput [] := by
  simp [OfInput]

@[simp] theorem ofInput_invalid (subject message : String) :
    OfInput [.invalid subject message] := by
  intro diagnostic member
  exact ⟨subject, message, List.mem_singleton.mp member⟩

theorem OfInput.append {first second : Diagnostics} (firstOf : OfInput first)
    (secondOf : OfInput second) : OfInput (first ++ second) := by
  intro diagnostic member
  rcases List.mem_append.mp member with early | late
  · exact firstOf diagnostic early
  · exact secondOf diagnostic late

theorem OfInput.ite {condition : Prop} [Decidable condition] {first second : Diagnostics}
    (firstOf : OfInput first) (secondOf : OfInput second) :
    OfInput (if condition then first else second) := by
  split
  · exact firstOf
  · exact secondOf

theorem OfInput.flatMap {α : Type} {items : List α} {judge : α → Diagnostics}
    (each : ∀ item, OfInput (judge item)) : OfInput (items.flatMap judge) := by
  intro diagnostic member
  obtain ⟨item, _, judged⟩ := List.mem_flatMap.mp member
  exact each item diagnostic judged

theorem requireGiven_ofInput (value subject : String) : OfInput (requireGiven value subject) :=
  .ite (ofInput_invalid _ _) ofInput_nil

theorem Ledger.validate_ofInput (desired : Ledger) : OfInput (Ledger.validate desired) := by
  apply (requireGiven_ofInput _ _).append
  cases desired.bucket with
  | none => exact ofInput_nil
  | some bucket => exact requireGiven_ofInput _ _

theorem PaymentsPool.validate_ofInput (desired : PaymentsPool) :
    OfInput (PaymentsPool.validate desired) := by
  refine (((requireGiven_ofInput _ _).append ?_).append ?_).append
    (.ite (ofInput_invalid _ _) ofInput_nil)
  · split
    · exact ofInput_invalid _ _
    · exact ofInput_invalid _ _
    · exact ofInput_nil
  · split
    · split
      · exact ofInput_invalid _ _
      · exact ofInput_nil
    · exact ofInput_nil

theorem PaymentsConnector.configurationFault_ofInput (error : ShapeError) :
    OfInput [PaymentsConnector.configurationFault error] :=
  ofInput_invalid _ _

theorem PaymentsConnector.validate_ofInput (desired : PaymentsConnector) :
    OfInput (PaymentsConnector.validate desired) := by
  refine .ite (.append (.ite (ofInput_invalid _ _) ofInput_nil)
    (.ite (ofInput_invalid _ _) ofInput_nil)) ?_
  split
  · exact configurationFault_ofInput _
  · exact ofInput_nil

theorem Webhook.validate_ofInput (desired : Webhook) : OfInput (Webhook.validate desired) :=
  (requireGiven_ofInput _ _).append (.ite (ofInput_invalid _ _) ofInput_nil)

theorem ReconciliationPolicy.validate_ofInput (desired : ReconciliationPolicy) :
    OfInput (ReconciliationPolicy.validate desired) := by
  refine (((requireGiven_ofInput _ _).append (requireGiven_ofInput _ _)).append
    (requireGiven_ofInput _ _)).append ?_
  split
  · split
    · exact ofInput_invalid _ _
    · exact ofInput_nil
  · exact ofInput_nil

namespace LedgerSchema

theorem expectKind_ofInput (path : String) (expected : Value.Kind) (value : Value) :
    OfInput (expectKind path expected value) :=
  .ite ofInput_nil (ofInput_invalid _ _)

theorem validateSegments_ofInput (path : String) (segments : List (String × Value)) :
    OfInput (validateSegments path segments) := by
  fun_induction validateSegments path segments with
  | case1 path => exact ofInput_nil
  | case2 path key value rest place children ih =>
      refine OfInput.append ?_ ih
      split
      · exact expectKind_ofInput _ _ _
      · refine .ite (ofInput_invalid _ _) ?_
        split
        · exact children
        · exact ofInput_invalid _ _

theorem validateScript_ofInput (path : String) (script : Option Value) :
    OfInput (validateScript path script) := by
  rw [validateScript.eq_def]
  split
  · split
    · exact ofInput_nil
    · exact ofInput_invalid _ _
  · exact ofInput_invalid _ _

theorem validateDescription_ofInput (path : String) (description : Option Value) :
    OfInput (validateDescription path description) := by
  rw [validateDescription.eq_def]
  split
  · exact ofInput_nil
  · exact ofInput_nil
  · exact ofInput_nil
  · exact ofInput_invalid _ _

theorem validateRuntime_ofInput (path : String) (runtime : Option Value) :
    OfInput (validateRuntime path runtime) := by
  cases runtime with
  | none => exact ofInput_nil
  | some value => exact .ite ofInput_nil (ofInput_invalid _ _)

theorem validateTemplate_ofInput (name : String) (template : Value) :
    OfInput (validateTemplate name template) := by
  rw [validateTemplate.eq_def]
  split
  · exact ((validateScript_ofInput _ _).append (validateDescription_ofInput _ _)).append
      (validateRuntime_ofInput _ _)
  · exact ofInput_invalid _ _

theorem validateChart_ofInput (chart : Value) : OfInput (validateChart chart) := by
  rw [validateChart.eq_def]
  split
  · exact validateSegments_ofInput _ _
  · exact ofInput_invalid _ _

theorem validateTransactions_ofInput (transactions : Value) :
    OfInput (validateTransactions transactions) := by
  rw [validateTransactions.eq_def]
  split
  · exact .flatMap fun entry => validateTemplate_ofInput entry.1 entry.2
  · exact ofInput_invalid _ _

theorem validate_ofInput (desired : LedgerSchema) : OfInput (validate desired) := by
  refine ((((requireGiven_ofInput _ _).append (requireGiven_ofInput _ _)).append
    (.ite (ofInput_invalid _ _) ofInput_nil)).append ?_).append ?_
  · cases desired.chart with
    | none => exact ofInput_nil
    | some chart => exact validateChart_ofInput chart
  · cases desired.transactions with
    | none => exact ofInput_nil
    | some transactions => exact validateTransactions_ofInput transactions

end LedgerSchema

/-! ## The course of a creation -/

/-- The exchange has created the object that the state is about, and the state carries the
identifier that the stack has given. -/
structure CreatedBy (kind : Kind) (exchange : Exchange) (transition : Transition Json) : Prop where
  creates : kind.creates exchange.call = true
  state : ∃ document, transition.state = some document ∧
    ∀ id, exchange.assigned? = some id → document.member? "id" = some (.string id)

/-- A creation is refused for its input, or stopped by its failure before anything is created;
or the first call that is answered well creates the object. Behind it nothing is created, and
only the read-back of a ledger can still fail, with a warning. -/
def creation (kind : Kind) : Course (Transition Json) where
  ended made transition :=
    (made = [] ∧ transition.state = none ∧ transition.hasError = true ∧
      OfInput transition.diagnostics) ∨
    ∃ created others, made = created :: others ∧ CreatedBy kind created transition ∧
      (∀ other ∈ others, kind.creates other.call = false) ∧ transition.diagnostics = []
  stopped made tried failure transition :=
    (made = [] ∧ transition = .failed [failure]) ∨
    ∃ name request, made = [⟨.command (.createLedger name request), some (.ok ())⟩] ∧
      CreatedBy kind ⟨.command (.createLedger name request), some (.ok ())⟩ transition ∧
      (∀ call ∈ tried, kind.creates call = false) ∧
      transition.diagnostics = [Ledger.notReadBack failure]

theorem creation_refused {resource : Resource M} {faults : Diagnostics}
    (hasError : faults.hasError = true) (ofInput : OfInput faults) :
    (Program.done (Transition.failed faults)).Takes
      ((creation resource.kind).before resource.toDocument) [] :=
  .inl ⟨rfl, rfl, hasError, ofInput⟩

/-- A creating call behind the wait, and what it is answered with carried into the state. -/
theorem creation_asks {resource : Resource M} {toJson : M → Json}
    (writes : Encode.Writes resource.encode toJson) {call : Call}
    {next : Except Diagnostic call.Answer → Program (Transition M)}
    (creates : resource.kind.creates call = true)
    (stops : ∀ failure, next (.error failure) = .done (.failed [failure]))
    (goesOn : ∀ answer, ∃ state, next (.ok answer) = .done (.ok state) ∧
      ∀ id, Exchange.assigned? ⟨call, some (.ok answer)⟩ = some id →
        (toJson state).member? "id" = some (.string id)) :
    (whenReady resource.kind none (.call call next)).Takes
      ((creation resource.kind).before resource.toDocument) [] := by
  refine ⟨fun failure => ⟨_, rfl, .inl ⟨rfl, rfl⟩⟩, Kind.isListing_of_creates creates, ?_, ?_⟩
  · exact fun failure => ⟨_, stops failure, .inl ⟨rfl, rfl⟩⟩
  · intro answer
    obtain ⟨state, ends, carries⟩ := goesOn answer
    rw [ends]
    have written : resource.toDocument (.ok state) = .ok (toJson state) := toDocument_eq writes _
    refine .inr ⟨_, [], rfl, ?_⟩
    rw [written]
    exact ⟨⟨creates, toJson state, rfl, carries⟩, by simp, rfl⟩

/-! ## Creations of all kinds -/

/-- The identifier stands in the object whatever other members there are. -/
theorem member?_id_of_others {id : String} {others : List (String × Json)}
    (apart : "id" ∉ others.map Prod.fst) :
    (Json.ofEntries (Json.member "id" (some (.string id)) ++ others)).member? "id" =
      some (.string id) := by
  change Entries.find? "id" (Entries.ofList (_ ++ others)) = _
  rw [Entries.find?_ofList_append, Entries.find?_ofList_eq_none apart]
  rfl

theorem Ledger.create_takes (desired : Ledger) :
    (Ledger.create desired).Takes ((creation .ledger).before Ledger.resource.toDocument) [] := by
  rw [Ledger.create]
  split
  · rename_i refused
    exact creation_refused refused (Ledger.validate_ofInput desired)
  · refine ⟨fun failure => ⟨_, rfl, .inl ⟨rfl, rfl⟩⟩, rfl,
      fun failure => ⟨_, rfl, .inl ⟨rfl, rfl⟩⟩, ?_⟩
    -- the ledger is there, and what the read-back comes to does not change that
    intro created
    refine ⟨rfl, ?_, ?_⟩
    · intro failure
      refine ⟨_, rfl, .inr ⟨_, _, rfl, ?_⟩⟩
      rw [toDocument_eq encode_writes]
      exact ⟨⟨rfl, _, rfl, nofun⟩, by simp [Kind.creates], rfl⟩
    · intro info
      refine .inr ⟨_, _, rfl, ?_⟩
      rw [toDocument_eq encode_writes]
      exact ⟨⟨rfl, _, rfl, nofun⟩, by simp [Kind.creates], rfl⟩

theorem LedgerSchema.create_takes (desired : LedgerSchema) :
    (LedgerSchema.create desired).Takes
      ((creation .ledgerSchema).before LedgerSchema.resource.toDocument) [] := by
  rw [LedgerSchema.create]
  split
  · rename_i refused
    exact creation_refused refused (LedgerSchema.validate_ofInput desired)
  · exact creation_asks LedgerSchema.encode_writes rfl (fun _ => rfl) fun _ => ⟨_, rfl, nofun⟩

theorem PaymentsPool.member?_id {pool : PaymentsPool} {id : String} (known : pool.id = some id) :
    pool.toJson.member? "id" = some (.string id) := by
  rw [toJson, known]
  simp only [Option.map_some, List.append_assoc]
  apply member?_id_of_others
  cases pool.accounts <;> cases pool.query <;> simp [Json.member]

theorem PaymentsPool.create_takes (desired : PaymentsPool) :
    (PaymentsPool.create desired).Takes
      ((creation .paymentsPool).before PaymentsPool.resource.toDocument) [] := by
  rw [PaymentsPool.create]
  split
  · rename_i refused
    exact creation_refused refused (PaymentsPool.validate_ofInput desired)
  · refine creation_asks encode_writes rfl (fun _ => rfl) fun id => ⟨_, rfl, ?_⟩
    rintro _ ⟨⟩
    exact member?_id rfl

theorem PaymentsConnector.member?_id {connector : PaymentsConnector} {id : String}
    (known : connector.id = some id) : connector.toJson.member? "id" = some (.string id) := by
  rw [toJson, known]
  apply member?_id_of_others
  simp

theorem PaymentsConnector.create_takes (desired : PaymentsConnector) :
    (PaymentsConnector.create desired).Takes
      ((creation .paymentsConnector).before PaymentsConnector.resource.toDocument) [] := by
  rw [PaymentsConnector.create]
  split
  · rename_i refused
    exact creation_refused refused (PaymentsConnector.validate_ofInput desired)
  · cases Connector.Configuration.ofParts desired.credentials desired.config with
    | error fault => exact creation_refused rfl (configurationFault_ofInput fault)
    | ok configuration =>
        dsimp only
        cases configuration.encode with
        | error fault => exact creation_refused rfl (configurationFault_ofInput fault)
        | ok payload =>
            refine creation_asks encode_writes rfl (fun _ => rfl) fun id => ⟨_, rfl, ?_⟩
            rintro _ ⟨⟩
            exact member?_id rfl

theorem Webhook.member?_id {webhook : Webhook} {id : String} (known : webhook.id = some id) :
    webhook.toJson.member? "id" = some (.string id) := by
  rw [toJson, known]
  simp only [Option.map_some, List.append_assoc]
  apply member?_id_of_others
  cases webhook.name <;> cases webhook.secret <;> simp [Json.member]

theorem Webhook.create_takes (desired : Webhook) :
    (Webhook.create desired).Takes
      ((creation .webhooks).before Webhook.resource.toDocument) [] := by
  rw [Webhook.create]
  split
  · rename_i refused
    exact creation_refused refused (Webhook.validate_ofInput desired)
  · refine creation_asks encode_writes rfl (fun _ => rfl) fun info => ⟨_, rfl, ?_⟩
    rintro _ ⟨⟩
    exact member?_id rfl

theorem ReconciliationPolicy.member?_id {policy : ReconciliationPolicy} {id : String}
    (known : policy.id = some id) : policy.toJson.member? "id" = some (.string id) := by
  rw [toJson, known]
  simp only [Option.map_some, List.append_assoc]
  apply member?_id_of_others
  cases policy.createdAt <;> cases policy.ledgerQuery <;> simp [Json.member]

theorem ReconciliationPolicy.create_takes (desired : ReconciliationPolicy) :
    (ReconciliationPolicy.create desired).Takes
      ((creation .reconciliationPolicy).before ReconciliationPolicy.resource.toDocument) [] := by
  rw [ReconciliationPolicy.create]
  split
  · rename_i refused
    exact creation_refused refused (ReconciliationPolicy.validate_ofInput desired)
  · refine creation_asks encode_writes rfl (fun _ => rfl) fun info => ⟨_, rfl, ?_⟩
    rintro _ ⟨⟩
    exact member?_id rfl

/-- A document that cannot be read is refused, and any other is created like what it says. -/
theorem createDocument_takes {resource : Resource M}
    (takes : ∀ desired,
      (resource.create desired).Takes ((creation resource.kind).before resource.toDocument) [])
    (desired : Json) :
    (resource.createDocument desired).Takes (creation resource.kind) [] := by
  rw [createDocument, ofDocument]
  cases resource.decode desired with
  | error fault => exact .inl ⟨rfl, rfl, rfl, ofInput_invalid _ _⟩
  | ok desired => exact (takes desired).map

end Resource

theorem Kind.create_takes (kind : Kind) (desired : Json) :
    (kind.documents.create desired).Takes (Resource.creation kind) [] := by
  cases kind with
  | ledger => exact Resource.createDocument_takes Resource.Ledger.create_takes desired
  | ledgerSchema => exact Resource.createDocument_takes Resource.LedgerSchema.create_takes desired
  | paymentsPool => exact Resource.createDocument_takes Resource.PaymentsPool.create_takes desired
  | paymentsConnector =>
      exact Resource.createDocument_takes Resource.PaymentsConnector.create_takes desired
  | webhooks => exact Resource.createDocument_takes Resource.Webhook.create_takes desired
  | reconciliationPolicy =>
      exact Resource.createDocument_takes Resource.ReconciliationPolicy.create_takes desired

/-! ## What a creation leads to -/

namespace Resource

variable {σ : Type}

/-- A creation has made nothing and holds nothing, and says so; or the first of the calls that
were answered well has created what it holds, and no later one creates anything. -/
inductive Accounts (kind : Kind) (transition : Transition Json) (tried : Option Call) :
    (made : List Exchange) → Prop where
  | nothing (state : transition.state = none) (hasError : transition.hasError = true) :
      Accounts kind transition tried []
  | created {exchange : Exchange} {others : List Exchange}
      (created : CreatedBy kind exchange transition)
      (others_not : ∀ other ∈ others, kind.creates other.call = false)
      (tried_not : ∀ call ∈ tried, kind.creates call = false)
      (noError : transition.hasError = false) :
      Accounts kind transition tried (exchange :: others)

variable {kind : Kind} {context : Context} {program : Program (Transition Json)} {now : Nat}
variable {free outcome : Outcome σ (Transition Json)} {flights : List Flight}

theorem accounts_of_stopped {tried : Option Call} {failure : Diagnostic}
    (stopped : Stopped (creation kind) [] flights outcome tried failure) :
    Accounts kind outcome.value tried (successes flights) := by
  rcases stopped.value with ⟨nothing, ended⟩ | ⟨name, request, made, created, triedNot, warns⟩
  · rw [List.nil_append] at nothing
    rw [nothing, ended]
    refine .nothing rfl ?_
    simp [Transition.failed, Transition.hasError, Diagnostics.hasError, stopped.isError]
  · rw [List.nil_append] at made
    rw [made]
    refine .created created (by simp) triedNot ?_
    rw [Transition.hasError, warns]
    rfl

theorem answer_of_mem_successes {exchange : Exchange} (member : exchange ∈ successes flights) :
    ∃ call answer, exchange = ⟨call, some (.ok answer)⟩ ∧
      (⟨call, some (.ok answer)⟩ : Exchange) ∈ flights.map Flight.toExchange := by
  obtain ⟨there, succeeds⟩ := List.mem_filter.mp member
  obtain ⟨call, answer?⟩ := exchange
  cases answer? with
  | none => simp [Exchange.succeeds] at succeeds
  | some result =>
      cases result with
      | error failure => simp [Exchange.succeeds] at succeeds
      | ok answer => exact ⟨call, answer, rfl, there⟩

/-- However a creation concludes, it accounts for what it has made. -/
theorem accounts_of_concludes
    (concludes : Concludes (creation kind) [] context program now free flights outcome) :
    ∃ tried, Accounts kind outcome.value tried (successes flights) ∧
      requests outcome.log <+: (successes flights).map Exchange.call ++ tried.toList := by
  cases concludes with
  | ended value requested same early =>
      refine ⟨none, ?_, ?_⟩
      · rcases value with ⟨nothing, state, hasError, _⟩ |
          ⟨exchange, others, made, created, othersNot, silent⟩
        · rw [List.nil_append] at nothing
          rw [nothing]
          exact .nothing state hasError
        · rw [List.nil_append] at made
          rw [made]
          refine .created created othersNot (by simp) ?_
          rw [Transition.hasError, silent]
          rfl
      · exact ⟨[], by rw [requested, Option.toList_none]⟩
  | failed stopped cause same early =>
      exact ⟨_, accounts_of_stopped stopped, stopped.requested⟩
  | interrupted stopped cause stops unfinished late instant =>
      exact ⟨_, accounts_of_stopped stopped, stopped.requested⟩

/-- The codes of waits that take too long and of interruptions. -/
def localCodes : List String := ["MODULE_HEALTH_TIMEOUT", "CANCELLED", "DEADLINE_EXCEEDED"]

/-- A failure whose code is none of the local ones is the remote side's own. -/
theorem answered_of_cause {failure : Diagnostic} {code : String}
    (cause : Setback flights failure ∨ IsInterruption failure) (isCode : failure.code = code)
    (foreign : code ∉ localCodes) :
    ∃ call cause, ⟨call, some (.error cause)⟩ ∈ flights.map Flight.toExchange ∧
      cause.diagnose.code = code := by
  subst isCode
  rcases cause with setback | interruption
  · cases setback with
    | overdue module elapsed allowed => exact absurd (List.mem_cons_self ..) foreign
    | failed answered => exact ⟨_, _, answered, rfl⟩
  · obtain ⟨reason, message, rfl⟩ := interruption
    apply absurd _ foreign
    cases reason with
    | cancelled => exact .tail _ (.head _)
    | deadlineExceeded => exact .tail _ (.tail _ (.head _))

theorem code_of_stopped {tried : Option Call} {failure diagnostic : Diagnostic}
    (stopped : Stopped (creation kind) [] flights outcome tried failure)
    (member : diagnostic ∈ outcome.value.diagnostics) : diagnostic.code = failure.code := by
  rcases stopped.value with ⟨_, ended⟩ | ⟨_, _, _, _, _, warns⟩
  · rw [ended] at member
    rw [List.mem_singleton.mp member]
  · rw [warns] at member
    rw [List.mem_singleton.mp member]
    rfl

theorem code_of_concludes
    (concludes : Concludes (creation kind) [] context program now free flights outcome)
    {diagnostic : Diagnostic} (member : diagnostic ∈ outcome.value.diagnostics)
    (foreign : diagnostic.code = "STATE_ENCODING") :
    ∃ call cause, ⟨call, some (.error cause)⟩ ∈ flights.map Flight.toExchange ∧
      cause.diagnose.code = "STATE_ENCODING" := by
  cases concludes with
  | ended value requested same early =>
      rcases value with ⟨_, _, _, ofInput⟩ | ⟨_, _, _, _, _, silent⟩
      · obtain ⟨subject, message, rfl⟩ := ofInput diagnostic member
        exact absurd (show "INVALID_CONFIGURATION" = "STATE_ENCODING" from foreign) (by decide)
      · rw [silent] at member
        cases member
  | failed stopped cause same early =>
      rw [code_of_stopped stopped member] at foreign
      exact answered_of_cause (.inl cause) foreign (by decide)
  | interrupted stopped cause stops unfinished late instant =>
      rw [code_of_stopped stopped member] at foreign
      exact answered_of_cause (.inr cause) foreign (by decide)

/-- Creating calls are requests. -/
theorem filter_creates_eq (kind : Kind) (log : List Entry) :
    (requests log).filter kind.creates = (log.map Entry.call).filter kind.creates := by
  rw [requests, List.filter_filter]
  apply List.filter_congr
  intro call _
  cases creates : kind.creates call with
  | false => rfl
  | true => simp [Kind.isListing_of_creates creates]

/-- What is accounted for is created by one call at most. -/
theorem Accounts.creates_once {transition : Transition Json} {tried : Option Call}
    {made : List Exchange} (accounts : Accounts kind transition tried made) :
    ((made.map Exchange.call ++ tried.toList).filter kind.creates).length ≤ 1 := by
  cases accounts with
  | nothing state hasError =>
      refine Nat.le_trans (List.length_filter_le _ _) ?_
      cases tried <;> simp
  | @created exchange others created othersNot triedNot noError =>
      have none_else : ((others.map Exchange.call ++ tried.toList).filter kind.creates) = [] := by
        rw [List.filter_eq_nil_iff]
        intro call member
        rcases List.mem_append.mp member with isOther | isTried
        · obtain ⟨other, there, rfl⟩ := List.mem_map.mp isOther
          simp [othersNot other there]
        · simp [triedNot call (by simpa using isTried)]
      rw [List.map_cons, List.cons_append, List.filter_cons, none_else]
      split <;> simp

/-- There is a state exactly where the creating call has succeeded. -/
theorem Accounts.isSome_iff_created {transition : Transition Json} {tried : Option Call}
    {made : List Exchange} (accounts : Accounts kind transition tried made) :
    transition.state.isSome = true ↔ ∃ exchange ∈ made, kind.creates exchange.call = true := by
  cases accounts with
  | nothing state hasError => simp [state]
  | @created exchange others created othersNot triedNot noError =>
      obtain ⟨document, isState, _⟩ := created.state
      rw [isState]
      exact iff_of_true rfl ⟨exchange, List.mem_cons_self .., created.creates⟩

theorem Accounts.isSome_iff_noError {transition : Transition Json} {tried : Option Call}
    {made : List Exchange} (accounts : Accounts kind transition tried made) :
    transition.state.isSome = true ↔ transition.hasError = false := by
  cases accounts with
  | nothing state hasError => simp [state, hasError]
  | created created othersNot triedNot noError =>
      obtain ⟨document, isState, _⟩ := created.state
      simp [isState, noError]

/-- The state carries the identifier that has been given. -/
theorem Accounts.carries {transition : Transition Json} {tried : Option Call}
    {made : List Exchange} (accounts : Accounts kind transition tried made) {exchange : Exchange}
    (member : exchange ∈ made) (creates : kind.creates exchange.call = true) {id : String}
    (assigned : exchange.assigned? = some id) :
    ∃ document, transition.state = some document ∧
      document.member? "id" = some (.string id) := by
  cases accounts with
  | nothing state hasError => cases member
  | created created othersNot triedNot noError =>
      rcases List.mem_cons.mp member with rfl | later
      · obtain ⟨document, isState, carries⟩ := created.state
        exact ⟨document, isState, carries id assigned⟩
      · exact absurd (creates.symm.trans (othersNot exchange later)) (by simp)

/-- Creating calls that succeed are those with a good answer. -/
theorem creating_iff {kind : Kind} {flights : List Flight} :
    (∃ exchange ∈ successes flights, kind.creates exchange.call = true) ↔
      ∃ call answer, kind.creates call = true ∧
        (⟨call, some (.ok answer)⟩ : Exchange) ∈ flights.map Flight.toExchange := by
  constructor
  · rintro ⟨exchange, member, creates⟩
    obtain ⟨call, answer, rfl, there⟩ := answer_of_mem_successes member
    exact ⟨call, answer, creates, there⟩
  · rintro ⟨call, answer, creates, there⟩
    exact ⟨_, (mem_successes_iff (Kind.isListing_of_creates creates)).mpr there, creates⟩

end Resource

/-- **Creations account for what they create.** Whatever is desired, and whatever the remote
side answers and the context does, a creation of any kind ends with a state exactly where the
kind's creating call has been answered well, and exactly where no diagnostic is an error. That
call is made once at most. An identifier that the stack gives is the state's, whatever was
desired. Every state of the kind has a document, so that no report is ever that the state cannot
be written: a diagnostic of that code is the remote side's own. -/
theorem Kind.create_accounts {σ : Type} (kind : Kind) (desired : Json) (remote : Responder σ)
    (patience : Patience) (context : Context) (world : σ) (now : Nat) :
    let program := kind.documents.create desired
    let transition := (program.run remote patience context world now).value
    let log := (program.run remote patience context world now).log
    let exchanges := program.exchanges remote patience context world now
    (transition.state.isSome = true ↔ ∃ call answer, kind.creates call = true ∧
      (⟨call, some (.ok answer)⟩ : Exchange) ∈ exchanges) ∧
    (transition.state.isSome = true ↔ transition.hasError = false) ∧
    (log.filter fun entry => kind.creates entry.call).length ≤ 1 ∧
    (∀ exchange ∈ exchanges, kind.creates exchange.call = true →
      ∀ id, exchange.assigned? = some id →
        ∃ document, transition.state = some document ∧
          document.member? "id" = some (.string id)) ∧
    (∀ state, ∃ document, kind.resource.encode state = .ok document) ∧
    (∀ diagnostic ∈ transition.diagnostics, diagnostic.code = "STATE_ENCODING" →
      ∃ call failure, (⟨call, some (.error failure)⟩ : Exchange) ∈ exchanges ∧
        failure.diagnose.code = "STATE_ENCODING") := by
  intro program transition log exchanges
  have runs := program.runs remote patience context world now
  have concludes := runs.concludes (kind.create_takes desired)
  have isFlown : exchanges =
      (program.flights remote patience context world now).map Flight.toExchange :=
    program.exchanges_eq remote patience context world now
  obtain ⟨tried, accounts, requested⟩ := Resource.accounts_of_concludes concludes
  have once : (log.filter fun entry => kind.creates entry.call).length ≤ 1 := by
    have sublist := (requested.sublist.filter kind.creates).length_le
    rw [Resource.filter_creates_eq, List.filter_map, List.length_map] at sublist
    exact Nat.le_trans sublist accounts.creates_once
  have codes : ∀ diagnostic ∈ transition.diagnostics, diagnostic.code = "STATE_ENCODING" →
      ∃ call failure, (⟨call, some (.error failure)⟩ : Exchange) ∈ exchanges ∧
        failure.diagnose.code = "STATE_ENCODING" := by
    intro diagnostic member foreign
    rw [isFlown]
    exact Resource.code_of_concludes concludes member foreign
  have written : ∀ state, ∃ document, kind.resource.encode state = .ok document :=
    fun state => ⟨_, kind.encode_writes state⟩
  refine ⟨?_, accounts.isSome_iff_noError, once, ?_, written, codes⟩
  · rw [isFlown, ← Resource.creating_iff]
    exact accounts.isSome_iff_created
  · intro exchange member creates id assigned
    rw [isFlown] at member
    obtain ⟨call, answer, rfl⟩ := Exchange.answer_of_assigned assigned
    have succeeded := (mem_successes_iff (Kind.isListing_of_creates creates)).mpr member
    exact accounts.carries succeeded creates assigned

end Converge
