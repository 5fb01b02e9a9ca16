import Converge.Proofs.Resource.Interruption
import Converge.Proofs.Resource.Roundtrip

/-!
# Identities stay

An object is created once, and what it is created as, or the identifier that the stack then
gives it, is its identity. Every later state carries it, whatever identifiers, names and
versions are desired, and every later call addresses it. A read takes over what the stack
reports, so the stack has to answer with the object that it was asked for.
-/

namespace Converge

open Remote Program

/-- What tells an object from the others of its kind. -/
inductive Identity where
  | ledger (name : String)
  | schema (ledger version : String)
  | pool (id : String)
  | connector (id : String)
  | webhook (id : String)
  | policy (id : String)
deriving DecidableEq, Repr

/-! ## Identities of calls -/

namespace Remote

/-- The object that a command is about. -/
def Command.target : Command → Identity
  | .createLedger name _ => .ledger name
  | .setLedgerMetadata name _ => .ledger name
  | .deleteLedgerMetadata name _ => .ledger name
  | .insertSchema ledger version _ _ => .schema ledger version
  | .deletePool id => .pool id
  | .addAccount pool _ => .pool pool
  | .removeAccount pool _ => .pool pool
  | .setPoolQuery pool _ => .pool pool
  | .updateConnector id _ => .connector id
  | .uninstallConnector id => .connector id
  | .updateWebhook id _ => .webhook id
  | .deleteWebhook id => .webhook id
  | .deletePolicy id => .policy id

/-- The object that a call is about. There is none yet where the stack gives the identifier with
its answer. -/
def Call.target? : Call → Option Identity
  | .command order => some order.target
  | .getLedger name => some (.ledger name)
  | .getSchema ledger version => some (.schema ledger version)
  | .getPool id => some (.pool id)
  | .getConnector id => some (.connector id)
  | .getWebhooks id => some (.webhook id)
  | .getPolicy id => some (.policy id)
  | _ => none

/-- The object that has been created with a good answer. -/
def Exchange.created? : Exchange → Option Identity
  | ⟨.command (.createLedger name _), some (.ok ())⟩ => some (.ledger name)
  | ⟨.command (.insertSchema ledger version _ _), some (.ok ())⟩ => some (.schema ledger version)
  | ⟨.createPool _, some (.ok id)⟩ => some (.pool id)
  | ⟨.installConnector _ _, some (.ok id)⟩ => some (.connector id)
  | ⟨.createWebhook _, some (.ok info)⟩ => some (.webhook info.id)
  | ⟨.createPolicy _, some (.ok info)⟩ => some (.policy info.id)
  | _ => none

/-- An object that is read is the one that was asked for. The configuration of a connector does
not say whose it is, and of the webhooks in a listing the one with the identifier is looked for. -/
def Exchange.Echoes : Exchange → Prop
  | ⟨.getLedger name, some (.ok info)⟩ => info.name = name
  | ⟨.getSchema _ version, some (.ok info)⟩ => info.version = version
  | ⟨.getPool id, some (.ok info)⟩ => info.id = id
  | ⟨.getPolicy id, some (.ok info)⟩ => info.id = id
  | _ => True

end Remote

/-! ## Identities of states -/

def Json.string? : Json → Option String
  | .string text => some text
  | _ => none

@[simp] theorem Json.map_string_bind_string? (text : Option String) :
    (text.map Json.string).bind Json.string? = text := by
  cases text <;> rfl

/-- The text under a key. -/
def Json.text? (key : String) (document : Json) : Option String :=
  (document.member? key).bind Json.string?

theorem Json.text?_ofEntries (key : String) (entries : List (String × Json)) :
    (Json.ofEntries entries).text? key =
      (Entries.find? key (Entries.ofList entries)).bind Json.string? := rfl

/-- The object that a state is about, by its document. -/
def Kind.identify : Kind → Json → Option Identity
  | .ledger, document => (document.text? "name").map .ledger
  | .ledgerSchema, document =>
    (document.text? "ledger").bind fun ledger => (document.text? "version").map (.schema ledger)
  | .paymentsPool, document => (document.text? "id").map .pool
  | .paymentsConnector, document => (document.text? "id").map .connector
  | .webhooks, document => (document.text? "id").map .webhook
  | .reconciliationPolicy, document => (document.text? "id").map .policy

namespace Resource

variable {M : Type}

/-! ## Programs that stay with an object -/

/-- The transition ends with a state about the object, and what it has asked is about it. -/
structure Stays (about : M → Identity → Prop) (identity : Identity) (made : List Exchange)
    (tried : Option Call) (transition : Transition M) : Prop where
  state : ∃ state, transition.state = some state ∧ about state identity
  made : ∀ exchange ∈ made, exchange.call.target? = some identity
  tried : ∀ call, tried = some call → call.target? = some identity

/-- The transition stays with the object if what is read echoes what was asked for. -/
def StaysIf (about : M → Identity → Prop) (identity : Identity) (made : List Exchange)
    (tried : Option Call) (transition : Transition M) : Prop :=
  (∀ exchange ∈ made, exchange.Echoes) → Stays about identity made tried transition

section Stays

variable {about : M → Identity → Prop} {identity : Identity} {state : M}

theorem stays_keeping (isAbout : about state identity) (diagnostics : Diagnostics) :
    StaysIf about identity [] none (.keeping state diagnostics) :=
  fun _ => ⟨⟨state, rfl, isAbout⟩, by simp, by simp⟩

/-- A last call behind a wait. -/
theorem stays_asks {kind : Kind} {call : Call}
    {next : Except Diagnostic call.Answer → Program (Transition M)}
    (isAbout : about state identity) (notListing : call.isListing = false)
    (target : call.target? = some identity)
    (stops : ∀ failure, next (.error failure) = .done (.keeping state [failure]))
    (goesOn : ∀ answer, ∃ transition, next (.ok answer) = .done transition ∧
      (Exchange.Echoes ⟨call, some (.ok answer)⟩ →
        ∃ reached, transition.state = some reached ∧ about reached identity)) :
    (whenReady kind (some state) (.call call next)).Takes
      (.uniform (StaysIf about identity)) [] := by
  refine ⟨fun failure => ⟨_, rfl, fun _ => stays_keeping isAbout _⟩, notListing, ?_, ?_⟩
  · intro failure
    refine ⟨_, stops failure, fun _ _ => ⟨⟨state, rfl, isAbout⟩, by simp, ?_⟩⟩
    rintro other ⟨⟩
    exact target
  · intro answer
    obtain ⟨transition, ends, stays⟩ := goesOn answer
    rw [ends]
    intro echoes
    refine ⟨stays (echoes _ (List.mem_singleton_self _)), ?_, by simp⟩
    intro exchange member
    rw [List.mem_singleton.mp member]
    exact target

/-- Changes in turn stay with the object if each change of a plan does. -/
theorem stays_makes {named : (made pending : List (Change M)) → List String} {final : M}
    {made pending : List (Change M)} {program : Program (Transition M)}
    (plan : M → List (Change M))
    (steps : ∀ {state change rest}, about state identity → plan state = change :: rest →
      change.command.target = identity ∧ about (change.apply state) identity ∧
        plan (change.apply state) = rest)
    (makes : Change.Makes named final made state pending program) (planned : plan state = pending)
    (isAbout : about state identity) (finalAbout : about final identity)
    (before : ∀ exchange ∈ carriedOut (Change.commands made),
      exchange.call.target? = some identity) :
    program.Takes (.uniform (StaysIf about identity)) (carriedOut (Change.commands made)) := by
  induction makes with
  | done made state => exact fun _ => ⟨⟨final, rfl, finalAbout⟩, before, by simp⟩
  | @call made state change rest next stops goesOn ih =>
      obtain ⟨target, applied, remaining⟩ := steps isAbout planned
      have targeted : (Call.command change.command).target? = some identity := by
        rw [Call.target?, target]
      refine ⟨rfl, fun failure => ⟨_, stops failure, fun _ _ => ?_⟩, fun answer => ?_⟩
      · refine ⟨⟨state, rfl, isAbout⟩, before, ?_⟩
        rintro call ⟨⟩
        exact targeted
      · rw [← carriedOut_snoc]
        apply ih remaining applied
        rw [carriedOut_snoc]
        intro exchange member
        rcases List.mem_append.mp member with earlier | last
        · exact before exchange earlier
        · rw [List.mem_singleton.mp last]
          exact targeted

end Stays

/-- A deletion asks for nothing but the object's. -/
def Removes (identity : Identity) (made : List Exchange) (tried : Option Call)
    (_ : Diagnostics) : Prop :=
  (∀ exchange ∈ made, exchange.call.target? = some identity) ∧
    ∀ call, tried = some call → call.target? = some identity

theorem removes_done (identity : Identity) (diagnostics : Diagnostics) :
    (Program.done diagnostics).Takes (.uniform (Removes identity)) [] :=
  ⟨by simp, by simp⟩

theorem deleteBy_removes (kind : Kind) (command : Command) :
    (deleteBy kind command).Takes (.uniform (Removes command.target)) [] := by
  refine ⟨fun failure => ⟨_, rfl, fun _ => removes_done _ [failure]⟩, rfl,
    fun failure => ⟨_, rfl, fun _ => ⟨by simp, ?_⟩⟩, fun answer => ⟨?_, by simp⟩⟩
  · rintro call ⟨⟩
    rfl
  · intro exchange member
    rw [List.mem_singleton.mp member]
    rfl

/-- A creation without an error begins with the call that has created the object, and then stays
with the object. -/
def BeginsIf (about : M → Identity → Prop) (made : List Exchange) (tried : Option Call)
    (transition : Transition M) : Prop :=
  transition.hasError = false → (∀ exchange ∈ made, exchange.Echoes) →
    ∃ identity creating others, made = creating :: others ∧ creating.created? = some identity ∧
      Stays about identity others tried transition

section Begins

variable {about : M → Identity → Prop}

theorem begins_failed {faults : Diagnostics} (hasError : faults.hasError = true)
    (made : List Exchange) (tried : Option Call) :
    BeginsIf about made tried (.failed faults) := by
  intro succeeded
  exact absurd (hasError.symm.trans succeeded) (by simp)

theorem begins_stopped {failure : Diagnostic} (isError : failure.isError = true)
    (made : List Exchange) (tried : Option Call) :
    BeginsIf about made tried (.failed [failure]) :=
  begins_failed (hasError_of_failure isError (none : Option M)) made tried

/-- A creation may be refused beforehand. -/
theorem begins_unless {faults : Diagnostics} {program : Program (Transition M)}
    (takes : program.Takes (.uniform (BeginsIf about)) []) :
    (if faults.hasError then .done (.failed faults) else program).Takes
      (.uniform (BeginsIf about)) [] := by
  split
  · rename_i refused
    exact begins_failed refused _ _
  · exact takes

/-- A creating call behind the wait. -/
theorem begins_asks {kind : Kind} {call : Call}
    {next : Except Diagnostic call.Answer → Program (Transition M)}
    (notListing : call.isListing = false)
    (stops : ∀ failure, next (.error failure) = .done (.failed [failure]))
    (goesOn : ∀ answer, ∃ state identity, next (.ok answer) = .done (.ok state) ∧
      Exchange.created? ⟨call, some (.ok answer)⟩ = some identity ∧ about state identity) :
    (whenReady kind none (.call call next)).Takes (.uniform (BeginsIf about)) [] := by
  refine ⟨fun failure => ⟨_, rfl, fun isError => begins_stopped isError _ _⟩, notListing,
    fun failure => ⟨_, stops failure, fun isError => begins_stopped isError _ _⟩, ?_⟩
  intro answer
  obtain ⟨state, identity, ends, created, isAbout⟩ := goesOn answer
  rw [ends]
  intro _ _
  exact ⟨identity, _, [], rfl, created, ⟨state, rfl, isAbout⟩, by simp, by simp⟩

end Begins

/-! ## All kinds -/

/-- A state is about the object that is its identity. -/
def IsAbout (identity? : M → Option Identity) (state : M) (identity : Identity) : Prop :=
  identity? state = some identity

/-- The transitions of a kind stay with the object that they are about, and so does the document
that a state is written as. -/
structure Identifying (resource : Resource M) (toJson : M → Json)
    (identity? : M → Option Identity) : Prop where
  create : ∀ desired, (resource.create desired).Takes (.uniform (BeginsIf (IsAbout identity?))) []
  read : ∀ {state identity}, identity? state = some identity →
    (resource.read state).Takes (.uniform (StaysIf (IsAbout identity?) identity)) []
  update : ∀ {observed identity} (desired : M), identity? observed = some identity →
    (resource.update observed desired).Takes (.uniform (StaysIf (IsAbout identity?) identity)) []
  delete : ∀ {state identity}, identity? state = some identity →
    (resource.delete state).Takes (.uniform (Removes identity)) []
  writes : Encode.Writes resource.encode toJson
  returns : ∀ state, ∃ returned, resource.decode (toJson state) = .ok returned ∧
    identity? returned = identity? state
  identify : ∀ state, resource.kind.identify (toJson state) = identity? state

def Ledger.identity? (ledger : Ledger) : Option Identity := some (.ledger ledger.name)

theorem Ledger.identifying : Ledger.resource.Identifying Ledger.toJson Ledger.identity? where
  create desired := by
    refine begins_unless ⟨fun failure => ⟨_, rfl, fun isError => begins_stopped isError _ _⟩, rfl,
      fun failure => ⟨_, rfl, fun isError => begins_stopped isError _ _⟩, fun created => ?_⟩
    -- the ledger is there, and the read-back asks for it
    refine ⟨rfl, fun failure => ⟨_, rfl, fun _ _ _ => ?_⟩, fun info _ echoes => ?_⟩
    · refine ⟨.ledger desired.name, _, [], rfl, rfl, ⟨desired, rfl, rfl⟩, by simp, ?_⟩
      rintro call ⟨⟩
      rfl
    · have named : info.name = desired.name :=
        echoes ⟨.getLedger desired.name, some (.ok info)⟩ (by simp)
      refine ⟨.ledger desired.name, _, [_], rfl, rfl, ⟨_, rfl, ?_⟩, ?_, by simp⟩
      · rw [IsAbout, Ledger.identity?, Ledger.name_applyRemote named]
      · intro exchange member
        rw [List.mem_singleton.mp member]
        rfl
  read := by
    rintro state _ ⟨⟩
    refine stays_asks rfl rfl rfl (fun _ => rfl) fun info => ⟨_, rfl, fun echoes => ?_⟩
    refine ⟨_, rfl, ?_⟩
    rw [IsAbout, Ledger.identity?, Ledger.name_applyRemote echoes]
  update := by
    rintro observed _ desired ⟨⟩
    have isAbout : IsAbout Ledger.identity? observed (.ledger observed.name) := rfl
    change (Ledger.update observed desired).Takes _ []
    rcases Ledger.update_cases observed desired with ⟨_, _, refused⟩ | ⟨_, equal, makes⟩
    · rw [refused]
      exact stays_keeping isAbout _
    · rw [equal]
      refine ⟨fun failure => ⟨_, rfl, fun _ => stays_keeping isAbout _⟩, ?_⟩
      refine stays_makes (fun state => Ledger.changes state desired) ?_ makes rfl isAbout ?_
        (by simp [carriedOut, Change.commands])
      · intro state change rest isAbout planned
        obtain ⟨first, remaining⟩ := Ledger.changes_cases planned
        have named : Identity.ledger state.name = .ledger observed.name := Option.some.inj isAbout
        cases first with
        | setting metadata => exact ⟨named, isAbout, remaining⟩
        | deletion key => exact ⟨named, isAbout, remaining⟩
      · rw [IsAbout, Ledger.identity?, Ledger.name_applyAll rfl]
  delete _ := removes_done _ _
  writes := Ledger.encode_writes
  returns state := ⟨state, Ledger.decode_toJson state, rfl⟩
  identify state := by
    change (state.toJson.text? "name").map Identity.ledger = _
    rw [Ledger.toJson, Json.text?_ofEntries]
    simp [Entries.find?_ofList_append, Entries.find?_ofList_cons, Json.string?, Ledger.identity?]

def LedgerSchema.identity? (schema : LedgerSchema) : Option Identity :=
  some (.schema schema.ledger schema.version)

theorem LedgerSchema.identifying :
    LedgerSchema.resource.Identifying LedgerSchema.toJson LedgerSchema.identity? where
  create desired :=
    begins_unless (begins_asks rfl (fun _ => rfl) fun _ => ⟨desired, _, rfl, rfl, rfl⟩)
  read := by
    rintro state _ ⟨⟩
    refine stays_asks rfl rfl rfl (fun _ => rfl) fun info => ⟨_, rfl, fun echoes => ?_⟩
    have version : info.version = state.version := echoes
    refine ⟨_, rfl, ?_⟩
    rw [IsAbout, LedgerSchema.identity?, LedgerSchema.applyRemote]
    simp [version]
  update := by
    rintro observed _ desired ⟨⟩
    exact fun _ => ⟨⟨_, rfl, rfl⟩, by simp, by simp⟩
  delete _ := removes_done _ _
  writes := LedgerSchema.encode_writes
  returns state := ⟨state.recoded, LedgerSchema.decode_toJson state, rfl⟩
  identify state := by
    change ((state.toJson.text? "ledger").bind fun ledger =>
      (state.toJson.text? "version").map (Identity.schema ledger)) = _
    rw [LedgerSchema.toJson, Json.text?_ofEntries, Json.text?_ofEntries]
    simp [Entries.find?_ofList_append, Entries.find?_ofList_cons, Json.string?,
      LedgerSchema.identity?]

def PaymentsPool.identity? (pool : PaymentsPool) : Option Identity := pool.id.map .pool

theorem PaymentsPool.identifying :
    PaymentsPool.resource.Identifying PaymentsPool.toJson PaymentsPool.identity? where
  create desired :=
    begins_unless (begins_asks rfl (fun _ => rfl) fun id =>
      ⟨{ desired with id := some id }, _, rfl, rfl, rfl⟩)
  read := by
    intro state identity isAbout
    obtain ⟨id, known, rfl⟩ := Option.map_eq_some_iff.mp isAbout
    change (PaymentsPool.read state).Takes _ []
    rw [PaymentsPool.read, known]
    refine stays_asks isAbout rfl rfl (fun _ => rfl) fun info => ⟨_, rfl, fun echoes => ?_⟩
    exact ⟨_, rfl, congrArg (fun id => some (Identity.pool id)) echoes⟩
  update := by
    intro observed identity desired isAbout
    obtain ⟨id, known, rfl⟩ := Option.map_eq_some_iff.mp isAbout
    change (PaymentsPool.update observed desired).Takes _ []
    rcases PaymentsPool.update_cases observed desired with ⟨_, _, refused⟩ | ⟨_, equal, makes⟩
    · rw [refused]
      exact stays_keeping isAbout _
    · rw [equal]
      refine ⟨fun failure => ⟨_, rfl, fun _ => stays_keeping isAbout _⟩, ?_⟩
      refine stays_makes (fun state => PaymentsPool.plan state desired) ?_ makes rfl isAbout
        isAbout (by simp [carriedOut, Change.commands])
      intro state change rest isAbout planned
      obtain ⟨found, known, first, remaining⟩ := PaymentsPool.plan_cases planned
      rw [IsAbout, PaymentsPool.identity?, known] at isAbout
      cases isAbout
      cases first with
      | addition wanted => exact ⟨rfl, congrArg (Option.map Identity.pool) known, remaining⟩
      | removal unwanted => exact ⟨rfl, congrArg (Option.map Identity.pool) known, remaining⟩
      | querySetting => exact ⟨rfl, congrArg (Option.map Identity.pool) known, remaining⟩
  delete := by
    intro state identity isAbout
    obtain ⟨id, known, rfl⟩ := Option.map_eq_some_iff.mp isAbout
    change (PaymentsPool.delete state).Takes _ []
    rw [PaymentsPool.delete, known]
    exact deleteBy_removes _ (.deletePool id)
  writes := PaymentsPool.encode_writes
  returns state := ⟨state.recoded, PaymentsPool.decode_toJson state, rfl⟩
  identify state := by
    have written : state.toJson.text? "id" = state.id := by
      rw [PaymentsPool.toJson, Json.text?_ofEntries]
      simp [Entries.find?_ofList_append, Entries.find?_ofList_cons]
    exact congrArg (Option.map Identity.pool) written

def PaymentsConnector.identity? (connector : PaymentsConnector) : Option Identity :=
  connector.id.map .connector

theorem PaymentsConnector.identifying :
    PaymentsConnector.resource.Identifying PaymentsConnector.toJson
      PaymentsConnector.identity? where
  create desired := by
    refine begins_unless ?_
    cases Connector.Configuration.ofParts desired.credentials desired.config with
    | error error => exact begins_failed rfl _ _
    | ok configuration =>
        dsimp only
        cases configuration.encode with
        | error error => exact begins_failed rfl _ _
        | ok payload =>
            exact begins_asks rfl (fun _ => rfl) fun id =>
              ⟨{ desired with id := some id }, _, rfl, rfl, rfl⟩
  read := by
    intro state identity isAbout
    obtain ⟨id, known, rfl⟩ := Option.map_eq_some_iff.mp isAbout
    change (PaymentsConnector.read state).Takes _ []
    rw [PaymentsConnector.read, known]
    exact stays_asks isAbout rfl rfl (fun _ => rfl) fun flat => ⟨_, rfl, fun _ => ⟨_, rfl, isAbout⟩⟩
  update := by
    intro observed identity desired isAbout
    obtain ⟨id, known, rfl⟩ := Option.map_eq_some_iff.mp isAbout
    change (PaymentsConnector.update observed desired).Takes _ []
    rw [PaymentsConnector.update, known]
    refine Takes.unless (stays_keeping isAbout _) ?_
    cases Connector.Configuration.payload desired.credentials desired.config with
    | error error => exact stays_keeping isAbout _
    | ok payload =>
        exact stays_asks isAbout rfl rfl (fun _ => rfl) fun _ =>
          ⟨_, rfl, fun _ => ⟨_, rfl, rfl⟩⟩
  delete := by
    intro state identity isAbout
    obtain ⟨id, known, rfl⟩ := Option.map_eq_some_iff.mp isAbout
    change (PaymentsConnector.delete state).Takes _ []
    rw [PaymentsConnector.delete, known]
    exact deleteBy_removes _ (.uninstallConnector id)
  writes := PaymentsConnector.encode_writes
  returns state := ⟨state.recoded, PaymentsConnector.decode_toJson state, rfl⟩
  identify state := by
    have written : state.toJson.text? "id" = state.id := by
      rw [PaymentsConnector.toJson, Json.text?_ofEntries]
      simp [Entries.find?_ofList_append, Entries.find?_ofList_cons]
    exact congrArg (Option.map Identity.connector) written

def Webhook.identity? (webhook : Webhook) : Option Identity := webhook.id.map .webhook

theorem Webhook.identifying :
    Webhook.resource.Identifying Webhook.toJson Webhook.identity? where
  create desired :=
    begins_unless (begins_asks rfl (fun _ => rfl) fun info =>
      ⟨desired.applyRemote info, _, rfl, rfl, rfl⟩)
  read := by
    intro state identity isAbout
    obtain ⟨id, known, rfl⟩ := Option.map_eq_some_iff.mp isAbout
    change (Webhook.read state).Takes _ []
    rw [Webhook.read, known]
    refine stays_asks isAbout rfl rfl (fun _ => rfl) fun listed => ?_
    -- the listing may hold others, of which none is taken over
    cases found : listed.find? (·.id == id) with
    | none =>
        exact ⟨.keeping state [Webhook.notFound id], by simp only [found],
          fun _ => ⟨state, rfl, isAbout⟩⟩
    | some info =>
        have same : info.id = id := by simpa using List.find?_some found
        refine ⟨.ok (state.applyRemote info), by simp only [found], fun _ => ⟨_, rfl, ?_⟩⟩
        exact congrArg (fun id => some (Identity.webhook id)) same
  update := by
    intro observed identity desired isAbout
    obtain ⟨id, known, rfl⟩ := Option.map_eq_some_iff.mp isAbout
    change (Webhook.update observed desired).Takes _ []
    rw [Webhook.update]
    refine Takes.unless (stays_keeping isAbout _) ?_
    rw [known]
    refine Takes.unless (stays_keeping isAbout []) ?_
    exact stays_asks isAbout rfl rfl (fun _ => rfl) fun _ => ⟨_, rfl, fun _ => ⟨_, rfl, rfl⟩⟩
  delete := by
    intro state identity isAbout
    obtain ⟨id, known, rfl⟩ := Option.map_eq_some_iff.mp isAbout
    change (Webhook.delete state).Takes _ []
    rw [Webhook.delete, known]
    exact deleteBy_removes _ (.deleteWebhook id)
  writes := Webhook.encode_writes
  returns state := ⟨state, Webhook.decode_toJson state, rfl⟩
  identify state := by
    have written : state.toJson.text? "id" = state.id := by
      rw [Webhook.toJson, Json.text?_ofEntries]
      simp [Entries.find?_ofList_append, Entries.find?_ofList_cons]
    exact congrArg (Option.map Identity.webhook) written

def ReconciliationPolicy.identity? (policy : ReconciliationPolicy) : Option Identity :=
  policy.id.map .policy

theorem ReconciliationPolicy.identifying :
    ReconciliationPolicy.resource.Identifying ReconciliationPolicy.toJson
      ReconciliationPolicy.identity? where
  create desired :=
    begins_unless (begins_asks rfl (fun _ => rfl) fun info => ⟨_, _, rfl, rfl, rfl⟩)
  read := by
    intro state identity isAbout
    obtain ⟨id, known, rfl⟩ := Option.map_eq_some_iff.mp isAbout
    change (ReconciliationPolicy.read state).Takes _ []
    rw [ReconciliationPolicy.read, known]
    refine stays_asks isAbout rfl rfl (fun _ => rfl) fun info => ⟨_, rfl, fun echoes => ?_⟩
    exact ⟨_, rfl, congrArg (fun id => some (Identity.policy id)) echoes⟩
  update desired isAbout := stays_keeping isAbout _
  delete := by
    intro state identity isAbout
    obtain ⟨id, known, rfl⟩ := Option.map_eq_some_iff.mp isAbout
    change (ReconciliationPolicy.delete state).Takes _ []
    rw [ReconciliationPolicy.delete, known]
    exact deleteBy_removes _ (.deletePolicy id)
  writes := ReconciliationPolicy.encode_writes
  returns state := ⟨state.recoded, ReconciliationPolicy.decode_toJson state, rfl⟩
  identify state := by
    have written : state.toJson.text? "id" = state.id := by
      rw [ReconciliationPolicy.toJson, Json.text?_ofEntries]
      simp [Entries.find?_ofList_append, Entries.find?_ofList_cons]
    exact congrArg (Option.map Identity.policy) written

end Resource

end Converge
