import Converge.Proofs.Resource.Creation
import Converge.Proofs.Resource.Gated
import Converge.Proofs.Resource.Ledger
import Converge.Proofs.Resource.PaymentsPool

/-!
# Interrupted transitions

Every transition of every kind ends with the first step that fails, and with that failure in
front of its diagnostics. What stands behind it, and how severe it is, tells how far the
transition has come: the read-back of a ledger that has been created only warns, and an update
of several steps that has made some of them reports these as well. An interruption is such a
failure, at the instant at which it comes.
-/

namespace Converge

open Remote Program

namespace Resource

variable {M σ : Type}

/-! ## What transitions report when a step fails -/

/-- The failure alone: nothing has been made. -/
def reportsFailure : Course Diagnostics where
  ended _ _ := True
  stopped made _ failure diagnostics := made = [] ∧ diagnostics = [failure]

/-- The failure alone, or as a warning where a ledger has been created. -/
def reportsCreation : Course Diagnostics where
  ended _ _ := True
  stopped made _ failure diagnostics :=
    (made = [] ∧ diagnostics = [failure]) ∨
    (∃ name request, made = [⟨.command (.createLedger name request), some (.ok ())⟩]) ∧
      diagnostics = [Ledger.notReadBack failure]

/-- The failure alone, or with the changes that have been made. -/
def reportsUpdate : Course Diagnostics where
  ended _ _ := True
  stopped made _ failure diagnostics :=
    (made = [] ∧ diagnostics = [failure]) ∨
    (∃ command others, made = ⟨.command command, some (.ok ())⟩ :: others) ∧
      ∃ applied pending, diagnostics = [failure, partialUpdate applied pending]

/-- A program takes a course for its diagnostics. -/
def Reports (course : Course Diagnostics) (program : Program (Transition M)) : Prop :=
  program.Takes (course.before Transition.diagnostics) []

theorem Reports.update {program : Program (Transition M)}
    (reports : Reports reportsFailure program) : Reports reportsUpdate program := by
  refine Takes.mono (fun _ _ _ => trivial) ?_ reports
  intro made tried failure transition stopped
  exact .inl stopped

/-- Writing the state as a document leaves what is reported. -/
theorem Reports.toDocument {course : Course Diagnostics} {program : Program (Transition M)}
    (reports : Reports course program) {resource : Resource M} {toJson : M → Json}
    (writes : Encode.Writes resource.encode toJson) :
    Reports course (program.map resource.toDocument) := by
  have same : resource.toDocument = Transition.map toJson := funext (toDocument_eq writes)
  rw [same]
  apply Takes.map
  exact reports

theorem reports_done (transition : Transition M) : Reports reportsFailure (.done transition) :=
  trivial

/-- A last call behind a wait. -/
theorem reports_asks {kind : Kind} {state : Option M} {call : Call}
    {next : Except Diagnostic call.Answer → Program (Transition M)}
    (notListing : call.isListing = false)
    (stops : ∀ failure, ∃ state, next (.error failure) = .done ⟨state, [failure]⟩)
    (goesOn : ∀ answer, ∃ transition, next (.ok answer) = .done transition) :
    Reports reportsFailure (whenReady kind state (.call call next)) := by
  refine ⟨fun failure => ⟨_, rfl, rfl, rfl⟩, notListing, ?_, ?_⟩
  · intro failure
    obtain ⟨state, ends⟩ := stops failure
    exact ⟨_, ends, rfl, rfl⟩
  · intro answer
    obtain ⟨transition, ends⟩ := goesOn answer
    rw [ends]
    trivial

theorem deleteBy_takes (kind : Kind) (command : Command) :
    (deleteBy kind command).Takes reportsFailure [] := by
  refine ⟨fun failure => ⟨_, rfl, rfl, rfl⟩, rfl, fun failure => ⟨_, rfl, rfl, rfl⟩, ?_⟩
  intro answer
  trivial

theorem adoptBy_reports {read : M → Program (Transition M)} {state : M}
    (reports : Reports reportsFailure (read state)) :
    Reports reportsFailure (adoptBy read state) := by
  refine Takes.map (Takes.mono (fun _ _ _ => trivial) ?_ reports)
  intro made tried failure transition stopped
  change made = [] ∧ Transition.diagnostics (if _ then _ else _) = [failure]
  split <;> exact stopped

/-- The exchanges in which commands have been carried out. -/
def carriedOut (commands : List Command) : List Exchange :=
  commands.map fun command => ⟨.command command, some (.ok ())⟩

theorem carriedOut_snoc (made : List (Change M)) (change : Change M) :
    carriedOut (Change.commands (made ++ [change])) =
      carriedOut (Change.commands made) ++ [⟨.command change.command, some (.ok ())⟩] := by
  simp only [carriedOut, Change.commands, List.map_append, List.map_cons, List.map_nil]

/-- Changes in turn report those that have been made before one fails. -/
theorem Change.Makes.takes {named : (made pending : List (Change M)) → List String} {final : M}
    {made pending : List (Change M)} {state : M} {program : Program (Transition M)}
    (makes : Makes named final made state pending program) :
    program.Takes (reportsUpdate.before Transition.diagnostics) (carriedOut (commands made)) := by
  induction makes with
  | done made state => trivial
  | @call made state change rest next stops goesOn ih =>
      refine ⟨rfl, ?_, ?_⟩
      · intro failure
        refine ⟨_, stops failure, ?_⟩
        cases made with
        | nil => exact .inl ⟨rfl, rfl⟩
        | cons first made => exact .inr ⟨⟨_, _, rfl⟩, _, _, rfl⟩
      · intro done
        rw [← carriedOut_snoc]
        exact ih

theorem reports_makes {named : (made pending : List (Change M)) → List String}
    {final observed : M} {pending : List (Change M)} {kind : Kind} {body : Program (Transition M)}
    (makes : Change.Makes named final [] observed pending body) :
    Reports reportsUpdate (whenReady kind (some observed) body) :=
  ⟨fun _ => ⟨_, rfl, .inl ⟨rfl, rfl⟩⟩, makes.takes⟩

/-! ## All kinds -/

/-- What the transitions of a kind report, creations apart. -/
structure Reporting (resource : Resource M) : Prop where
  read : ∀ state, Reports reportsFailure (resource.read state)
  update : ∀ observed desired, Reports reportsUpdate (resource.update observed desired)
  delete : ∀ state, (resource.delete state).Takes reportsFailure []
  adopt : ∀ id, Reports reportsFailure (resource.adopt id)

theorem Ledger.read_reports (state : Ledger) : Reports reportsFailure (Ledger.read state) :=
  reports_asks rfl (fun _ => ⟨_, rfl⟩) fun _ => ⟨_, rfl⟩

theorem Ledger.reporting : Ledger.resource.Reporting where
  read := Ledger.read_reports
  update observed desired := by
    change Reports reportsUpdate (Ledger.update observed desired)
    rcases Ledger.update_cases observed desired with ⟨_, _, refused⟩ | ⟨_, equal, makes⟩
    · rw [refused]
      exact (reports_done _).update
    · rw [equal]
      exact reports_makes makes
  delete _ := trivial
  adopt id := adoptBy_reports (Ledger.read_reports ⟨id, none, ∅, ∅⟩)

theorem LedgerSchema.reporting : LedgerSchema.resource.Reporting where
  read _ := reports_asks rfl (fun _ => ⟨_, rfl⟩) fun _ => ⟨_, rfl⟩
  update _ _ := trivial
  delete _ := trivial
  adopt _ := trivial

theorem PaymentsPool.read_reports (state : PaymentsPool) :
    Reports reportsFailure (PaymentsPool.read state) := by
  rw [PaymentsPool.read]
  cases state.id with
  | none => exact reports_done _
  | some id => exact reports_asks rfl (fun _ => ⟨_, rfl⟩) fun _ => ⟨_, rfl⟩

theorem PaymentsPool.reporting : PaymentsPool.resource.Reporting where
  read := PaymentsPool.read_reports
  update observed desired := by
    change Reports reportsUpdate (PaymentsPool.update observed desired)
    rcases PaymentsPool.update_cases observed desired with ⟨_, _, refused⟩ | ⟨_, equal, makes⟩
    · rw [refused]
      exact (reports_done _).update
    · rw [equal]
      exact reports_makes makes
  delete state := by
    change (PaymentsPool.delete state).Takes reportsFailure []
    rw [PaymentsPool.delete]
    cases state.id with
    | none => trivial
    | some id => exact deleteBy_takes _ _
  adopt id := adoptBy_reports (PaymentsPool.read_reports ⟨some id, "", [], none⟩)

theorem PaymentsConnector.reporting : PaymentsConnector.resource.Reporting where
  read state := by
    change Reports reportsFailure (PaymentsConnector.read state)
    rw [PaymentsConnector.read]
    cases state.id with
    | none => exact reports_done _
    | some id => exact reports_asks rfl (fun _ => ⟨_, rfl⟩) fun _ => ⟨_, rfl⟩
  update observed desired := by
    apply Reports.update
    change Reports reportsFailure (PaymentsConnector.update observed desired)
    rw [PaymentsConnector.update]
    cases observed.id with
    | none => exact reports_done _
    | some id =>
        refine Takes.unless trivial ?_
        cases Connector.Configuration.payload desired.credentials desired.config with
        | error error => exact reports_done _
        | ok payload => exact reports_asks rfl (fun _ => ⟨_, rfl⟩) fun _ => ⟨_, rfl⟩
  delete state := by
    change (PaymentsConnector.delete state).Takes reportsFailure []
    rw [PaymentsConnector.delete]
    cases state.id with
    | none => trivial
    | some id => exact deleteBy_takes _ _
  adopt _ := trivial

theorem Webhook.read_reports (state : Webhook) : Reports reportsFailure (Webhook.read state) := by
  rw [Webhook.read]
  cases state.id with
  | none => exact reports_done _
  | some id =>
      refine reports_asks rfl (fun _ => ⟨_, rfl⟩) fun listed => ?_
      dsimp only
      split
      · exact ⟨_, rfl⟩
      · exact ⟨_, rfl⟩

theorem Webhook.reporting : Webhook.resource.Reporting where
  read := Webhook.read_reports
  update observed desired := by
    apply Reports.update
    change Reports reportsFailure (Webhook.update observed desired)
    rw [Webhook.update]
    refine Takes.unless trivial ?_
    cases observed.id with
    | none => exact reports_done _
    | some id =>
        exact Takes.unless trivial (reports_asks rfl (fun _ => ⟨_, rfl⟩) fun _ => ⟨_, rfl⟩)
  delete state := by
    change (Webhook.delete state).Takes reportsFailure []
    rw [Webhook.delete]
    cases state.id with
    | none => trivial
    | some id => exact deleteBy_takes _ _
  adopt id := adoptBy_reports (Webhook.read_reports ⟨some id, "", [], none, none⟩)

theorem ReconciliationPolicy.read_reports (state : ReconciliationPolicy) :
    Reports reportsFailure (ReconciliationPolicy.read state) := by
  rw [ReconciliationPolicy.read]
  cases state.id with
  | none => exact reports_done _
  | some id => exact reports_asks rfl (fun _ => ⟨_, rfl⟩) fun _ => ⟨_, rfl⟩

theorem ReconciliationPolicy.reporting : ReconciliationPolicy.resource.Reporting where
  read := ReconciliationPolicy.read_reports
  update _ _ := trivial
  delete state := by
    change (ReconciliationPolicy.delete state).Takes reportsFailure []
    rw [ReconciliationPolicy.delete]
    cases state.id with
    | none => trivial
    | some id => exact deleteBy_takes _ _
  adopt id :=
    adoptBy_reports (ReconciliationPolicy.read_reports ⟨some id, none, "", "", "", none⟩)

end Resource

/-- What an operation reports when a step fails. -/
def Operation.course : Operation → Course Diagnostics
  | .create _ => Resource.reportsCreation
  | .update _ _ => Resource.reportsUpdate
  | _ => Resource.reportsFailure

theorem Resource.reports_create {kind : Kind} {program : Program (Transition Json)}
    (takes : program.Takes (creation kind) []) : Reports reportsCreation program := by
  refine Takes.mono (fun _ _ _ => trivial) ?_ takes
  rintro made tried failure transition (⟨nothing, rfl⟩ | ⟨name, request, only, _, _, warns⟩)
  · exact .inl ⟨nothing, rfl⟩
  · exact .inr ⟨⟨name, request, only⟩, warns⟩

/-- Documents instead of models change nothing in what is reported. -/
theorem Resource.Reporting.program_reports {M : Type} {resource : Resource M}
    (reporting : resource.Reporting) {toJson : M → Json}
    (writes : Encode.Writes resource.encode toJson)
    (creates : ∀ desired, (resource.createDocument desired).Takes (creation resource.kind) [])
    (operation : Operation) :
    Reports operation.course (operation.program resource.documents) := by
  cases operation with
  | create desired => exact reports_create (creates desired)
  | read state =>
      change Reports reportsFailure (resource.readDocument state)
      rw [readDocument]
      split
      · exact reports_done _
      · exact (reporting.read _).toDocument writes
  | update observed desired =>
      change Reports reportsUpdate (resource.updateDocument observed desired)
      rw [updateDocument]
      split
      · exact (reports_done _).update
      · split
        · exact (reports_done _).update
        · exact (reporting.update _ _).toDocument writes
  | delete state =>
      change Reports reportsFailure ((resource.deleteDocument state).map _)
      apply Takes.map
      rw [deleteDocument]
      split
      · trivial
      · exact reporting.delete _
  | adopt id => exact (reporting.adopt id).toDocument writes

theorem Kind.program_reports (kind : Kind) (operation : Operation) :
    Resource.Reports operation.course (operation.program kind.documents) := by
  cases kind with
  | ledger =>
      exact Resource.Ledger.reporting.program_reports Resource.Ledger.encode_writes
        (Kind.create_takes .ledger) operation
  | ledgerSchema =>
      exact Resource.LedgerSchema.reporting.program_reports Resource.LedgerSchema.encode_writes
        (Kind.create_takes .ledgerSchema) operation
  | paymentsPool =>
      exact Resource.PaymentsPool.reporting.program_reports Resource.PaymentsPool.encode_writes
        (Kind.create_takes .paymentsPool) operation
  | paymentsConnector =>
      exact Resource.PaymentsConnector.reporting.program_reports
        Resource.PaymentsConnector.encode_writes (Kind.create_takes .paymentsConnector) operation
  | webhooks =>
      exact Resource.Webhook.reporting.program_reports Resource.Webhook.encode_writes
        (Kind.create_takes .webhooks) operation
  | reconciliationPolicy =>
      exact Resource.ReconciliationPolicy.reporting.program_reports
        Resource.ReconciliationPolicy.encode_writes (Kind.create_takes .reconciliationPolicy)
        operation

/-! ## Interruptions -/

/-- A creation has created a ledger, which it then reads back. -/
def Operation.HasCreatedLedger (exchanges : List Exchange) : Operation → Prop
  | .create _ =>
      ∃ name request, ⟨.command (.createLedger name request), some (.ok ())⟩ ∈ exchanges
  | _ => False

/-- An update has made one of its changes at least. -/
def Operation.HasApplied (exchanges : List Exchange) : Operation → Prop
  | .update _ _ => ∃ command, ⟨.command command, some (.ok ())⟩ ∈ exchanges
  | _ => False

/-- The report on an interruption: its severity tells whether a ledger has been created, and
another diagnostic stands behind it exactly where an update has made a change. -/
def ReportsInterruption (operation : Operation) (exchanges : List Exchange)
    (diagnostics : Diagnostics) : Prop :=
  ∃ failure others, diagnostics = failure :: others ∧ failure.category = .cancelled ∧
    (failure.severity = .warning ↔ operation.HasCreatedLedger exchanges) ∧
    (operation.HasApplied exchanges →
      ∃ applied pending, others = [Resource.partialUpdate applied pending]) ∧
    (¬ operation.HasApplied exchanges → others = [])

/-- Where nothing was answered well no command has been carried out. -/
theorem not_mem_of_successes {flights : List Flight} (nothing : successes flights = [])
    (command : Command) :
    ⟨.command command, some (.ok ())⟩ ∉ flights.map Flight.toExchange := by
  intro member
  have succeeded : ⟨.command command, some (.ok ())⟩ ∈ successes flights :=
    (mem_successes_iff rfl).mpr member
  rw [nothing] at succeeded
  cases succeeded

theorem Operation.reports_interruption {operation : Operation} {flights : List Flight}
    {tried : Option Call} {failure : Diagnostic} {diagnostics : Diagnostics}
    (reported : operation.course.stopped (successes flights) tried failure diagnostics)
    (interruption : IsInterruption failure) :
    ReportsInterruption operation (flights.map Flight.toExchange) diagnostics := by
  have isError : failure.severity ≠ .warning := by
    obtain ⟨reason, message, rfl⟩ := interruption
    exact nofun
  have category := interruption.category
  -- where nothing has been made the failure stands alone
  have alone : diagnostics = [failure] →
      ¬ operation.HasCreatedLedger (flights.map Flight.toExchange) →
      ¬ operation.HasApplied (flights.map Flight.toExchange) →
      ReportsInterruption operation (flights.map Flight.toExchange) diagnostics := by
    intro only notCreated notApplied
    exact ⟨failure, [], only, category, iff_of_false isError notCreated,
      fun applied => absurd applied notApplied, fun _ => rfl⟩
  cases operation with
  | create desired =>
      rcases reported with ⟨nothing, only⟩ | ⟨⟨name, request, made⟩, warns⟩
      · refine alone only ?_ id
        rintro ⟨name, request, member⟩
        exact not_mem_of_successes nothing _ member
      · have created : ⟨.command (.createLedger name request), some (.ok ())⟩ ∈
            flights.map Flight.toExchange := by
          rw [← mem_successes_iff rfl, made]
          exact List.mem_singleton_self _
        exact ⟨_, [], warns, category, iff_of_true rfl ⟨name, request, created⟩, nofun,
          fun _ => rfl⟩
  | update observed desired =>
      rcases reported with ⟨nothing, only⟩ | ⟨⟨command, others, made⟩, applied, pending, both⟩
      · refine alone only id ?_
        rintro ⟨command, member⟩
        exact not_mem_of_successes nothing command member
      · have carried : ⟨.command command, some (.ok ())⟩ ∈ flights.map Flight.toExchange := by
          rw [← mem_successes_iff rfl, made]
          exact List.mem_cons_self ..
        exact ⟨failure, _, both, category, iff_of_false isError id,
          fun _ => ⟨applied, pending, rfl⟩, fun notApplied => absurd ⟨command, carried⟩ notApplied⟩
  | read state => exact alone reported.2 id id
  | delete state => exact alone reported.2 id id
  | adopt id => exact alone reported.2 (fun h => h) (fun h => h)

/-- **An interruption stops the remote work.** In every transition of every kind, whatever the
documents, the answers and their delays, each call in the log, polls included, begins before the
instant at which the context interrupts, and a call that is then on its way is not answered and
is the last. A transition that is done before that instant, or that asks for nothing, ends as it
does without an interruption. Any other ends at that instant, or at once where it has passed, and
reports the interruption: as a warning only where a ledger has been created, and together with
the changes made exactly where an update has made one. -/
theorem Kind.interruption_stops {σ : Type} (kind : Kind) (operation : Operation)
    (remote : Responder σ) (patience : Patience) {context : Context} {stop : Nat}
    (stops : context.stop? = some stop) (world : σ) (now : Nat) :
    let program := operation.program kind.documents
    let outcome := program.run remote patience context world now
    let free := program.run remote patience .free world now
    let flights := program.flights remote patience context world now
    let exchanges := program.exchanges remote patience context world now
    flights.map Flight.entry = outcome.log ∧ flights.map Flight.toExchange = exchanges ∧
    (∀ flight ∈ flights, flight.begun < stop) ∧
    (∀ before flight after, flights = before ++ flight :: after → stop ≤ flight.due →
      flight.answer? = none ∧ after = []) ∧
    ((∃ value, program = .done value) ∨ free.instant < stop → outcome = free) ∧
    ((∀ value, program ≠ .done value) → stop ≤ free.instant →
      outcome.instant = max now stop ∧
        ReportsInterruption operation exchanges outcome.value.diagnostics) := by
  intro program outcome free flights exchanges
  have runs := program.runs remote patience context world now
  have reports := kind.program_reports operation
  have flown := runs.flown reports stops
  have isFlown : exchanges = flights.map Flight.toExchange :=
    program.exchanges_eq remote patience context world now
  refine ⟨runs.log, isFlown.symm, flown.begun_lt, flown.abandoned, ?_⟩
  cases runs.concludes reports with
  | ended value requested same early =>
      refine ⟨fun _ => same, ?_⟩
      intro unfinished late
      rcases early with ⟨value, isDone⟩ | early
      · exact absurd isDone (unfinished value)
      · have before : outcome.instant < stop := early stop stops
        have equal : outcome.instant = free.instant := congrArg Outcome.instant same
        omega
  | failed stopped cause same early =>
      refine ⟨fun _ => same, ?_⟩
      intro unfinished late
      have before : outcome.instant < stop := early stop stops
      have equal : outcome.instant = free.instant := congrArg Outcome.instant same
      omega
  | @interrupted tried failure other stopped cause isStop unfinished late instant =>
      obtain rfl : other = stop := Option.some.inj (isStop.symm.trans stops)
      constructor
      · rintro (⟨value, isDone⟩ | early)
        · exact absurd isDone (unfinished value)
        · exact absurd early (Nat.not_lt_of_le late)
      · intro _ _
        refine ⟨instant, ?_⟩
        rw [isFlown]
        exact Operation.reports_interruption stopped.value cause

/-- A stack that holds a pool of one account and takes 3 ms to add another. -/
def slowPool : Rehearsal :=
  { Rehearsal.empty with
    memory := { Memory.empty with
      pools := .ofList [("pool-1", ⟨"pool-1", "savings", none, ["a"], none⟩)] }
    delays := .ofList [("add_account_to_pool", 3)] }

/-- An update that adds two accounts to the pool. -/
def widening : Operation :=
  .update
    (.ofEntries [("id", .string "pool-1"), ("name", .string "savings"),
      ("accounts_ids", .array [.string "a"])])
    (.ofEntries [("name", .string "savings"),
      ("accounts_ids", .array [.string "a", .string "b", .string "c"])])

/-- Of two accounts that are to be added, one has been added when the caller cancels at 5 ms, and
the other is on its way. -/
theorem Kind.interruption_stops_slowPool :
    let program := widening.program Kind.paymentsPool.documents
    let outcome := program.run Rehearsal.remote .standard ⟨some 5, none⟩ slowPool 0
    let exchanges := program.exchanges Rehearsal.remote .standard ⟨some 5, none⟩ slowPool 0
    outcome.log.map (fun entry => (entry.instant, entry.call.label)) =
        [(0, "list_module_versions"), (0, "add_account_to_pool pool-1 b"),
          (3, "add_account_to_pool pool-1 c")] ∧
      outcome.instant = max 0 5 ∧ widening.HasApplied exchanges ∧
      ReportsInterruption widening exchanges outcome.value.diagnostics ∧
      outcome.value.diagnostics.map Diagnostic.code = ["CANCELLED", "PARTIAL_UPDATE"] := by
  have stops : (⟨some 5, none⟩ : Context).stop? = some 5 := rfl
  have unfinished : ∀ value, widening.program Kind.paymentsPool.documents ≠ .done value := nofun
  have late : 5 ≤ ((widening.program Kind.paymentsPool.documents).run Rehearsal.remote .standard
      .free slowPool 0).instant := by decide
  have interrupted := (Kind.interruption_stops .paymentsPool widening
    Rehearsal.remote .standard stops slowPool 0).2.2.2.2.2 unfinished late
  exact ⟨rfl, interrupted.1, ⟨.addAccount "pool-1" "b", .tail _ (.head _)⟩, interrupted.2, rfl⟩

end Converge
