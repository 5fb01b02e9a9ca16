import Converge.Proofs.Remote.Exchange
import Converge.Proofs.Resource.Change

/-!
# Lives of resources

A resource is created and then read and updated again and again, against a remote side that
keeps a memory, in any circumstances. Where a kind compares states with what is desired,
plans changes accordingly and makes them one by one, three laws about one change carry whole
lives: the memory follows the first change of a plan, the state and the memory agree behind
it, and the comparison of that state plans exactly the other changes. An update that has
been stopped is therefore resumed by the same update.
-/

namespace Converge.Resource

open Remote

variable {M σ : Type}

/-! ## Waits -/

theorem whenReady_run_failed {remote : Responder σ} {kind : Kind} {patience : Patience}
    {context : Context} {world : σ} {now : Nat} {error : GateError}
    (failed : (Gate.await remote ⟨kind.module, patience, context, now⟩ world).value =
      .error error) (state : Option M) (next : Program (Transition M)) :
    let gate := Gate.await remote ⟨kind.module, patience, context, now⟩ world
    (whenReady kind state next).run remote patience context world now =
      ⟨⟨state, [error.diagnose]⟩, gate.world, gate.instant, gate.log⟩ := by
  simp only [whenReady, Program.run, failed, mapError_error, Outcome.behind, List.append_nil]

theorem whenReady_run_healthy {remote : Responder σ} {kind : Kind} {patience : Patience}
    {context : Context} {world : σ} {now : Nat}
    (healthy : (Gate.await remote ⟨kind.module, patience, context, now⟩ world).value = .ok ())
    (state : Option M) (next : Program (Transition M)) :
    let gate := Gate.await remote ⟨kind.module, patience, context, now⟩ world
    (whenReady kind state next).run remote patience context world now =
      (next.run remote patience context gate.world gate.instant).behind gate.log := by
  simp only [whenReady, Program.run, healthy, mapError_ok]

/-- Changes behind a wait that end without an error have all been made. -/
theorem whenReady_value_of_no_error {named : (made pending : List (Change M)) → List String}
    {final observed : M} {pending : List (Change M)} {kind : Kind}
    {body : Program (Transition M)}
    (makes : Change.Makes named final [] observed pending body) {remote : Responder σ}
    {patience : Patience} {context : Context} {world : σ} {now : Nat}
    (succeeded : ((whenReady kind (some observed) body).run remote patience context world
      now).value.hasError = false) :
    ((whenReady kind (some observed) body).run remote patience context world now).value =
      .ok final := by
  cases health : (Gate.await remote ⟨kind.module, patience, context, now⟩ world).value with
  | error error =>
      rw [whenReady_run_failed health] at succeeded
      simp [Transition.hasError, Diagnostics.hasError] at succeeded
  | ok healthy =>
      rw [whenReady_run_healthy health] at succeeded ⊢
      exact makes.value_of_no_error succeeded

/-- A program that begins with a call goes on with a failure, or else with the answer of the
remote side. -/
theorem call_leaves {remote : Responder σ} {memory : σ → Memory} (leaves : remote.Leaves memory)
    (call : Call) (next : Except Diagnostic call.Answer → Program (Transition M))
    (patience : Patience) (context : Context) (world : σ) (now : Nat) :
    let outcome := (Program.call call next).run remote patience context world now
    (∃ failure reached instant, failure.isError = true ∧ memory reached = memory world ∧
      let rest := (next (.error failure)).run remote patience context reached instant
      outcome.value = rest.value ∧ outcome.world = rest.world) ∨
    ∃ found instant, (remote.reply world call).answer = .ok found ∧
      let rest := (next (.ok found)).run remote patience context
        (remote.reply world call).after instant
      outcome.value = rest.value ∧ outcome.world = rest.world := by
  intro outcome
  let asked := perform remote context call world now
  have goesOn : outcome = ((next asked.value).run remote patience context asked.world
      asked.instant).behind asked.log := rfl
  rw [goesOn]
  cases answered : asked.value with
  | error failure =>
      obtain ⟨kept, _⟩ := perform_error_leaves leaves answered
      exact .inl ⟨failure, _, _, perform_error_isError answered, kept, rfl, rfl⟩
  | ok found =>
      obtain ⟨replied, there, _⟩ := perform_ok answered
      have after : asked.world = (remote.reply world call).after := there
      rw [after]
      exact .inr ⟨found, _, replied, rfl, rfl⟩

/-- Where the memory is kept, it is the memory that answers. -/
theorem call_keeps {remote : Responder σ} {memory : σ → Memory} (keeps : remote.Keeps memory)
    (call : Call) (notListing : call ≠ .listModules)
    (next : Except Diagnostic call.Answer → Program (Transition M)) (patience : Patience)
    (context : Context) (world : σ) (now : Nat) :
    let outcome := (Program.call call next).run remote patience context world now
    (∃ failure reached instant, failure.isError = true ∧ memory reached = memory world ∧
      let rest := (next (.error failure)).run remote patience context reached instant
      outcome.value = rest.value ∧ outcome.world = rest.world) ∨
    ∃ found reached instant, (memory world).answer call = (.ok found, memory reached) ∧
      let rest := (next (.ok found)).run remote patience context reached instant
      outcome.value = rest.value ∧ outcome.world = rest.world := by
  intro outcome
  rcases call_leaves keeps.leaves call next patience context world now with
    failed | ⟨found, instant, answered, ended⟩
  · exact .inl failed
  · exact .inr ⟨found, _, instant, keeps.succeeded world call found notListing answered, ended⟩

/-- A call behind a wait: unless the wait or the call fails, the remote side answers it with
the same memory, and the program goes on from there. -/
theorem whenReady_call_leaves {remote : Responder σ} {memory : σ → Memory}
    (leaves : remote.Leaves memory) {program : Program (Transition M)} {kind : Kind}
    {state : Option M} {call : Call}
    {next : Except Diagnostic call.Answer → Program (Transition M)}
    (asks : program = whenReady kind state (.call call next))
    (stops : ∀ failure, next (.error failure) = .done ⟨state, [failure]⟩)
    (patience : Patience) (context : Context) (world : σ) (now : Nat) :
    let outcome := program.run remote patience context world now
    (∃ failure, failure.isError = true ∧ outcome.value = ⟨state, [failure]⟩ ∧
      memory outcome.world = memory world) ∨
    ∃ found asked instant, memory asked = memory world ∧
      (remote.reply asked call).answer = .ok found ∧
      let rest := (next (.ok found)).run remote patience context
        (remote.reply asked call).after instant
      outcome.value = rest.value ∧ outcome.world = rest.world := by
  intro outcome
  subst asks
  let gate : Gate := ⟨kind.module, patience, context, now⟩
  let waited := gate.await remote world
  obtain ⟨sameMemory, _⟩ := gate.await_leaves leaves world
  cases health : waited.value with
  | error error =>
      have outcomeEqual : outcome = _ := whenReady_run_failed health state (.call call next)
      refine .inl ⟨error.diagnose, error.isError_diagnose, ?_, ?_⟩
      · rw [outcomeEqual]
      · rw [outcomeEqual]
        exact sameMemory
  | ok healthy =>
      have outcomeEqual : outcome = _ := whenReady_run_healthy health state (.call call next)
      rw [outcomeEqual]
      rcases call_leaves leaves call next patience context waited.world waited.instant with
        ⟨failure, reached, instant, isError, kept, value, there⟩ |
        ⟨found, instant, answered, ended⟩
      · rw [stops] at value there
        exact .inl ⟨failure, isError, value, (congrArg memory there).trans (kept.trans sameMemory)⟩
      · exact .inr ⟨found, waited.world, instant, sameMemory, answered, ended⟩

/-- Where the memory is kept, it is the memory that answers behind a wait. -/
theorem whenReady_call_keeps {remote : Responder σ} {memory : σ → Memory}
    (keeps : remote.Keeps memory) {program : Program (Transition M)} {kind : Kind}
    {state : Option M} {call : Call}
    {next : Except Diagnostic call.Answer → Program (Transition M)}
    (asks : program = whenReady kind state (.call call next)) (notListing : call ≠ .listModules)
    (stops : ∀ failure, next (.error failure) = .done ⟨state, [failure]⟩)
    (patience : Patience) (context : Context) (world : σ) (now : Nat) :
    let outcome := program.run remote patience context world now
    (∃ failure, failure.isError = true ∧ outcome.value = ⟨state, [failure]⟩ ∧
      memory outcome.world = memory world) ∨
    ∃ found reached instant, (memory world).answer call = (.ok found, memory reached) ∧
      let rest := (next (.ok found)).run remote patience context reached instant
      outcome.value = rest.value ∧ outcome.world = rest.world := by
  intro outcome
  rcases whenReady_call_leaves keeps.leaves asks stops patience context world now with
    failed | ⟨found, asked, instant, same, answered, ended⟩
  · exact .inl failed
  · have fromMemory := keeps.succeeded asked call found notListing answered
    rw [same] at fromMemory
    exact .inr ⟨found, _, instant, fromMemory, ended⟩

/-! ### Exchanges -/

/-- A wait exchanges listings alone, so a call behind one that fails is not answered. -/
theorem unanswered_of_failed {remote : Responder σ} {kind : Kind} {patience : Patience}
    {context : Context} {world : σ} {now : Nat} {error : GateError}
    (failed : (Gate.await remote ⟨kind.module, patience, context, now⟩ world).value =
      .error error) (state : Option M) (next : Program (Transition M)) {call : Call}
    (notListing : call ≠ .listModules) (answer? : Option (Except Failure call.Answer)) :
    ⟨call, answer?⟩ ∉ (whenReady kind state next).exchanges remote patience context world now := by
  let gate : Gate := ⟨kind.module, patience, context, now⟩
  obtain ⟨polls, polling, polled, _⟩ := gate.recorded_await remote world []
  rw [List.nil_append] at polling
  have recordedFailed : (gate.await remote.recorded (world, [])).value = .error error := by
    rw [polling]
    exact failed
  have exchanged : (whenReady kind state next).exchanges remote patience context world now =
      polls := by
    rw [Program.exchanges, whenReady_run_failed recordedFailed, polling]
    rfl
  rw [exchanged]
  exact fun member => notListing (polled _ member)

/-- Behind a wait that succeeds a last call is answered well exactly where its result is good. -/
theorem answered_of_healthy {remote : Responder σ} {kind : Kind} {patience : Patience}
    {context : Context} {world : σ} {now : Nat}
    (healthy : (Gate.await remote ⟨kind.module, patience, context, now⟩ world).value = .ok ())
    (state : Option M) {call : Call} (notListing : call ≠ .listModules)
    {next : Except Diagnostic call.Answer → Program (Transition M)}
    (ends : ∀ result, ∃ last, next result = .done last) (found : call.Answer) :
    let waited := Gate.await remote ⟨kind.module, patience, context, now⟩ world
    ⟨call, some (.ok found)⟩ ∈
        (whenReady kind state (.call call next)).exchanges remote patience context world now ↔
      (perform remote context call waited.world waited.instant).value = .ok found := by
  intro waited
  let gate : Gate := ⟨kind.module, patience, context, now⟩
  obtain ⟨polls, polling, polled, _⟩ := gate.recorded_await remote world []
  rw [List.nil_append] at polling
  have recordedHealthy : (gate.await remote.recorded (world, [])).value = .ok () := by
    rw [polling]
    exact healthy
  obtain ⟨record, performing, answers⟩ :=
    recorded_perform remote context call waited.world polls waited.instant
  obtain ⟨last, isLast⟩ := ends (perform remote context call waited.world waited.instant).value
  have exchanged : (whenReady kind state (.call call next)).exchanges remote patience context
      world now = polls ++ record := by
    rw [Program.exchanges, whenReady_run_healthy recordedHealthy, polling]
    simp only [Program.run, Outcome.recording]
    rw [performing]
    simp only [Outcome.recording]
    rw [isLast]
    rfl
  have notPolled : ⟨call, some (.ok found)⟩ ∉ polls := fun member => notListing (polled _ member)
  rw [exchanged, List.mem_append, answers found, or_iff_right notPolled]

/-- A last call behind a wait: unless the wait or the call fails there is one good answer, and
the program ends with what it makes of it. -/
theorem whenReady_call_answered {program : Program (Transition M)} {kind : Kind}
    {state : Option M} {call : Call}
    {next : Except Diagnostic call.Answer → Program (Transition M)}
    (asks : program = whenReady kind state (.call call next)) (notListing : call ≠ .listModules)
    (stops : ∀ failure, next (.error failure) = .done ⟨state, [failure]⟩)
    {final : call.Answer → Transition M} (goesOn : ∀ found, next (.ok found) = .done (final found))
    (remote : Responder σ) (patience : Patience) (context : Context) (world : σ) (now : Nat) :
    let value := (program.run remote patience context world now).value
    let exchanges := program.exchanges remote patience context world now
    (∃ failure, failure.isError = true ∧ value = ⟨state, [failure]⟩ ∧
      ∀ found, ⟨call, some (.ok found)⟩ ∉ exchanges) ∨
    ∃ found, value = final found ∧
      ∀ other, ⟨call, some (.ok other)⟩ ∈ exchanges ↔ found = other := by
  intro value exchanges
  subst asks
  let waited := Gate.await remote ⟨kind.module, patience, context, now⟩ world
  cases health : waited.value with
  | error error =>
      refine .inl ⟨error.diagnose, error.isError_diagnose, ?_, ?_⟩
      · simp only [value]
        rw [whenReady_run_failed health]
      · exact fun found => unanswered_of_failed health state _ notListing _
  | ok healthy =>
      let asked := perform remote context call waited.world waited.instant
      have ends : ∀ result, ∃ last, next result = .done last := by
        intro result
        cases result with
        | error failure => exact ⟨_, stops failure⟩
        | ok found => exact ⟨_, goesOn found⟩
      have answered : ∀ found, ⟨call, some (.ok found)⟩ ∈ exchanges ↔ asked.value = .ok found :=
        answered_of_healthy health state notListing ends
      have ended : value = ((next asked.value).run remote patience context asked.world
          asked.instant).value := by
        simp only [value]
        rw [whenReady_run_healthy health]
        rfl
      cases result : asked.value with
      | error failure =>
          rw [result, stops] at ended
          refine .inl ⟨failure, perform_error_isError result, ended, ?_⟩
          intro found member
          exact nomatch result.symm.trans ((answered found).mp member)
      | ok found =>
          rw [result, goesOn] at ended
          refine .inr ⟨found, ended, ?_⟩
          intro other
          rw [answered, result, Except.ok.injEq]

/-- A read that has been answered ends with what it makes of the answer. -/
theorem read_answered_of_asks {program : Program (Transition M)} {kind : Kind}
    {state : M} {call : Call} {next : Except Diagnostic call.Answer → Program (Transition M)}
    (asks : program = whenReady kind (some state) (.call call next))
    (notListing : call ≠ .listModules)
    (stops : ∀ failure, next (.error failure) = .done (.keeping state [failure]))
    {final : call.Answer → Transition M} (goesOn : ∀ found, next (.ok found) = .done (final found))
    {remote : Responder σ} {patience : Patience} {context : Context} {world : σ} {now : Nat}
    {found : call.Answer}
    (answered :
      ⟨call, some (.ok found)⟩ ∈ program.exchanges remote patience context world now) :
    (program.run remote patience context world now).value = final found := by
  rcases whenReady_call_answered asks notListing stops goesOn remote patience context world now with
    ⟨_, _, _, unanswered⟩ | ⟨other, ended, answers⟩
  · exact absurd answered (unanswered found)
  · rw [(answers found).mp answered] at ended
    exact ended

/-- A creation that reports no error was not refused, and the memory has answered its call. -/
theorem create_keeps {remote : Responder σ} {memory : σ → Memory} (keeps : remote.Keeps memory)
    {program : Program (Transition M)} {faults : Diagnostics} {kind : Kind} {call : Call}
    {next : Except Diagnostic call.Answer → Program (Transition M)}
    (asks : program = if faults.hasError then .done (.failed faults)
      else whenReady kind none (.call call next)) (notListing : call ≠ .listModules)
    (stops : ∀ failure, next (.error failure) = .done (.failed [failure]))
    {patience : Patience} {context : Context} {world : σ} {now : Nat}
    (succeeded : (program.run remote patience context world now).value.hasError = false) :
    let outcome := program.run remote patience context world now
    faults.hasError = false ∧
      ∃ found reached instant, (memory world).answer call = (.ok found, memory reached) ∧
        let rest := (next (.ok found)).run remote patience context reached instant
        outcome.value = rest.value ∧ outcome.world = rest.world := by
  intro outcome
  cases refused : faults.hasError with
  | true =>
      rw [asks, if_pos refused] at succeeded
      exact absurd (refused.symm.trans succeeded) (by simp)
  | false =>
      rw [refused, if_neg (by simp)] at asks
      rcases whenReady_call_keeps keeps asks notListing stops patience context world now with
        ⟨failure, isError, ended, _⟩ | answered
      · rw [ended] at succeeded
        simp [Transition.hasError, Diagnostics.hasError, isError] at succeeded
      · exact ⟨rfl, answered⟩

/-- A read of what the memory holds ends with the state, or with what that takes over. -/
theorem read_keeps {remote : Responder σ} {memory : σ → Memory} (keeps : remote.Keeps memory)
    {program : Program (Transition M)} {kind : Kind} {state : M} {call : Call}
    {next : Except Diagnostic call.Answer → Program (Transition M)}
    (asks : program = whenReady kind (some state) (.call call next))
    (notListing : call ≠ .listModules)
    (stops : ∀ failure, next (.error failure) = .done (.keeping state [failure]))
    {takeOver : call.Answer → M}
    (goesOn : ∀ found, next (.ok found) = .done (.ok (takeOver found))) {world : σ}
    {found : call.Answer} (held : (memory world).answer call = (.ok found, memory world))
    (patience : Patience) (context : Context) (now : Nat) :
    let outcome := program.run remote patience context world now
    (outcome.value.state = some state ∨ outcome.value.state = some (takeOver found)) ∧
      memory outcome.world = memory world := by
  intro outcome
  rcases whenReady_call_keeps keeps asks notListing stops patience context world now with
    ⟨failure, _, ended, kept⟩ | ⟨answer, reached, instant, answered, ended, there⟩
  · exact ⟨.inl (congrArg Transition.state ended), kept⟩
  · rw [held] at answered
    obtain ⟨same, kept⟩ := Prod.mk.inj answered
    cases same
    rw [goesOn] at ended there
    exact ⟨.inr (congrArg Transition.state ended), (congrArg memory there).trans kept.symm⟩

theorem module_mem_modules (kind : Kind) : kind.module ∈ Memory.modules := by
  cases kind <;> simp [Kind.module, Memory.modules]

/-! ## Lives -/

/-- The states of a resource and the worlds that they are left in. It is created without
error and then read and updated in turn, whatever is desired and whatever the remote side and
the context do. In between the remote side may become any other, but for its memory. -/
inductive Life (resource : Resource M) (remote : Responder σ) (memory : σ → Memory) :
    Option M → σ → Prop where
  | created (desired : M) (patience : Patience) (context : Context) (world : σ) (now : Nat)
      (succeeded :
        ((resource.create desired).run remote patience context world now).value.hasError =
          false) :
      Life resource remote memory
        ((resource.create desired).run remote patience context world now).value.state
        ((resource.create desired).run remote patience context world now).world
  | read {state : M} {world : σ} (before : Life resource remote memory (some state) world)
      (patience : Patience) (context : Context) (now : Nat) :
      Life resource remote memory
        ((resource.read state).run remote patience context world now).value.state
        ((resource.read state).run remote patience context world now).world
  | updated {observed : M} {world : σ}
      (before : Life resource remote memory (some observed) world) (desired : M)
      (patience : Patience) (context : Context) (now : Nat) :
      Life resource remote memory
        ((resource.update observed desired).run remote patience context world now).value.state
        ((resource.update observed desired).run remote patience context world now).world
  | rearranged {state : Option M} {world other : σ}
      (before : Life resource remote memory state world) (same : memory other = memory world) :
      Life resource remote memory state other

/-! ## Convergence -/

/-- How a resource converges, with the laws that make it do so. -/
structure Convergence (resource : Resource M) where
  /-- The state tells what the memory holds. -/
  Agrees : M → Memory → Prop
  /-- The changes that lead from a state to what is desired. -/
  plan : (observed desired : M) → List (Change M)
  /-- What an update ends with when no change is left. -/
  final : (observed desired : M) → M
  /-- What speaks against an update. -/
  objections : (observed desired : M) → Diagnostics
  /-- What an update that is stopped reports as not made. -/
  named : (observed desired : M) → (made pending : List (Change M)) → List String
  created : ∀ {σ : Type} {remote : Responder σ} {memory : σ → Memory}, remote.Keeps memory →
    ∀ (desired : M) (patience : Patience) (context : Context) (world : σ) (now : Nat),
      let outcome := (resource.create desired).run remote patience context world now
      outcome.value.hasError = false →
        ∃ state, outcome.value.state = some state ∧ Agrees state (memory outcome.world)
  read : ∀ {σ : Type} {remote : Responder σ} {memory : σ → Memory}, remote.Keeps memory →
    ∀ {state : M} {world : σ}, Agrees state (memory world) →
    ∀ (patience : Patience) (context : Context) (now : Nat),
      let outcome := (resource.read state).run remote patience context world now
      ∃ next, outcome.value.state = some next ∧ Agrees next (memory outcome.world)
  refused : ∀ {observed desired : M} {memory : Memory}, Agrees observed memory →
    (objections observed desired).hasError = true →
    resource.update observed desired = .done (.keeping observed (objections observed desired))
  accepted : ∀ {observed desired : M} {memory : Memory}, Agrees observed memory →
    (objections observed desired).hasError = false →
    ∃ body, resource.update observed desired = whenReady resource.kind (some observed) body ∧
      Change.Makes (named observed desired)
        (final (Change.applyAll (plan observed desired) observed) desired) []
        observed (plan observed desired) body
  follows : ∀ {observed desired : M} {memory : Memory} {change : Change M}
    {rest : List (Change M)}, Agrees observed memory → plan observed desired = change :: rest →
    (memory.execute change.command).1 = .ok () ∧
      Agrees (change.apply observed) (memory.execute change.command).2
  resumes : ∀ {observed desired : M} {change : Change M} {rest : List (Change M)},
    plan observed desired = change :: rest →
    plan (change.apply observed) desired = rest ∧
      objections (change.apply observed) desired = objections observed desired
  settles : ∀ {observed desired : M} {memory : Memory}, Agrees observed memory →
    plan observed desired = [] → Agrees (final observed desired) memory

namespace Convergence

variable {resource : Resource M} (convergence : Convergence resource)
variable {observed desired : M} {made pending : List (Change M)}

/-- Once the first changes of a plan have been made, the state and the memory agree, and the
comparison plans the other changes. -/
theorem follows_all {memory : Memory} (agrees : convergence.Agrees observed memory)
    (split : convergence.plan observed desired = made ++ pending) :
    convergence.Agrees (Change.applyAll made observed)
        (memory.executeAll (Change.commands made)) ∧
      convergence.plan (Change.applyAll made observed) desired = pending ∧
      convergence.objections (Change.applyAll made observed) desired =
        convergence.objections observed desired := by
  induction made generalizing observed memory with
  | nil => exact ⟨agrees, split, rfl⟩
  | cons change made ih =>
      obtain ⟨_, agreesAfter⟩ := convergence.follows agrees split
      obtain ⟨remaining, sameObjections⟩ := convergence.resumes split
      obtain ⟨agreesLast, remainingLast, objectionsLast⟩ := ih agreesAfter remaining
      exact ⟨agreesLast, remainingLast, objectionsLast.trans sameObjections⟩

/-- Once all changes of a plan have been made, what the update ends with agrees. -/
theorem settles_all {memory : Memory} (agrees : convergence.Agrees observed memory)
    (desired : M) :
    convergence.Agrees (convergence.final
        (Change.applyAll (convergence.plan observed desired) observed) desired)
      (memory.executeAll (Change.commands (convergence.plan observed desired))) := by
  have whole : convergence.plan observed desired = convergence.plan observed desired ++ [] :=
    (List.append_nil _).symm
  obtain ⟨agreesLast, settled, _⟩ := convergence.follows_all agrees whole
  exact convergence.settles agreesLast settled

/-- The update ends as it does when all changes of its plan have been made, and it is the one
that makes the last of them. -/
structure Completes (observed desired : M) (last : List (Change M)) (memory : σ → Memory)
    (outcome : Outcome σ (Transition M)) : Prop where
  value : outcome.value = .ok (convergence.final
    (Change.applyAll (convergence.plan observed desired) observed) desired)
  requested : requests outcome.log = Change.calls last
  agrees : convergence.Agrees (convergence.final
    (Change.applyAll (convergence.plan observed desired) observed) desired)
    (memory outcome.world)

/-- The update is stopped between its changes, and the first of those that are left may have
been tried. -/
structure Breaks (remote : Responder σ) (memory : σ → Memory) (gate : Gate) (world : σ)
    (observed desired : M) (made pending : List (Change M)) (failure : Diagnostic)
    (outcome : Outcome σ (Transition M)) : Prop where
  split : convergence.plan observed desired = made ++ pending
  stops : Stops remote gate world (Change.commands made) (Change.commands pending) failure
  value : outcome.value = .keeping (Change.applyAll made observed)
    (stopped failure (Change.labels made) (convergence.named observed desired made pending))
  hasError : outcome.value.hasError = true
  requested : requests outcome.log = Change.calls made ∨
    requests outcome.log = Change.calls (made ++ pending.take 1)
  kept : memory outcome.world = (memory world).executeAll (Change.commands made)

/-- An update against which nothing speaks makes all its changes or is stopped between
them. -/
theorem completes_or_breaks {remote : Responder σ} {memory : σ → Memory}
    (keeps : remote.Keeps memory) {world : σ} (agrees : convergence.Agrees observed (memory world))
    (accepted : (convergence.objections observed desired).hasError = false)
    (patience : Patience) (context : Context) (now : Nat) :
    let outcome := (resource.update observed desired).run remote patience context world now
    convergence.Completes observed desired (convergence.plan observed desired) memory outcome ∨
      ∃ made pending failure, convergence.Breaks remote memory
        ⟨resource.kind.module, patience, context, now⟩ world observed desired made pending
        failure outcome := by
  intro outcome
  obtain ⟨body, equal, makes⟩ := convergence.accepted agrees accepted
  let gate : Gate := ⟨resource.kind.module, patience, context, now⟩
  obtain ⟨sameMemory, onlyListings⟩ := gate.await_leaves keeps.leaves world
  have outcomeEqual : outcome =
      (whenReady resource.kind (some observed) body).run remote patience context world now := by
    simp only [outcome, equal]
  cases health : (gate.await remote world).value with
  | error error =>
      rw [whenReady_run_failed health] at outcomeEqual
      refine .inr ⟨[], convergence.plan observed desired, error.diagnose, ?_⟩
      rw [outcomeEqual]
      constructor
      · rfl
      · exact .waiting health
      · rfl
      · simp [Transition.hasError, Diagnostics.hasError]
      · exact .inl onlyListings
      · exact sameMemory
  | ok healthy =>
      rw [whenReady_run_healthy health] at outcomeEqual
      rcases makes.run remote patience context (gate.await remote world).world
          (gate.await remote world).instant with
        ⟨reached, trail, ran⟩ |
        ⟨before, change, after, reached, failure, split, trail, failed, ran⟩
      · obtain ⟨memoryReached, requested⟩ := trail.keeps keeps
        rw [sameMemory] at memoryReached
        rw [ran] at outcomeEqual
        refine .inl ?_
        rw [outcomeEqual]
        constructor
        · rfl
        · rw [requests_behind, onlyListings, requested, Change.calls_eq]
          rfl
        · have settled := convergence.settles_all agrees desired
          rw [← memoryReached] at settled
          exact settled
      · obtain ⟨memoryReached, requested⟩ := trail.keeps keeps
        obtain ⟨memoryKept, tried⟩ := perform_error_leaves keeps.leaves failed
        rw [sameMemory] at memoryReached
        rw [ran] at outcomeEqual
        refine .inr ⟨before, change :: after, failure, ?_⟩
        rw [outcomeEqual]
        constructor
        · exact split
        · exact .calling health trail failed
        · rfl
        · exact Change.hasError_stopped _ _ _ (perform_error_isError failed)
        · rw [requests_behind, requests_append, onlyListings, requested, Change.calls_eq,
            Change.calls_eq]
          rcases tried with nothing | once
          · left
            rw [nothing]
            simp
          · right
            rw [once]
            simp [Change.commands, requests, Call.isListing]
        · exact memoryKept.trans memoryReached

/-- Whatever becomes of an update, its requests are the first calls of its plan. -/
theorem requests_of_update {remote : Responder σ} {memory : σ → Memory}
    (keeps : remote.Keeps memory) {world : σ} (agrees : convergence.Agrees observed (memory world))
    (desired : M) (patience : Patience) (context : Context) (now : Nat) :
    requests ((resource.update observed desired).run remote patience context world now).log <+:
      Change.calls (convergence.plan observed desired) := by
  cases objected : (convergence.objections observed desired).hasError with
  | true =>
      rw [convergence.refused agrees objected]
      exact List.nil_prefix
  | false =>
      rcases convergence.completes_or_breaks keeps agrees objected patience context now with
        completes | ⟨made, pending, failure, breaks⟩
      · exact completes.requested ▸ List.prefix_rfl
      · rw [breaks.split]
        rcases breaks.requested with none | one
        · rw [none]
          exact (List.prefix_append made pending).map _
        · rw [one]
          exact ((List.prefix_append_right_inj made).mpr (List.take_prefix 1 pending)).map _

/-- In every life the state tells what the memory holds. -/
theorem agrees_of_life {remote : Responder σ} {memory : σ → Memory}
    (keeps : remote.Keeps memory) {state : Option M} {world : σ}
    (life : Life resource remote memory state world) :
    ∃ model, state = some model ∧ convergence.Agrees model (memory world) := by
  induction life with
  | created desired patience context world now succeeded =>
      exact convergence.created keeps desired patience context world now succeeded
  | @read state world before patience context now ih =>
      obtain ⟨model, isModel, agrees⟩ := ih
      cases isModel
      exact convergence.read keeps agrees patience context now
  | @updated observed world before desired patience context now ih =>
      obtain ⟨model, isModel, agrees⟩ := ih
      cases isModel
      cases objected : (convergence.objections observed desired).hasError with
      | true =>
          rw [convergence.refused agrees objected]
          exact ⟨observed, rfl, agrees⟩
      | false =>
          rcases convergence.completes_or_breaks keeps agrees objected patience context now with
            completes | ⟨made, pending, failure, breaks⟩
          · rw [completes.value]
            exact ⟨_, rfl, completes.agrees⟩
          · rw [breaks.value, breaks.kept]
            exact ⟨_, rfl, (convergence.follows_all agrees breaks.split).1⟩
  | @rearranged state world other before same ih =>
      rw [same]
      exact ih

/-! ## Repeated updates -/

/-- An update that reports no error has made all its changes. -/
theorem completes_of_no_error {remote : Responder σ} {memory : σ → Memory}
    (keeps : remote.Keeps memory) {world : σ} (agrees : convergence.Agrees observed (memory world))
    (accepted : (convergence.objections observed desired).hasError = false)
    {patience : Patience} {context : Context} {now : Nat}
    (noError : ((resource.update observed desired).run remote patience context world
      now).value.hasError = false) :
    convergence.Completes observed desired (convergence.plan observed desired) memory
      ((resource.update observed desired).run remote patience context world now) := by
  rcases convergence.completes_or_breaks keeps agrees accepted patience context now with
    completes | ⟨made, pending, failure, breaks⟩
  · exact completes
  · rw [breaks.hasError] at noError
    cases noError

/-- An update against which nothing speaks and that reports an error has been stopped. -/
theorem breaks_of_error {remote : Responder σ} {memory : σ → Memory}
    (keeps : remote.Keeps memory) {world : σ} (agrees : convergence.Agrees observed (memory world))
    (accepted : (convergence.objections observed desired).hasError = false)
    {patience : Patience} {context : Context} {now : Nat}
    (error : ((resource.update observed desired).run remote patience context world
      now).value.hasError = true) :
    ∃ made pending failure, convergence.Breaks remote memory
      ⟨resource.kind.module, patience, context, now⟩ world observed desired made pending failure
      ((resource.update observed desired).run remote patience context world now) := by
  rcases convergence.completes_or_breaks keeps agrees accepted patience context now with
    completes | breaks
  · rw [completes.value] at error
    cases error
  · exact breaks

/-- Nothing stops an update in the memory itself, where the module is healthy and nothing
fails. -/
theorem completes_in_memory {memory : Memory} (agrees : convergence.Agrees observed memory)
    (accepted : (convergence.objections observed desired).hasError = false)
    {patience : Patience} (patient : 0 < patience.timeout) (now : Nat) :
    convergence.Completes observed desired (convergence.plan observed desired) id
      ((resource.update observed desired).run Memory.remote patience .free memory now) := by
  rcases convergence.completes_or_breaks Memory.remote_keeps agrees accepted patience .free now
    with completes | ⟨made, pending, failure, breaks⟩
  · exact completes
  · obtain ⟨command, rest, cause, isNext, refused⟩ :=
      Memory.refuses_of_stops (module_mem_modules resource.kind) patient rfl breaks.stops
    cases pending with
    | nil => cases isNext
    | cons change pending =>
        obtain ⟨agreesThere, remaining, _⟩ := convergence.follows_all agrees breaks.split
        obtain ⟨succeeds, _⟩ := convergence.follows agreesThere remaining
        obtain ⟨rfl, _⟩ := List.cons.inj isNext
        have contradiction := succeeds.symm.trans refused
        cases contradiction

/-- What completes the update of a state in which changes of a plan have been made completes
that plan. -/
theorem Completes.resumed {memory : σ → Memory} {outcome : Outcome σ (Transition M)}
    (split : convergence.plan observed desired = made ++ pending)
    (remaining : convergence.plan (Change.applyAll made observed) desired = pending)
    (completes : convergence.Completes (Change.applyAll made observed) desired
      (convergence.plan (Change.applyAll made observed) desired) memory outcome) :
    convergence.Completes observed desired pending memory outcome := by
  have whole : Change.applyAll (convergence.plan (Change.applyAll made observed) desired)
      (Change.applyAll made observed) =
        Change.applyAll (convergence.plan observed desired) observed := by
    rw [remaining, split, Change.applyAll_append]
  constructor
  · rw [completes.value, whole]
  · rw [completes.requested, remaining]
  · rw [← whole]
    exact completes.agrees

/-- An update that has been stopped is resumed by the same update of the state that it has
left, unless that one is stopped too. In the memory itself it is not. -/
theorem Breaks.resumed {remote : Responder σ} {memory : σ → Memory}
    (keeps : remote.Keeps memory) {gate : Gate} {world : σ} {failure : Diagnostic}
    {outcome : Outcome σ (Transition M)} (agrees : convergence.Agrees observed (memory world))
    (accepted : (convergence.objections observed desired).hasError = false)
    (breaks : convergence.Breaks remote memory gate world observed desired made pending failure
      outcome) :
    (∀ (again : σ) (patience : Patience) (context : Context) (now : Nat),
      memory again = memory outcome.world →
      let rerun := (resource.update (Change.applyAll made observed) desired).run remote patience
        context again now
      rerun.value.hasError = false →
        convergence.Completes observed desired pending memory rerun) ∧
    (∀ (patience : Patience) (now : Nat), 0 < patience.timeout →
      convergence.Completes observed desired pending id
        ((resource.update (Change.applyAll made observed) desired).run Memory.remote patience
          .free (memory outcome.world) now)) := by
  obtain ⟨agreesThere, remaining, sameObjections⟩ :=
    convergence.follows_all agrees breaks.split
  rw [← breaks.kept] at agreesThere
  rw [← sameObjections] at accepted
  constructor
  · intro again patience context now same rerun noError
    rw [← same] at agreesThere
    exact Completes.resumed convergence breaks.split remaining
      (convergence.completes_of_no_error keeps agreesThere accepted noError)
  · intro patience now patient
    exact Completes.resumed convergence breaks.split remaining
      (convergence.completes_in_memory agreesThere accepted patient now)

end Convergence

end Converge.Resource
