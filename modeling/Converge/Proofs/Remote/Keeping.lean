import Converge.Proofs.Context
import Converge.Remote.Rehearsal

/-!
# Remote sides that keep a memory

A remote side may fail, delay and lose calls as it likes and still keep a memory: what it
answers is the memory's answer, and a call that fails or is abandoned has no effect. Nobody
else writes there. Against such a side a run leaves the memory in which its successful
commands have been carried out, in their order, and nothing else.
-/

namespace Converge.Remote

variable {σ α : Type}

/-- Answers are those of the memory, and calls without a good answer leave it as it is. -/
structure Responder.Keeps (remote : Responder σ) (memory : σ → Memory) : Prop where
  succeeded : ∀ (world : σ) (call : Call) (answer : call.Answer), call ≠ .listModules →
    (remote.reply world call).answer = .ok answer →
    (memory world).answer call = (.ok answer, memory (remote.reply world call).after)
  failed : ∀ (world : σ) (call : Call) (failure : Failure),
    (remote.reply world call).answer = .error failure →
    memory (remote.reply world call).after = memory world
  listed : ∀ (world : σ), memory (remote.reply world .listModules).after = memory world
  abandoned : ∀ (world : σ) (call : Call),
    memory (remote.reply world call).abandoned = memory world

/-- Listings, failing calls and abandoned ones leave the memory. -/
structure Responder.Leaves (remote : Responder σ) (memory : σ → Memory) : Prop where
  failed : ∀ (world : σ) (call : Call) (failure : Failure),
    (remote.reply world call).answer = .error failure →
    memory (remote.reply world call).after = memory world
  listed : ∀ (world : σ), memory (remote.reply world .listModules).after = memory world
  abandoned : ∀ (world : σ) (call : Call),
    memory (remote.reply world call).abandoned = memory world

theorem Responder.Keeps.leaves {remote : Responder σ} {memory : σ → Memory}
    (keeps : remote.Keeps memory) : remote.Leaves memory :=
  ⟨keeps.failed, keeps.listed, keeps.abandoned⟩

/-- Whether the call lists modules, as a wait for one does. -/
def Call.isListing : Call → Bool
  | .listModules => true
  | _ => false

/-- The calls of a log other than listings. -/
def requests (log : List Entry) : List Call :=
  (log.map Entry.call).filter fun call => !call.isListing

@[simp] theorem requests_nil : requests [] = [] := rfl

@[simp] theorem requests_append (left right : List Entry) :
    requests (left ++ right) = requests left ++ requests right := by
  simp [requests]

@[simp] theorem requests_behind (log : List Entry) (outcome : Outcome σ α) :
    requests (outcome.behind log).log = requests log ++ requests outcome.log :=
  requests_append log outcome.log

/-! ## Waits and calls -/

theorem Gate.poll_leaves {remote : Responder σ} {memory : σ → Memory}
    (leaves : remote.Leaves memory) (gate : Gate) (polls : Nat) (world : σ) (now tick : Nat) :
    memory (Gate.poll remote gate polls world now tick).world = memory world ∧
      requests (Gate.poll remote gate polls world now tick).log = [] := by
  induction polls generalizing world now tick with
  | zero => exact ⟨rfl, rfl⟩
  | succ polls ih =>
      rw [Gate.poll]
      cases gate.cut? now tick with
      | some cut => exact ⟨rfl, rfl⟩
      | none =>
          dsimp only
          cases gate.cut? tick (tick + (remote.reply world .listModules).delay) with
          | some cut => exact ⟨leaves.abandoned world _, rfl⟩
          | none =>
              cases gate.verdict (remote.reply world .listModules).answer with
              | some verdict => exact ⟨leaves.listed world, rfl⟩
              | none =>
                  obtain ⟨same, noRequests⟩ := ih (remote.reply world .listModules).after
                    (tick + (remote.reply world .listModules).delay)
                    (max (tick + gate.patience.interval)
                      (tick + (remote.reply world .listModules).delay))
                  constructor
                  · exact same.trans (leaves.listed world)
                  · rw [requests_behind, noRequests]
                    rfl

theorem Gate.await_leaves {remote : Responder σ} {memory : σ → Memory}
    (leaves : remote.Leaves memory) (gate : Gate) (world : σ) :
    memory (gate.await remote world).world = memory world ∧
      requests (gate.await remote world).log = [] :=
  gate.poll_leaves leaves gate.mostPolls world gate.start gate.start

@[simp] theorem GateError.isError_diagnose (error : GateError) :
    error.diagnose.isError = true := by
  cases error with
  | timeout module elapsed allowed => rfl
  | interrupted module elapsed reason => cases reason <;> rfl
  | remote module failure => simp only [diagnose, Failure.diagnose]; split <;> rfl

theorem perform_error_isError {remote : Responder σ} {context : Context} {call : Call}
    {world : σ} {now : Nat} {failure : Diagnostic}
    (failed : (perform remote context call world now).value = .error failure) :
    failure.isError = true := by
  have interruptionIsError : ∀ reason : Interruption, reason.diagnose.isError = true := by
    intro reason
    cases reason <;> rfl
  have failureIsError : ∀ failure : Failure, failure.diagnose.isError = true := by
    intro failure
    rw [Failure.diagnose]
    cases failure.traceparent <;> rfl
  rw [perform] at failed
  split at failed
  · cases failed
    exact interruptionIsError _
  · dsimp only at failed
    split at failed
    · cases failed
      exact interruptionIsError _
    · cases answer : (remote.reply world call).answer with
      | ok answered => simp [answer] at failed
      | error cause =>
          simp only [answer, mapError_error, Except.error.injEq] at failed
          rw [← failed]
          exact failureIsError cause

/-- A call that succeeds is logged, and the remote side has answered it. -/
theorem perform_ok {remote : Responder σ} {context : Context} {call : Call} {world : σ}
    {now : Nat} {answer : call.Answer}
    (succeeded : (perform remote context call world now).value = .ok answer) :
    (remote.reply world call).answer = .ok answer ∧
      (perform remote context call world now).world = (remote.reply world call).after ∧
      (perform remote context call world now).log = [⟨now, call⟩] := by
  rw [perform] at succeeded ⊢
  split at succeeded
  · cases succeeded
  · dsimp only at succeeded ⊢
    split at succeeded
    · cases succeeded
    · refine ⟨?_, rfl, rfl⟩
      cases replied : (remote.reply world call).answer with
      | error cause => simp [replied] at succeeded
      | ok answered =>
          simp only [replied, mapError_ok, Except.ok.injEq] at succeeded
          rw [succeeded]

/-- A call that succeeds does to the memory what the memory does itself. -/
theorem perform_ok_keeps {remote : Responder σ} {memory : σ → Memory}
    (keeps : remote.Keeps memory) {context : Context} {call : Call} {world : σ} {now : Nat}
    {answer : call.Answer} (notListing : call ≠ .listModules)
    (succeeded : (perform remote context call world now).value = .ok answer) :
    (memory world).answer call =
        (.ok answer, memory (perform remote context call world now).world) ∧
      (perform remote context call world now).log = [⟨now, call⟩] := by
  obtain ⟨answered, there, logged⟩ := perform_ok succeeded
  rw [there]
  exact ⟨keeps.succeeded world call answer notListing answered, logged⟩

/-- A call that does not succeed leaves the memory, whether or not it has begun. -/
theorem perform_error_leaves {remote : Responder σ} {memory : σ → Memory}
    (leaves : remote.Leaves memory) {context : Context} {call : Call} {world : σ} {now : Nat}
    {failure : Diagnostic}
    (failed : (perform remote context call world now).value = .error failure) :
    memory (perform remote context call world now).world = memory world ∧
      ((perform remote context call world now).log = [] ∨
        (perform remote context call world now).log = [⟨now, call⟩]) := by
  rw [perform] at failed ⊢
  split at failed
  · exact ⟨rfl, .inl rfl⟩
  · dsimp only at failed ⊢
    split at failed
    · exact ⟨leaves.abandoned world call, .inr rfl⟩
    · refine ⟨?_, .inr rfl⟩
      cases replied : (remote.reply world call).answer with
      | ok answered => simp [replied] at failed
      | error cause => exact leaves.failed world call cause replied

/-! ## Commands in turn -/

/-- What a memory is once commands have been carried out in turn. -/
def Memory.executeAll (memory : Memory) (commands : List Command) : Memory :=
  commands.foldl (fun memory command => (memory.execute command).2) memory

/-- Commands that succeed one after the other, and what they lead to. -/
inductive Trail (remote : Responder σ) (context : Context) :
    (world : σ) → (now : Nat) → List Command → Outcome σ Unit → Prop where
  | nil (world : σ) (now : Nat) : Trail remote context world now [] ⟨(), world, now, []⟩
  | cons {world : σ} {now : Nat} {command : Command} {commands : List Command}
      {reached : Outcome σ Unit}
      (succeeded : (perform remote context (.command command) world now).value = .ok ())
      (rest : Trail remote context (perform remote context (.command command) world now).world
        (perform remote context (.command command) world now).instant commands reached) :
      Trail remote context world now (command :: commands)
        (reached.behind (perform remote context (.command command) world now).log)

theorem Trail.keeps {remote : Responder σ} {memory : σ → Memory}
    (keeps : remote.Keeps memory) {context : Context} {world : σ} {now : Nat}
    {commands : List Command} {reached : Outcome σ Unit}
    (trail : Trail remote context world now commands reached) :
    memory reached.world = (memory world).executeAll commands ∧
      requests reached.log = commands.map Call.command := by
  induction trail with
  | nil world now => exact ⟨rfl, rfl⟩
  | @cons world now command commands reached succeeded rest ih =>
      obtain ⟨carriedOut, logged⟩ := perform_ok_keeps keeps (by simp) succeeded
      obtain ⟨memoryReached, logReached⟩ := ih
      constructor
      · have after : memory (perform remote context (.command command) world now).world =
            ((memory world).execute command).2 :=
          (congrArg Prod.snd carriedOut).symm
        rw [after] at memoryReached
        exact memoryReached
      · rw [requests_behind, logged, logReached]
        rfl

/-- What stops commands that wait for a module first: the wait fails, or the command that is
next does. -/
inductive Stops (remote : Responder σ) (gate : Gate) (world : σ) :
    (made pending : List Command) → (failure : Diagnostic) → Prop where
  | waiting {pending : List Command} {error : GateError}
      (failed : (gate.await remote world).value = .error error) :
      Stops remote gate world [] pending error.diagnose
  | calling {made pending : List Command} {command : Command} {reached : Outcome σ Unit}
      {failure : Diagnostic} (healthy : (gate.await remote world).value = .ok ())
      (trail : Trail remote gate.context (gate.await remote world).world
        (gate.await remote world).instant made reached)
      (failed : (perform remote gate.context (.command command) reached.world
        reached.instant).value = .error failure) :
      Stops remote gate world made (command :: pending) failure

/-! ## The memory itself -/

namespace Memory

@[simp] theorem fetch_after {β : Type} (memory : Memory) (object : String) (found : Option β) :
    (memory.fetch object found).2 = memory := by
  cases found <;> rfl

theorem modify_failed {β : Type} {memory : Memory} {object : String} {found : Option β}
    {change : β → Memory} {failure : Failure}
    (failed : (memory.modify object found change).1 = .error failure) :
    (memory.modify object found change).2 = memory := by
  cases found with
  | none => rfl
  | some value => cases failed

theorem answer_failed {memory : Memory} {call : Call} {failure : Failure}
    (failed : (memory.answer call).1 = .error failure) : (memory.answer call).2 = memory := by
  cases call with
  | command command =>
      cases command with
      | createLedger name request => cases failed
      | insertSchema ledger version schema key => cases failed
      | _ => exact modify_failed failed
  | createPool request => cases failed
  | installConnector provider config => cases failed
  | createWebhook request => cases failed
  | createPolicy request => cases failed
  | listModules => rfl
  | getWebhooks id => rfl
  | _ => exact fetch_after _ _ _

theorem remote_keeps : remote.Keeps id where
  succeeded _ _ _ _ answered := Prod.ext answered rfl
  failed _ _ _ failed := answer_failed failed
  listed _ := rfl
  abandoned _ _ := rfl

/-- Where nothing interrupts, a call in memory is answered at once. -/
theorem perform_remote (memory : Memory) (call : Call) (now : Nat) :
    perform remote .free call memory now =
      ⟨(memory.answer call).1.mapError Failure.diagnose, (memory.answer call).2, now,
        [⟨now, call⟩]⟩ := rfl

/-- A module of the memory is found healthy at once, if there is any time for it. -/
theorem await_remote (memory : Memory) {gate : Gate} (known : gate.module ∈ modules)
    (patient : 0 < gate.patience.timeout) (free : gate.context = .free) :
    gate.await remote memory = ⟨.ok (), memory, gate.start, [⟨gate.start, .listModules⟩]⟩ := by
  have notCut : gate.cut? gate.start gate.start = none := by
    have early : ¬ gate.deadline ≤ gate.start := by
      rw [Gate.deadline]
      omega
    rw [Gate.cut?, Context.interruptedBy_of_no_stop (by rw [free]; rfl)]
    simp [early]
  have healthy : (healthyListing modules).isHealthy gate.module = true := by
    simp only [modules, List.mem_cons, List.not_mem_nil, or_false] at known
    rcases known with equal | equal | equal | equal <;> rw [equal] <;> rfl
  have verdict : gate.verdict (remote.reply memory .listModules).answer = some (.ok ()) := by
    change gate.verdict (.ok (healthyListing modules)) = _
    rw [Gate.verdict, if_pos healthy]
  have atOnce : (remote.reply memory .listModules).delay = 0 := rfl
  rw [Gate.await, Gate.mostPolls, Gate.poll, notCut]
  simp only [atOnce, Nat.add_zero, notCut, verdict]
  rfl

/-- Where there is time and nothing interrupts, only a command that the memory refuses stops
commands. -/
theorem refuses_of_stops {memory : Memory} {gate : Gate} (known : gate.module ∈ modules)
    (patient : 0 < gate.patience.timeout) (free : gate.context = .free)
    {made pending : List Command} {failure : Diagnostic}
    (stops : Stops remote gate memory made pending failure) :
    ∃ command rest cause, pending = command :: rest ∧
      ((memory.executeAll made).execute command).1 = .error cause := by
  have healthy := memory.await_remote known patient free
  cases stops with
  | waiting failed =>
      rw [healthy] at failed
      cases failed
  | @calling made rest command reached failure _ trail failed =>
      rw [healthy] at trail
      rw [free] at trail failed
      obtain ⟨reachedMemory, _⟩ := trail.keeps remote_keeps
      rw [perform_remote] at failed
      have executed : (reached.world.execute command).1.mapError Failure.diagnose =
          .error failure := failed
      cases answer : (reached.world.execute command).1 with
      | ok done =>
          rw [answer] at executed
          cases executed
      | error cause =>
          refine ⟨command, rest, cause, rfl, ?_⟩
          rw [← answer]
          exact congrArg (fun memory => (memory.execute command).1) reachedMemory.symm

end Memory

/-! ## What is shown of connectors -/

/-- A remote side that keeps a memory, but for what it shows of connectors. -/
structure Responder.Shows (remote : Responder σ) (memory : σ → Memory) : Prop
    extends remote.Leaves memory where
  succeeded : ∀ (world : σ) (call : Call) (answer : call.Answer), call ≠ .listModules →
    (∀ id, call ≠ .getConnector id) → (remote.reply world call).answer = .ok answer →
    (memory world).answer call = (.ok answer, memory (remote.reply world call).after)
  shown : ∀ (world : σ) (id : String) (shown : Dictionary Value),
    (remote.reply world (.getConnector id)).answer = .ok shown →
    memory (remote.reply world (.getConnector id)).after = memory world

/-- The remote side with a veil on what it shows of connectors. -/
def Responder.veiled (remote : Responder σ) (veil : Dictionary Value → Dictionary Value) :
    Responder σ where
  reply world call :=
    match call with
    | .getConnector id =>
      let reply := remote.reply world (.getConnector id)
      ⟨reply.delay, reply.answer.map veil, reply.after, reply.abandoned⟩
    | call => remote.reply world call

/-- A veil changes what is shown alone. -/
theorem Responder.Keeps.veiled {remote : Responder σ} {memory : σ → Memory}
    (keeps : remote.Keeps memory) (veil : Dictionary Value → Dictionary Value) :
    (remote.veiled veil).Shows memory where
  failed world call failure failed := by
    cases call with
    | getConnector id =>
        apply keeps.failed world (.getConnector id) failure
        change (remote.reply world (.getConnector id)).answer.map veil = _ at failed
        cases answered : (remote.reply world (.getConnector id)).answer with
        | error cause =>
            rw [answered] at failed
            exact congrArg Except.error (Except.error.inj failed)
        | ok found =>
            rw [answered] at failed
            cases failed
    | _ => exact keeps.failed world _ failure failed
  listed := keeps.listed
  abandoned world call := by
    cases call <;> exact keeps.abandoned world _
  succeeded world call answer notListing notRead answered := by
    cases call with
    | getConnector id => exact absurd rfl (notRead id)
    | _ => exact keeps.succeeded world _ answer notListing answered
  shown world id shown answered := by
    change (remote.reply world (.getConnector id)).answer.map veil = _ at answered
    cases replied : (remote.reply world (.getConnector id)).answer with
    | error cause =>
        rw [replied] at answered
        cases answered
    | ok found =>
        have fromMemory := keeps.succeeded world (.getConnector id) found (by simp) replied
        have fetched : ((memory world).answer (.getConnector id)).2 = memory world :=
          Memory.fetch_after _ _ _
        rw [fromMemory] at fetched
        exact fetched

/-! ## Rehearsed failures -/

namespace Rehearsal

/-- The stack without what is arranged for the answers of its stores. -/
def plain (stack : Rehearsal) : Rehearsal :=
  { stack with overrides := ∅, hidden := [], added := ∅ }

/-- A rehearsed stack of which listings, failures and delays are arranged, and no answers of
the stores. -/
def faithful : Responder Rehearsal where
  reply stack call := remote.reply stack.plain call

theorem plain_visible (stack : Rehearsal) (config : Dictionary Value) :
    stack.plain.visible config = config := by
  apply Dictionary.ext
  rw [visible]
  exact List.filter_eq_self.mpr fun _ _ => rfl

theorem list_memory (stack : Rehearsal) : stack.list.2.memory = stack.memory := by
  rw [list]
  split <;> rfl

/-- Where no answer is arranged the stores answer. -/
theorem plain_perform (stack : Rehearsal) {call : Call} (notListing : call ≠ .listModules) :
    ((stack.plain.perform call).1, (stack.plain.perform call).2.memory) =
      stack.memory.answer call := by
  cases call with
  | listModules => exact (notListing rfl).elim
  | getConnector id =>
      have unchanged : stack.plain.visible = fun config => config := by
        funext config
        exact stack.plain_visible config
      change ((stack.memory.answer (.getConnector id)).1.map stack.plain.visible, _) = _
      rw [unchanged]
      cases found : (stack.memory.answer (.getConnector id)).1 <;>
        exact Prod.ext found.symm rfl
  | _ => rfl

theorem plain_answer (stack : Rehearsal) (call : Call) :
    stack.plain.answer call =
      match arranged? call stack.failures with
      | some failure => (.error failure, stack.plain)
      | none => stack.plain.perform call := by
  rfl

theorem faithful_keeps : faithful.Keeps Rehearsal.memory where
  succeeded stack call answer notListing answered := by
    change (stack.plain.answer call).1 = .ok answer at answered
    change _ = (_, (stack.plain.answer call).2.memory)
    rw [plain_answer] at answered ⊢
    cases arranged : arranged? call stack.failures with
    | some failure =>
        rw [arranged] at answered
        cases answered
    | none =>
        simp only [arranged] at answered ⊢
        rw [← answered]
        exact (stack.plain_perform notListing).symm
  failed stack call failure failed := by
    change (stack.plain.answer call).1 = .error failure at failed
    change (stack.plain.answer call).2.memory = _
    rw [plain_answer] at failed ⊢
    cases arranged : arranged? call stack.failures with
    | some failure => rfl
    | none =>
        simp only [arranged] at failed ⊢
        by_cases listing : call = .listModules
        · subst listing
          exact list_memory stack.plain
        · have performed := stack.plain_perform listing
          rw [failed] at performed
          have unchanged : (stack.memory.answer call).2 = stack.memory :=
            Memory.answer_failed (congrArg Prod.fst performed).symm
          exact (congrArg Prod.snd performed).trans unchanged
  listed stack := by
    change (stack.plain.answer .listModules).2.memory = _
    rw [plain_answer]
    cases arranged? .listModules stack.failures with
    | some failure => rfl
    | none => exact list_memory stack.plain
  abandoned _ _ := rfl

end Rehearsal

end Converge.Remote
