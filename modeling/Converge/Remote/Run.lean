import Converge.Context
import Converge.Remote.Program
import Converge.Text.Duration

/-!
# Running programs against a remote side

A remote side answers each call after a delay. A run keeps the clock, ends calls that an
interruption overtakes, and logs every call with the instant at which it begins.

Waiting for a module means listing the modules again and again until the first entry with
its name is healthy. The first listing is asked for at once, the next ones an interval
after the last one began, or as soon as it is answered if that is later. A failing listing
ends the wait, as does the end of the time allowed. At one instant the interruption counts
before the end of the time allowed, and both count before a listing and its answer.
-/

namespace Converge.Remote

/-- How a remote side treats a call. -/
structure Reply (σ : Type) (call : Call) where
  delay : Nat
  answer : Except Failure call.Answer
  /-- Its state once it has answered. -/
  after : σ
  /-- Its state if the caller does not wait for the answer. -/
  abandoned : σ

/-- A remote side with states of type `σ`. -/
structure Responder (σ : Type) where
  reply : σ → (call : Call) → Reply σ call

/-- A call, and the instant at which it begins. -/
structure Entry where
  instant : Nat
  call : Call

/-- What a run leads to. -/
structure Outcome (σ α : Type) where
  value : α
  world : σ
  instant : Nat
  log : List Entry

variable {σ α : Type}

/-- Put earlier calls in front of an outcome's log. -/
def Outcome.behind (log : List Entry) (outcome : Outcome σ α) : Outcome σ α :=
  { outcome with log := log ++ outcome.log }

/-! ## Waiting for a module -/

/-- How long to wait for a module, and how often to look. -/
structure Patience where
  timeout : Nat
  interval : Nat
  interval_pos : 0 < interval
deriving DecidableEq

namespace Patience

/-- An interval is a millisecond at least. -/
def ofMilliseconds (timeout interval : Nat) : Patience :=
  ⟨timeout, max interval 1, by omega⟩

def standard : Patience := ofMilliseconds 120000 2000

end Patience

/-- Why a module cannot be used. -/
inductive GateError where
  | timeout (module : String) (elapsed allowed : Nat)
  | interrupted (module : String) (elapsed : Nat) (reason : Interruption)
  | remote (module : String) (failure : Failure)
deriving DecidableEq, Repr

namespace GateError

def message : GateError → String
  | .timeout module elapsed allowed =>
    "module '" ++ module ++ "' did not become healthy after " ++ Text.roundedDuration elapsed
      ++ " (timeout " ++ Text.duration allowed ++ ")"
  | .interrupted module elapsed cause =>
    "health check for module '" ++ module ++ "' stopped after " ++ Text.roundedDuration elapsed
      ++ ": " ++ cause.message
  | .remote module cause =>
    "health check for module '" ++ module ++ "' failed: " ++ cause.message

def diagnose (error : GateError) : Diagnostic :=
  match error with
  | .timeout .. => .error .healthTimeout "MODULE_HEALTH_TIMEOUT" error.message
  | .interrupted _ _ reason => { reason.diagnose with message := error.message }
  | .remote _ failure => failure.diagnose

end GateError

/-- One wait for one module: what is waited for, since when, and who may interrupt. -/
structure Gate where
  module : String
  patience : Patience
  context : Context
  start : Nat

namespace Gate

def deadline (gate : Gate) : Nat := gate.start + gate.patience.timeout

/-- What ends the wait between two instants, both included, and when. -/
def cut? (gate : Gate) (now limit : Nat) : Option (Nat × GateError) :=
  match gate.context.interruptedBy now (min limit gate.deadline) with
  | some (instant, reason) =>
    some (instant, .interrupted gate.module (instant - gate.start) reason)
  | none =>
    if gate.deadline ≤ limit then
      some (gate.deadline, .timeout gate.module gate.patience.timeout gate.patience.timeout)
    else none

/-- What a listing says about the module: healthy, failed, or to be listed again. -/
def verdict (gate : Gate) (listing : Except Failure Stack.Listing) :
    Option (Except GateError Unit) :=
  match listing with
  | .error failure => some (.error (.remote gate.module failure))
  | .ok listing => if listing.isHealthy gate.module then some (.ok ()) else none

/-- List the modules from the instant `tick` on, having waited since `now`, at most `polls`
times. -/
def poll (remote : Responder σ) (gate : Gate) : (polls : Nat) → (world : σ) → (now tick : Nat) →
    Outcome σ (Except GateError Unit)
  | 0, world, _, _ =>
    ⟨.error (.timeout gate.module gate.patience.timeout gate.patience.timeout), world,
      gate.deadline, []⟩
  | polls + 1, world, now, tick =>
    match gate.cut? now tick with
    | some (instant, error) => ⟨.error error, world, instant, []⟩
    | none =>
      let reply := remote.reply world .listModules
      let log : List Entry := [⟨tick, .listModules⟩]
      match gate.cut? tick (tick + reply.delay) with
      | some (instant, error) => ⟨.error error, reply.abandoned, instant, log⟩
      | none =>
        let answered := tick + reply.delay
        match gate.verdict reply.answer with
        | some verdict => ⟨verdict, reply.after, answered, log⟩
        | none =>
          (poll remote gate polls reply.after answered
            (max (tick + gate.patience.interval) answered)).behind log

/-- How many listings there can be before the time allowed is over. -/
def mostPolls (gate : Gate) : Nat := gate.patience.timeout / gate.patience.interval + 2

/-- Wait for the module. -/
def await (remote : Responder σ) (gate : Gate) (world : σ) :
    Outcome σ (Except GateError Unit) :=
  poll remote gate gate.mostPolls world gate.start gate.start

end Gate

/-! ## Runs -/

@[simp] theorem mapError_ok {ε ε' : Type} (change : ε → ε') (value : α) :
    (Except.ok value).mapError change = .ok value := rfl

@[simp] theorem mapError_error {ε ε' : Type} (change : ε → ε') (error : ε) :
    (Except.error error : Except ε α).mapError change = .error (change error) := rfl

/-- Make one call, unless the context interrupts it. -/
def perform (remote : Responder σ) (context : Context) (call : Call) (world : σ) (now : Nat) :
    Outcome σ (Except Diagnostic call.Answer) :=
  match context.interruption? now with
  | some reason => ⟨.error reason.diagnose, world, now, []⟩
  | none =>
    let reply := remote.reply world call
    let log : List Entry := [⟨now, call⟩]
    match context.run now reply.delay with
    | ⟨.error reason, instant⟩ => ⟨.error reason.diagnose, reply.abandoned, instant, log⟩
    | ⟨.ok (), instant⟩ =>
      ⟨reply.answer.mapError Failure.diagnose, reply.after, instant, log⟩

/-- Run a program from a state of the remote side and an instant on. -/
def Program.run (remote : Responder σ) (patience : Patience) (context : Context) :
    Program α → (world : σ) → (now : Nat) → Outcome σ α
  | .done value, world, now => ⟨value, world, now, []⟩
  | .await module next, world, now =>
    let gate := Gate.await remote ⟨module, patience, context, now⟩ world
    ((next (gate.value.mapError GateError.diagnose)).run remote patience context
      gate.world gate.instant).behind gate.log
  | .call request next, world, now =>
    let answer := perform remote context request world now
    ((next answer.value).run remote patience context answer.world answer.instant).behind
      answer.log

end Converge.Remote
