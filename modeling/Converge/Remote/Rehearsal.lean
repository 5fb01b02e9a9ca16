import Converge.Remote.Memory

/-!
# A rehearsed stack

A stack in memory whose answers can be arranged beforehand: listings of modules in turn,
failures, answers in place of the stores' own, delays, and keys that a connector's
configuration hides or shows besides. What is arranged for a call goes by its line in the
log, or else by its name. A call first takes its delay; one that is abandoned has done
nothing.
-/

namespace Converge.Remote

open Stack

/-- A stack in memory with arranged answers. -/
structure Rehearsal where
  /-- The listings to come; the last one stays. -/
  health : List (Except Failure Listing)
  failures : Dictionary Failure
  /-- Documents of answers. -/
  overrides : Dictionary Json
  delays : Dictionary Nat
  /-- Keys that the configuration of a connector does not show. -/
  hidden : List String
  /-- Keys that it shows besides. -/
  added : Dictionary Value
  memory : Memory

namespace Rehearsal

def empty : Rehearsal := ⟨[], ∅, ∅, ∅, [], ∅, .empty⟩

/-- What is arranged for a call. -/
def arranged? {α : Type} (call : Call) (arrangements : Dictionary α) : Option α :=
  (arrangements.get? call.label).or (arrangements.get? call.name)

/-- The next listing, and the stack that has given it. -/
def list (stack : Rehearsal) : Except Failure Listing × Rehearsal :=
  match stack.health with
  | [] => (.ok (Memory.healthyListing Memory.modules), stack)
  | [last] => (last, stack)
  | next :: rest => (next, { stack with health := rest })

/-- The configuration of a connector as it is shown. -/
def visible (stack : Rehearsal) (config : Dictionary Value) : Dictionary Value :=
  (config.filterKeys fun key => !stack.hidden.contains key).extend stack.added

/-- The answer of the stores. -/
def perform (stack : Rehearsal) (call : Call) : Except Failure call.Answer × Rehearsal :=
  match call with
  | .listModules => stack.list
  | .getConnector id =>
    let (answer, memory) := stack.memory.answer (.getConnector id)
    (answer.map stack.visible, { stack with memory })
  | call =>
    let (answer, memory) := stack.memory.answer call
    (answer, { stack with memory })

/-- Answer a call. -/
def answer (stack : Rehearsal) (call : Call) : Except Failure call.Answer × Rehearsal :=
  match arranged? call stack.failures with
  | some failure => (.error failure, stack)
  | none =>
    match arranged? call stack.overrides with
    | some document =>
      ((call.decodeAnswer document).mapError fun fault =>
        ⟨.undecodable fault.message, none, none⟩, stack)
    | none => stack.perform call

def remote : Responder Rehearsal where
  reply stack call :=
    let (answer, after) := stack.answer call
    ⟨(arranged? call stack.delays).getD 0, answer, after, stack⟩

end Rehearsal

end Converge.Remote
