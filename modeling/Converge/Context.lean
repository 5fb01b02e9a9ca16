import Converge.Diagnostic

/-!
# Interruption

An operation runs in a context, which may be cancelled at some instant and may have a
deadline. From the earlier of the two on the operation is interrupted, for good: the only
thing that can still change is that a passed deadline is followed by a cancellation.

Instants are whole milliseconds. At an instant at which several things come due, the
interruption comes first.
-/

namespace Converge

/-- Why an operation stops before its end. -/
inductive Interruption where
  | cancelled
  | deadlineExceeded
deriving DecidableEq, Repr

namespace Interruption

def message : Interruption → String
  | .cancelled => "operation cancelled"
  | .deadlineExceeded => "operation deadline exceeded"

def code : Interruption → String
  | .cancelled => "CANCELLED"
  | .deadlineExceeded => "DEADLINE_EXCEEDED"

def diagnose (reason : Interruption) : Diagnostic :=
  .error .cancelled reason.code reason.message

end Interruption

/-- When the caller ends an operation. -/
structure Context where
  cancelAt : Option Nat
  deadline : Option Nat
deriving DecidableEq, Repr

namespace Context

/-- The context that never interrupts. -/
def free : Context := ⟨none, none⟩

/-- Whether an instant has come. -/
def due (instant : Option Nat) (now : Nat) : Bool :=
  match instant with
  | some instant => instant ≤ now
  | none => false

/-- The interruption at an instant, if there is one: a cancellation counts before a
deadline. -/
def interruption? (context : Context) (now : Nat) : Option Interruption :=
  if due context.cancelAt now then some .cancelled
  else if due context.deadline now then some .deadlineExceeded
  else none

/-- The instant from which on the context interrupts. -/
def stop? (context : Context) : Option Nat :=
  match context.cancelAt, context.deadline with
  | some cancel, some deadline => some (min cancel deadline)
  | some cancel, none => some cancel
  | none, some deadline => some deadline
  | none, none => none

/-- The first interruption between two instants, both included, and its instant. -/
def interruptedBy (context : Context) (now limit : Nat) : Option (Nat × Interruption) :=
  match context.stop? with
  | none => none
  | some stop =>
    let instant := max now stop
    if instant ≤ limit then (context.interruption? instant).map fun reason => (instant, reason)
    else none

/-- The context, cancelled by now. -/
def cancel (context : Context) (now : Nat) : Context :=
  { context with cancelAt := some (match context.cancelAt with
      | some instant => min instant now
      | none => now) }

/-- What a piece of work ends with, and when. -/
structure Ending (α : Type) where
  result : Except Interruption α
  instant : Nat

/-- Do work of some length unless the context interrupts it. Work that takes no time is
done once it has begun. -/
def run (context : Context) (now length : Nat) : Ending Unit :=
  match context.interruption? now with
  | some reason => ⟨.error reason, now⟩
  | none =>
    if length = 0 then ⟨.ok (), now⟩
    else
      match context.interruptedBy now (now + length) with
      | some (instant, reason) => ⟨.error reason, instant⟩
      | none => ⟨.ok (), now + length⟩

end Context

end Converge
