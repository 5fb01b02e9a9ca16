import Converge.Remote.Call

/-!
# Operations as programs

An operation on a stack is a program: it waits for modules to be healthy and makes calls,
one at a time, and goes on as each step turns out. What a step can turn out as is either
its result or a diagnostic that says why there is none, be it a failure of the stack or
an interruption by the caller. Programs do not depend on who answers their calls.
-/

namespace Converge.Remote

/-- An operation that ends with a value. -/
inductive Program (α : Type) where
  | done (value : α)
  /-- Wait until a module is healthy. -/
  | await (module : String) (next : Except Diagnostic Unit → Program α)
  | call (request : Call) (next : Except Diagnostic request.Answer → Program α)

namespace Program

variable {α β : Type}

/-- Go on with what a program ends with. -/
def bind (program : Program α) (next : α → Program β) : Program β :=
  match program with
  | .done value => next value
  | .await module following => .await module fun health => (following health).bind next
  | .call request following => .call request fun answer => (following answer).bind next

/-- Change what a program ends with. -/
def map (change : α → β) (program : Program α) : Program β :=
  program.bind fun value => .done (change value)

/-- Wait for modules in turn. The first that does not become healthy ends the waiting
with its diagnostic. -/
def awaitAll : List String → Program Diagnostics
  | [] => .done []
  | module :: modules => .await module fun
    | .error diagnostic => .done [diagnostic]
    | .ok () => awaitAll modules

end Program

end Converge.Remote
