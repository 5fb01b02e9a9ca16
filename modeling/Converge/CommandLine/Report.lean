import Converge.Diagnostic
import Converge.Json.Printer
import Converge.Resource

/-!
# Reports

What a command prints: a state or a plan where there is one, and always the diagnostics.
The members are written in this order, and those of a diagnostic in the order of its fields;
whatever is inside a state or a plan is written in key order.
-/

namespace Converge.CommandLine

structure Report where
  state : Option Json
  plan : Option Plan
  diagnostics : Diagnostics

namespace Report

/-- A report of nothing but diagnostics. -/
def ofDiagnostics (diagnostics : Diagnostics) : Report := ⟨none, none, diagnostics⟩

def ofTransition (transition : Transition Json) : Report :=
  ⟨transition.state, none, transition.diagnostics⟩

/-- What is written, in the order in which it is written. -/
def written (report : Report) : Json :=
  .object (
    Json.member "state" report.state
    ++ Json.member "plan" (report.plan.map Plan.toJson)
    ++ [("diagnostics", .array (report.diagnostics.map fun one => .object one.fields))])

def render (report : Report) : String := report.written.renderIndented ++ "\n"

/-- Whether the command has failed. -/
def isFailure (report : Report) : Bool := report.diagnostics.hasError

end Report

end Converge.CommandLine
