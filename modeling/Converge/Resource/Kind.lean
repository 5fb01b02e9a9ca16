import Converge.Text.Blank

/-!
# Resource kinds

The kinds of remote objects that can be converged, and the module of the stack that each
of them lives in.
-/

namespace Converge

inductive Kind where
  | ledger
  | ledgerSchema
  | paymentsPool
  | paymentsConnector
  | webhooks
  | reconciliationPolicy
deriving DecidableEq, Repr

namespace Kind

def all : List Kind :=
  [.ledger, .ledgerSchema, .paymentsPool, .paymentsConnector, .webhooks, .reconciliationPolicy]

def name : Kind → String
  | .ledger => "ledger"
  | .ledgerSchema => "ledger_schema"
  | .paymentsPool => "payments_pool"
  | .paymentsConnector => "payments_connector"
  | .webhooks => "webhooks"
  | .reconciliationPolicy => "reconciliation_policy"

/-- The module that has to be healthy. -/
def module : Kind → String
  | .ledger => "ledger"
  | .ledgerSchema => "ledger"
  | .paymentsPool => "payments"
  | .paymentsConnector => "payments"
  | .webhooks => "webhooks"
  | .reconciliationPolicy => "reconciliation"

/-- A name as it may be written: blanks around it, capitals and dashes do not count. -/
def normalize (text : String) : String :=
  String.ofList ((Text.trim text.toList).map fun c => if c = '-' then '_' else c.toLower)

/-- The kind that a text names. -/
def ofName? (text : String) : Option Kind := all.find? (·.name == normalize text)

/-- The message about a text that names no kind. -/
def unknownMessage (text : String) : String := "unknown resource kind '" ++ text ++ "'"

end Kind

end Converge
