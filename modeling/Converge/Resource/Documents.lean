import Converge.Resource.Ledger
import Converge.Resource.LedgerSchema
import Converge.Resource.PaymentsConnector
import Converge.Resource.PaymentsPool
import Converge.Resource.ReconciliationPolicy
import Converge.Resource.Webhook

/-!
# Resources driven by documents

Whoever picks the kind at run time has documents and no types. A document that does not
match the kind is reported and nothing is done; a state that does not match stays as it
is. A state that cannot be written as a document is reported too.
-/

namespace Converge

open Remote

/-- A resource kind whose states and declarations are documents. -/
structure Documents where
  kind : Kind
  /-- Whether the kind judges declarations. -/
  validates : Bool
  /-- Whether the kind can import. -/
  adopts : Bool
  replaceFields : List String
  validate : (desired : Json) → Diagnostics
  plan : (prior : Option Json) → (desired : Json) → Except Diagnostics Plan
  create : (desired : Json) → Program (Transition Json)
  read : (state : Json) → Program (Transition Json)
  update : (observed desired : Json) → Program (Transition Json)
  delete : (state : Json) → Program Diagnostics
  adopt : (id : String) → Program (Transition Json)

namespace Resource

variable {M : Type}

/-- Read a document as the kind's type; `subject` says in messages which document it is. -/
def ofDocument (resource : Resource M) (subject : String) (document : Json) :
    Except Diagnostic M :=
  (resource.decode document).mapError fun fault =>
    .invalid subject (subject ++ " does not match the resource schema: " ++ fault.message)

/-- What is reported about a state that has no document. -/
def notEncoded (fault : Encode.Fault) : Diagnostic :=
  .error .remote "STATE_ENCODING" ("resulting state could not be encoded: " ++ fault.message)

/-- The transition with the document of its state. A state without one is dropped, which is
reported behind everything else. -/
def toDocument (resource : Resource M) (transition : Transition M) : Transition Json :=
  match transition.state with
  | none => .failed transition.diagnostics
  | some state =>
    match resource.encode state with
    | .error fault => .failed (transition.diagnostics ++ [notEncoded fault])
    | .ok document => .keeping document transition.diagnostics

def validateDocument (resource : Resource M) (desired : Json) : Diagnostics :=
  match resource.ofDocument "desired" desired with
  | .error fault => [fault]
  | .ok desired => resource.validate desired

def planDocuments (resource : Resource M) (prior : Option Json) (desired : Json) :
    Except Diagnostics Plan :=
  match resource.ofDocument "desired" desired with
  | .error fault => .error [fault]
  | .ok desired =>
    match prior with
    | none => .ok (resource.plan none desired)
    | some prior =>
      match resource.ofDocument "state" prior with
      | .error fault => .error [fault]
      | .ok prior => .ok (resource.plan (some prior) desired)

def createDocument (resource : Resource M) (desired : Json) : Program (Transition Json) :=
  match resource.ofDocument "desired" desired with
  | .error fault => .done (.failed [fault])
  | .ok desired => (resource.create desired).map resource.toDocument

def readDocument (resource : Resource M) (state : Json) : Program (Transition Json) :=
  match resource.ofDocument "state" state with
  | .error fault => .done (.keeping state [fault])
  | .ok state => (resource.read state).map resource.toDocument

def updateDocument (resource : Resource M) (observed desired : Json) :
    Program (Transition Json) :=
  match resource.ofDocument "state" observed with
  | .error fault => .done (.keeping observed [fault])
  | .ok state =>
    match resource.ofDocument "desired" desired with
    | .error fault => .done (.keeping observed [fault])
    | .ok desired => (resource.update state desired).map resource.toDocument

def deleteDocument (resource : Resource M) (state : Json) : Program Diagnostics :=
  match resource.ofDocument "state" state with
  | .error fault => .done [fault]
  | .ok state => resource.delete state

def adoptDocument (resource : Resource M) (id : String) : Program (Transition Json) :=
  (resource.adopt id).map resource.toDocument

/-- The resource kind with documents in place of its type. -/
def documents (resource : Resource M) : Documents where
  kind := resource.kind
  validates := resource.check?.isSome
  adopts := resource.adopt?.isSome
  replaceFields := resource.replaceFields
  validate := resource.validateDocument
  plan := resource.planDocuments
  create := resource.createDocument
  read := resource.readDocument
  update := resource.updateDocument
  delete := resource.deleteDocument
  adopt := resource.adoptDocument

end Resource

/-- What can be done with a kind, by documents. -/
def Kind.documents : Kind → Documents
  | .ledger => Resource.Ledger.resource.documents
  | .ledgerSchema => Resource.LedgerSchema.resource.documents
  | .paymentsPool => Resource.PaymentsPool.resource.documents
  | .paymentsConnector => Resource.PaymentsConnector.resource.documents
  | .webhooks => Resource.Webhook.resource.documents
  | .reconciliationPolicy => Resource.ReconciliationPolicy.resource.documents

end Converge
