import Converge.Decode

/-!
# Diagnostics

Operations do not fail with a bare error. They give the state they reached together
with diagnostics, which say what went wrong or what the operator should know.
-/

namespace Converge

inductive Severity where
  | error
  | warning
deriving DecidableEq, Repr

namespace Severity

def all : List Severity := [.error, .warning]

def name : Severity → String
  | .error => "error"
  | .warning => "warning"

end Severity

/-- The broad class of a diagnostic. -/
inductive Category where
  /-- The input failed local validation; no remote call was made. -/
  | invalidConfiguration
  /-- A module did not report healthy within the allowed time. -/
  | healthTimeout
  /-- The remote side reported an error. -/
  | remote
  /-- An update of several steps stopped midway. -/
  | partialUpdate
  /-- The caller stopped the operation. -/
  | cancelled
  /-- The resource kind does not support the operation. -/
  | unsupported
deriving DecidableEq, Repr

namespace Category

def all : List Category :=
  [.invalidConfiguration, .healthTimeout, .remote, .partialUpdate, .cancelled, .unsupported]

def name : Category → String
  | .invalidConfiguration => "invalid_configuration"
  | .healthTimeout => "health_timeout"
  | .remote => "remote"
  | .partialUpdate => "partial_update"
  | .cancelled => "cancelled"
  | .unsupported => "unsupported"

end Category

/-- A message to the operator. -/
structure Diagnostic where
  severity : Severity
  category : Category
  /-- The stable code: the remote side's own, or a local one. -/
  code : String
  message : String
  /-- The attribute that the message is about. -/
  subject : Option String
  /-- The correlation identifier of the remote response. -/
  correlation : Option String
deriving DecidableEq, Repr

namespace Diagnostic

def error (category : Category) (code message : String) : Diagnostic :=
  ⟨.error, category, code, message, none, none⟩

def warning (category : Category) (code message : String) : Diagnostic :=
  { error category code message with severity := .warning }

def withSubject (subject : String) (diagnostic : Diagnostic) : Diagnostic :=
  { diagnostic with subject := some subject }

def withCorrelation (correlation : String) (diagnostic : Diagnostic) : Diagnostic :=
  { diagnostic with correlation := some correlation }

/-- A local validation failure of one attribute. -/
def invalid (subject message : String) : Diagnostic :=
  (error .invalidConfiguration "INVALID_CONFIGURATION" message).withSubject subject

/-- An operation that the resource kind does not have. -/
def unsupported (message : String) : Diagnostic :=
  warning .unsupported "UNSUPPORTED" message

def isError (diagnostic : Diagnostic) : Bool := diagnostic.severity = .error

/-- The one-line form, with the attribute it is about at the end. -/
def render (diagnostic : Diagnostic) : String :=
  diagnostic.severity.name ++ "[" ++ diagnostic.code ++ "]: " ++ diagnostic.message ++
    match diagnostic.subject with
    | some subject => " (at " ++ subject ++ ")"
    | none => ""

/-- The members of the written form, in the order in which they are written. -/
def fields (diagnostic : Diagnostic) : List (String × Json) :=
  [("severity", .string diagnostic.severity.name),
    ("category", .string diagnostic.category.name),
    ("code", .string diagnostic.code), ("message", .string diagnostic.message)]
  ++ (diagnostic.subject.map fun subject => ("attribute", Json.string subject)).toList
  ++ (diagnostic.correlation.map fun id => ("correlation_id", Json.string id)).toList

def toJson (diagnostic : Diagnostic) : Json := .ofEntries diagnostic.fields

def decode {σ : Type} [Decode.Source σ] : Decode.Decoder σ Diagnostic :=
  Decode.record "struct Diagnostic"
    ((Decode.Fields.none Diagnostic.mk)
      |>.required "severity" (Decode.choice (Severity.all.map fun one => (one.name, one)))
      |>.required "category" (Decode.choice (Category.all.map fun one => (one.name, one)))
      |>.required "code" Decode.text |>.required "message" Decode.text
      |>.optional "attribute" Decode.text |>.optional "correlation_id" Decode.text)

@[simp] theorem isError_error (category : Category) (code message : String) :
    (error category code message).isError = true := rfl

@[simp] theorem isError_warning (category : Category) (code message : String) :
    (warning category code message).isError = false := rfl

@[simp] theorem isError_invalid (subject message : String) :
    (invalid subject message).isError = true := rfl

@[simp] theorem isError_unsupported (message : String) :
    (unsupported message).isError = false := rfl

end Diagnostic

/-- Diagnostics in the order in which they were raised. -/
abbrev Diagnostics := List Diagnostic

namespace Diagnostics

/-- Whether at least one diagnostic is an error. -/
def hasError (diagnostics : Diagnostics) : Bool := diagnostics.any Diagnostic.isError

/-- The diagnostics that are errors. -/
def errors (diagnostics : Diagnostics) : Diagnostics := diagnostics.filter Diagnostic.isError

def toJson (diagnostics : Diagnostics) : Json := .array (diagnostics.map Diagnostic.toJson)

def decode {σ : Type} [Decode.Source σ] : Decode.Decoder σ Diagnostics :=
  Decode.list Diagnostic.decode

end Diagnostics

/-- The outcome of a state transition. Without a state the resource leaves the local
state: it was deleted, or never came to be. -/
structure Transition (σ : Type) where
  state : Option σ
  diagnostics : Diagnostics
deriving Repr

namespace Transition

variable {σ τ : Type}

def ok (state : σ) : Transition σ := ⟨some state, []⟩

/-- Keep a state and report. -/
def keeping (state : σ) (diagnostics : Diagnostics) : Transition σ := ⟨some state, diagnostics⟩

/-- No state, only diagnostics. -/
def failed (diagnostics : Diagnostics) : Transition σ := ⟨none, diagnostics⟩

/-- No state, and nothing to report. -/
def removed : Transition σ := ⟨none, []⟩

def hasError (transition : Transition σ) : Bool := transition.diagnostics.hasError

def toJson (state : σ → Json) (transition : Transition σ) : Json :=
  .ofEntries [("state", (transition.state.map state).getD .null),
    ("diagnostics", transition.diagnostics.toJson)]

def decode {ρ : Type} [Decode.Source ρ] (state : Decode.Decoder ρ σ) :
    Decode.Decoder ρ (Transition σ) :=
  Decode.record "struct Transition"
    ((Decode.Fields.none Transition.mk).omissible "state" state
      |>.required "diagnostics" Diagnostics.decode)

def map (change : σ → τ) (transition : Transition σ) : Transition τ :=
  ⟨transition.state.map change, transition.diagnostics⟩

end Transition

end Converge
