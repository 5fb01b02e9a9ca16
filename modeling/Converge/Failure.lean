import Converge.Decode.Text
import Converge.Diagnostic
import Converge.Text.Blank

/-!
# Failed calls

A call to the stack fails with a cause, and with what is known about the response: its
status and its trace. Modules answer failures with envelopes of their own flavor; a body
that is no envelope is kept as it is.

`Failure.diagnose` turns any failure into one diagnostic with a code, a message that is
never empty, and the trace as correlation identifier.
-/

namespace Converge

open Decode

/-- Which envelope a module answers failures with. -/
inductive Flavor where
  | ledger
  | payments
  | plain
deriving DecidableEq, Repr

/-- What an envelope says. -/
structure Envelope where
  code : String
  message : String
  details : Option String
deriving DecidableEq, Repr

namespace Envelope

variable {σ : Type} [Source σ]

def decode : Decoder σ Envelope :=
  record "struct Envelope"
    ((Fields.none Envelope.mk).required "errorCode" text |>.defaulted "errorMessage" text ""
      |>.optional "details" text)

/-- The envelope without its details, which may then be anything. -/
def decodeBrief : Decoder σ Envelope :=
  record "struct BodyEnvelope"
    ((Fields.none fun code message => Envelope.mk code message none)
      |>.required "errorCode" text |>.defaulted "errorMessage" text "")

/-- The message with the details, where there are any. -/
def fullMessage (envelope : Envelope) : String :=
  match envelope.details with
  | some details =>
    if details.isEmpty then envelope.message
    else envelope.message ++ " (details: " ++ details ++ ")"
  | none => envelope.message

end Envelope

/-- Why a call failed. -/
inductive Failure.Cause where
  | enveloped (flavor : Flavor) (envelope : Envelope)
  /-- A response without success whose body is no envelope. -/
  | unexpected (status : Nat) (body : String)
  /-- A response of success whose body does not decode. -/
  | undecodable (message : String)
  /-- No response, or none that could be read. -/
  | transport (message : String)
deriving DecidableEq, Repr

/-- A failed call. -/
structure Failure where
  cause : Failure.Cause
  /-- The status of the response, where one was received. -/
  status : Option Nat
  /-- The trace that the response, or else the request, carried. -/
  traceparent : Option String
deriving DecidableEq, Repr

namespace Failure

/-- The code of a failure that no envelope explains. -/
def fallbackCode : String := "INTERNAL"

/-- The cause that a response without success tells. -/
def Cause.ofBody (flavor : Flavor) (status : Nat) (body : String) : Cause :=
  match ofText Envelope.decode body with
  | .ok envelope => .enveloped flavor envelope
  | .error _ => .unexpected status body

def Cause.message : Cause → String
  | .enveloped _ envelope => envelope.code ++ ": " ++ envelope.message
  | .unexpected status body => "unexpected status " ++ toString status ++ ": " ++ body
  | .undecodable message => "failed to decode response: " ++ message
  | .transport message => "transport error: " ++ message

/-- The code and the message for the operator. -/
def Cause.codeAndMessage : Cause → String × String
  | .enveloped _ envelope => (envelope.code, envelope.fullMessage)
  | .unexpected status body =>
    match ofText Envelope.decodeBrief body with
    | .ok envelope => (envelope.code, envelope.message)
    | .error _ =>
      if Text.isBlank body then (fallbackCode, "unexpected status " ++ toString status)
      else (fallbackCode, body)
  | .undecodable message => (fallbackCode, message)
  | .transport message => (fallbackCode, message)

def message (failure : Failure) : String := failure.cause.message

/-- The diagnostic of a failure. -/
def diagnose (failure : Failure) : Diagnostic :=
  let (code, message) := failure.cause.codeAndMessage
  match failure.traceparent with
  | some traceparent =>
    (Diagnostic.error .remote code
      ("[Traceparent: " ++ traceparent ++ "] " ++ message)).withCorrelation traceparent
  | none =>
    .error .remote code (if message.isEmpty then "unexpected error" else message)

end Failure

end Converge
