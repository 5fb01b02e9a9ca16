import Converge.Http.Route
import Converge.Remote.Run

/-!
# The client of a stack

A client turns a call into a request, lets its decorators add to it one after the other,
sends it, and reads what comes back. It keeps the trace that a decorator stamps on the
request, so that a failure can be found again in the records of the stack; the trace of the
response, where it can be read, counts instead.

Nothing is sent when a decorator fails or when the request is not in order. Networks are
values of `Network`: what becomes of a request is theirs to say.
-/

namespace Converge.Http

open Remote

/-! ## Decorators -/

/-- What a decorator makes of a draft, and the trace last recorded. -/
structure Decorated where
  trace : Option String
  draft : Except Failure.Cause Draft

/-- What is added to each request. `serial` counts the requests of the client. -/
abbrev Decorator := (serial : Nat) → Draft → (trace : Option String) → Decorated

/-- Hexadecimal digits of a number, as many as are asked for. -/
def paddedHex (width number : Nat) : String :=
  let digits := Nat.toDigits 16 (number % Nat.pow 16 width)
  String.ofList (List.replicate (width - digits.length) '0' ++ digits)

/-- A trace, which names a request and its place in a larger whole. -/
def traceText (whole place : Nat) : String :=
  "00-" ++ paddedHex 32 whole ++ "-" ++ paddedHex 16 place ++ "-01"

namespace Decorator

/-- Stamp each request with a trace of its own. -/
def stamp (fresh : Nat → String) : Decorator := fun serial draft _ =>
  ⟨some (fresh serial), .ok (draft.withHeader traceHeader (fresh serial))⟩

/-- Show the token that a source has for the request. -/
def bearer (token : Nat → Except Failure.Cause String) : Decorator := fun serial draft trace =>
  ⟨trace, (token serial).map fun token => draft.withHeader "authorization" ("Bearer " ++ token)⟩

/-- Let decorators act in turn. The first that fails ends the turn. -/
def runAll (serial : Nat) : List Decorator → Draft → (trace : Option String) → Decorated
  | [], draft, trace => ⟨trace, .ok draft⟩
  | decorator :: rest, draft, trace =>
    match decorator serial draft trace with
    | ⟨trace, .ok draft⟩ => runAll serial rest draft trace
    | ⟨trace, .error cause⟩ => ⟨trace, .error cause⟩

end Decorator

/-- A token that does not change. -/
structure FixedToken where
  token : String

namespace FixedToken

/-- The source of a fixed token. -/
def source (fixed : FixedToken) : Nat → Except Failure.Cause String := fun _ => .ok fixed.token

/-- A fixed token as it is shown in messages, which is without the token. -/
def shown (_ : FixedToken) : String := Text.shownPartly "StaticTokenSource" []

end FixedToken

/-! ## Networks -/

/-- What becomes of a request that is sent. -/
inductive Delivery where
  /-- No response came back. -/
  | lost
  | answered (response : Response)

/-- How a network treats a request. -/
structure Exchange (σ : Type) where
  delay : Nat
  delivery : Delivery
  /-- Its state once it is done with the request. -/
  after : σ
  /-- Its state if nobody waits for the response. -/
  abandoned : σ

/-- A network with states of type `σ`. -/
structure Network (σ : Type) where
  exchange : σ → Request → Exchange σ

/-- The network that lets no request through. -/
def Network.closed : Network Unit where
  exchange _ _ := ⟨0, .lost, (), ()⟩

/-! ## Clients -/

/-- A client of the stack at an address. -/
structure Client where
  base : String
  userAgent : String
  decorators : List Decorator

/-- What a client tells about a request or its parts that are not in order. -/
def unbuildable : String := "builder error"

namespace Client

def standardUserAgent : String := "stackform/0.1.0"

/-- A text without slashes at its end. -/
def withoutSlashes (text : String) : String :=
  String.ofList (text.toList.reverse.dropWhile (· == '/')).reverse

/-- A client, unless its name cannot stand in a header. -/
def build? (base userAgent : String) (decorators : List Decorator) : Option Client :=
  if isHeaderValue userAgent then some ⟨withoutSlashes base, userAgent, decorators⟩ else none

variable {σ : Type}

/-- The draft of a call, before it is decorated. -/
def draft (client : Client) (call : Call) : Draft :=
  let route := call.route
  { method := route.method
    url := client.base ++ route.render
    headers := (if call.payload?.isSome then [("content-type", "application/json")] else [])
      ++ call.idempotencyKey?.toList.map fun key => ("idempotency-key", key)
    body := call.payload? }

/-- The request of a draft, sent under the client's name. -/
def request? (client : Client) (draft : Draft) : Option Request :=
  (draft.withHeader "user-agent" client.userAgent).request?

/-- What a response means for a call; `trace` is the trace of the request. -/
def settle (call : Call) (trace : Option String) (response : Response) :
    Except Failure call.Answer :=
  let fail (cause : Failure.Cause) : Except Failure call.Answer :=
    .error ⟨cause, some response.status, response.traceparent?.or trace⟩
  match response.body with
  | none => fail (.transport "error decoding response body")
  | some body =>
    if response.isSuccess then
      match call.readAnswer body with
      | .ok answer => .ok answer
      | .error fault => fail (.undecodable fault.message)
    else fail (.ofBody call.flavor response.status body)

/-- What the delivery of a request means for a call. -/
def conclude (call : Call) (trace : Option String) (request : Request) :
    Delivery → Except Failure call.Answer
  | .lost =>
    .error ⟨.transport ("error sending request for url (" ++ request.address.render ++ ")"),
      none, trace⟩
  | .answered response => settle call trace response

/-- A network, and how many calls were made over it. -/
structure Line (σ : Type) where
  calls : Nat
  network : σ

/-- The stack at the other end of a network. -/
def remote (client : Client) (network : Network σ) : Responder (Line σ) where
  reply line call :=
    let next : Line σ := ⟨line.calls + 1, line.network⟩
    let refuse (cause : Failure.Cause) (trace : Option String) : Reply (Line σ) call :=
      ⟨0, .error ⟨cause, none, trace⟩, next, next⟩
    match Decorator.runAll line.calls client.decorators (client.draft call) none with
    | ⟨trace, .error cause⟩ => refuse cause trace
    | ⟨trace, .ok draft⟩ =>
      match client.request? draft with
      | none => refuse (.transport unbuildable) trace
      | some request =>
        let exchange := network.exchange line.network request
        ⟨exchange.delay, conclude call trace request exchange.delivery,
          ⟨next.calls, exchange.after⟩, ⟨next.calls, exchange.abandoned⟩⟩

end Client

end Converge.Http
