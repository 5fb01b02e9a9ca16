import Converge.Http.Address
import Converge.Json

/-!
# Requests and responses

A draft is a request while it is put together: its address is still a text, and nobody has
looked at its headers. `Draft.request?` lets through what can be sent.
-/

namespace Converge.Http

inductive Method where
  | get
  | post
  | put
  | patch
  | delete
deriving DecidableEq, Repr

def Method.name : Method → String
  | .get => "GET"
  | .post => "POST"
  | .put => "PUT"
  | .patch => "PATCH"
  | .delete => "DELETE"

/-- Names and values, in the order in which they were given. -/
abbrev Headers := List (String × String)

/-- The header that carries the trace of a request. -/
def traceHeader : String := "traceparent"

/-- Whether a header can have a value: no control character but the tab. -/
def isHeaderValue (value : String) : Bool :=
  value.toList.all fun c => c == '\t' || (0x20 ≤ c.toNat && c.toNat != 0x7F)

/-- A request while it is put together. -/
structure Draft where
  method : Method
  url : String
  headers : Headers
  body : Option Json

/-- A request that can be sent. -/
structure Request where
  method : Method
  address : Address
  headers : Headers
  body : Option Json

namespace Draft

/-- The draft with one more header. -/
def withHeader (draft : Draft) (name value : String) : Draft :=
  { draft with headers := draft.headers ++ [(name, value)] }

/-- The request of a draft, if its address is one and its headers are in order. -/
def request? (draft : Draft) : Option Request :=
  if draft.headers.all fun (_, value) => isHeaderValue value then
    (Address.ofText? draft.url).map fun address =>
      ⟨draft.method, address, draft.headers, draft.body⟩
  else none

end Draft

/-- What a server answers. -/
structure Response where
  status : Nat
  headers : Headers
  /-- The body, if it arrived as a whole. -/
  body : Option String

namespace Response

/-- Whether the status says success. -/
def isSuccess (response : Response) : Bool :=
  200 ≤ response.status && response.status < 300

/-- Whether the value of a header can be read as text: visible ASCII, blanks and tabs. -/
def isReadable (value : String) : Bool :=
  value.toList.all fun c => c == '\t' || (0x20 ≤ c.toNat && c.toNat < 0x7F)

/-- The trace that the response carries, if it can be read. -/
def traceparent? (response : Response) : Option String :=
  (response.headers.find? fun (name, _) => name.map Char.toLower == traceHeader).bind
    fun (_, value) => if isReadable value then some value else none

end Response

end Converge.Http
