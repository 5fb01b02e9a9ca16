import Converge.Http.Client
import Converge.Proofs.Http.Address

/-!
# What a request says about its call

A server sees the method of a request and its target. `Route.operation?` is how it reads
them: which operation is meant, and the identifiers that the path and the query name. The
reading gives back the operation and the identifiers of every call from the call's route.

Routes are written with their parts encoded, and an address is brought into its normal form
before it is sent. Between the two, a part that is `.` or `..` is lost: it is not encoded,
and it is followed. Requests of calls without such identifiers have the parts of their routes
as segments, one for one, and say which call they are of.
-/

namespace Converge

open Http Remote Text

/-! ## Reading routes -/

/-- What a call names in its address. What it sends along is not among it. -/
def Remote.Call.identifiers : Call → List String
  | .createPool _ => []
  | .createWebhook _ => []
  | .createPolicy _ => []
  | call => call.words.tail

namespace Http

/-- The operation that a route is one of, and the identifiers in it. -/
def Route.operation? : Route → Option (String × List String)
  | ⟨.get, ["versions"], []⟩ => some ("list_module_versions", [])
  | ⟨.post, ["api", "ledger", "v2", name], []⟩ => some ("create_ledger", [name])
  | ⟨.get, ["api", "ledger", "v2", name], []⟩ => some ("get_ledger", [name])
  | ⟨.put, ["api", "ledger", "v2", name, "metadata"], []⟩ =>
    some ("update_ledger_metadata", [name])
  | ⟨.delete, ["api", "ledger", "v2", name, "metadata", key], []⟩ =>
    some ("delete_ledger_metadata", [name, key])
  | ⟨.post, ["api", "ledger", "v2", ledger, "schema", version], []⟩ =>
    some ("insert_schema", [ledger, version])
  | ⟨.get, ["api", "ledger", "v2", ledger, "schema", version], []⟩ =>
    some ("get_schema", [ledger, version])
  | ⟨.post, ["api", "payments", "v3", "pools"], []⟩ => some ("create_pool", [])
  | ⟨.get, ["api", "payments", "v3", "pools", id], []⟩ => some ("get_pool", [id])
  | ⟨.delete, ["api", "payments", "v3", "pools", id], []⟩ => some ("delete_pool", [id])
  | ⟨.post, ["api", "payments", "v3", "pools", pool, "accounts", account], []⟩ =>
    some ("add_account_to_pool", [pool, account])
  | ⟨.delete, ["api", "payments", "v3", "pools", pool, "accounts", account], []⟩ =>
    some ("remove_account_from_pool", [pool, account])
  | ⟨.put, ["api", "payments", "v3", "pools", pool, "query"], []⟩ =>
    some ("update_pool_query", [pool])
  | ⟨.post, ["api", "payments", "v3", "connectors", "install", provider], []⟩ =>
    some ("install_connector", [provider])
  | ⟨.get, ["api", "payments", "v3", "connectors", id, "config"], []⟩ =>
    some ("get_connector_config", [id])
  | ⟨.patch, ["api", "payments", "v3", "connectors", id, "config"], []⟩ =>
    some ("update_connector_config", [id])
  | ⟨.delete, ["api", "payments", "v3", "connectors", id], []⟩ =>
    some ("uninstall_connector", [id])
  | ⟨.post, ["api", "webhooks", "configs"], []⟩ => some ("insert_config", [])
  | ⟨.get, ["api", "webhooks", "configs"], [("id", id)]⟩ => some ("get_configs", [id])
  | ⟨.put, ["api", "webhooks", "configs", id], []⟩ => some ("update_config", [id])
  | ⟨.delete, ["api", "webhooks", "configs", id], []⟩ => some ("delete_config", [id])
  | ⟨.post, ["api", "reconciliation", "policies"], []⟩ => some ("create_policy", [])
  | ⟨.get, ["api", "reconciliation", "policies", id], []⟩ => some ("get_policy", [id])
  | ⟨.delete, ["api", "reconciliation", "policies", id], []⟩ => some ("delete_policy", [id])
  | _ => none

/-- The route of a call is read as the call's operation and its identifiers. -/
theorem Route.operation?_route (call : Call) :
    call.route.operation? = some (call.name, call.identifiers) := by
  cases call with
  | command order => cases order <;> rfl
  | _ => rfl

/-! ## Routes beneath an address -/

namespace Route

theorem ext {route other : Route} (method : route.method = other.method)
    (parts : route.parts = other.parts) (query : route.query = other.query) : route = other := by
  obtain ⟨_, _, _⟩ := route
  obtain ⟨_, _, _⟩ := other
  cases method
  cases parts
  cases query
  rfl

/-- A route whose parts can all be segments: none of them leads elsewhere. -/
def Upright (route : Route) : Prop := ∀ part ∈ route.parts, part ≠ "." ∧ part ≠ ".."

instance (route : Route) : Decidable route.Upright :=
  inferInstanceAs (Decidable (∀ part ∈ route.parts, part ≠ "." ∧ part ≠ ".."))

/-- A route that names a place, and asks for one thing at most. -/
structure Regular (route : Route) : Prop where
  placed : route.parts ≠ []
  single : route.query.length ≤ 1

/-- The query of a route as it is written, if there is one. -/
def asked (route : Route) : Option (List Char) :=
  if route.query.isEmpty then none else some (renderQuery route.query)

/-- The address of a route on a stack: its parts are segments behind those of the stack. -/
def beneath (root : Address) (route : Route) : Address :=
  ⟨root.origin, root.path.dropLast ++ route.parts.map percentEncode, route.asked, none⟩

theorem render_eq (route : Route) :
    route.render =
      String.ofList (Address.renderPath (route.parts.map percentEncode) ++
        Address.behind '?' route.asked) := by
  rw [render, asked]
  cases route.query with
  | nil => rfl
  | cons entry rest => rfl

theorem renderQuery_singleton (name value : String) :
    renderQuery [(name, value)] = formEncode name ++ '=' :: formEncode value := by
  simp [renderQuery, List.intercalate]

/-- A regular route asks for nothing, or gives one name and its value. -/
theorem Regular.asked_cases {route : Route} (regular : route.Regular) :
    route.query = [] ∧ route.asked = none ∨
      ∃ name value, route.query = [(name, value)] ∧
        route.asked = some (formEncode name ++ '=' :: formEncode value) := by
  unfold asked
  cases query : route.query with
  | nil => exact Or.inl ⟨rfl, rfl⟩
  | cons entry rest =>
      have single := regular.single
      rw [query] at single
      cases rest with
      | nil => exact Or.inr ⟨entry.1, entry.2, rfl, congrArg some (renderQuery_singleton _ _)⟩
      | cons => exact absurd single (by simp)

/-- The query of a regular route is written with characters that stand for themselves. -/
theorem Regular.asked_visible {route : Route} (regular : route.Regular) :
    ∀ text ∈ route.asked, ∀ c ∈ text, Address.isVisibleExcept "\"#<>'" c = true := by
  intro text isAsked c mem
  obtain ⟨-, none⟩ | ⟨name, value, -, some⟩ := regular.asked_cases
  · rw [none] at isAsked
    exact absurd isAsked (by simp)
  · rw [some, Option.mem_some] at isAsked
    rw [← isAsked] at mem
    obtain name | mem := List.mem_append.mp mem
    · exact (Address.of_plain (plain_of_mem_formEncode name)).2.2
    · obtain rfl | value := List.mem_cons.mp mem
      · decide
      · exact (Address.of_plain (plain_of_mem_formEncode value)).2.2

/-- The query of a regular route can be read off what is written. -/
theorem Regular.query_eq {route other : Route} (regular : route.Regular)
    (regular' : other.Regular) (same : route.asked = other.asked) :
    route.query = other.query := by
  have noSign (text : String) : '=' ∉ formEncode text := fun mem =>
    absurd (plain_of_mem_formEncode mem) (by decide)
  obtain ⟨query, asked⟩ | ⟨name, value, query, asked⟩ := regular.asked_cases <;>
    obtain ⟨query', asked'⟩ | ⟨name', value', query', asked'⟩ := regular'.asked_cases
  · rw [query, query']
  · rw [asked, asked'] at same
    cases same
  · rw [asked, asked'] at same
    cases same
  · rw [asked, asked', Option.some.injEq] at same
    have pieces := congrArg (Address.cut '=') same
    rw [Address.cut_append_cons (noSign name), Address.cut_append_cons (noSign name')] at pieces
    obtain ⟨names, values⟩ := Prod.mk.inj pieces
    rw [query, query', formEncode_inj names, formEncode_inj (Option.some.inj values)]

theorem Upright.straight {route : Route} (upright : route.Upright) :
    ∀ piece ∈ route.parts.map percentEncode, Address.Straight piece := by
  intro piece mem
  obtain ⟨part, isPart, rfl⟩ := List.mem_map.mp mem
  exact Address.straight_percentEncode (upright part isPart).1 (upright part isPart).2

/-- A route that is written behind the address of a stack leads to its place beneath it. -/
theorem ofText?_render {base : String} {root : Address} (isRoot : Address.IsRoot base root)
    {route : Route} (regular : route.Regular) (upright : route.Upright) :
    Address.ofText? (base ++ route.render) = some (route.beneath root) := by
  rw [render_eq]
  exact Address.ofText?_append isRoot (by simpa using regular.placed) upright.straight
    regular.asked_visible

/-- What is asked of a server begins with the segments of the stack's address. -/
theorem target_beneath {root : Address} {route : Route} (regular : route.Regular) :
    (route.beneath root).target =
      Address.renderPath root.path.dropLast ++
        (Address.renderPath (route.parts.map percentEncode) ++
          Address.behind '?' route.asked) := by
  have placed : (root.path.dropLast ++ route.parts.map percentEncode).isEmpty = false := by
    rw [List.isEmpty_eq_false_iff]
    intro none
    exact regular.placed (List.map_eq_nil_iff.mp (List.append_eq_nil_iff.mp none).2)
  simp only [Address.target, beneath, placed, Bool.false_eq_true, if_false]
  rw [Address.renderPath, List.flatMap_append, List.append_assoc]
  rfl

/-- Two routes that ask a server alike beneath one address are the same. -/
theorem eq_of_target_beneath {root : Address} {route other : Route}
    (regular : route.Regular) (regular' : other.Regular)
    (upright : route.Upright) (upright' : other.Upright)
    (same : (route.beneath root).target = (other.beneath root).target) :
    route.parts = other.parts ∧ route.query = other.query := by
  -- behind the segments of the stack's address the first mark ends the path
  rw [target_beneath regular, target_beneath regular', List.append_cancel_left_eq] at same
  have mark : '?' ≠ '/' ∧ isPlain '?' = false := by decide
  have pieces := congrArg (Address.cut '?') same
  rw [Address.cut_append_behind (Address.not_mem_renderPath upright.straight mark),
    Address.cut_append_behind (Address.not_mem_renderPath upright'.straight mark)] at pieces
  obtain ⟨paths, queries⟩ := Prod.mk.inj pieces
  have parts := Address.renderPath_inj (fun piece mem => (upright.straight piece mem).solid)
    (fun piece mem => (upright'.straight piece mem).solid) paths
  exact ⟨(List.map_inj_right fun _ _ => percentEncode_inj).mp parts,
    regular.query_eq regular' queries⟩

end Route

/-! ## Requests -/

namespace Decorator

/-- A decorator that leaves alone where a request goes, as those do that add headers. -/
def KeepsPlace (decorator : Decorator) : Prop :=
  ∀ serial draft trace trace' draft', decorator serial draft trace = ⟨trace', .ok draft'⟩ →
    draft'.method = draft.method ∧ draft'.url = draft.url

theorem stamp_keepsPlace (fresh : Nat → String) : (stamp fresh).KeepsPlace := by
  intro serial draft trace trace' draft' decorated
  cases decorated
  exact ⟨rfl, rfl⟩

theorem bearer_keepsPlace (token : Nat → Except Failure.Cause String) :
    (bearer token).KeepsPlace := by
  intro serial draft trace trace' draft' decorated
  unfold bearer at decorated
  generalize token serial = given at decorated
  cases given with
  | error cause => cases decorated
  | ok text =>
      cases decorated
      exact ⟨rfl, rfl⟩

/-- Decorators in turn leave alone what each of them does. -/
theorem runAll_keepsPlace {decorators : List Decorator}
    (keep : ∀ decorator ∈ decorators, decorator.KeepsPlace) {serial : Nat}
    {draft draft' : Draft} {trace trace' : Option String}
    (decorated : runAll serial decorators draft trace = ⟨trace', .ok draft'⟩) :
    draft'.method = draft.method ∧ draft'.url = draft.url := by
  induction decorators generalizing draft trace with
  | nil =>
      cases decorated
      exact ⟨rfl, rfl⟩
  | cons decorator rest ih =>
      rw [runAll] at decorated
      cases first : decorator serial draft trace with
      | mk trace₁ outcome =>
          rw [first] at decorated
          cases outcome with
          | error cause => cases decorated
          | ok draft₁ =>
              obtain ⟨method₁, url₁⟩ :=
                keep decorator List.mem_cons_self serial draft trace trace₁ draft₁ first
              obtain ⟨method, url⟩ :=
                ih (fun other mem => keep other (List.mem_cons_of_mem decorator mem)) decorated
              exact ⟨method.trans method₁, url.trans url₁⟩

end Decorator

/-- Every call has a regular route. -/
theorem Route.regular_route (call : Call) : call.route.Regular := by
  cases call with
  | command order => cases order <;> exact ⟨List.cons_ne_nil _ _, Nat.le_of_ble_eq_true rfl⟩
  | _ => exact ⟨List.cons_ne_nil _ _, Nat.le_of_ble_eq_true rfl⟩

/-- What a server decides by: the method of a request and its target. -/
def Request.line (request : Request) : Method × List Char :=
  (request.method, request.address.target)

namespace Client

variable {client : Client} {root : Address} {call other : Call} {request request' : Request}
variable {serial serial' : Nat}

/-- What a client sends for a call as its request of the given number, if it sends anything. -/
def outgoing? (client : Client) (serial : Nat) (call : Call) : Option Request :=
  match Decorator.runAll serial client.decorators (client.draft call) none with
  | ⟨_, .ok draft⟩ => client.request? draft
  | ⟨_, .error _⟩ => none

/-- The network behind a client sees what goes out for a call, and nothing else. -/
theorem reply_after {σ : Type} (client : Client) (network : Network σ) (line : Line σ)
    (call : Call) :
    ((client.remote network).reply line call).after =
      ⟨line.calls + 1,
        match client.outgoing? line.calls call with
        | some request => (network.exchange line.network request).after
        | none => line.network⟩ := by
  simp only [remote, outgoing?]
  cases decorated : Decorator.runAll line.calls client.decorators (client.draft call) none with
  | mk trace outcome =>
      cases outcome with
      | error cause => rfl
      | ok draft => cases built : client.request? draft <;> simp only [built]

/-- A request goes with the method of its call to the place of the call's route. -/
theorem outgoing?_place (isRoot : Address.IsRoot client.base root)
    (keep : ∀ decorator ∈ client.decorators, decorator.KeepsPlace)
    (upright : call.route.Upright) (sent : client.outgoing? serial call = some request) :
    request.method = call.route.method ∧ request.address = call.route.beneath root := by
  unfold outgoing? at sent
  split at sent
  next draft decorated =>
    obtain ⟨method, url⟩ := Decorator.runAll_keepsPlace keep decorated
    unfold request? Draft.request? at sent
    split at sent
    · obtain ⟨address, written, rfl⟩ := Option.map_eq_some_iff.mp sent
      have place := Route.ofText?_render isRoot (Route.regular_route call) upright
      rw [Draft.withHeader, url] at written
      exact ⟨method, Option.some.inj (written.symm.trans place)⟩
    · cases sent
  next => cases sent

/-- Requests say which call they are of. Where no identifier in a path is a dot or two dots,
each part of the call's route is one segment of the request's path, behind those of the
stack, and requests that a server cannot tell apart are of one operation with the same
identifiers. -/
theorem request_identifies_call (isRoot : Address.IsRoot client.base root)
    (keep : ∀ decorator ∈ client.decorators, decorator.KeepsPlace)
    (upright : call.route.Upright) (upright' : other.route.Upright)
    (sent : client.outgoing? serial call = some request)
    (sent' : client.outgoing? serial' other = some request') :
    request.address.path = root.path.dropLast ++ call.route.parts.map percentEncode ∧
      (request.line = request'.line →
        call.name = other.name ∧ call.identifiers = other.identifiers) := by
  obtain ⟨method, address⟩ := outgoing?_place isRoot keep upright sent
  obtain ⟨method', address'⟩ := outgoing?_place isRoot keep upright' sent'
  refine ⟨congrArg Address.path address, fun sameLine => ?_⟩
  obtain ⟨sameMethod, sameTarget⟩ := Prod.mk.inj sameLine
  rw [method, method'] at sameMethod
  rw [address, address'] at sameTarget
  obtain ⟨parts, query⟩ := Route.eq_of_target_beneath (Route.regular_route call)
    (Route.regular_route other) upright upright' sameTarget
  have operation := Route.operation?_route call
  rw [Route.ext sameMethod parts query, Route.operation?_route other, Option.some.injEq]
    at operation
  obtain ⟨name, identifiers⟩ := Prod.mk.inj operation
  exact ⟨name.symm, identifiers.symm⟩

/-- The client of a stack nearby, which shows a token. -/
def nearby : Client :=
  ⟨"http://localhost", standardUserAgent, [.bearer (FixedToken.source ⟨"token"⟩)]⟩

theorem nearby_isRoot :
    Address.IsRoot nearby.base ⟨"http://localhost", [[]], none, none⟩ where
  place := by decide +kernel
  unqueried := rfl
  unpointed := rfl

theorem nearby_keepsPlace : ∀ decorator ∈ nearby.decorators, decorator.KeepsPlace := by
  intro decorator mem
  rw [List.mem_singleton.mp mem]
  exact Decorator.bearer_keepsPlace _

/-- A pool whose identifier has separators in it is not taken for one of its accounts. -/
theorem request_identifies_call_nearby :
    ∃ request request',
      nearby.outgoing? 0 (.command (.deletePool "p/accounts/a")) = some request ∧
        nearby.outgoing? 1 (.command (.removeAccount "p" "a")) = some request' ∧
          request.address.path = ["api", "payments", "v3", "pools", "p%2Faccounts%2Fa"].map
            String.toList ∧ request.line ≠ request'.line := by
  have some_request :
      (nearby.outgoing? 0 (.command (.deletePool "p/accounts/a"))).isSome = true ∧
        (nearby.outgoing? 1 (.command (.removeAccount "p" "a"))).isSome = true := by
    decide +kernel
  obtain ⟨request, sent⟩ := Option.isSome_iff_exists.mp some_request.1
  obtain ⟨request', sent'⟩ := Option.isSome_iff_exists.mp some_request.2
  have upright : (Call.route (.command (.deletePool "p/accounts/a"))).Upright := by decide
  have upright' : (Call.route (.command (.removeAccount "p" "a"))).Upright := by decide
  obtain ⟨path, apart⟩ :=
    request_identifies_call nearby_isRoot nearby_keepsPlace upright upright' sent sent'
  refine ⟨request, request', sent, sent', path.trans (by decide +kernel), fun same => ?_⟩
  exact absurd (apart same).1 (by decide)

/-- Two dots as an identifier are followed: a server cannot tell the request to delete a pool
from the one to uninstall a connector, and neither names a pool or a connector. -/
theorem requests_alike_nearby :
    (nearby.outgoing? 0 (.command (.deletePool ".."))).map Request.line =
        some (.delete, "/api/payments/v3/".toList) ∧
      (nearby.outgoing? 0 (.command (.uninstallConnector ".."))).map Request.line =
        some (.delete, "/api/payments/v3/".toList) ∧
      Call.name (.command (.deletePool "..")) ≠
        Call.name (.command (.uninstallConnector "..")) := by
  decide +kernel

end Client

end Http

end Converge
