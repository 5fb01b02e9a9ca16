import Converge.Membership
import Converge.Query
import Converge.Resource

/-!
# Payments pools

A pool collects accounts, either by a list or by a query. It is identified by the
identifier that the stack gives it; its name is fixed when it is created. Members are
added and removed one at a time, additions first, and then the query is set where it
differs. No query means the same as the empty one.
-/

namespace Converge.Resource

open Decode (Fields text list dynamic)
open Encode (field optional omitIf)
open Remote

structure PaymentsPool where
  id : Option String
  name : String
  accounts : List String
  query : Option Value

namespace PaymentsPool

def decode {σ : Type} [Decode.Source σ] : Decode.Decoder σ PaymentsPool :=
  Decode.record "struct PaymentsPoolModel"
    ((Fields.none PaymentsPool.mk).optional "id" text |>.required "name" text
      |>.defaulted "accounts_ids" (list text) [] |>.optional "query" dynamic)

def encode : Encode.Encoder PaymentsPool := fun pool =>
  Encode.record [optional "id" Encode.text pool.id,
    field "name" Encode.text pool.name,
    omitIf pool.accounts.isEmpty
      (field "accounts_ids" (Encode.list Encode.text) pool.accounts),
    optional "query" Encode.dynamic pool.query]

/-- Whether a query says nothing. -/
def isEmptyQuery : Value → Bool
  | .null => true
  | .map [] => true
  | _ => false

/-- A query that says something. -/
def givenQuery (query : Option Value) : Option Value :=
  query.filter fun query => !isEmptyQuery query

/-- The query that the stack is told. -/
def effectiveQuery (pool : PaymentsPool) : Value := pool.query.getD (.map [])

/-- Take over what the stack reports. An empty list of accounts and an empty query are not
taken over. -/
def applyRemote (pool : PaymentsPool) (info : Stack.Pool) : PaymentsPool where
  id := some info.id
  name := info.name
  accounts := if info.accounts.isEmpty then pool.accounts else info.accounts
  query := (givenQuery info.query).or pool.query

def replaceFields : List String := ["name"]

def changedFields (prior desired : PaymentsPool) : List String :=
  (if prior.name = desired.name then [] else ["name"])
  ++ (if (Delta.between desired.accounts prior.accounts).isEmpty then [] else ["accounts_ids"])
  ++ (if prior.effectiveQuery.semanticallyEqual desired.effectiveQuery then [] else ["query"])

def validate (desired : PaymentsPool) : Diagnostics :=
  requireGiven desired.name "name"
  ++ (match desired.query, desired.accounts with
    | some _, _ :: _ => [.invalid "query" "only one of 'accounts_ids' or 'query' can be set"]
    | none, [] => [.invalid "accounts_ids" "one of 'accounts_ids' or 'query' must be set"]
    | _, _ => [])
  ++ (match desired.query with
    | some query =>
      match Query.parse query with
      | .error error => [.invalid "query" error.message]
      | .ok _ => []
    | none => [])
  ++ (if desired.accounts.any Text.isBlank then
      [.invalid "accounts_ids" "account ids cannot be empty"]
    else [])

/-- What is reported where the identifier is not known. -/
def missingId : Diagnostic :=
  .invalid "id" "pool id is unknown; the pool must be created or imported first"

def request (desired : PaymentsPool) : Stack.PoolRequest :=
  ⟨desired.name, desired.accounts, givenQuery desired.query⟩

def create (desired : PaymentsPool) : Program (Transition PaymentsPool) :=
  if (validate desired).hasError then .done (.failed (validate desired))
  else whenReady .paymentsPool none <|
    .call (.createPool desired.request) fun
    | .error failure => .done (.failed [failure])
    | .ok id => .done (.ok { desired with id := some id })

def read (state : PaymentsPool) : Program (Transition PaymentsPool) :=
  match state.id with
  | none => .done (.keeping state [missingId])
  | some id => whenReady .paymentsPool (some state) <|
    .call (.getPool id) fun
    | .error failure => .done (.keeping state [failure])
    | .ok info => .done (.ok (state.applyRemote info))

/-- The changes of membership that lead from the observed accounts to the desired ones. -/
def changes (id : String) (observed desired : PaymentsPool) : List (Change PaymentsPool) :=
  let delta := Delta.between desired.accounts observed.accounts
  (delta.toAdd.map fun account =>
    ⟨"add account '" ++ account ++ "'", .addAccount id account,
      fun state => { state with accounts := state.accounts ++ [account] }⟩)
  ++ (delta.toRemove.map fun account =>
    ⟨"remove account '" ++ account ++ "'", .removeAccount id account,
      fun state => { state with accounts := state.accounts.filter (· != account) }⟩)

/-- The change of the query, where there is one. -/
def queryChange (id : String) (observed desired : PaymentsPool) : List (Change PaymentsPool) :=
  if observed.effectiveQuery.semanticallyEqual desired.effectiveQuery then []
  else [⟨"update query", .setPoolQuery id desired.effectiveQuery,
    fun state => { state with query := desired.query }⟩]

/-- What speaks against an update. -/
def objections (observed desired : PaymentsPool) : Diagnostics :=
  validate desired
  ++ (if observed.name = desired.name then [] else [requiresReplacement "name"])

/-- Change the members, and then the query. A failure among the members reports the members
alone. -/
def update (observed desired : PaymentsPool) : Program (Transition PaymentsPool) :=
  match observed.id with
  | none => .done (.keeping observed (objections observed desired ++ [missingId]))
  | some id =>
    if (objections observed desired).hasError then
      .done (.keeping observed (objections observed desired))
    else whenReady .paymentsPool (some observed) <|
      let members := changes id observed desired
      Change.runAll (fun state =>
        Change.runAll (fun _ => .done (.ok { desired with id := some id }))
          (members.map Change.label) state (queryChange id observed desired))
        [] observed members

def delete (state : PaymentsPool) : Program Diagnostics :=
  match state.id with
  | none => .done [missingId]
  | some id => deleteBy .paymentsPool (.deletePool id)

def resource : Resource PaymentsPool where
  kind := .paymentsPool
  decode := decode
  encode := encode
  replaceFields := replaceFields
  changedFields := changedFields
  check? := some validate
  create := create
  read := read
  update := update
  delete := delete
  adopt? := some fun id => adoptBy read ⟨some id, "", [], none⟩

end PaymentsPool

end Converge.Resource
