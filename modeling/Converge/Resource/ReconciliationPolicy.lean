import Converge.Query
import Converge.Resource

/-!
# Reconciliation policies

A policy compares the accounts that a query selects in a ledger with a payments pool. It
cannot be updated: every difference asks for a replacement.
-/

namespace Converge.Resource

open Decode (Fields text dynamic)
open Encode (field optional)
open Remote

structure ReconciliationPolicy where
  id : Option String
  /-- When the stack created the policy, in the format of RFC 3339. -/
  createdAt : Option String
  name : String
  ledgerName : String
  paymentsPool : String
  ledgerQuery : Option Value

namespace ReconciliationPolicy

def decode {σ : Type} [Decode.Source σ] : Decode.Decoder σ ReconciliationPolicy :=
  Decode.record "struct ReconciliationPolicyModel"
    ((Fields.none ReconciliationPolicy.mk).optional "id" text |>.optional "created_at" text
      |>.required "name" text |>.required "ledger_name" text
      |>.required "payments_pool_id" text |>.optional "ledger_query" dynamic)

def encode : Encode.Encoder ReconciliationPolicy := fun policy =>
  Encode.record [optional "id" Encode.text policy.id,
    optional "created_at" Encode.text policy.createdAt,
    field "name" Encode.text policy.name,
    field "ledger_name" Encode.text policy.ledgerName,
    field "payments_pool_id" Encode.text policy.paymentsPool,
    optional "ledger_query" Encode.dynamic policy.ledgerQuery]

/-- The query as the stack is told it: anything but an object is the empty one. -/
def queryObject (policy : ReconciliationPolicy) : Dictionary Value :=
  (policy.ledgerQuery.bind Value.asMap?).getD ∅

/-- Take over what the stack reports; an empty query is not taken over. -/
def applyRemote (policy : ReconciliationPolicy) (info : Stack.Policy) :
    ReconciliationPolicy where
  id := some info.id
  createdAt := some info.createdAt.renderOffset
  name := info.name
  ledgerName := info.ledgerName
  paymentsPool := info.paymentsPool
  ledgerQuery :=
    ((info.ledgerQuery.filter fun query => !query.isEmpty).map Value.ofDictionary).or
      policy.ledgerQuery

def replaceFields : List String := ["name", "ledger_name", "payments_pool_id", "ledger_query"]

def changedFields (prior desired : ReconciliationPolicy) : List String :=
  (if prior.name = desired.name then [] else ["name"])
  ++ (if prior.ledgerName = desired.ledgerName then [] else ["ledger_name"])
  ++ (if prior.paymentsPool = desired.paymentsPool then [] else ["payments_pool_id"])
  ++ (if (Value.ofDictionary prior.queryObject).semanticallyEqual
        (.ofDictionary desired.queryObject) then []
    else ["ledger_query"])

def validate (desired : ReconciliationPolicy) : Diagnostics :=
  requireGiven desired.name "name" ++ requireGiven desired.ledgerName "ledger_name"
  ++ requireGiven desired.paymentsPool "payments_pool_id"
  ++ (match desired.ledgerQuery with
    | some query =>
      match Query.parse query with
      | .error error => [.invalid "ledger_query" error.message]
      | .ok _ => []
    | none => [])

/-- What is reported where the identifier is not known. -/
def missingId : Diagnostic :=
  .invalid "id" "policy id is unknown; the policy must be created first"

def request (desired : ReconciliationPolicy) : Stack.PolicyRequest :=
  ⟨desired.name, desired.ledgerName, desired.queryObject, desired.paymentsPool⟩

def create (desired : ReconciliationPolicy) : Program (Transition ReconciliationPolicy) :=
  if (validate desired).hasError then .done (.failed (validate desired))
  else whenReady .reconciliationPolicy none <|
    .call (.createPolicy desired.request) fun
    | .error failure => .done (.failed [failure])
    | .ok info => .done (.ok { desired with
        id := some info.id, createdAt := some info.createdAt.renderOffset })

def read (state : ReconciliationPolicy) : Program (Transition ReconciliationPolicy) :=
  match state.id with
  | none => .done (.keeping state [missingId])
  | some id => whenReady .reconciliationPolicy (some state) <|
    .call (.getPolicy id) fun
    | .error failure => .done (.keeping state [failure])
    | .ok info => .done (.ok (state.applyRemote info))

def update (observed desired : ReconciliationPolicy) :
    Program (Transition ReconciliationPolicy) :=
  .done (.keeping observed ((changedFields observed desired).map requiresReplacement))

def delete (state : ReconciliationPolicy) : Program Diagnostics :=
  match state.id with
  | none => .done [missingId]
  | some id => deleteBy .reconciliationPolicy (.deletePolicy id)

def resource : Resource ReconciliationPolicy where
  kind := .reconciliationPolicy
  decode := decode
  encode := encode
  replaceFields := replaceFields
  changedFields := changedFields
  check? := some validate
  create := create
  read := read
  update := update
  delete := delete
  adopt? := some fun id => adoptBy read ⟨some id, none, "", "", "", none⟩

end ReconciliationPolicy

end Converge.Resource
