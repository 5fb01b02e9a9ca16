import Converge.Decode

/-!
# Reconciliation policies of a stack

A policy compares the accounts of a ledger that a query selects with a payments pool.
-/

namespace Converge.Stack

open Decode

variable {σ : Type} [Source σ]

/-- A dictionary of dynamic values as a document. -/
def valuesToJson (values : Dictionary Value) : Json := (Value.ofDictionary values).encode

/-- What a policy is created with. -/
structure PolicyRequest where
  name : String
  ledgerName : String
  ledgerQuery : Dictionary Value
  paymentsPool : String

namespace PolicyRequest

def decode : Decoder σ PolicyRequest :=
  record "struct PolicyRequest"
    ((Fields.none PolicyRequest.mk).required "name" text |>.required "ledgerName" text
      |>.defaulted "ledgerQuery" (dictionary dynamic) ∅ |>.required "paymentsPoolID" text)

def toJson (request : PolicyRequest) : Json :=
  .ofEntries [("name", .string request.name), ("ledgerName", .string request.ledgerName),
    ("ledgerQuery", valuesToJson request.ledgerQuery),
    ("paymentsPoolID", .string request.paymentsPool)]

end PolicyRequest

/-- A policy as the stack reports it. -/
structure Policy where
  id : String
  name : String
  ledgerName : String
  ledgerQuery : Option (Dictionary Value)
  paymentsPool : String
  createdAt : Timestamp

namespace Policy

def decode : Decoder σ Policy :=
  record "struct Policy"
    ((Fields.none Policy.mk).required "id" text |>.required "name" text
      |>.required "ledgerName" text |>.optional "ledgerQuery" (dictionary dynamic)
      |>.required "paymentsPoolID" text |>.required "createdAt" timestamp)

def toJson (policy : Policy) : Json :=
  .ofEntries (
    [("id", .string policy.id), ("name", .string policy.name),
      ("ledgerName", .string policy.ledgerName)]
    ++ Json.member "ledgerQuery" (policy.ledgerQuery.map valuesToJson)
    ++ [("paymentsPoolID", .string policy.paymentsPool),
      ("createdAt", .string policy.createdAt.render)])

end Policy

end Converge.Stack
