import Converge.Decode

/-!
# Payment pools of a stack

A pool collects accounts, either by name or by a query.
-/

namespace Converge.Stack

open Decode

variable {σ : Type} [Source σ]

/-- A list of texts as a document. -/
def listToJson (texts : List String) : Json := .array (texts.map .string)

/-- What a pool is created with. -/
structure PoolRequest where
  name : String
  accounts : List String
  query : Option Value

namespace PoolRequest

def decode : Decoder σ PoolRequest :=
  record "struct CreatePoolRequest"
    ((Fields.none PoolRequest.mk).required "name" text
      |>.defaulted "accountIDs" (list text) [] |>.optional "query" dynamic)

def toJson (request : PoolRequest) : Json :=
  .ofEntries (
    [("name", .string request.name)]
    ++ (if request.accounts.isEmpty then [] else [("accountIDs", listToJson request.accounts)])
    ++ Json.member "query" (request.query.map Value.encode))

end PoolRequest

/-- A pool as the stack reports it. -/
structure Pool where
  id : String
  name : String
  createdAt : Option String
  accounts : List String
  query : Option Value

namespace Pool

def decode : Decoder σ Pool :=
  record "struct Pool"
    ((Fields.none Pool.mk).required "id" text |>.required "name" text
      |>.optional "createdAt" text |>.defaulted "poolAccounts" (list text) []
      |>.optional "query" dynamic)

def toJson (pool : Pool) : Json :=
  .ofEntries (
    [("id", .string pool.id), ("name", .string pool.name)]
    ++ Json.member "createdAt" (pool.createdAt.map .string)
    ++ [("poolAccounts", listToJson pool.accounts)]
    ++ Json.member "query" (pool.query.map Value.encode))

end Pool

/-- A new query for a pool. -/
structure PoolQuery where
  query : Value

namespace PoolQuery

def decode : Decoder σ PoolQuery :=
  record "struct UpdatePoolQueryRequest" ((Fields.none PoolQuery.mk).required "query" dynamic)

def toJson (request : PoolQuery) : Json := .ofEntries [("query", request.query.encode)]

end PoolQuery

end Converge.Stack
