import Converge.Decode

/-!
# Ledgers of a stack

Ledgers, their metadata and their schemas as the stack's interface writes them.
-/

namespace Converge.Stack

open Decode

variable {σ : Type} [Source σ]

/-- A dictionary of texts, as metadata and features are. -/
def textsToJson (texts : Dictionary String) : Json := .ofDictionary (texts.mapValues .string)

/-- What a ledger is created with. -/
structure LedgerRequest where
  bucket : Option String
  metadata : Dictionary String
  features : Dictionary String
deriving DecidableEq

namespace LedgerRequest

def decode : Decoder σ LedgerRequest :=
  record "struct CreateLedgerRequest"
    ((Fields.none LedgerRequest.mk).optional "bucket" text
      |>.defaulted "metadata" (dictionary text) ∅
      |>.defaulted "features" (dictionary text) ∅)

def toJson (request : LedgerRequest) : Json :=
  .ofEntries (
    Json.member "bucket" (request.bucket.map .string)
    ++ (if request.metadata.isEmpty then [] else [("metadata", textsToJson request.metadata)])
    ++ (if request.features.isEmpty then [] else [("features", textsToJson request.features)]))

end LedgerRequest

/-- A ledger as the stack reports it. -/
structure Ledger where
  name : String
  bucket : String
  metadata : Dictionary String
  features : Dictionary String
  addedAt : Option String
deriving DecidableEq

namespace Ledger

def decode : Decoder σ Ledger :=
  record "struct LedgerInfo"
    ((Fields.none Ledger.mk).required "name" text |>.defaulted "bucket" text ""
      |>.defaulted "metadata" (dictionary text) ∅
      |>.defaulted "features" (dictionary text) ∅
      |>.optional "addedAt" text)

def toJson (ledger : Ledger) : Json :=
  .ofEntries (
    [("name", .string ledger.name), ("bucket", .string ledger.bucket),
      ("metadata", textsToJson ledger.metadata), ("features", textsToJson ledger.features)]
    ++ Json.member "addedAt" (ledger.addedAt.map .string))

end Ledger

/-- What a schema is inserted with. -/
structure SchemaRequest where
  chart : Option Value
  transactions : Option Value

namespace SchemaRequest

def decode : Decoder σ SchemaRequest :=
  record "struct SchemaData"
    ((Fields.none SchemaRequest.mk).optional "chart" dynamic
      |>.optional "transactions" dynamic)

def toJson (request : SchemaRequest) : Json :=
  .ofEntries (
    Json.member "chart" (request.chart.map Value.encode)
    ++ Json.member "transactions" (request.transactions.map Value.encode))

end SchemaRequest

/-- A ledger's schema as the stack reports it. -/
structure Schema where
  version : String
  chart : Value
  transactions : Value
  createdAt : Option String

namespace Schema

def decode : Decoder σ Schema :=
  record "struct SchemaInfo"
    ((Fields.none Schema.mk).required "version" text |>.defaulted "chart" dynamic .null
      |>.defaulted "transactions" dynamic .null |>.optional "createdAt" text)

def toJson (schema : Schema) : Json :=
  .ofEntries (
    [("version", .string schema.version), ("chart", schema.chart.encode),
      ("transactions", schema.transactions.encode)]
    ++ Json.member "createdAt" (schema.createdAt.map .string))

end Schema

end Converge.Stack
