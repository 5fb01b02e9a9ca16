import Converge.Resource

/-!
# Ledger schemas

A schema is a version of a ledger's chart of accounts and transaction templates. It is
inserted once and never updated or deleted. The chart is a tree of segments: a plain key
leads to a further segment, a dotted key is a property of the segment it stands in.
-/

namespace Converge.Resource

open Decode (Fields text dynamic)
open Encode (field optional)
open Remote

structure LedgerSchema where
  ledger : String
  version : String
  chart : Option Value
  transactions : Option Value
  idempotencyKey : Option String

namespace LedgerSchema

def decode {σ : Type} [Decode.Source σ] : Decode.Decoder σ LedgerSchema :=
  Decode.record "struct LedgerSchemaModel"
    ((Fields.none LedgerSchema.mk).required "ledger" text |>.required "version" text
      |>.optional "chart" dynamic |>.optional "transactions" dynamic
      |>.optional "idempotency_key" text)

def encode : Encode.Encoder LedgerSchema := fun schema =>
  Encode.record [field "ledger" Encode.text schema.ledger,
    field "version" Encode.text schema.version,
    optional "chart" Encode.dynamic schema.chart,
    optional "transactions" Encode.dynamic schema.transactions,
    optional "idempotency_key" Encode.text schema.idempotencyKey]

/-! ## Validation -/

/-- The report that a value is of the wrong kind. -/
def wrongKind (path : String) (expected found : Value.Kind) : Diagnostic :=
  .invalid path (path ++ ": expected " ++ expected.name ++ ", found " ++ found.name)

/-- The report that a value is of another kind than it has to be, if it is. -/
def expectKind (path : String) (expected : Value.Kind) (value : Value) : Diagnostics :=
  if value.kind = expected then [] else [wrongKind path expected value.kind]

/-- The kind that a property of a segment has to be of. -/
def propertyKind? (key : String) : Option Value.Kind :=
  if key = ".pattern" then some .text
  else if key = ".metadata" ∨ key = ".self" then some .map
  else if key = ".rules" then some .list
  else none

/-- Judge the entries of a segment in key order. -/
def validateSegments (path : String) : List (String × Value) → Diagnostics
  | [] => []
  | (key, value) :: rest =>
    let place := path ++ "." ++ key
    (match propertyKind? key with
      | some expected => expectKind place expected value
      | none =>
        if key.startsWith "." then
          [.invalid place (place ++ ": unknown segment property '" ++ key ++ "'")]
        else
          match value with
          | .map children => validateSegments place children
          | other => [wrongKind place .map other.kind])
    ++ validateSegments path rest

/-- The runtimes that a transaction template may ask for. -/
def runtimes : List String := ["experimental-interpreter", "machine"]

/-- Judge the script of a template, which has to be there. -/
def validateScript (path : String) : Option Value → Diagnostics
  | some value =>
    match value with
    | .text _ => []
    | other => [wrongKind (path ++ ".script") .text other.kind]
  | none => [.invalid (path ++ ".script") (path ++ ": missing required field 'script'")]

/-- Judge the description of a template. -/
def validateDescription (path : String) : Option Value → Diagnostics
  | none | some .null | some (.text _) => []
  | some other => [wrongKind (path ++ ".description") .text other.kind]

/-- Whether a value names a runtime, or leaves it open. -/
def isRuntime : Value → Bool
  | .null => true
  | .text name => runtimes.contains name
  | _ => false

/-- Judge the runtime of a template. -/
def validateRuntime (path : String) : Option Value → Diagnostics
  | none => []
  | some value =>
    if isRuntime value then []
    else [.invalid (path ++ ".runtime") (path ++ ".runtime: must be one of "
      ++ ", ".intercalate runtimes ++ ", found " ++ value.render)]

/-- Judge a transaction template. -/
def validateTemplate (name : String) (template : Value) : Diagnostics :=
  let path := "transactions." ++ name
  match template with
  | .map fields =>
    validateScript path (Entries.find? "script" fields)
    ++ validateDescription path (Entries.find? "description" fields)
    ++ validateRuntime path (Entries.find? "runtime" fields)
  | other => [wrongKind path .map other.kind]

/-- Judge a chart. -/
def validateChart : Value → Diagnostics
  | .map segments => validateSegments "chart" segments
  | other => [wrongKind "chart" .map other.kind]

/-- Judge the transaction templates, by name. -/
def validateTransactions : Value → Diagnostics
  | .map templates => templates.flatMap fun (name, template) => validateTemplate name template
  | other => [wrongKind "transactions" .map other.kind]

def validate (desired : LedgerSchema) : Diagnostics :=
  requireGiven desired.ledger "ledger" ++ requireGiven desired.version "version"
  ++ (if desired.chart.isNone ∧ desired.transactions.isNone then
      [.invalid "chart" "at least one of 'chart' or 'transactions' must be set"]
    else [])
  ++ (match desired.chart with
    | some chart => validateChart chart
    | none => [])
  ++ (match desired.transactions with
    | some transactions => validateTransactions transactions
    | none => [])

/-! ## Transitions -/

/-- What the stack reports counts where it says anything; an empty document is kept only
for what is declared. -/
def remoteOrPrior (remote : Value) (declared : Bool) : Option Value :=
  match remote with
  | .null | .map [] => if declared then some (.map []) else none
  | other => some other

/-- Take over what the stack reports. -/
def applyRemote (schema : LedgerSchema) (info : Stack.Schema) : LedgerSchema where
  ledger := schema.ledger
  version := if info.version.isEmpty then schema.version else info.version
  chart := remoteOrPrior info.chart schema.chart.isSome
  transactions := remoteOrPrior info.transactions schema.transactions.isSome
  idempotencyKey := schema.idempotencyKey

def replaceFields : List String := ["ledger", "version", "chart", "transactions"]

/-- Whether two optional documents are both absent or mean the same. -/
def sameDocument : Option Value → Option Value → Bool
  | none, none => true
  | some left, some right => left.semanticallyEqual right
  | _, _ => false

def changedFields (prior desired : LedgerSchema) : List String :=
  (if prior.ledger = desired.ledger then [] else ["ledger"])
  ++ (if prior.version = desired.version then [] else ["version"])
  ++ (if sameDocument prior.chart desired.chart then [] else ["chart"])
  ++ (if sameDocument prior.transactions desired.transactions then [] else ["transactions"])
  ++ (if prior.idempotencyKey = desired.idempotencyKey then [] else ["idempotency_key"])

def request (desired : LedgerSchema) : Stack.SchemaRequest :=
  ⟨desired.chart, desired.transactions⟩

def create (desired : LedgerSchema) : Program (Transition LedgerSchema) :=
  if (validate desired).hasError then .done (.failed (validate desired))
  else whenReady .ledgerSchema none <|
    .call (.command (.insertSchema desired.ledger desired.version desired.request
      desired.idempotencyKey)) fun
    | .error failure => .done (.failed [failure])
    | .ok () => .done (.ok desired)

def read (state : LedgerSchema) : Program (Transition LedgerSchema) :=
  whenReady .ledgerSchema (some state) <|
    .call (.getSchema state.ledger state.version) fun
    | .error failure => .done (.keeping state [failure])
    | .ok info => .done (.ok (state.applyRemote info))

/-- Only the idempotency key, which the stack does not hold, is taken over. -/
def update (observed desired : LedgerSchema) : Program (Transition LedgerSchema) :=
  .done (.keeping { observed with idempotencyKey := desired.idempotencyKey }
    [.unsupported "ledger schemas cannot be updated; bump the version to insert a new schema"])

def delete (state : LedgerSchema) : Program Diagnostics :=
  .done [.unsupported ("schema '" ++ state.version ++ "' of ledger '" ++ state.ledger
    ++ "' cannot be deleted remotely; it was only removed from local state")]

def resource : Resource LedgerSchema where
  kind := .ledgerSchema
  decode := decode
  encode := encode
  replaceFields := replaceFields
  changedFields := changedFields
  check? := some validate
  create := create
  read := read
  update := update
  delete := delete
  adopt? := none

end LedgerSchema

end Converge.Resource
