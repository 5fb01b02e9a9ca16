import Converge.Membership
import Converge.Resource

/-!
# Ledgers

A ledger is identified by its name. Bucket and features are fixed when it is created;
metadata is updated in place, by one call that sets what is new or different and one call
for each key that goes. The stack fills in the bucket where none is declared, and reports
more features than are declared, of which only the declared ones are looked at. Ledgers
cannot be deleted.
-/

namespace Converge.Resource

open Decode (Fields text dictionary)
open Encode (field optional omitIf)
open Remote

structure Ledger where
  name : String
  bucket : Option String
  features : Dictionary String
  metadata : Dictionary String
deriving DecidableEq

namespace Ledger

def decode {σ : Type} [Decode.Source σ] : Decode.Decoder σ Ledger :=
  Decode.record "struct LedgerModel"
    ((Fields.none Ledger.mk).required "name" text |>.optional "bucket" text
      |>.defaulted "features" (dictionary text) ∅ |>.defaulted "metadata" (dictionary text) ∅)

def encode : Encode.Encoder Ledger := fun ledger =>
  Encode.record [field "name" Encode.text ledger.name,
    optional "bucket" Encode.text ledger.bucket,
    omitIf ledger.features.isEmpty
      (field "features" (Encode.dictionary Encode.text) ledger.features),
    field "metadata" (Encode.dictionary Encode.text) ledger.metadata]

/-- Take over what the stack reports. Features that are not declared are left out. -/
def applyRemote (ledger : Ledger) (info : Stack.Ledger) : Ledger where
  name := if info.name.isEmpty then ledger.name else info.name
  bucket := if info.bucket.isEmpty then ledger.bucket else some info.bucket
  features := info.features.filterKeys ledger.features.contains
  metadata := info.metadata

def replaceFields : List String := ["name", "bucket", "features"]

def changedFields (prior desired : Ledger) : List String :=
  (if prior.name = desired.name then [] else ["name"])
  ++ (if desired.bucket.isNone ∨ prior.bucket = desired.bucket then [] else ["bucket"])
  ++ (if prior.features = desired.features then [] else ["features"])
  ++ (if prior.metadata = desired.metadata then [] else ["metadata"])

def validate (desired : Ledger) : Diagnostics :=
  requireGiven desired.name "name"
  ++ (match desired.bucket with
    | some bucket => requireGiven bucket "bucket"
    | none => [])

def request (desired : Ledger) : Stack.LedgerRequest :=
  ⟨desired.bucket, desired.metadata, desired.features⟩

/-- What is reported when a new ledger cannot be read back: the ledger is there. -/
def notReadBack (failure : Diagnostic) : Diagnostic :=
  { failure with
    severity := .warning
    message := "ledger created but could not be read back: " ++ failure.message }

/-- Create the ledger and read it back, since the answer does not tell its bucket. -/
def create (desired : Ledger) : Program (Transition Ledger) :=
  if (validate desired).hasError then .done (.failed (validate desired))
  else whenReady .ledger none <|
    .call (.command (.createLedger desired.name desired.request)) fun
    | .error failure => .done (.failed [failure])
    | .ok () => .call (.getLedger desired.name) fun
      | .error failure => .done (.keeping desired [notReadBack failure])
      | .ok info => .done (.ok (desired.applyRemote info))

def read (state : Ledger) : Program (Transition Ledger) :=
  whenReady .ledger (some state) <|
    .call (.getLedger state.name) fun
    | .error failure => .done (.keeping state [failure])
    | .ok info => .done (.ok (state.applyRemote info))

/-- The desired metadata that is new or different. -/
def upserts (observed desired : Ledger) : Dictionary String :=
  desired.metadata.filter fun key value => observed.metadata.get? key != some value

/-- The keys of metadata that are not desired any more. -/
def removals (observed desired : Ledger) : List String :=
  (Delta.between desired.metadata.keys observed.metadata.keys).toRemove

/-- The changes that lead from the observed metadata to the desired one. -/
def changes (observed desired : Ledger) : List (Change Ledger) :=
  let upserts := upserts observed desired
  (if upserts.isEmpty then []
    else [⟨"set metadata " ++ ", ".intercalate upserts.keys,
      .setLedgerMetadata observed.name upserts,
      fun state => { state with metadata := state.metadata.extend upserts }⟩])
  ++ (removals observed desired).map fun key =>
    ⟨"delete metadata '" ++ key ++ "'", .deleteLedgerMetadata observed.name key,
      fun state => { state with metadata := state.metadata.erase key }⟩

/-- What speaks against an update. -/
def objections (observed desired : Ledger) : Diagnostics :=
  validate desired
  ++ ((changedFields observed desired).filter replaceFields.contains).map requiresReplacement

def update (observed desired : Ledger) : Program (Transition Ledger) :=
  if (objections observed desired).hasError then
    .done (.keeping observed (objections observed desired))
  else whenReady .ledger (some observed) <|
    Change.runAll (fun state => .done (.ok state)) [] observed (changes observed desired)

def delete (state : Ledger) : Program Diagnostics :=
  .done [.unsupported ("ledger '" ++ state.name
    ++ "' cannot be deleted remotely; it was only removed from local state")]

def resource : Resource Ledger where
  kind := .ledger
  decode := decode
  encode := encode
  replaceFields := replaceFields
  changedFields := changedFields
  check? := some validate
  create := create
  read := read
  update := update
  delete := delete
  adopt? := some fun id => adoptBy read ⟨id, none, ∅, ∅⟩

end Ledger

end Converge.Resource
