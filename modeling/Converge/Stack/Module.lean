import Converge.Decode

/-!
# Modules of a stack

A stack is made of modules. The stack lists them with their version and whether each is
healthy.
-/

namespace Converge.Stack

open Decode

/-- One module of the stack as it is listed. -/
structure Module where
  name : String
  version : String
  healthy : Bool
deriving DecidableEq, Repr

/-- What the stack lists. -/
structure Listing where
  region : Option String
  environment : Option String
  modules : List Module
deriving DecidableEq, Repr

variable {σ : Type} [Source σ]

def Module.decode : Decoder σ Module :=
  record "struct ModuleVersion"
    ((Fields.none Module.mk).required "name" text |>.required "version" text
      |>.required "health" bool)

def Module.toJson (module : Module) : Json :=
  .ofEntries [("name", .string module.name), ("version", .string module.version),
    ("health", .bool module.healthy)]

namespace Listing

def decode : Decoder σ Listing :=
  record "struct VersionsResponse"
    ((Fields.none Listing.mk).optional "region" text |>.optional "env" text
      |>.defaulted "versions" (list Module.decode) [])

def toJson (listing : Listing) : Json :=
  .ofEntries (
    Json.member "region" (listing.region.map .string)
    ++ Json.member "env" (listing.environment.map .string)
    ++ [("versions", .array (listing.modules.map Module.toJson))])

/-- The first entry with the given name; entries behind it do not count. -/
def module? (name : String) (listing : Listing) : Option Module :=
  listing.modules.find? (·.name == name)

/-- Whether the listing calls the module healthy. -/
def isHealthy (name : String) (listing : Listing) : Bool :=
  match listing.module? name with
  | some module => module.healthy
  | none => false

end Listing

end Converge.Stack
