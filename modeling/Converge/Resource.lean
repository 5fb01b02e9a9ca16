import Converge.Decode.Document
import Converge.Encode
import Converge.Remote.Program
import Converge.Resource.Kind

/-!
# Resources

A resource kind says how one kind of remote object is compared, validated, created, read,
updated, deleted and perhaps imported. Transitions do not fail: they end with a state and
diagnostics. Each one judges its input first, then waits for the module, then makes its
calls one at a time; the first failure ends it, and nothing is tried again.
-/

namespace Converge

open Remote

/-! ## Plans -/

/-- What has to be done to converge. -/
inductive Plan.Action where
  | create
  | noOp
  | update
  | replace
deriving DecidableEq, Repr

def Plan.Action.name : Plan.Action → String
  | .create => "create"
  | .noOp => "no_op"
  | .update => "update"
  | .replace => "replace"

/-- The comparison of a state with what is desired. -/
structure Plan where
  action : Plan.Action
  /-- The fields that differ. -/
  changed : List String
  /-- Those of them that cannot be updated in place. -/
  requiresReplace : List String
deriving DecidableEq, Repr

namespace Plan

/-- The plan for what does not exist yet. -/
def creation : Plan := ⟨.create, [], []⟩

/-- The plan for fields that differ, of which some cannot be updated in place. -/
def ofChanges (changed replaceFields : List String) : Plan :=
  let requiresReplace := changed.filter replaceFields.contains
  ⟨if changed.isEmpty then .noOp else if requiresReplace.isEmpty then .update else .replace,
    changed, requiresReplace⟩

def toJson (plan : Plan) : Json :=
  .ofEntries [("action", .string plan.action.name),
    ("changed", .array (plan.changed.map .string)),
    ("requires_replace", .array (plan.requiresReplace.map .string))]

end Plan

/-! ## Resource kinds -/

/-- What can be done with one kind of remote object, whose states and declarations are of
type `M`. -/
structure Resource (M : Type) where
  kind : Kind
  decode : Decode.Decoder Json M
  encode : Encode.Encoder M
  /-- The fields that cannot be updated in place. -/
  replaceFields : List String
  /-- The fields in which a state differs from what is desired. -/
  changedFields : (prior desired : M) → List String
  /-- What can be judged without the stack. -/
  check? : Option (M → Diagnostics)
  create : (desired : M) → Program (Transition M)
  read : (state : M) → Program (Transition M)
  update : (observed desired : M) → Program (Transition M)
  delete : (state : M) → Program Diagnostics
  /-- Take over what exists under an identifier. -/
  adopt? : Option (String → Program (Transition M))

namespace Resource

variable {M : Type}

/-- Compare a state, or none, with what is desired. -/
def plan (resource : Resource M) (prior : Option M) (desired : M) : Plan :=
  match prior with
  | none => .creation
  | some prior => .ofChanges (resource.changedFields prior desired) resource.replaceFields

/-- Judge a declaration. A kind without judgement accepts everything. -/
def validate (resource : Resource M) (desired : M) : Diagnostics :=
  match resource.check? with
  | some check => check desired
  | none => []

/-- Take over what exists under an identifier, if the kind can. -/
def adopt (resource : Resource M) (id : String) : Program (Transition M) :=
  match resource.adopt? with
  | some program => program id
  | none =>
    .done (.failed [.error .unsupported "IMPORT_UNSUPPORTED"
      ("resource '" ++ resource.kind.name ++ "' cannot be imported")])

/-! ## Shared pieces of transitions -/

/-- What is reported about a text that has to be given. -/
def requireGiven (value subject : String) : Diagnostics :=
  if Text.isBlank value then [.invalid subject ("'" ++ subject ++ "' cannot be empty")] else []

/-- What is reported about a field that cannot be changed in place. -/
def requiresReplacement (field : String) : Diagnostic :=
  (Diagnostic.error .invalidConfiguration "REQUIRES_REPLACEMENT"
    ("'" ++ field ++ "' cannot be changed in place; the resource must be replaced")).withSubject
    field

/-- A list of changes in parentheses, unless there are none. -/
def listed (intro : String) (labels : List String) : String :=
  if labels.isEmpty then "" else " (" ++ intro ++ ": " ++ ", ".intercalate labels ++ ")"

/-- What is reported when an update stops between its changes. -/
def partialUpdate (applied pending : List String) : Diagnostic :=
  .error .partialUpdate "PARTIAL_UPDATE"
    ("update stopped after " ++ toString applied.length ++ " of "
      ++ toString (applied.length + pending.length)
      ++ " changes; local state may differ from the remote, read the resource to resynchronize"
      ++ listed "applied" applied ++ listed "not applied" pending)

/-- What is reported when a change fails. -/
def stopped (failure : Diagnostic) (applied pending : List String) : Diagnostics :=
  if applied.isEmpty then [failure] else [failure, partialUpdate applied pending]

/-- One change of a state that the stack has to be told of. -/
structure Change (M : Type) where
  label : String
  command : Command
  /-- The state once the stack has made the change. -/
  apply : M → M

namespace Change

/-- Make changes in turn. The first that fails ends the update with the state so far;
`applied` are the labels of the changes made. -/
def runAll (finish : M → Program (Transition M)) (applied : List String) (state : M) :
    List (Change M) → Program (Transition M)
  | [] => finish state
  | change :: rest => .call (.command change.command) fun
    | .error failure =>
      .done (.keeping state
        (stopped failure applied ((change :: rest).map Change.label)))
    | .ok () => runAll finish (applied ++ [change.label]) (change.apply state) rest

end Change

/-- Wait for the module before going on; otherwise end with the given state. -/
def whenReady (kind : Kind) (state : Option M) (next : Program (Transition M)) :
    Program (Transition M) :=
  .await kind.module fun
  | .error diagnostic => .done ⟨state, [diagnostic]⟩
  | .ok () => next

/-- Delete by one command once the module is healthy. -/
def deleteBy (kind : Kind) (command : Command) : Program Diagnostics :=
  .await kind.module fun
  | .error diagnostic => .done [diagnostic]
  | .ok () => .call (.command command) fun
    | .error diagnostic => .done [diagnostic]
    | .ok () => .done []

/-- Import by reading a state that holds only the identifier. -/
def adoptBy (read : M → Program (Transition M)) (state : M) : Program (Transition M) :=
  (read state).map fun transition =>
    if transition.hasError then .failed transition.diagnostics else transition

end Resource

end Converge
