import Converge.Decode.Document
import Converge.Yaml.Document

/-!
# YAML texts as a source

Types are read from the nodes of a YAML text. A text is taken from any scalar, however it
is written and whatever it would mean; a boolean or a number only from a plain scalar, or
from a literal block with the tag of its type. An empty place counts as an empty collection.
-/

namespace Converge.Yaml

open Decode

/-- A node, with the anchored nodes that it may refer to and the levels that are left. -/
structure View where
  anchored : List (Nat × Node)
  levels : Nat
  node : Node

namespace View

def resolved (view : View) : Node := view.node.follow view.anchored

/-- Another node seen from the same level. -/
def onto (view : View) (node : Node) : View := { view with node }

/-- Whether a scalar is read by how it is written: a plain one, or a literal block with the
tag of that name. -/
def isBare (properties : Properties) (style : Style) (tag : String) : Bool :=
  style == .plain || (style == .literal && properties.tag == some (standardTag tag))

/-- What a node holds, as far as messages tell. -/
def found (view : View) : Found :=
  match view.resolved with
  | .sequence _ _ => .list
  | .mapping _ _ => .map
  | .scalar _ style text =>
    if style == .plain then
      match Meaning.ofText text with
      | .null => .null
      | .bool value => .bool value
      | .whole value => .integer value
      | .real value => .real value
      | .text => .text text
    else .text text
  | .alias _ => .null

def mismatch {α : Type} (view : View) (expected : String) : Except Fault α :=
  .error (.unexpectedType view.found expected)

/-- The text of a scalar that is read by how it is written. -/
def bareText? (view : View) (tag : String) : Option String :=
  match view.resolved with
  | .scalar properties style text => if isBare properties style tag then some text else none
  | _ => none

/-- A scalar as a value of a type. -/
def bare {α : Type} (view : View) (tag expected : String) (read : String → Option α) :
    Except Fault α :=
  match (view.bareText? tag).bind read with
  | some value => .ok value
  | none => view.mismatch expected

/-- Whether nothing is written for a node. -/
def isEmptyPlace : Node → Bool
  | .scalar _ style text => style == .plain && text.isEmpty
  | _ => false

/-- The view of what is inside a collection. -/
def enter (view : View) : Except Fault View :=
  if view.levels = 0 then .error (.broken .keep .tooDeep)
  else .ok { view with levels := view.levels - 1 }

/-- The items of a sequence. -/
def items (view : View) (expected : String) : Except Fault (Run View) :=
  match view.resolved with
  | .sequence _ items => do
    let inside ← view.enter
    return .whole (items.map inside.onto)
  | node => if isEmptyPlace node then .ok (.whole []) else view.mismatch expected

/-- The entries of a mapping, up to the first whose key is no scalar. -/
def membersOf (inside : View) : List (Node × Node) → Run (String × View)
  | [] => .whole []
  | (key, value) :: entries =>
    match keyText? (key.follow inside.anchored) with
    | none => ⟨[], some (.unexpectedType (inside.onto key).found "field identifier")⟩
    | some text =>
      let run := membersOf inside entries
      { run with items := (text, inside.onto value) :: run.items }

def members (view : View) (expected : String) : Except Fault (Run (String × View)) :=
  match view.resolved with
  | .mapping _ entries => do
    let inside ← view.enter
    return inside.membersOf entries
  | node => if isEmptyPlace node then .ok (.whole []) else view.mismatch expected

/-- The view of a node unless it is null. A scalar with the tag of null has to be null. -/
def present? (view : View) : Except Fault (Option View) :=
  match view.resolved with
  | .scalar properties .plain text =>
    match properties.tag with
    | some tag =>
      if tag != standardTag "null" then .ok (some view)
      else if isNullText text then .ok none
      else .error (.unexpectedValue (.text text) "null")
    | none => .ok (if text.isEmpty || isNullText text then none else some view)
  | _ => .ok (some view)

end View

instance : Source View where
  text expected view :=
    match view.resolved with
    | .scalar _ _ text => .ok text
    | _ => view.mismatch expected
  bool view := view.bare "bool" "a boolean" boolOf?
  int64 view := view.bare "int" "i64" fun text =>
    ((wholeOf? text.toList).filter fun value =>
      Int64.minValue.toInt ≤ value && value ≤ Int64.maxValue.toInt).map Int64.ofInt
  uint64 view := view.bare "int" "u64" fun text =>
    ((naturalOf? text.toList).filter fun value => value < UInt64.size).map UInt64.ofNat
  document view :=
    match (view.node.document view.anchored view.node.aliasLimit view.levels).run 0 with
    | some (document, _) => .ok document
    | none => view.mismatch "any value"
  skip _ := .ok ()
  present? := View.present?
  list view := view.items "a sequence"
  map view := view.members "a map"
  record expected view := (view.members expected).map .named
  choice select view :=
    match view.resolved with
    | .scalar _ _ text => select text
    | _ => view.mismatch "a name"

/-- Read a type from a text; a text that is not in order says nothing more. -/
def ofText? {α : Type} (decode : Decoder View α) (text : String) : Option α := do
  let root ← Node.ofText? text
  (decode ⟨root.anchored, nestingLimit, root⟩).toOption

end Converge.Yaml
