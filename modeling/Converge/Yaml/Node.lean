import Converge.Yaml.Token.Reading

/-!
# Nodes of YAML

A YAML document is a tree of scalars, sequences and mappings, in which an alias may stand
for a node that carries an anchor. Anchors are kept as numbers: that of an anchor is how
many names were known when it was met, so one that takes over a name does not take over the
number. `Node.ofTokens?` builds the tree of a text that holds at most one document.
-/

namespace Converge.Yaml

/-- What a node carries besides its content. -/
structure Properties where
  anchor : Option Nat
  tag : Option String
deriving DecidableEq, Repr

def Properties.none : Properties := ⟨.none, .none⟩

inductive Node where
  | scalar (properties : Properties) (style : Style) (text : String)
  | sequence (properties : Properties) (items : List Node)
  | mapping (properties : Properties) (entries : List (Node × Node))
  /-- The node with the anchor of that number. -/
  | alias (number : Nat)
deriving Repr, Inhabited

namespace Node

/-- The node that stands where nothing is written. -/
def empty (properties : Properties) : Node := .scalar properties .plain ""

def properties : Node → Properties
  | .scalar properties _ _ => properties
  | .sequence properties _ => properties
  | .mapping properties _ => properties
  | .alias _ => .none

/-- A node under the number of its anchor. -/
def labelled (node : Node) : List (Nat × Node) :=
  node.properties.anchor.toList.map fun number => (number, node)

mutual

/-- The nodes with anchors, in the order in which they begin. -/
def anchored : Node → List (Nat × Node)
  | .sequence properties items => labelled (.sequence properties items) ++ anchoredItems items
  | .mapping properties entries =>
    labelled (.mapping properties entries) ++ anchoredEntries entries
  | node => labelled node

def anchoredItems : List Node → List (Nat × Node)
  | [] => []
  | item :: items => anchored item ++ anchoredItems items

def anchoredEntries : List (Node × Node) → List (Nat × Node)
  | [] => []
  | (key, value) :: entries => anchored key ++ anchored value ++ anchoredEntries entries

end

mutual

/-- How many events tell of a node: one for a scalar or an alias, two for the start and the
end of a collection. -/
def size : Node → Nat
  | .sequence _ items => 2 + sizeItems items
  | .mapping _ entries => 2 + sizeEntries entries
  | _ => 1

def sizeItems : List Node → Nat
  | [] => 0
  | item :: items => size item + sizeItems items

def sizeEntries : List (Node × Node) → Nat
  | [] => 0
  | (key, value) :: entries => size key + size value + sizeEntries entries

end

end Node

/-! ## Reading -/

/-- What is left of the tokens, and the names that they have introduced. -/
structure NodeReading where
  tokens : List Token
  /-- The names of anchors, with their numbers. -/
  anchors : List (String × Nat)
  /-- What the handles of tags stand for. -/
  handles : List (String × String)

namespace NodeReading

/-- What reads a part of the tokens, if they are in order. -/
abbrev Reader := StateT NodeReading Option

def peek : Reader (Option Token) := do return (← get).tokens.head?

/-- Pass over a token. -/
def advance : Reader Unit :=
  modify fun reading => { reading with tokens := reading.tokens.drop 1 }

/-- Whether the next token has a property. -/
def isNext (property : Token → Bool) : Reader Bool := do return (← peek).any property

/-- Pass over a token if it comes next, and say whether it did. -/
def take (token : Token) : Reader Bool := do
  if (← peek) == some token then
    advance
    return true
  else return false

/-- The handles that need no directive. -/
def standardHandles : List (String × String) := [("!", "!"), ("!!", "tag:yaml.org,2002:")]

/-- What a tag stands for, which needs its handle to be known. -/
def expandTag (handle suffix : String) : Reader String := do
  if handle.isEmpty then return suffix
  else match (← get).handles.lookup handle with
    | some lead => return lead ++ suffix
    | none => failure

/-- The number of an anchor that is met. -/
def introduce (name : String) : Reader Nat := do
  let reading ← get
  let number := reading.anchors.length
  let others := reading.anchors.filter (·.1 != name)
  set { reading with anchors := (name, number) :: others }
  return number

/-- The anchor and the tag in front of a node, each at most once and in either order. -/
def properties : Reader Properties := do
  let mut anchor : Option Nat := none
  let mut tag : Option String := none
  if let some (.tag handle suffix) ← peek then
    advance
    tag := some (← expandTag handle suffix)
  if let some (.anchor name) ← peek then
    advance
    anchor := some (← introduce name)
  if tag.isNone then
    if let some (.tag handle suffix) ← peek then
      advance
      tag := some (← expandTag handle suffix)
  return ⟨anchor, tag⟩

/-- Which tokens leave a place in a collection empty. -/
def endsItem : Token → Bool
  | .blockEntry => true
  | .blockEnd => true
  | _ => false

def endsEntry : Token → Bool
  | .key => true
  | .value => true
  | .blockEnd => true
  | _ => false

/-- The same in a sequence that is not indented, which ends with the entry around it. -/
def endsBareItem (token : Token) : Bool := token == .blockEntry || endsEntry token

def endsFlowItem : Token → Bool
  | .flowEntry => true
  | .flowSequenceEnd => true
  | _ => false

def endsFlowEntry : Token → Bool
  | .flowEntry => true
  | .flowMappingEnd => true
  | _ => false

mutual

/-- Read a node; `bare` says that it may be a sequence that is not indented. -/
def node : (fuel : Nat) → (bare : Bool) → Reader Node
  | 0, _ => failure
  | fuel + 1, bare => do
    if let some (.alias name) ← peek then
      advance
      match (← get).anchors.lookup name with
      | some number => return .alias number
      | none => failure
    else
      let own ← properties
      match ← peek with
      | some (.scalar style text) =>
        advance
        return .scalar (if own.tag == some "!" then { own with tag := none } else own) style text
      | some .blockEntry =>
        if bare then return .sequence own (← bareItems fuel) else orEmpty own
      | some .blockSequenceStart =>
        advance
        return .sequence own (← blockItems fuel)
      | some .blockMappingStart =>
        advance
        return .mapping own (← blockEntries fuel)
      | some .flowSequenceStart =>
        advance
        return .sequence own (← flowItems fuel true)
      | some .flowMappingStart =>
        advance
        return .mapping own (← flowEntries fuel true)
      | _ => orEmpty own
where
  /-- Nothing needs to be written behind an anchor or a tag. -/
  orEmpty (own : Properties) : Reader Node :=
    if own.anchor.isSome || own.tag.isSome then pure (.empty own) else failure

/-- Read a node, which may be left out before some tokens. -/
def nodeUnless : (fuel : Nat) → (bare : Bool) → (ends : Token → Bool) → Reader Node
  | 0, _, _ => failure
  | fuel + 1, bare, ends => do
    if ← isNext ends then return .empty .none else node fuel bare

/-- Read the items of a sequence in the block style. -/
def blockItems : (fuel : Nat) → Reader (List Node)
  | 0 => failure
  | fuel + 1 => do
    if ← take .blockEntry then
      let item ← nodeUnless fuel false endsItem
      return item :: (← blockItems fuel)
    else if ← take .blockEnd then return []
    else failure

/-- Read the items of a sequence that is not indented. -/
def bareItems : (fuel : Nat) → Reader (List Node)
  | 0 => failure
  | fuel + 1 => do
    if ← take .blockEntry then
      let item ← nodeUnless fuel false endsBareItem
      return item :: (← bareItems fuel)
    else return []

/-- Read the value that may follow a key in the block style. -/
def blockValue : (fuel : Nat) → Reader Node
  | 0 => failure
  | fuel + 1 => do
    if ← take .value then nodeUnless fuel true endsEntry else return .empty .none

/-- Read the entries of a mapping in the block style. -/
def blockEntries : (fuel : Nat) → Reader (List (Node × Node))
  | 0 => failure
  | fuel + 1 => do
    if ← take .key then
      let key ← nodeUnless fuel true endsEntry
      let value ← blockValue fuel
      return (key, value) :: (← blockEntries fuel)
    else if ← take .blockEnd then return []
    else failure

/-- Read the value that may follow a key in the flow style. -/
def flowValue : (fuel : Nat) → (ends : Token → Bool) → Reader Node
  | 0, _ => failure
  | fuel + 1, ends => do
    if ← take .value then nodeUnless fuel false ends else return .empty .none

/-- Read an item of a sequence in the flow style that is a mapping of one entry, behind the
token of its key. A key that is left out takes the token behind it away. -/
def pair : (fuel : Nat) → Reader Node
  | 0 => failure
  | fuel + 1 => do
    if ← isNext fun token => token == .value || endsFlowItem token then
      advance
      let value ← flowValue fuel endsFlowItem
      return .mapping .none [(.empty .none, value)]
    else
      let key ← node fuel false
      let value ← flowValue fuel endsFlowItem
      return .mapping .none [(key, value)]

/-- Read the items of a sequence in the flow style. -/
def flowItems : (fuel : Nat) → (first : Bool) → Reader (List Node)
  | 0, _ => failure
  | fuel + 1, first => do
    if ← take .flowSequenceEnd then return []
    if !first then
      if !(← take .flowEntry) then failure
      if ← take .flowSequenceEnd then return []
    let item ← (do if ← take .key then pair fuel else node fuel false)
    return item :: (← flowItems fuel false)

/-- Read the entries of a mapping in the flow style. -/
def flowEntries : (fuel : Nat) → (first : Bool) → Reader (List (Node × Node))
  | 0, _ => failure
  | fuel + 1, first => do
    if ← take .flowMappingEnd then return []
    if !first then
      if !(← take .flowEntry) then failure
      if ← take .flowMappingEnd then return []
    let entry ← (do
      if ← take .key then
        let key ← nodeUnless fuel false fun token => token == .value || endsFlowEntry token
        return (key, ← flowValue fuel endsFlowEntry)
      else
        return (← node fuel false, .empty .none))
    return entry :: (← flowEntries fuel false)

end

/-! ## Documents -/

/-- Whether a token stands between documents. -/
def isBetween : Token → Bool
  | .versionDirective _ _ => true
  | .tagDirective _ _ => true
  | .documentStart => true
  | .documentEnd => true
  | _ => false

/-- Whether a version of the format can be read. -/
def isKnownVersion (major minor : Nat) : Bool := major == 1 && (minor == 1 || minor == 2)

/-- Read the directives in front of a document; `versioned` says that one of them has told
the version. -/
def directives : (fuel : Nat) → (versioned : Bool) → Reader Unit
  | 0, _ => failure
  | fuel + 1, versioned => do
    match ← peek with
    | some (.versionDirective major minor) =>
      if versioned || !isKnownVersion major minor then failure
      advance
      directives fuel true
    | some (.tagDirective handle lead) =>
      if ((← get).handles.lookup handle).isSome then failure
      modify fun reading => { reading with handles := (handle, lead) :: reading.handles }
      advance
      directives fuel versioned
    | _ => return ()

/-- Read a document. Without directives its start need not be marked. -/
def document (fuel : Nat) : Reader Node := do
  let explicit ← isNext fun token => isBetween token && token != .documentEnd
  if explicit then
    directives fuel false
    if !(← take .documentStart) then failure
  modify fun reading => { reading with handles := reading.handles ++ standardHandles }
  let left ← peek
  if left.isNone || (explicit && left.any isBetween) then return .empty .none
  else node fuel false

/-- Pass over the marks behind a document. -/
def documentEnds : (fuel : Nat) → Reader Unit
  | 0 => return ()
  | fuel + 1 => do if ← take .documentEnd then documentEnds fuel

/-- Read the only document. -/
def only (fuel : Nat) : Reader Node := do
  let root ← document fuel
  documentEnds fuel
  if (← peek).isSome then failure
  return root

end NodeReading

/-- The tree of a text with at most one document. -/
def Node.ofTokens? (tokens : List Token) : Option Node :=
  -- each token is read by a chain of at most four readers
  ((NodeReading.only (4 * tokens.length + 8)).run ⟨tokens, [], []⟩).map Prod.fst

/-- The tree of a text. -/
def Node.ofText? (text : String) : Option Node := (Token.ofText? text).bind Node.ofTokens?

end Converge.Yaml
