import Converge.Json
import Converge.Yaml.Node
import Converge.Yaml.Resolution

/-!
# YAML texts as documents

Where no type is asked for, scalars become what they mean, and a tag with a meaning of its
own decides it. Keys become texts, and of entries with one key the last counts. Aliases
become what they stand for, up to a limit that the size of the text sets. Infinite numbers
become null; whole numbers beyond 64 bits and nodes with a tag of one's own have no document
to become.
-/

namespace Converge.Yaml

/-- The levels of collections that a text can have. -/
def nestingLimit : Nat := 128

/-- The tags with a meaning of their own. -/
def standardTag (name : String) : String := "tag:yaml.org,2002:" ++ name

/-- Whether a tag is one's own, which begins with an exclamation mark. -/
def isLocalTag (tag : Option String) : Bool := tag.any (·.startsWith "!")

/-- The last of several nodes with one number counts. -/
def lookupAnchor (anchored : List (Nat × Node)) (number : Nat) : Node :=
  (anchored.reverse.lookup number).getD (.empty .none)

/-- The node that an alias stands for. -/
def Node.follow (anchored : List (Nat × Node)) : Node → Node
  | .alias number => lookupAnchor anchored number
  | node => node

/-- Reading a document, which counts the aliases that it follows. -/
abbrev Untyped := StateT Nat Option

/-- Count an alias, which has a limit. -/
def countAlias (limit : Nat) : Node → Untyped Unit
  | .alias _ => do
    let followed ← get
    if limit ≤ followed then failure
    set (followed + 1)
  | _ => return ()

/-- The document of a whole number, if it fits 64 bits. -/
def wholeDocument? (value : Int) : Option Json :=
  if 0 ≤ value ∧ value < UInt64.size then some (.ofUInt64 (UInt64.ofNat value.toNat))
  else if Int64.minValue.toInt ≤ value ∧ value < 0 then some (.ofInt64 (Int64.ofInt value))
  else none

/-- The document of a plain scalar, by what it means. -/
def plainDocument? (text : String) : Option Json :=
  match Meaning.ofText text with
  | .null => some .null
  | .bool value => some (.bool value)
  | .whole value => wholeDocument? value
  | .real value => some (.ofBinary64 value)
  | .text => some (.string text)

/-- The document of a scalar. -/
def scalarDocument? (properties : Properties) (style : Style) (text : String) : Option Json :=
  match properties.tag with
  | some tag =>
    if tag == standardTag "bool" then (boolOf? text).map .bool
    else if tag == standardTag "int" then
      match (wholeOf? text.toList).filter isWordSized with
      | some value => wholeDocument? value
      | none => none
    else if tag == standardTag "float" then (realOf? text.toList).map .ofBinary64
    else if tag == standardTag "null" then if isNullText text then some .null else none
    else some (.string text)
  | none => if style == .plain then plainDocument? text else some (.string text)

/-- The key of an entry, which has to be a scalar. -/
def keyText? : Node → Option String
  | .scalar _ _ text => some text
  | _ => none

namespace Node

/-- The document of a node. -/
def document (anchored : List (Nat × Node)) (limit : Nat) : (levels : Nat) → Node → Untyped Json
  | levels, node => do
    countAlias limit node
    let node := node.follow anchored
    if isLocalTag node.properties.tag then failure
    match node, levels with
    | .scalar properties style text, _ => scalarDocument? properties style text
    | .sequence _ items, levels + 1 =>
      return .array (← items.mapM (document anchored limit levels))
    | .mapping _ entries, levels + 1 =>
      return .ofEntries (← entries.mapM fun (key, value) => do
        countAlias limit key
        let key ← keyText? (key.follow anchored)
        return (key, ← document anchored limit levels value))
    | _, _ => failure

/-- How many aliases may be followed in a text. -/
def aliasLimit (root : Node) : Nat := root.size * 100

end Node

/-- The document that a text holds. -/
def document? (text : String) : Option Json := do
  let root ← Node.ofText? text
  let (document, _) ← (root.document root.anchored root.aliasLimit nestingLimit).run 0
  return document

end Converge.Yaml
