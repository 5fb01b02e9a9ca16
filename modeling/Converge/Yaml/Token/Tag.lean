import Converge.Yaml.Place
import Converge.Yaml.Token

/-!
# Names, tags and directives

The tokens that name things: anchors and aliases, tags, and the directives in front of a
document. Each reader starts behind the indicator or at it, as it says, and gives nothing
where the text is not in order.
-/

namespace Converge.Yaml.Token

/-! ## Anchors -/

/-- The name of an anchor or an alias, behind the indicator. -/
def anchorName? (place : Place) : Option (String × Place) :=
  let (name, after) := place.span isWordChar
  if !name.isEmpty && (after.isFreeAt 0 || after.holdsAt 0 "?:,]\x7d%@`".toList.contains) then
    some (String.ofList name, after)
  else none

/-! ## Tags -/

/-- The number that hexadecimal digits write. -/
def hexValue? (digits : List Char) : Option Nat :=
  digits.foldl (fun sum digit => do
    let sum ← sum
    let c := digit.toNat
    if digit.isDigit then some (sum * 16 + (c - 48))
    else if 97 ≤ c ∧ c ≤ 102 then some (sum * 16 + (c - 87))
    else if 65 ≤ c ∧ c ≤ 70 then some (sum * 16 + (c - 55))
    else none) (some 0)

/-- One byte written as `%` and two hexadecimal digits. -/
def escapedByte? (place : Place) : Option (Nat × Place) :=
  match place.rest with
  | '%' :: high :: low :: _ =>
    (hexValue? [high, low]).map fun byte => (byte, place.skip.skip.skip)
  | _ => none

/-- The trailing bytes of a character in UTF-8. -/
def trailingBytes? : (count : Nat) → (code : Nat) → Place → Option (Nat × Place)
  | 0, code, place => some (code, place)
  | count + 1, code, place => do
    let (byte, after) ← escapedByte? place
    if byte / 64 = 2 then trailingBytes? count (code * 64 + byte % 64) after else none

/-- A character that is written as the bytes of its UTF-8 form. -/
def escapedChar? (place : Place) : Option (Char × Place) := do
  let (byte, after) ← escapedByte? place
  let (count, code) ←
    if byte < 0x80 then some (0, byte)
    else if byte / 32 = 6 then some (1, byte % 32)
    else if byte / 16 = 14 then some (2, byte % 16)
    else if byte / 8 = 30 then some (3, byte % 8)
    else none
  let (code, after) ← trailingBytes? count code after
  return (Char.ofNat code, after)

/-- Whether a character may occur in the name of a tag. Inside angle brackets commas and
square brackets may, too. -/
def isTagChar (bracketed : Bool) (c : Char) : Bool :=
  isWordChar c || ";/?:@&=+$.%!~*'()".toList.contains c || (bracketed && ",[]".toList.contains c)

/-- The name of a tag, or what is left of it; `fuel` is the length of the text. -/
def tagText? (bracketed : Bool) : (fuel : Nat) → Place → Option (List Char × Place)
  | 0, place => some ([], place)
  | fuel + 1, place =>
    match place.next? with
    | none => some ([], place)
    | some (c, after) =>
      if isTagChar bracketed c then do
        let (c, after) ← if c == '%' then escapedChar? place else some (c, after)
        let (more, last) ← tagText? bracketed fuel after
        return (c :: more, last)
      else some ([], place)

/-- The name of a tag, which has to be there. -/
def tagName? (bracketed : Bool) (place : Place) : Option (String × Place) := do
  let (name, after) ← tagText? bracketed place.rest.length place
  if name.isEmpty then none else return (String.ofList name, after)

/-- The handle of a tag: an exclamation mark, word characters, and perhaps another mark. -/
def tagHandle? (place : Place) : Option (String × Place) :=
  match place.next? with
  | some ('!', after) =>
    let (word, last) := after.span isWordChar
    if last.startsWith '!' then some ("!" ++ String.ofList word ++ "!", last.skip)
    else some ("!" ++ String.ofList word, last)
  | _ => none

/-- Whether a handle is closed by a second exclamation mark. -/
def isClosedHandle (handle : String) : Bool := handle.length ≥ 2 && handle.endsWith "!"

/-- The handle and the name of a tag, at the indicator. -/
def tagParts? (place : Place) : Option (String × String × Place) :=
  if place.holdsAt 1 (· == '<') then do
    let (name, after) ← tagName? true place.skip.skip
    if after.startsWith '>' then return ("", name, after.skip) else none
  else do
    let (handle, after) ← tagHandle? place
    if isClosedHandle handle then
      let (name, after) ← tagName? false after
      return (handle, name, after)
    else
      let (more, after) ← tagText? false after.rest.length after
      let name := (handle.drop 1).toString ++ String.ofList more
      return if name.isEmpty then ("", "!", after) else ("!", name, after)

/-- A tag, at the indicator. -/
def tag? (inFlow : Bool) (place : Place) : Option (Token × Place) := do
  let (handle, name, after) ← tagParts? place
  if after.isFreeAt 0 || (inFlow && after.startsWith ',') then
    return (.tag handle name, after)
  else none

/-! ## Directives -/

/-- A number of at most nine digits. -/
def versionNumber? (place : Place) : Option (Nat × Place) :=
  let (digits, after) := place.span Char.isDigit
  if digits.isEmpty || 9 < digits.length then none
  else some (digits.foldl (fun sum digit => sum * 10 + (digit.toNat - 48)) 0, after)

/-- The rest of a version directive. -/
def versionDirective? (place : Place) : Option (Token × Place) := do
  let (major, after) ← versionNumber? (place.skipWhile isBlank)
  if after.startsWith '.' then
    let (minor, after) ← versionNumber? after.skip
    return (.versionDirective major minor, after)
  else none

/-- The rest of a tag directive. -/
def tagDirective? (place : Place) : Option (Token × Place) := do
  let (handle, after) ← tagHandle? (place.skipWhile isBlank)
  if (handle == "!" || isClosedHandle handle) && after.holdsAt 0 isBlank then
    let (lead, after) ← tagName? true (after.skipWhile isBlank)
    if after.isFreeAt 0 then return (.tagDirective handle lead, after) else none
  else none

/-- A directive, behind the indicator. -/
def directive? (place : Place) : Option (Token × Place) := do
  let (name, after) := place.span isWordChar
  if !after.isFreeAt 0 then none
  let (token, after) ←
    match String.ofList name with
    | "YAML" => versionDirective? after
    | "TAG" => tagDirective? after
    | _ => none
  let last ← after.lineEnd?
  return (token, last)

end Converge.Yaml.Token
