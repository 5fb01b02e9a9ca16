import Converge.Text.Blank
import Converge.Text.Percent

/-!
# Web addresses

An address names a server and a place on it: a path of segments, and perhaps a query and a
fragment. Addresses are written in more ways than one; `Address.ofText?` brings a written
address into its normal form, in which the segments `.` and `..` are followed, characters
that may not stand for themselves are percent-encoded, and the server's name is in lower
case without the usual port.

A segment that was percent-encoded as a whole stands for itself unless it is `.` or `..`.
Those two have no other spelling that a server would tell apart.
-/

namespace Converge.Http

/-- A place on a server of the web. -/
structure Address where
  /-- The scheme and the server. -/
  origin : String
  /-- The segments of the path, encoded. -/
  path : List (List Char)
  query : Option (List Char)
  fragment : Option (List Char)
deriving DecidableEq, Repr

namespace Address

/-! ## Paths -/

/-- Whether a character separates segments. -/
def isSlash (c : Char) : Bool := c == '/' || c == '\\'

/-- The pieces of a path between its separators. -/
def segments : List Char → List (List Char)
  | [] => [[]]
  | c :: rest =>
    if isSlash c then [] :: segments rest
    else
      match segments rest with
      | [] => [[c]]
      | first :: others => (c :: first) :: others

/-- Whether a segment is a dot, in either spelling. -/
def staysPut (segment : List Char) : Bool :=
  [".", "%2e"].contains (String.ofList (segment.map Char.toLower))

/-- Whether a segment is two dots, in any spelling. -/
def goesBack (segment : List Char) : Bool :=
  ["..", ".%2e", "%2e.", "%2e%2e"].contains (String.ofList (segment.map Char.toLower))

/-- Follow the segments of a path; `walked` are the ones so far, the last one first. One dot
stays and two dots go back; where either ends the path, the path ends in a separator. -/
def follow (walked : List (List Char)) : List (List Char) → List (List Char)
  | [] => walked.reverse
  | segment :: rest =>
    if goesBack segment then
      if rest.isEmpty then ([] :: walked.drop 1).reverse else follow (walked.drop 1) rest
    else if staysPut segment then
      if rest.isEmpty then ([] :: walked).reverse else follow walked rest
    else follow (segment :: walked) rest

/-! ## Parts of a written address -/

/-- Write a character as percent-encoded bytes where it may not stand for itself. -/
def escapeUnless (allowed : Char → Bool) (c : Char) : List Char :=
  if allowed c then [c] else (String.singleton c).toUTF8.toList.flatMap Text.percentByte

/-- Whether a character is a visible one of ASCII and none of the given ones. -/
def isVisibleExcept (refused : String) (c : Char) : Bool :=
  0x21 ≤ c.toNat && c.toNat ≤ 0x7E && !refused.toList.contains c

def escapePath (text : List Char) : List Char :=
  text.flatMap (escapeUnless (isVisibleExcept "\"#<>?^`\x7b\x7d"))

def escapeQuery (text : List Char) : List Char :=
  text.flatMap (escapeUnless (isVisibleExcept "\"#<>'"))

def escapeFragment (text : List Char) : List Char :=
  text.flatMap (escapeUnless (isVisibleExcept "\"<>`"))

/-- What stands before a mark, and what stands behind it if it occurs. -/
def cut (mark : Char) (text : List Char) : List Char × Option (List Char) :=
  let front := text.takeWhile (· != mark)
  match text.drop front.length with
  | [] => (front, none)
  | _ :: behind => (front, some behind)

/-- The scheme of a web address with the port that goes without saying, and the text behind
its colon. -/
def scheme? (text : List Char) : Option (String × Nat × List Char) :=
  match cut ':' text with
  | (front, some rest) =>
    match String.ofList (front.map Char.toLower) with
    | "http" => some ("http", 80, rest)
    | "https" => some ("https", 443, rest)
    | _ => none
  | (_, none) => none

/-- The digits of a port, as they are written in an address with the given usual port. -/
def port? (usual : Nat) (digits : List Char) : Option String :=
  if digits.isEmpty then some ""
  else if digits.all Char.isDigit then
    let port := digits.foldl (fun sum digit => sum * 10 + (digit.toNat - 48)) 0
    if port = usual then some "" else if port < 65536 then some (":" ++ toString port) else none
  else none

/-- A server with its port. -/
def server? (usual : Nat) (authority : List Char) : Option String :=
  let behindUser := (authority.reverse.takeWhile (· != '@')).reverse
  let bracketed := (behindUser.reverse.dropWhile (· != ']')).reverse
  let (name, digits) := cut ':' (behindUser.drop bracketed.length)
  let host := bracketed ++ name
  if host.isEmpty || !host.all (isVisibleExcept "#%/<>?@\\^|") then none
  else (port? usual (digits.getD [])).map (String.ofList (host.map Char.toLower) ++ ·)

/-- The written characters that count: not the control characters and blanks around them,
nor tabs and line ends among them. -/
def written (text : String) : List Char :=
  let dropped (c : Char) : Bool := c.toNat ≤ 0x20
  let trimmed := (text.toList.dropWhile dropped).reverse.dropWhile dropped
  trimmed.reverse.filter fun c => !(c == '\t' || c == '\n' || c == '\r')

/-- The address that a text writes, if it writes one of the web. -/
def ofText? (text : String) : Option Address := do
  let (scheme, usual, rest) ← scheme? (written text)
  let rest := rest.dropWhile isSlash
  let authority := rest.takeWhile fun c => !(isSlash c || c == '?' || c == '#')
  let server ← server? usual authority
  let (place, fragment) := cut '#' (rest.drop authority.length)
  let (path, query) := cut '?' place
  let path := follow [] ((segments (path.drop 1)).map escapePath)
  return ⟨scheme ++ "://" ++ server, path, query.map escapeQuery, fragment.map escapeFragment⟩

/-! ## Writing -/

/-- A part that is written behind its mark where there is one. -/
def behind (mark : Char) : Option (List Char) → List Char
  | some part => mark :: part
  | none => []

/-- Segments with a separator in front of each. -/
def renderPath (path : List (List Char)) : List Char := path.flatMap ('/' :: ·)

/-- What is asked of the server: the path and the query. -/
def target (address : Address) : List Char :=
  (if address.path.isEmpty then ['/'] else renderPath address.path) ++ behind '?' address.query

def render (address : Address) : String :=
  address.origin ++ String.ofList (address.target ++ behind '#' address.fragment)

end Address

end Converge.Http
