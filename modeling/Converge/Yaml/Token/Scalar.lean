import Converge.Yaml.Token.Tag

/-!
# Scalars

The three ways to write a scalar: in quotes, plainly, and as a block of indented lines.
Each reader gives the text that the scalar stands for and the place behind it, or nothing
where the scalar is not in order.

In quoted and plain scalars, line breaks are folded: one alone stands for a blank, and of
several the first is dropped. Block scalars fold if they are told to, and never around
lines that begin with a blank.
-/

namespace Converge.Yaml.Token

/-! ## In quotes -/

/-- What a character stands for behind a backslash. -/
def escape? : Char → Option Char
  | '0' => some '\x00'
  | 'a' => some '\x07'
  | 'b' => some '\x08'
  | 't' => some '\t'
  | '\t' => some '\t'
  | 'n' => some '\n'
  | 'v' => some '\x0b'
  | 'f' => some '\x0c'
  | 'r' => some '\r'
  | 'e' => some '\x1b'
  | ' ' => some ' '
  | '"' => some '"'
  | '/' => some '/'
  | '\\' => some '\\'
  | 'N' => some '\u0085'
  | '_' => some '\u00a0'
  | 'L' => some '\u2028'
  | 'P' => some '\u2029'
  | _ => none

/-- How many hexadecimal digits follow a character behind a backslash. -/
def escapeLength? : Char → Option Nat
  | 'x' => some 2
  | 'u' => some 4
  | 'U' => some 8
  | _ => none

/-- The character with a code, if there is one. -/
def charOfCode? (code : Nat) : Option Char :=
  if code.isValidChar then some (Char.ofNat code) else none

/-- The place behind a number of characters. -/
def skipMany : (count : Nat) → Place → Place
  | 0, place => place
  | count + 1, place => skipMany count place.skip

/-- The character that an escape behind a backslash stands for. -/
def escaped? (place : Place) : Option (Char × Place) :=
  match place.next? with
  | none => none
  | some (c, after) =>
    match escapeLength? c with
    | some length =>
      let digits := after.rest.take length
      if digits.length = length then do
        let c ← charOfCode? (← hexValue? digits)
        return (c, skipMany length after)
      else none
    | none => (escape? c).map fun c => (c, after)

/-- A piece of a quoted scalar without blanks and line breaks. -/
structure Piece where
  text : List Char
  place : Place
  /-- Whether the piece ends in a line break that an escape takes away. -/
  broken : Bool

/-- Put a character in front of a piece. -/
def Piece.behind (c : Char) (piece : Piece) : Piece := { piece with text := c :: piece.text }

/-- Read a piece of a quoted scalar; `fuel` is the length of the text. -/
def quotedPiece? (double : Bool) : (fuel : Nat) → Place → Option Piece
  | 0, place => some ⟨[], place, false⟩
  | fuel + 1, place =>
    match place.next? with
    | none => some ⟨[], place, false⟩
    | some (c, after) =>
      if isBlank c || isBreak c then some ⟨[], place, false⟩
      else if !double && c == '\x27' then
        if after.startsWith '\x27' then (quotedPiece? double fuel after.skip).map (.behind c)
        else some ⟨[], place, false⟩
      else if double && c == '"' then some ⟨[], place, false⟩
      else if double && c == '\\' then
        if after.holdsAt 0 isBreak then some ⟨[], after.skip, true⟩
        else do
          let (c, after) ← escaped? after
          (quotedPiece? double fuel after).map (.behind c)
      else (quotedPiece? double fuel after).map (.behind c)

/-- Read a quoted scalar behind its opening quote; `fuel` is the length of the text. -/
def quoted? (double : Bool) : (fuel : Nat) → Place → Option (List Char × Place)
  | 0, _ => none
  | fuel + 1, place => do
    if place.atDocumentMark then none
    let piece ← quotedPiece? double place.rest.length place
    if piece.place.startsWith (if double then '"' else '\x27') then
      return (piece.text, piece.place.skip)
    else
      let (gap, after) ← Gap.read? 0 { Gap.none with broken := piece.broken } piece.place
      if after.atEnd then none
      let (more, last) ← quoted? double fuel after
      return (piece.text ++ gap.folded ++ more, last)

/-! ## Plainly -/

/-- Whether a character is an indicator of a flow collection. -/
def isFlowIndicator (c : Char) : Bool := ",[]\x7b\x7d".toList.contains c

/-- A piece of a plain scalar without blanks and line breaks. A colon ends it where a blank
follows; within flow collections their indicators do, too, and a colon may not stand right
before one. -/
def plainPiece? (inFlow : Bool) (place : Place) : Option (List Char × Place) :=
  match _h : place.next? with
  | none => some ([], place)
  | some (c, after) =>
    if isBlank c || isBreak c then some ([], place)
    else if inFlow && c == ':' && after.holdsAt 0 (fun next => next == '?' || isFlowIndicator next)
    then none
    else if c == ':' && after.isFreeAt 0 then some ([], place)
    else if inFlow && isFlowIndicator c then some ([], place)
    else (plainPiece? inFlow after).map fun (more, last) => (c :: more, last)
termination_by place.rest.length
decreasing_by exact Place.length_of_next? ‹_›

/-- A plain scalar. -/
structure Plain where
  text : List Char
  place : Place
  /-- Whether a line has ended behind the last piece. -/
  broken : Bool

/-- Read on in a plain scalar whose lines are indented by `indent` at least; `fuel` is the
length of the text. -/
def plain? (inFlow : Bool) (indent : Int) : (fuel : Nat) → Gap → Place → Option Plain
  | 0, gap, place => some ⟨[], place, gap.broken⟩
  | fuel + 1, gap, place =>
    if place.atDocumentMark || place.startsWith '#' then some ⟨[], place, gap.broken⟩
    else do
      let (piece, after) ← plainPiece? inFlow place
      if piece.isEmpty then return ⟨[], place, gap.broken⟩
      let text := gap.folded ++ piece
      if after.holdsAt 0 (fun c => isBlank c || isBreak c) then
        let (gap, after) ← Gap.read? indent .none after
        if !inFlow && after.column < indent then return ⟨text, after, gap.broken⟩
        let rest ← plain? inFlow indent fuel gap after
        return { rest with text := text ++ rest.text }
      else return ⟨text, after, false⟩

/-! ## As a block -/

/-- What becomes of the line breaks at the end of a block. -/
inductive Chomping where
  | strip
  | clip
  | keep
deriving DecidableEq, Repr

/-- What the first line of a block says: chomping and indentation. -/
structure BlockHeader where
  chomping : Chomping
  indent : Option Nat
deriving DecidableEq, Repr

def chompingOf? : Char → Option Chomping
  | '-' => some .strip
  | '+' => some .keep
  | _ => none

/-- The marks behind the indicator of a block, in either order. -/
def blockHeader? (place : Place) : Option (BlockHeader × Place) :=
  let chomping (place : Place) : Option Chomping × Place :=
    match (place.peek 0).bind chompingOf? with
    | some chomping => (some chomping, place.skip)
    | none => (none, place)
  let digit (place : Place) : Option Nat × Place :=
    match (place.peek 0).filter Char.isDigit with
    | some c => (some (c.toNat - 48), place.skip)
    | none => (none, place)
  let (early, after) := chomping place
  let (indent, after) := digit after
  let (late, after) := if early.isNone then chomping after else (none, after)
  if indent == some 0 then none else some (⟨(early.or late).getD .clip, indent⟩, after)

/-- Line breaks and indentation before a line of a block. -/
structure Margin where
  breaks : List Char
  /-- The deepest column that was reached. -/
  deepest : Nat
  place : Place

/-- Read the margin before a line whose indentation is `indent`, if that is known. -/
def margin? (indent : Option Nat) (breaks : List Char) (deepest : Nat) (place : Place) :
    Option Margin :=
  let within := indent.all (place.column < ·)
  match _h : place.next? with
  | none => some ⟨breaks, max deepest place.column, place⟩
  | some (c, after) =>
    if within && c == ' ' then margin? indent breaks deepest after
    else if within && c == '\t' then none
    else if isBreak c then margin? indent (breaks ++ [c]) (max deepest place.column) after
    else some ⟨breaks, max deepest place.column, place⟩
termination_by place.rest.length
decreasing_by all_goals exact Place.length_of_next? ‹_›

/-- What is read of a block: its text, the last line break and the ones behind it. -/
structure Block where
  text : List Char
  last : List Char
  trailing : List Char
  place : Place

/-- Read the lines of a block; `fuel` is the length of the text. The last line so far ended
in `last` and began with a blank if `blank` says so; behind it came `margin`. -/
def blockLines? (folded : Bool) (indent : Nat) :
    (fuel : Nat) → (last : List Char) → (blank : Bool) → Margin → Option Block
  | 0, last, _, margin => some ⟨[], last, margin.breaks, margin.place⟩
  | fuel + 1, last, blank, margin =>
    let place := margin.place
    if place.column != indent || place.atEnd then some ⟨[], last, margin.breaks, place⟩
    else do
      let blankNow := place.holdsAt 0 isBlank
      let joint :=
        if folded && last == ['\n'] && !blank && !blankNow then
          (if margin.breaks.isEmpty then [' '] else [])
        else last
      let (line, after) := place.span (!isBreak ·)
      let ending := (after.peek 0).toList
      let next ← margin? (some indent) [] 0 after.skip
      let block ← blockLines? folded indent fuel ending blankNow next
      return { block with text := joint ++ margin.breaks ++ line ++ block.text }

/-- Read a block scalar behind its indicator, in a collection that is indented by `parent`. -/
def block? (folded : Bool) (parent : Int) (place : Place) : Option (List Char × Place) := do
  let (header, after) ← blockHeader? place
  let after ← after.lineEnd?
  let known := header.indent.map fun indent => (max parent 0).toNat + indent
  let margin ← margin? known [] 0 after
  let indent := known.getD (max margin.deepest (max (parent + 1).toNat 1))
  let block ← blockLines? folded indent after.rest.length [] false margin
  let ending := match header.chomping with
    | .strip => []
    | .clip => block.last
    | .keep => block.last ++ block.trailing
  return (block.text ++ ending, block.place)

end Converge.Yaml.Token
