import Converge.Yaml.Token.Scalar

/-!
# Reading tokens

A YAML text is cut into tokens from left to right. Two things are kept besides the tokens.

The open block collections are known by their indentation: a token in a deeper column opens
one, a token in a less deep column closes some.

A token may turn out to be the start of a key, which shows only at the colon behind it. So
the place of the last token that may start a key is kept for each open collection of the
flow style and for the block around them. A colon then puts the tokens for a key and, where
the key opens one, for a mapping in front of what was read since. Such a key ends within
its line and within 1024 characters. Where a block mapping is open in the column of the
token, the token has to be a key.
-/

namespace Converge.Yaml

/-- A token that may turn out to start a key. -/
structure Candidate where
  /-- How many tokens came before it. -/
  index : Nat
  line : Nat
  column : Nat
  /-- Whether it has to be a key. -/
  required : Bool
deriving DecidableEq, Repr

/-- What is known while a text is cut into tokens. -/
structure TokenReading where
  place : Place
  tokens : Array Token
  /-- The column of the innermost block collection, -1 outside of all. -/
  indent : Int
  /-- The columns of the collections around it. -/
  outer : List Int
  /-- The candidate of the innermost collection of the flow style, and then those of the ones
  around it; last that of the block. -/
  candidates : List (Option Candidate)
  /-- Whether a key may start here. -/
  keyAllowed : Bool

namespace TokenReading

/-- How many characters a key may have. -/
def keyLimit : Nat := 1024

/-- The start of a text. -/
def start (place : Place) : TokenReading := ⟨place, #[], -1, [], [none], true⟩

/-- Whether a collection of the flow style is open. -/
def inFlow (reading : TokenReading) : Bool := 1 < reading.candidates.length

def push (reading : TokenReading) (token : Token) : TokenReading :=
  { reading with tokens := reading.tokens.push token }

/-- Push a token behind which the text goes on at a place. -/
def accept (reading : TokenReading) (token : Token) (place : Place) : TokenReading :=
  { reading.push token with place }

/-! ## Keys -/

/-- Whether a candidate can no longer be a key. -/
def isStale (place : Place) (candidate : Candidate) : Bool :=
  candidate.line < place.line || candidate.column + keyLimit < place.column

/-- Give up the candidates that can no longer be keys. -/
def dropStale? (reading : TokenReading) : Option TokenReading :=
  let stale (candidate : Candidate) : Bool := isStale reading.place candidate
  if reading.candidates.any (·.any fun candidate => stale candidate && candidate.required) then
    none
  else
    let candidates := reading.candidates.map (·.filter fun candidate => !stale candidate)
    some { reading with candidates }

/-- Give up the innermost candidate. -/
def dropCandidate? (reading : TokenReading) : Option TokenReading :=
  match reading.candidates with
  | [] => some reading
  | candidate :: rest =>
    if candidate.any (·.required) then none else some { reading with candidates := none :: rest }

/-- Make the token that comes next the innermost candidate, where a key may start. -/
def keepCandidate? (reading : TokenReading) : Option TokenReading :=
  if reading.keyAllowed then do
    let place := reading.place
    let candidate : Candidate :=
      ⟨reading.tokens.size, place.line, place.column,
        !reading.inFlow && reading.indent == (place.column : Int)⟩
    let reading ← reading.dropCandidate?
    return { reading with candidates := some candidate :: reading.candidates.drop 1 }
  else some reading

/-! ## Indentation -/

/-- Open a block collection in a column, unless one is open there or further in. -/
def openBlock (reading : TokenReading) (column index : Nat) (token : Token) : TokenReading :=
  if !reading.inFlow && reading.indent < (column : Int) then
    { reading with
      tokens := reading.tokens.insertIdxIfInBounds index token
      outer := reading.indent :: reading.outer
      indent := column }
  else reading

/-- Close the block collections that are further in than a column. -/
def closeBlocks (column : Int) : (outer : List Int) → TokenReading → TokenReading
  | [], reading => reading
  | around :: outer, reading =>
    if column < reading.indent then
      closeBlocks column outer { reading.push .blockEnd with indent := around, outer }
    else reading

/-- The same outside of the flow style, where indentation counts. -/
def closeBeyond (reading : TokenReading) (column : Int) : TokenReading :=
  if reading.inFlow then reading else closeBlocks column reading.outer reading

/-! ## Single tokens -/

/-- Pass over blanks, comments and line ends; `fuel` is the length of the text. A tab is
blank unless a key may start here. -/
def skipFree : (fuel : Nat) → TokenReading → TokenReading
  | 0, reading => reading
  | fuel + 1, reading =>
    let isFree (c : Char) : Bool :=
      c == ' ' || ((reading.inFlow || !reading.keyAllowed) && c == '\t')
    let place := (reading.place.skipWhile isFree).skipComment
    if place.holdsAt 0 isBreak then
      skipFree fuel { reading with
        place := place.skip, keyAllowed := reading.keyAllowed || !reading.inFlow }
    else { reading with place }

/-- Leave all block collections and read something that stands between documents. -/
def between? (reading : TokenReading) : Option TokenReading := do
  let reading ← (reading.closeBeyond (-1)).dropCandidate?
  return { reading with keyAllowed := false }

/-- Read a token that is a single character and opens a collection of the flow style. -/
def openFlow? (reading : TokenReading) (token : Token) : Option TokenReading := do
  let reading ← reading.keepCandidate?
  return { reading.accept token reading.place.skip with
    candidates := none :: reading.candidates, keyAllowed := true }

/-- Read a token that is a single character and closes a collection of the flow style. -/
def closeFlow? (reading : TokenReading) (token : Token) : Option TokenReading := do
  let reading ← reading.dropCandidate?
  return { reading.accept token reading.place.skip with
    candidates := if reading.inFlow then reading.candidates.drop 1 else reading.candidates
    keyAllowed := false }

/-- Read the comma between items of the flow style. -/
def flowEntry? (reading : TokenReading) : Option TokenReading := do
  let reading ← reading.dropCandidate?
  return { reading.accept .flowEntry reading.place.skip with keyAllowed := true }

/-- Open a block collection where the next token stands, if it is one that may open it. -/
def enterBlock? (reading : TokenReading) (token : Token) : Option TokenReading :=
  if reading.inFlow then some reading
  else if reading.keyAllowed then
    some (reading.openBlock reading.place.column reading.tokens.size token)
  else none

/-- Read the dash in front of an item. -/
def blockEntry? (reading : TokenReading) : Option TokenReading := do
  let reading ← (← reading.enterBlock? .blockSequenceStart).dropCandidate?
  return { reading.accept .blockEntry reading.place.skip with keyAllowed := true }

/-- Read the question mark in front of a key. -/
def key? (reading : TokenReading) : Option TokenReading := do
  let reading ← (← reading.enterBlock? .blockMappingStart).dropCandidate?
  return { reading.accept .key reading.place.skip with keyAllowed := !reading.inFlow }

/-- Read the colon in front of a value. -/
def value? (reading : TokenReading) : Option TokenReading :=
  match reading.candidates with
  | some candidate :: around =>
    let keyed : TokenReading :=
      { reading with
        tokens := reading.tokens.insertIdxIfInBounds candidate.index .key
        candidates := none :: around }
    let opened := keyed.openBlock candidate.column candidate.index .blockMappingStart
    some { opened.accept .value reading.place.skip with keyAllowed := false }
  | _ => do
    let reading ← reading.enterBlock? .blockMappingStart
    return { reading.accept .value reading.place.skip with keyAllowed := !reading.inFlow }

/-- Read a token that may start a key, by a reader of such tokens. -/
def word? (reading : TokenReading) (read : Place → Option (Token × Place)) :
    Option TokenReading := do
  let reading ← reading.keepCandidate?
  let (token, after) ← read reading.place
  return { reading.accept token after with keyAllowed := false }

/-- Read an anchor or an alias. -/
def name? (reading : TokenReading) (token : String → Token) : Option TokenReading :=
  reading.word? fun place =>
    (Token.anchorName? place.skip).map fun (name, after) => (token name, after)

/-- Read a quoted scalar. -/
def quoted? (reading : TokenReading) (double : Bool) : Option TokenReading :=
  reading.word? fun place =>
    (Token.quoted? double place.rest.length place.skip).map fun (text, after) =>
      (.scalar (if double then .doubleQuoted else .singleQuoted) (String.ofList text), after)

/-- Read a plain scalar. Where it ends behind its line, a key may start. -/
def plain? (reading : TokenReading) : Option TokenReading := do
  let reading ← reading.keepCandidate?
  let plain ← Token.plain? reading.inFlow (reading.indent + 1) reading.place.rest.length .none
    reading.place
  return { reading.accept (.scalar .plain (String.ofList plain.text)) plain.place with
    keyAllowed := plain.broken }

/-- Read a block scalar. -/
def block? (reading : TokenReading) (folded : Bool) : Option TokenReading := do
  let reading ← reading.dropCandidate?
  let (text, after) ← Token.block? folded reading.indent reading.place.skip
  return { reading.accept (.scalar (if folded then .folded else .literal) (String.ofList text))
    after with keyAllowed := true }

/-! ## The text -/

/-- Whether a character may not start a plain scalar. -/
def isIndicator (c : Char) : Bool := "-?:,[]\x7b\x7d#&*!|>\x27\"%@`".toList.contains c

/-- Whether a plain scalar starts at the place: with no indicator, or with one of the three
that are part of a word where no blank follows. -/
def startsPlain (reading : TokenReading) (c : Char) : Bool :=
  !(isBlank c || isBreak c || isIndicator c)
    || (c == '-' && !reading.place.holdsAt 1 isBlank)
    || (!reading.inFlow && (c == '?' || c == ':') && !reading.place.isFreeAt 1)

/-- Read the token that starts with a character. -/
def token? (reading : TokenReading) (c : Char) : Option TokenReading :=
  let place := reading.place
  let standsAlone := reading.inFlow || place.isFreeAt 1
  if place.column = 0 && c == '%' then do
    let reading ← reading.between?
    let (token, after) ← Token.directive? place.skip
    return reading.accept token after
  else if place.atDocumentMark then do
    let reading ← reading.between?
    return reading.accept (if c == '-' then .documentStart else .documentEnd)
      place.skip.skip.skip
  else if c == '[' then reading.openFlow? .flowSequenceStart
  else if c == '\x7b' then reading.openFlow? .flowMappingStart
  else if c == ']' then reading.closeFlow? .flowSequenceEnd
  else if c == '\x7d' then reading.closeFlow? .flowMappingEnd
  else if c == ',' then reading.flowEntry?
  else if c == '-' && place.isFreeAt 1 then reading.blockEntry?
  else if c == '?' && standsAlone then reading.key?
  else if c == ':' && standsAlone then reading.value?
  else if c == '*' then reading.name? .alias
  else if c == '&' then reading.name? .anchor
  else if c == '!' then reading.word? (Token.tag? reading.inFlow)
  else if c == '|' && !reading.inFlow then reading.block? false
  else if c == '>' && !reading.inFlow then reading.block? true
  else if c == '\x27' then reading.quoted? false
  else if c == '"' then reading.quoted? true
  else if reading.startsPlain c then reading.plain?
  else none

/-- Read the tokens up to the end; `fuel` is more than the length of the text. -/
def tokens? : (fuel : Nat) → TokenReading → Option (Array Token)
  | 0, _ => none
  | fuel + 1, reading => do
    let reading ← (reading.skipFree reading.place.rest.length).dropStale?
    let reading := reading.closeBeyond reading.place.column
    match reading.place.next? with
    | some (c, _) => tokens? fuel (← reading.token? c)
    | none =>
      let reading ← (reading.closeBeyond (-1)).dropCandidate?
      return reading.tokens

end TokenReading

/-- The tokens of a text, if it is in order as far as single tokens go. -/
def Token.ofText? (text : String) : Option (List Token) := do
  let place ← Place.start? text
  let tokens ← (TokenReading.start place).tokens? (place.rest.length + 1)
  return tokens.toList

end Converge.Yaml
