import Converge.Json.Numeral

/-!
# Tokens of JSON text

`tokens` cuts a text into its lexical pieces. It never fails: where no piece can be
read it puts a `fault` token, behind which nothing else is read, and leaves the verdict
to the reader, because the place decides whether the fault or the wrong token there is
what gets reported.

A string is read for two purposes at once. Surrogate halves without partner spoil its
value, but a reader that skips the string does not mind them; what breaks the string off
stops both.
-/

namespace Converge

namespace Json

/-- A string as it is read. -/
structure Quoted where
  /-- The characters, or the first fault that a reader of them meets. -/
  value : Except Fault (List Char)
  /-- The fault that a reader meets who only looks for the end. -/
  broken : Option Fault

namespace Quoted

/-- A string that breaks off. -/
def breakOff (fault : Fault) : Quoted := ⟨.error fault, some fault⟩

/-- Put a character in front. -/
def cons (character : Char) (rest : Quoted) : Quoted :=
  { rest with value := rest.value.map (character :: ·) }

/-- Spoil the value by a fault in front of it. -/
def spoil (fault : Fault) (rest : Quoted) : Quoted := { rest with value := .error fault }

end Quoted

/-- A lexical piece. -/
inductive Token where
  | openList
  | closeList
  | openObject
  | closeObject
  | comma
  | colon
  | null
  | bool (value : Bool)
  | number (value : Numeral)
  | string (value : Quoted)
  | fault (fault : Fault)

/-- Blanks between tokens. -/
def isBlank (character : Char) : Bool :=
  character = ' ' || character = '\n' || character = '\t' || character = '\r'

/-- The value of a hexadecimal digit in either case. -/
def hexValue? (character : Char) : Option Nat :=
  if '0' ≤ character ∧ character ≤ '9' then some (character.toNat - '0'.toNat)
  else if 'a' ≤ character ∧ character ≤ 'f' then some (character.toNat - 'a'.toNat + 10)
  else if 'A' ≤ character ∧ character ≤ 'F' then some (character.toNat - 'A'.toNat + 10)
  else none

/-- The code unit of four hexadecimal digits. -/
def hexUnit? (first second third fourth : Char) : Option Nat := do
  return ((← hexValue? first) * 16 + (← hexValue? second)) * 256
    + (← hexValue? third) * 16 + (← hexValue? fourth)

/-- The fault of an escape whose four digits are not there: the text ends if fewer than
four bytes are left. -/
def shortEscape (rest : List Char) : Fault :=
  if (String.ofList rest).utf8ByteSize < 4 then .endInString else .invalidEscape

def isHighSurrogate (unit : Nat) : Bool := 0xD800 ≤ unit && unit ≤ 0xDBFF

def isLowSurrogate (unit : Nat) : Bool := 0xDC00 ≤ unit && unit ≤ 0xDFFF

/-- The character that a pair of surrogates stands for. -/
def pairedChar (high low : Nat) : Char :=
  Char.ofNat ((high - 0xD800) * 0x400 + (low - 0xDC00) + 0x10000)

/-- The character that a one-letter escape stands for. -/
def escaped? (letter : Char) : Option Char :=
  match letter with
  | '"' => some '"'
  | '\\' => some '\\'
  | '/' => some '/'
  | 'b' => some (Char.ofNat 8)
  | 'f' => some (Char.ofNat 12)
  | 'n' => some '\n'
  | 'r' => some '\r'
  | 't' => some '\t'
  | _ => none

/-- The rest of a text behind some part of it. -/
abbrev Rest (text : List Char) := { rest : List Char // rest.length ≤ text.length }

/-- The same rest, seen from a longer text. -/
def Rest.widen {short long : List Char} (rest : Rest short)
    (shorter : short.length ≤ long.length) : Rest long :=
  ⟨rest.1, Nat.le_trans rest.2 shorter⟩

/-- The first half of a surrogate pair has been read; the second half must follow. A
missing one spoils the string, and what stands in its place is read again. -/
inductive SecondHalf (rest : List Char) where
  | paired (character : Char) (behind : Rest rest)
  | missing (fault : Fault)
  | broken (fault : Fault)

/-- Read the second half of a surrogate pair. -/
def secondHalf (high : Nat) : (rest : List Char) → SecondHalf rest
  | [] => .broken .endInString
  | ['\\'] => .broken .endInString
  | '\\' :: 'u' :: first :: second :: third :: fourth :: behind =>
    match hexUnit? first second third fourth with
    | none => .broken .invalidEscape
    | some low =>
      if isLowSurrogate low then
        .paired (pairedChar high low) ⟨behind, by simp only [List.length_cons]; omega⟩
      else .missing .loneSurrogate
  | '\\' :: 'u' :: behind => .broken (shortEscape behind)
  | _ => .missing .unpairedSurrogate

/-- Read a string behind its opening quotation mark, and the text behind it. -/
def quoted (text : List Char) : Quoted × Rest text :=
  match text with
  | [] => (.breakOff .endInString, ⟨[], Nat.le_refl _⟩)
  | '"' :: rest => (⟨.ok [], none⟩, ⟨rest, Nat.le_succ _⟩)
  | ['\\'] => (.breakOff .endInString, ⟨[], Nat.zero_le _⟩)
  | '\\' :: 'u' :: first :: second :: third :: fourth :: rest =>
    match hexUnit? first second third fourth with
    | none => (.breakOff .invalidEscape, ⟨[], Nat.zero_le _⟩)
    | some unit =>
      let keep (change : Quoted → Quoted) (rest : Rest rest) :=
        let (body, behind) := quoted rest.1
        (change body, behind.widen (by
          have := rest.2; simp only [List.length_cons]; omega))
      if isLowSurrogate unit then keep (.spoil .loneSurrogate) ⟨rest, Nat.le_refl _⟩
      else if isHighSurrogate unit then
        match secondHalf unit rest with
        | .paired character behind => keep (.cons character) behind
        | .missing fault => keep (.spoil fault) ⟨rest, Nat.le_refl _⟩
        | .broken fault => (.breakOff fault, ⟨[], Nat.zero_le _⟩)
      else keep (.cons (Char.ofNat unit)) ⟨rest, Nat.le_refl _⟩
  | '\\' :: 'u' :: rest => (.breakOff (shortEscape rest), ⟨[], Nat.zero_le _⟩)
  | '\\' :: letter :: rest =>
    match escaped? letter with
    | none => (.breakOff .invalidEscape, ⟨[], Nat.zero_le _⟩)
    | some character =>
      let (body, behind) := quoted rest
      (body.cons character, behind.widen (by simp only [List.length_cons]; omega))
  | character :: rest =>
    if character.toNat < 32 then (.breakOff .controlCharacter, ⟨[], Nat.zero_le _⟩)
    else
      let (body, behind) := quoted rest
      (body.cons character, behind.widen (Nat.le_succ _))
termination_by text.length
decreasing_by
  · have := rest.2; simp only [List.length_cons]; omega
  · simp only [List.length_cons]; omega
  · simp only [List.length_cons]; omega

/-- The value of a decimal digit. -/
def digitValue (character : Char) : Nat := character.toNat - '0'.toNat

/-- The digits that a text starts with, and the text behind them. -/
def digits (text : List Char) : List Nat × Rest text :=
  ((text.takeWhile Char.isDigit).map digitValue,
    ⟨text.dropWhile Char.isDigit, (List.dropWhile_sublist _).length_le⟩)

/-- The fault of a number that lacks a digit in front of `rest`. -/
def digitMissing (rest : List Char) : Fault :=
  if rest.isEmpty then .endInNumber else .invalidNumber

/-- Read the exponent of a number, where there is one. -/
def exponentPart (text : List Char) :
    Except Fault (Option (Bool × List Nat) × Rest text) :=
  match text with
  | letter :: rest =>
    if letter = 'e' ∨ letter = 'E' then
      let (negative, unsigned) : Bool × Rest rest :=
        match rest with
        | '+' :: unsigned => (false, ⟨unsigned, Nat.le_succ _⟩)
        | '-' :: unsigned => (true, ⟨unsigned, Nat.le_succ _⟩)
        | unsigned => (false, ⟨unsigned, Nat.le_refl _⟩)
      match digits unsigned.1 with
      | ([], _) => .error (digitMissing unsigned.1)
      | (found, behind) =>
        .ok (some (negative, found), (behind.widen unsigned.2).widen (Nat.le_succ _))
    else .ok (none, ⟨letter :: rest, Nat.le_refl _⟩)
  | [] => .ok (none, ⟨[], Nat.le_refl _⟩)

/-- Read the fraction of a number, where there is one. -/
def fractionPart (text : List Char) : Except Fault (Option (List Nat) × Rest text) :=
  match text with
  | '.' :: rest =>
    match digits rest with
    | ([], _) => .error (digitMissing rest)
    | (found, behind) => .ok (some found, behind.widen (Nat.le_succ _))
  | rest => .ok (none, ⟨rest, Nat.le_refl _⟩)

/-- Read a number behind its sign and the digits already read, at most one. A leading zero
stands alone before the point. -/
def numeral (negative : Bool) (read : List Nat) (text : List Char) :
    Except Fault (Numeral × Rest text) := do
  let (found, behindWhole) := digits text
  match read ++ found with
  | [] => .error (digitMissing text)
  | 0 :: _ :: _ => .error .invalidNumber
  | whole =>
    let (fraction, behindFraction) ← fractionPart behindWhole.1
    let (exponent, behind) ← exponentPart behindFraction.1
    return (⟨negative, whole, fraction, exponent⟩,
      (behind.widen behindFraction.2).widen behindWhole.2)

/-- The rest of a word whose first letter has been read: the word's other letters must
follow. -/
def word (letters text : List Char) : Except Fault (Rest text) :=
  match letters, text with
  | [], text => .ok ⟨text, Nat.le_refl _⟩
  | _ :: _, [] => .error .endBeforeValue
  | letter :: letters, character :: rest =>
    if letter = character then (word letters rest).map (·.widen (Nat.le_succ _))
    else .error .literalExpected

/-- A text as its tokens. -/
def tokens (text : List Char) : List Token :=
  match text with
  | [] => []
  | character :: rest =>
    let literal (token : Token) (letters : List Char) : List Token :=
      match word letters rest with
      | .ok behind => token :: tokens behind.1
      | .error fault => [.fault fault]
    if isBlank character then tokens rest
    else
      match character with
      | '[' => .openList :: tokens rest
      | ']' => .closeList :: tokens rest
      | '\x7b' => .openObject :: tokens rest
      | '\x7d' => .closeObject :: tokens rest
      | ',' => .comma :: tokens rest
      | ':' => .colon :: tokens rest
      | 'n' => literal .null ['u', 'l', 'l']
      | 't' => literal (.bool true) ['r', 'u', 'e']
      | 'f' => literal (.bool false) ['a', 'l', 's', 'e']
      | '"' =>
        let (value, behind) := quoted rest
        .string value :: tokens behind.1
      | '-' =>
        match numeral true [] rest with
        | .ok (value, behind) => .number value :: tokens behind.1
        | .error fault => [.fault fault]
      | character =>
        if character.isDigit then
          match numeral false [digitValue character] rest with
          | .ok (value, behind) => .number value :: tokens behind.1
          | .error fault => [.fault fault]
        else [.fault .valueExpected]
termination_by text.length
decreasing_by
  all_goals simp only [List.length_cons]
  all_goals omega

end Json

end Converge
