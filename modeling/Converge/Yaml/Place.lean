/-!
# Places in a YAML text

A place is what is left of a text, with the line and the column that it begins at. Line
breaks are single characters here: `normalized` has replaced the other spellings of the
line feed. Two breaks are not line feeds, the line and the paragraph separator; they are
kept as they are where the others are folded.

Everything that reads from a place leaves a place with less text, which is how the readers
of tokens end.
-/

namespace Converge.Yaml

/-! ## Characters -/

/-- Whether a character may occur in a text at all. -/
def isAllowed (c : Char) : Bool :=
  let code := c.toNat
  code == 0x09 || code == 0x0A || code == 0x0D || (0x20 ≤ code && code ≤ 0x7E) || code == 0x85
    || (0xA0 ≤ code && code ≤ 0xD7FF) || (0xE000 ≤ code && code ≤ 0xFFFD) || 0x10000 ≤ code

/-- Whether a character ends a line. -/
def isBreak (c : Char) : Bool := c == '\n' || c == '\u2028' || c == '\u2029'

def isBlank (c : Char) : Bool := c == ' ' || c == '\t'

/-- Whether a character may be part of a name: ASCII letters, digits, `-` and `_`. -/
def isWordChar (c : Char) : Bool := c.isAlphanum || c == '-' || c == '_'

/-- The mark that may begin a text to say how it is encoded. -/
def byteOrderMark : Char := '\ufeff'

/-- The characters with each line break as one character. -/
def normalized : List Char → List Char
  | '\r' :: '\n' :: rest => '\n' :: normalized rest
  | c :: rest => (if c == '\r' || c == '\u0085' then '\n' else c) :: normalized rest
  | [] => []

/-! ## Places -/

/-- What is left of a text, and where that is. -/
structure Place where
  rest : List Char
  line : Nat
  column : Nat
deriving DecidableEq, Repr

namespace Place

/-- The next character and the place behind it. -/
def next? (place : Place) : Option (Char × Place) :=
  match place.rest with
  | [] => none
  | c :: rest =>
    some (c, if isBreak c then ⟨rest, place.line + 1, 0⟩ else ⟨rest, place.line, place.column + 1⟩)

theorem length_of_next? {place after : Place} {c : Char} (h : place.next? = some (c, after)) :
    after.rest.length < place.rest.length := by
  unfold next? at h
  split at h
  · cases h
  · rename_i hrest
    simp only [Option.some.injEq, Prod.mk.injEq] at h
    rw [← h.2, hrest]
    split <;> simp

/-- The character that many places ahead. -/
def peek (place : Place) (ahead : Nat) : Option Char := place.rest[ahead]?

/-- The place behind the next character. -/
def skip (place : Place) : Place :=
  match place.next? with
  | some (_, after) => after
  | none => place

/-- Whether the text goes on with a character. -/
def startsWith (place : Place) (c : Char) : Bool := place.peek 0 == some c

/-- Whether a character satisfies a condition, where there is one. -/
def holdsAt (place : Place) (ahead : Nat) (condition : Char → Bool) : Bool :=
  (place.peek ahead).any condition

def atEnd (place : Place) : Bool := place.rest.isEmpty

/-- Whether a blank, a line break or the end is that many places ahead. -/
def isFreeAt (place : Place) (ahead : Nat) : Bool :=
  (place.peek ahead).all fun c => isBlank c || isBreak c

/-- Whether a line break or the end comes next. -/
def atLineEnd (place : Place) : Bool := (place.peek 0).all isBreak

/-- The characters with a property, and the place behind them. -/
def span (property : Char → Bool) (place : Place) : List Char × Place :=
  match _h : place.next? with
  | some (c, after) =>
    if property c then
      let (more, last) := span property after
      (c :: more, last)
    else ([], place)
  | none => ([], place)
termination_by place.rest.length
decreasing_by exact length_of_next? ‹_›

/-- The place behind the characters with a property. -/
def skipWhile (property : Char → Bool) (place : Place) : Place := (place.span property).2

/-- The place behind a comment, if there is one. -/
def skipComment (place : Place) : Place :=
  if place.startsWith '#' then place.skipWhile (!isBreak ·) else place

/-- The end of a line on which only blanks and a comment are left. -/
def lineEnd? (place : Place) : Option Place :=
  let place := (place.skipWhile isBlank).skipComment
  if place.atLineEnd then some place.skip else none

/-- Whether a line begins with three equal marks that stand alone. -/
def hasMark (place : Place) (mark : Char) : Bool :=
  place.column == 0 && place.rest.take 3 == [mark, mark, mark] && place.isFreeAt 3

/-- Whether a line begins with a mark between documents. -/
def atDocumentMark (place : Place) : Bool := place.hasMark '-' || place.hasMark '.'

/-- The place at which a text begins, if the text holds no control characters. The mark of
the encoding does not count; one that is repeated takes a column. -/
def start? (text : String) : Option Place :=
  let characters := match text.toList with
    | first :: rest => if first == byteOrderMark then rest else first :: rest
    | [] => []
  if characters.all isAllowed then
    let place : Place := ⟨normalized characters, 0, 0⟩
    some (if place.startsWith byteOrderMark then place.skip else place)
  else none

end Place

/-! ## Gaps -/

/-- Blanks and line breaks between two pieces of a scalar. -/
structure Gap where
  /-- The blanks, as long as no line has ended. -/
  blanks : List Char
  /-- The first line break. -/
  first : List Char
  /-- The line breaks behind the first. -/
  more : List Char
  /-- Whether a line has ended. -/
  broken : Bool
deriving DecidableEq, Repr

namespace Gap

def none : Gap := ⟨[], [], [], false⟩

/-- What a gap stands for: its blanks, or else its line breaks, of which the first becomes
a blank if it is alone and is dropped if it is not. -/
def folded (gap : Gap) : List Char :=
  if gap.broken then
    if gap.first == ['\n'] then (if gap.more.isEmpty then [' '] else gap.more)
    else gap.first ++ gap.more
  else gap.blanks

/-- Take in a blank. -/
def pushBlank (gap : Gap) (c : Char) : Gap :=
  if gap.broken then gap else { gap with blanks := gap.blanks ++ [c] }

/-- Take in a line break. -/
def pushBreak (gap : Gap) (c : Char) : Gap :=
  if gap.broken then { gap with more := gap.more ++ [c] } else ⟨[], [c], [], true⟩

/-- Read on in a gap. On the lines behind the first, a tab may not stand in a column before
`indent`. -/
def read? (indent : Int) (gap : Gap) (place : Place) : Option (Gap × Place) :=
  match _h : place.next? with
  | .none => some (gap, place)
  | some (c, after) =>
    if isBreak c then read? indent (gap.pushBreak c) after
    else if isBlank c then
      if gap.broken && c == '\t' && place.column < indent then .none
      else read? indent (gap.pushBlank c) after
    else some (gap, place)
termination_by place.rest.length
decreasing_by all_goals exact Place.length_of_next? ‹_›

end Gap

end Converge.Yaml
