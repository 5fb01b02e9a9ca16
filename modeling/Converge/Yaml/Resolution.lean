import Converge.Binary64

/-!
# What plain scalars mean

A plain scalar is null, a boolean, a whole number, a real number or a text, by how it is
written. Whole numbers may be hexadecimal, octal or binary; decimal ones may not begin with
a zero that is not the whole number, which leaves a text. Real numbers are rounded to the
nearest binary64 number and are texts if that is infinite.
-/

namespace Converge.Yaml

/-- What a plain scalar means. -/
inductive Meaning where
  | null
  | bool (value : Bool)
  | whole (value : Int)
  | real (value : Binary64)
  | text
deriving DecidableEq, Repr

def isNullText (text : String) : Bool := ["null", "Null", "NULL", "~"].contains text

def boolOf? (text : String) : Option Bool :=
  if ["true", "True", "TRUE"].contains text then some true
  else if ["false", "False", "FALSE"].contains text then some false
  else none

/-! ## Whole numbers -/

/-- A digit of a number system. -/
def digitOf? (radix : Nat) (c : Char) : Option Nat :=
  let code := c.toNat
  let digit :=
    if c.isDigit then code - 48
    else if 97 ≤ code ∧ code ≤ 122 then code - 87
    else if 65 ≤ code ∧ code ≤ 90 then code - 55
    else radix
  if digit < radix then some digit else none

/-- The number that digits of a number system write. -/
def digitsOf? (radix : Nat) (digits : List Char) : Option Nat :=
  if digits.isEmpty then none
  else digits.foldl (fun sum c => do return (← sum) * radix + (← digitOf? radix c)) (some 0)

/-- The number that is written behind the mark of a number system. -/
def markedDigits? : List Char → Option Nat
  | '0' :: 'x' :: digits => digitsOf? 16 digits
  | '0' :: 'o' :: digits => digitsOf? 8 digits
  | '0' :: 'b' :: digits => digitsOf? 2 digits
  | _ => none

/-- The characters behind a plus sign, where there is one. -/
def withoutPlus : List Char → List Char
  | '+' :: rest => rest
  | characters => characters

/-- Whether decimal digits begin with a zero that is not the whole number. -/
def hasIdleZero (characters : List Char) : Bool :=
  let digits := match characters with
    | '-' :: rest => rest
    | other => withoutPlus other
  match digits with
  | '0' :: rest => !rest.isEmpty && rest.all Char.isDigit
  | _ => false

/-- The decimal number that digits write. -/
def decimalDigits? (characters digits : List Char) : Option Nat :=
  if hasIdleZero characters then none else digitsOf? 10 digits

/-- A natural number. -/
def naturalOf? (characters : List Char) : Option Nat :=
  let digits := withoutPlus characters
  (markedDigits? digits).or (decimalDigits? characters digits)

/-- A whole number with a minus sign. -/
def negativeOf? : List Char → Option Int
  | '-' :: digits =>
    ((markedDigits? digits).or (decimalDigits? ('-' :: digits) digits)).map fun value =>
      -(value : Int)
  | _ => none

/-- A whole number. -/
def wholeOf? (characters : List Char) : Option Int :=
  ((naturalOf? characters).map Int.ofNat).or (negativeOf? characters)

/-- Whether a whole number is taken for one: it needs to fit 128 bits. -/
def isWordSized (value : Int) : Bool :=
  -Int.ofNat (1 <<< 127) ≤ value && value < Int.ofNat (1 <<< 128)

/-! ## Real numbers -/

/-- Digits in front, and what stands behind them. -/
def cutDigits (characters : List Char) : List Char × List Char :=
  (characters.takeWhile Char.isDigit, characters.dropWhile Char.isDigit)

/-- The number that a list of digits writes, which is zero for none. -/
def decimalValue (digits : List Char) : Nat :=
  digits.foldl (fun sum c => sum * 10 + (c.toNat - 48)) 0

/-- The exponent that ends a real number. -/
def exponentOf? : List Char → Option Int
  | [] => some 0
  | mark :: rest =>
    if mark == 'e' || mark == 'E' then
      let (negative, digits) : Bool × List Char := match rest with
        | '-' :: digits => (true, digits)
        | other => (false, withoutPlus other)
      if digits.isEmpty || !digits.all Char.isDigit then none
      else some (if negative then -(decimalValue digits : Int) else decimalValue digits)
    else none

/-- The places of the first digit that are beyond what a binary64 number can have. -/
def largestPlace : Int := 400

/-- The binary64 number nearest to a decimal one, without computing powers that are far out
of its range. -/
def nearestReal (negative : Bool) (digits : Nat) (exponent : Int) : Binary64 :=
  let place := exponent + (toString digits).length
  if digits = 0 ∨ place < -largestPlace then .ofDecimal negative 0 0
  else if largestPlace < place then .ofDecimal negative 1 largestPlace
  else .ofDecimal negative digits exponent

/-- A real number without a plus sign. -/
def unsignedRealOf? (characters : List Char) : Option Binary64 := do
  let (negative, characters) : Bool × List Char := match characters with
    | '-' :: rest => (true, rest)
    | other => (false, other)
  let (before, rest) := cutDigits characters
  let (behind, rest) := match rest with
    | '.' :: rest => cutDigits rest
    | other => ([], other)
  if before.isEmpty && behind.isEmpty then none
  let exponent ← exponentOf? rest
  let value :=
    nearestReal negative (decimalValue (before ++ behind)) (exponent - behind.length)
  if value.isFinite then some value else none

def positiveInfinity : Binary64 := ⟨0x7FF0000000000000⟩

def quietNaN : Binary64 := ⟨0x7FF8000000000000⟩

/-- A real number. -/
def realOf? (characters : List Char) : Option Binary64 :=
  let unsigned := withoutPlus characters
  if characters.head? == some '+' && unsigned.head?.any (fun c => c == '+' || c == '-') then none
  else if [".inf", ".Inf", ".INF"].contains (String.ofList unsigned) then some positiveInfinity
  else if ["-.inf", "-.Inf", "-.INF"].contains (String.ofList characters) then
    some positiveInfinity.neg
  else if [".nan", ".NaN", ".NAN"].contains (String.ofList characters) then some quietNaN
  else unsignedRealOf? unsigned

/-! ## Meaning -/

/-- What a number means, if a text writes one. -/
def numberOf? (text : String) : Option Meaning :=
  let characters := text.toList
  match (wholeOf? characters).filter isWordSized with
  | some value => some (.whole value)
  | none => if hasIdleZero characters then none else (realOf? characters).map .real

/-- What a plain scalar means. -/
def Meaning.ofText (text : String) : Meaning :=
  if text.isEmpty || isNullText text then .null
  else
    match boolOf? text with
    | some value => .bool value
    | none => (numberOf? text).getD .text

end Converge.Yaml
