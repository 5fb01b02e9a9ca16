import Converge.Text.Blank

/-!
# Timestamps

A timestamp is an instant in universal time, by its day, the second of that day and the
nanosecond. A leap second is held as the second before it with a thousand million
nanoseconds or more.

`Timestamp.parse` reads the format of RFC 3339 with some freedom: blanks around the
pieces, single digits, a blank or a small letter between date and time, years beyond four
digits with a sign, and any offset below a day. `render` writes the shortest of no, three,
six or nine decimals that holds the nanoseconds.
-/

namespace Converge

/-- An instant in universal time. -/
structure Timestamp where
  /-- Days since 1970-01-01 of the Gregorian calendar. -/
  day : Int
  /-- Seconds since midnight. -/
  second : Nat
  /-- Nanoseconds since the second; from a thousand million on within a leap second. -/
  nano : Nat
deriving DecidableEq, Repr

namespace Timestamp

/-- Why a text is no timestamp. -/
inductive Fault where
  | outOfRange
  /-- No instant that can be held has this local time. -/
  | impossible
  | invalid
  | tooShort
  | tooLong
deriving DecidableEq, Repr

def Fault.message : Fault → String
  | .outOfRange => "input is out of range"
  | .impossible => "no possible date and time matching input"
  | .invalid => "input contains invalid characters"
  | .tooShort => "premature end of input"
  | .tooLong => "trailing input"

/-! ## Calendar -/

def isLeapYear (year : Int) : Bool :=
  year % 4 == 0 && (year % 100 != 0 || year % 400 == 0)

def daysInMonth (year : Int) (month : Nat) : Nat :=
  if month = 2 then (if isLeapYear year then 29 else 28)
  else if month = 4 ∨ month = 6 ∨ month = 9 ∨ month = 11 then 30
  else 31

/-- Days from 1970-01-01 to a date. The year is counted from March, so that the leap day
is its last. -/
def dayOf (year : Int) (month day : Nat) : Int :=
  let marchYear := if month ≤ 2 then year - 1 else year
  let monthFromMarch := (month + 9) % 12
  365 * marchYear + marchYear.fdiv 4 - marchYear.fdiv 100 + marchYear.fdiv 400
    + (153 * monthFromMarch + 2) / 5 + day - 719469

/-- The year, month and day of a day number. -/
def dateOf (days : Int) : Int × Nat × Nat :=
  let shifted := days + 719468
  let era := shifted.fdiv 146097
  let dayOfEra := (shifted - era * 146097).toNat
  let yearOfEra := (dayOfEra - dayOfEra / 1460 + dayOfEra / 36524 - dayOfEra / 146096) / 365
  let dayOfYear := dayOfEra - (365 * yearOfEra + yearOfEra / 4 - yearOfEra / 100)
  let monthFromMarch := (5 * dayOfYear + 2) / 153
  let day := dayOfYear - (153 * monthFromMarch + 2) / 5 + 1
  let month := if monthFromMarch < 10 then monthFromMarch + 3 else monthFromMarch - 9
  (era * 400 + yearOfEra + (if month ≤ 2 then 1 else 0), month, day)

/-- The years whose dates can be held. -/
def firstYear : Int := -262143

def lastYear : Int := 262142

/-! ## Reading

Each reader gives what it reads and the rest of the text. -/

/-- Read digits into a number: at least one, at most `limit` where there is a limit. -/
def digits (value : Nat) (read : Nat) (limit : Option Nat) :
    List Char → Except Fault (Nat × List Char)
  | [] => if read = 0 then .error .tooShort else .ok (value, [])
  | c :: rest =>
    if limit = some read then .ok (value, c :: rest)
    else if c.isDigit then
      let next := value * 10 + (c.toNat - '0'.toNat)
      if 1 <<< 63 ≤ next then .error .outOfRange else digits next (read + 1) limit rest
    else if read = 0 then .error .invalid
    else .ok (value, c :: rest)

/-- Read a number of at most `limit` digits. -/
def number (limit : Nat) (text : List Char) : Except Fault (Nat × List Char) :=
  digits 0 0 (some limit) text

/-- Read a number of two digits at most that has to lie between two bounds, after blanks. -/
def field (first last : Nat) (text : List Char) : Except Fault (Nat × List Char) := do
  let (value, rest) ← number 2 (Text.trimLeft text)
  if first ≤ value ∧ value ≤ last then .ok (value, rest) else .error .outOfRange

/-- Read a year after blanks: four digits at most, or any number of them behind a sign. -/
def year (text : List Char) : Except Fault (Int × List Char) := do
  let (value, rest) : Int × List Char ←
    match Text.trimLeft text with
    | '-' :: text => (digits 0 0 none text).map fun (value, rest) => (-(value : Int), rest)
    | '+' :: text => (digits 0 0 none text).map fun (value, rest) => ((value : Int), rest)
    | text => (number 4 text).map fun (value, rest) => ((value : Int), rest)
  if Int32.minValue.toInt ≤ value ∧ value ≤ Int32.maxValue.toInt then .ok (value, rest)
  else .error .outOfRange

/-- Read one character after blanks. -/
def mark (expected : Char) (text : List Char) : Except Fault (Unit × List Char) :=
  match Text.trimLeft text with
  | [] => .error .tooShort
  | c :: rest => if c = expected then .ok ((), rest) else .error .invalid

/-- Read the decimals of a second; more than nine digits are cut off. -/
def decimals : List Char → Except Fault (Nat × List Char)
  | '.' :: text => do
    let (value, rest) ← number 9 text
    let scale := Nat.pow 10 (9 - (text.length - rest.length))
    return (value * scale, rest.dropWhile Char.isDigit)
  | text => .ok (0, text)

/-- The two bytes at the front of a text, where it has so many. -/
def twoDigits : List Char → Except Fault (Char × Char)
  | [] => .error .tooShort
  | [c] => if c.utf8Size < 2 then .error .tooShort else .ok (c, c)
  | c :: d :: _ => .ok (c, d)

/-- Read a sign. -/
def sign : List Char → Except Fault (Bool × List Char)
  | [] => .error .tooShort
  | '+' :: rest => .ok (false, rest)
  | '-' :: rest => .ok (true, rest)
  | c :: rest => if c.toNat = 0x2212 then .ok (true, rest) else .error .invalid

/-- Read an offset from universal time, in seconds. -/
def offset : List Char → Except Fault (Int × List Char)
  | 'Z' :: rest => .ok (0, rest)
  | 'z' :: rest => .ok (0, rest)
  | text => do
    let (negative, text) ← sign text
    let (tens, ones) ← twoDigits text
    if !(tens.isDigit && ones.isDigit) then throw .invalid
    let hours := (tens.toNat - 48) * 10 + (ones.toNat - 48)
    let text := (text.drop 2).dropWhile fun c => c = ':' || Text.isSpace c
    let (tens, ones) ← twoDigits text
    if !(tens.isDigit && ones.isDigit) then throw .invalid
    if '6' ≤ tens then throw .outOfRange
    let seconds : Int := hours * 3600 + ((tens.toNat - 48) * 10 + (ones.toNat - 48)) * 60
    return (if negative then -seconds else seconds, text.drop 2)

/-- Read the name of universal time, or an offset. -/
def zone (text : List Char) : Except Fault (Int × List Char) :=
  match text with
  | u :: t :: c :: rest =>
    if [u, t, c].map Char.toUpper = ['U', 'T', 'C'] then .ok (0, rest) else offset text
  | _ => offset text

/-- The instant of a local time at an offset from universal time. -/
def ofLocal (year : Int) (month day hour minute second nano : Nat) (offset : Int) :
    Except Fault Timestamp := do
  if year < firstYear ∨ lastYear < year ∨ daysInMonth year month < day then throw .outOfRange
  if offset ≤ -86400 ∨ 86400 ≤ offset then throw .outOfRange
  let (second, nano) := if second = 60 then (59, nano + 1000000000) else (second, nano)
  let seconds : Int := dayOf year month day * 86400 + (hour * 3600 + minute * 60 + second)
    - offset
  let instant : Timestamp := ⟨seconds.fdiv 86400, (seconds.fmod 86400).toNat, nano⟩
  let (year, _, _) := dateOf instant.day
  if year < firstYear ∨ lastYear < year then throw .impossible
  return instant

/-- Read a timestamp. -/
def parse (text : String) : Except Fault Timestamp := do
  let (year, rest) ← year text.toList
  let (_, rest) ← mark '-' rest
  let (month, rest) ← field 1 12 rest
  let (_, rest) ← mark '-' rest
  let (day, rest) ← field 1 31 rest
  let rest ←
    match rest with
    | [] => throw .tooShort
    | c :: rest => if c = 't' ∨ c = 'T' ∨ c = ' ' then pure rest else throw .invalid
  let (hour, rest) ← field 0 23 rest
  let (_, rest) ← mark ':' rest
  let (minute, rest) ← field 0 59 rest
  let (_, rest) ← mark ':' rest
  let (second, rest) ← field 0 60 rest
  let (nano, rest) ← decimals rest
  let (offset, rest) ← zone (Text.trimLeft rest)
  if Text.trimLeft rest ≠ [] then throw .tooLong
  ofLocal year month day hour minute second nano offset

/-! ## Writing -/

/-- A number with leading zeros up to a width. -/
def padded (width value : Nat) : String :=
  let digits := Nat.toDigits 10 value
  String.ofList (List.replicate (width - digits.length) '0' ++ digits)

/-- Four digits, or a sign and at least four digits for a year that is not so written. -/
def yearText (year : Int) : String :=
  if 0 ≤ year ∧ year ≤ 9999 then padded 4 year.toNat
  else (if year < 0 then "-" else "+") ++ padded 4 year.natAbs

/-- The decimals of a second, in groups of three. -/
def decimalsText (nano : Nat) : String :=
  if nano = 0 then ""
  else if nano % 1000000 = 0 then "." ++ padded 3 (nano / 1000000)
  else if nano % 1000 = 0 then "." ++ padded 6 (nano / 1000)
  else "." ++ padded 9 nano

/-- Date and time, without a zone. -/
def localText (instant : Timestamp) : String :=
  let (year, month, day) := dateOf instant.day
  let leap := 1000000000 ≤ instant.nano
  let second := instant.second % 60 + (if leap then 1 else 0)
  let nano := if leap then instant.nano - 1000000000 else instant.nano
  yearText year ++ "-" ++ padded 2 month ++ "-" ++ padded 2 day ++ "T"
    ++ padded 2 (instant.second / 3600) ++ ":" ++ padded 2 (instant.second / 60 % 60) ++ ":"
    ++ padded 2 second ++ decimalsText nano

/-- The form in documents, with `Z` for universal time. -/
def render (instant : Timestamp) : String := instant.localText ++ "Z"

/-- The form in states, with the offset of universal time written out. -/
def renderOffset (instant : Timestamp) : String := instant.localText ++ "+00:00"

end Timestamp

end Converge
