import Converge.Binary64.Shortest

/-!
# Layouts of decimals

Where the text of a binary64 number is positional and where it has an exponent. The digits
are those of the shortest decimal in either case.
-/

namespace Converge.Binary64

/-- How finite numbers are laid out: the places of the leading digit at which numbers are
written positionally run from `firstPlain` to `lastPlain`. -/
structure Layout where
  firstPlain : Int
  lastPlain : Int
  /-- Whether a plus sign stands before an exponent that is not negative. -/
  plus : Bool
deriving Repr

/-- The text of `digits · 10 ^ exponent` in positional notation, with at least one digit
after the point. -/
def positional (digits : List Char) (exponent : Int) : List Char :=
  if 0 ≤ exponent then digits ++ List.replicate exponent.toNat '0' ++ ['.', '0']
  else
    let places := (-exponent).toNat
    let padded := List.replicate (places + 1 - digits.length) '0' ++ digits
    let point := padded.length - places
    padded.take point ++ '.' :: padded.drop point

namespace Layout

/-- The digits with the point behind the first of them, and the exponent that belongs to it. -/
def scientific (layout : Layout) (digits : List Char) (leading : Int) : List Char :=
  let mantissa :=
    match digits with
    | [] => ['0']
    | [digit] => [digit]
    | digit :: rest => digit :: '.' :: rest
  let sign := if leading < 0 then ['-'] else if layout.plus then ['+'] else []
  mantissa ++ 'e' :: sign ++ Nat.toDigits 10 leading.natAbs

/-- The shortest text of a finite number. -/
def write (layout : Layout) (value : Binary64) : String :=
  let decimal := value.shortest
  let digits := Nat.toDigits 10 decimal.digits
  let leading := decimal.exponent + digits.length - 1
  let body :=
    if layout.firstPlain ≤ leading ∧ leading ≤ layout.lastPlain then
      positional digits decimal.exponent
    else layout.scientific digits leading
  String.ofList (if value.isNegative then '-' :: body else body)

end Layout

end Converge.Binary64
