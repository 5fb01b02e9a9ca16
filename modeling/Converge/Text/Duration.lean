/-!
# Durations in messages

Durations are whole milliseconds. They are shown in seconds from one second on and in
milliseconds below; nothing at all is shown in nanoseconds.
-/

namespace Converge.Text

/-- The decimals of a number of thousandths, without zeros at the end. -/
def thousandths (value : Nat) : String :=
  if value = 0 then ""
  else if value % 100 = 0 then "." ++ toString (value / 100)
  else if value % 10 = 0 then
    "." ++ toString (value / 100) ++ toString (value / 10 % 10)
  else "." ++ toString (value / 100) ++ toString (value / 10 % 10) ++ toString (value % 10)

/-- A duration with all its decimals. -/
def duration (milliseconds : Nat) : String :=
  if milliseconds = 0 then "0ns"
  else if milliseconds < 1000 then toString milliseconds ++ "ms"
  else toString (milliseconds / 1000) ++ thousandths (milliseconds % 1000) ++ "s"

/-- The tenths of seconds nearest to a duration; of two the even number. -/
def nearestTenths (milliseconds : Nat) : Nat :=
  let tenths := milliseconds / 100
  let rest := milliseconds % 100
  if 50 < rest ∨ (rest = 50 ∧ tenths % 2 = 1) then tenths + 1 else tenths

/-- A duration with one decimal. -/
def roundedDuration (milliseconds : Nat) : String :=
  if milliseconds = 0 then "0.0ns"
  else if milliseconds < 1000 then toString milliseconds ++ ".0ms"
  else
    let tenths := nearestTenths milliseconds
    toString (tenths / 10) ++ "." ++ toString (tenths % 10) ++ "s"

end Converge.Text
