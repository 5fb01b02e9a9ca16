/-!
# Membership changes

Two lists of names are compared as sets by one tally: each distinct name of the desired list
counts one up, each distinct name of the observed list one down. `Delta.between` adds the names
whose count stays above zero and removes those whose count falls below; the tally keeps the
names in the order in which the two lists first name them, so that a run and its repetition
make their changes in one order.
-/

namespace Converge

/-- The single changes that lead from one set of names to another. -/
structure Delta where
  toAdd : List String
  toRemove : List String
deriving DecidableEq, Repr

/-- What each name counts, in the order in which the names were first met. -/
abbrev Tally := List (String × Int)

namespace Tally

/-- Let a name count more. One that is met first starts from zero, behind the others. -/
def count (weight : Int) (name : String) : Tally → Tally
  | [] => [(name, weight)]
  | (other, worth) :: rest =>
    if other = name then (other, worth + weight) :: rest
    else (other, worth) :: count weight name rest

/-- Let each distinct name of a list count more, but for those that were seen in it before. -/
def countAll (weight : Int) : (seen names : List String) → Tally → Tally
  | _, [], tally => tally
  | seen, name :: names, tally =>
    if seen.contains name then countAll weight seen names tally
    else countAll weight (name :: seen) names (count weight name tally)

/-- The tally of two lists: a name of both counts nothing. -/
def between (desired observed : List String) : Tally :=
  countAll (-1) [] observed (countAll 1 [] desired [])

end Tally

namespace Delta

/-- The changes that turn the observed names into the desired ones. -/
def between (desired observed : List String) : Delta :=
  let tally := Tally.between desired observed
  ⟨(tally.filter (0 < ·.2)).map Prod.fst, (tally.filter (·.2 < 0)).map Prod.fst⟩

def isEmpty (delta : Delta) : Bool := delta.toAdd.isEmpty && delta.toRemove.isEmpty

/-- The number of single changes. -/
def size (delta : Delta) : Nat := delta.toAdd.length + delta.toRemove.length

/-- Carry out the changes on a list of names: additions at the end, removals of every
occurrence. -/
def apply (delta : Delta) (names : List String) : List String :=
  (names ++ delta.toAdd).filter fun name => !delta.toRemove.contains name

end Delta

end Converge
