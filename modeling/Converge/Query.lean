import Converge.Value

/-!
# Filter queries

A query is either empty, which filters nothing, or an object with one operator: a
connective over a non-empty list of queries, a negation of one query, or a comparison of
one field with a value. `Query.parse` reads one from a dynamic value, `Query.toValue`
writes it, and the well-formed queries are the ones that `parse` gives. Field names and
values are not looked at, save that `$in` compares with a list.

An error says at which sub-query of the value the grammar is broken, as the steps that
lead there from the root.
-/

namespace Converge

/-- An operator that compares one field with a value. -/
inductive Comparison where
  | matches
  | like
  | less
  | lessOrEqual
  | greater
  | greaterOrEqual
  | exists
  | oneOf
deriving DecidableEq, Repr

namespace Comparison

def all : List Comparison :=
  [.matches, .like, .less, .lessOrEqual, .greater, .greaterOrEqual, .exists, .oneOf]

/-- The key of the operator. -/
def key : Comparison → String
  | .matches => "$match"
  | .like => "$like"
  | .less => "$lt"
  | .lessOrEqual => "$lte"
  | .greater => "$gt"
  | .greaterOrEqual => "$gte"
  | .exists => "$exists"
  | .oneOf => "$in"

/-- The operator with the given key. -/
def ofKey? (key : String) : Option Comparison := all.find? (·.key = key)

/-- Whether the operator can compare with the value: only `$in` asks for a list. -/
def admits (comparison : Comparison) (value : Value) : Bool :=
  comparison != .oneOf || value.asList?.isSome

end Comparison

/-- A parsed query; the values compared with stay dynamic. -/
inductive Query where
  | all
  | and (queries : List Query)
  | or (queries : List Query)
  | not (query : Query)
  | compare (comparison : Comparison) (field : String) (value : Value)
deriving Repr

namespace Query

/-! ## Errors -/

/-- One step from a query to a sub-query. -/
inductive Step where
  | and (index : Nat)
  | or (index : Nat)
  | not
deriving DecidableEq, Repr

def Step.text : Step → String
  | .and index => ".$and[" ++ toString index ++ "]"
  | .or index => ".$or[" ++ toString index ++ "]"
  | .not => ".$not"

/-- How a sub-query breaks the grammar. -/
inductive Fault where
  | notAnObject
  | multipleOperators (count : Nat)
  | unknownOperator (key : String)
  /-- A connective without a non-empty list. -/
  | expectedList (key : String)
  /-- A comparison without exactly one field. -/
  | expectedSingleField (key : String)
  /-- A comparison of a field with `$in` and no list. -/
  | expectedValues (field : String)
deriving DecidableEq, Repr

def Fault.message : Fault → String
  | .notAnObject => "query must be an object"
  | .multipleOperators count => "expected a single operator, found " ++ toString count ++ " keys"
  | .unknownOperator key => "unknown operator '" ++ key ++ "'"
  | .expectedList key => "'" ++ key ++ "' expects a non-empty list of queries"
  | .expectedSingleField key => "'" ++ key ++ "' expects an object with exactly one field"
  | .expectedValues field => "'$in' expects a list of values for field '" ++ field ++ "'"

/-- A broken sub-query: where it is and how it is broken. -/
structure Error where
  path : List Step
  fault : Fault
deriving DecidableEq, Repr

def Error.message (error : Error) : String :=
  "query" ++ String.join (error.path.map Step.text) ++ ": " ++ error.fault.message

/-! ## Reading and writing -/

/-- Read a comparison whose operator is known. -/
def parseComparison (path : List Step) (comparison : Comparison) : Value → Except Error Query
  | .map [(field, value)] =>
    if comparison.admits value then .ok (.compare comparison field value)
    else .error ⟨path, .expectedValues field⟩
  | _ => .error ⟨path, .expectedSingleField comparison.key⟩

mutual

/-- Read the sub-query that the steps lead to. -/
def parseAt (path : List Step) : Value → Except Error Query
  | .map [] => .ok .all
  | .map [("$and", .list (item :: items))] =>
    return .and (← parseItems path .and 0 (item :: items))
  | .map [("$or", .list (item :: items))] =>
    return .or (← parseItems path .or 0 (item :: items))
  | .map [("$and", _)] => .error ⟨path, .expectedList "$and"⟩
  | .map [("$or", _)] => .error ⟨path, .expectedList "$or"⟩
  | .map [("$not", operand)] => return .not (← parseAt (path ++ [.not]) operand)
  | .map [(key, operand)] =>
    match Comparison.ofKey? key with
    | some comparison => parseComparison path comparison operand
    | none => .error ⟨path, .unknownOperator key⟩
  | .map fields => .error ⟨path, .multipleOperators fields.length⟩
  | _ => .error ⟨path, .notAnObject⟩

/-- Read the sub-queries of a connective, the first of which has the given index. -/
def parseItems (path : List Step) (step : Nat → Step) (index : Nat) :
    List Value → Except Error (List Query)
  | [] => .ok []
  | item :: items => do
    let query ← parseAt (path ++ [step index]) item
    return query :: (← parseItems path step (index + 1) items)

end

/-- Read a query. -/
def parse (value : Value) : Except Error Query := parseAt [] value

mutual

/-- The value that a query is written as. -/
def toValue : Query → Value
  | .all => .map []
  | .and queries => .map [("$and", .list (toValues queries))]
  | .or queries => .map [("$or", .list (toValues queries))]
  | .not query => .map [("$not", query.toValue)]
  | .compare comparison field value => .map [(comparison.key, .map [(field, value)])]

def toValues : List Query → List Value
  | [] => []
  | query :: queries => query.toValue :: toValues queries

end

mutual

/-- Connectives join at least one query, and comparisons admit their value. -/
def WellFormed : Query → Prop
  | .all => True
  | .and queries => queries ≠ [] ∧ AllWellFormed queries
  | .or queries => queries ≠ [] ∧ AllWellFormed queries
  | .not query => query.WellFormed
  | .compare comparison _ value => comparison.admits value = true

def AllWellFormed : List Query → Prop
  | [] => True
  | query :: queries => query.WellFormed ∧ AllWellFormed queries

end

/-- Whether the query filters nothing. -/
def isAll : Query → Bool
  | .all => true
  | _ => false

end Query

end Converge
