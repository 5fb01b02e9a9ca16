import Mathlib.Data.Set.Function
import Converge.Proofs.Decode
import Converge.Query

/-!
# The grammar of filter queries

The top level of a value either follows the grammar, with the sub-queries it has as parameters, or
breaks it in one of six ways. Reading goes level by level: it gives up at a level that breaks the
grammar, and reads the sub-queries of any other. So the values that are read are the ones that
well-formed queries are written as, and each is read as the query it is written for.
-/

namespace Converge

/-! ## Operators -/

namespace Comparison

theorem ofKey?_key (comparison : Comparison) : ofKey? comparison.key = some comparison := by
  cases comparison <;> rfl

theorem key_of_ofKey? {key : String} {comparison : Comparison}
    (found : ofKey? key = some comparison) : comparison.key = key := by
  have isKey := List.find?_some found
  exact of_decide_eq_true isKey

/-- No comparison is written as a connective or as the negation. -/
theorem key_ne (comparison : Comparison) :
    comparison.key ≠ "$and" ∧ comparison.key ≠ "$or" ∧ comparison.key ≠ "$not" := by
  cases comparison <;> decide

/-- Only `$in` refuses a value, one that is no list. -/
theorem admits_eq_false_iff {comparison : Comparison} {value : Value} :
    comparison.admits value = false ↔ comparison = .oneOf ∧ ∀ items, value ≠ .list items := by
  cases comparison <;> cases value <;> simp [admits, Value.asList?]

end Comparison

namespace Query

/-- The two operators that join queries. -/
inductive Connective where
  | and
  | or
deriving DecidableEq, Repr

namespace Connective

def key : Connective → String
  | .and => "$and"
  | .or => "$or"

def step : Connective → Nat → Step
  | .and => .and
  | .or => .or

def join : Connective → List Query → Query
  | .and => .and
  | .or => .or

theorem toValue_join (connective : Connective) (queries : List Query) :
    (connective.join queries).toValue = .map [(connective.key, .list (toValues queries))] := by
  cases connective <;> rw [join, toValue, key]

theorem wellFormed_join (connective : Connective) {queries : List Query} :
    (connective.join queries).WellFormed ↔ queries ≠ [] ∧ AllWellFormed queries := by
  cases connective <;> rw [join, WellFormed]

end Connective

/-! ## One level of a query -/

/-- The top level of a value follows the grammar. -/
inductive LocallyWellFormed : Value → Prop where
  | all : LocallyWellFormed (.map [])
  | join (connective : Connective) (item : Value) (items : List Value) :
      LocallyWellFormed (.map [(connective.key, .list (item :: items))])
  | not (operand : Value) : LocallyWellFormed (.map [("$not", operand)])
  | compare (comparison : Comparison) (field : String) {value : Value}
      (admitted : comparison.admits value = true) :
      LocallyWellFormed (.map [(comparison.key, .map [(field, value)])])

/-- The top level of a value breaks the grammar as the fault says. -/
inductive Broken : Value → Fault → Prop where
  | notAnObject {value : Value} (other : ∀ fields, value ≠ .map fields) : Broken value .notAnObject
  | multipleOperators {fields : List (String × Value)} (several : 1 < fields.length) :
      Broken (.map fields) (.multipleOperators fields.length)
  | unknownOperator {key : String} {operand : Value}
      (noConnective : ∀ connective : Connective, key ≠ connective.key) (noNegation : key ≠ "$not")
      (noComparison : ∀ comparison : Comparison, key ≠ comparison.key) :
      Broken (.map [(key, operand)]) (.unknownOperator key)
  | expectedList {connective : Connective} {operand : Value}
      (noQueries : ∀ item items, operand ≠ .list (item :: items)) :
      Broken (.map [(connective.key, operand)]) (.expectedList connective.key)
  | expectedSingleField {comparison : Comparison} {operand : Value}
      (other : ∀ field value, operand ≠ .map [(field, value)]) :
      Broken (.map [(comparison.key, operand)]) (.expectedSingleField comparison.key)
  | expectedValues {field : String} {value : Value} (noValues : ∀ items, value ≠ .list items) :
      Broken (.map [("$in", .map [(field, value)])]) (.expectedValues field)

/-- A map with one key says by its key which operand it needs. -/
theorem locallyWellFormed_or_broken_single (key : String) (operand : Value) :
    LocallyWellFormed (.map [(key, operand)]) ∨ ∃ fault, Broken (.map [(key, operand)]) fault := by
  by_cases isConnective : ∃ connective : Connective, key = connective.key
  · obtain ⟨connective, rfl⟩ := isConnective
    by_cases queries : ∃ item items, operand = .list (item :: items)
    · obtain ⟨item, items, rfl⟩ := queries
      exact .inl (.join connective item items)
    · exact .inr ⟨_, .expectedList fun item items same => queries ⟨item, items, same⟩⟩
  by_cases isNegation : key = "$not"
  · rw [isNegation]
    exact .inl (.not operand)
  by_cases isComparison : ∃ comparison : Comparison, key = comparison.key
  · obtain ⟨comparison, rfl⟩ := isComparison
    by_cases single : ∃ field value, operand = .map [(field, value)]
    · obtain ⟨field, value, rfl⟩ := single
      cases admitted : comparison.admits value with
      | true => exact .inl (.compare comparison field admitted)
      | false =>
          obtain ⟨rfl, noValues⟩ := Comparison.admits_eq_false_iff.mp admitted
          exact .inr ⟨_, .expectedValues noValues⟩
    · exact .inr ⟨_, .expectedSingleField fun field value same => single ⟨field, value, same⟩⟩
  · exact .inr ⟨_, .unknownOperator (not_exists.mp isConnective) isNegation
      (not_exists.mp isComparison)⟩

/-- The top level of a value follows the grammar or breaks it. -/
theorem locallyWellFormed_or_broken (value : Value) :
    LocallyWellFormed value ∨ ∃ fault, Broken value fault := by
  by_cases isMap : ∃ fields, value = .map fields
  · obtain ⟨fields, rfl⟩ := isMap
    match fields with
    | [] => exact .inl .all
    | [(key, operand)] => exact locallyWellFormed_or_broken_single key operand
    | _ :: _ :: _ => exact .inr ⟨_, .multipleOperators (by simp)⟩
  · exact .inr ⟨_, .notAnObject (not_exists.mp isMap)⟩

/-! ## Reading one level -/

variable {path : List Step} {value : Value} {query : Query}

theorem parseAt_join (connective : Connective) (item : Value) (items : List Value) :
    parseAt path (.map [(connective.key, .list (item :: items))]) =
      (parseItems path connective.step 0 (item :: items)).map connective.join := by
  cases connective with
  | and =>
      rw [Connective.key, Connective.step, parseAt]
      cases parseItems path .and 0 (item :: items) <;> rfl
  | or =>
      rw [Connective.key, Connective.step, parseAt]
      cases parseItems path .or 0 (item :: items) <;> rfl

theorem parseAt_not (operand : Value) :
    parseAt path (.map [("$not", operand)]) =
      (parseAt (path ++ [.not]) operand).map .not := by
  rw [parseAt]
  cases parseAt (path ++ [.not]) operand <;> rfl

theorem parseAt_compare (comparison : Comparison) (operand : Value) :
    parseAt path (.map [(comparison.key, operand)]) =
      parseComparison path comparison operand := by
  obtain ⟨notAnd, notOr, notNot⟩ := comparison.key_ne
  rw [parseAt, Comparison.ofKey?_key] <;> simp_all

/-- A level that breaks the grammar is refused at its place, for the fault that it has. -/
theorem parseAt_broken (path : List Step) {fault : Fault} (broken : Broken value fault) :
    parseAt path value = .error ⟨path, fault⟩ := by
  cases broken with
  | notAnObject other => rw [parseAt] <;> simp_all
  | @multipleOperators fields several =>
      match fields, several with
      | _ :: _ :: _, _ => rw [parseAt] <;> simp_all
  | @unknownOperator key operand noConnective noNegation noComparison =>
      have unknown : Comparison.ofKey? key = none := by
        rw [Option.eq_none_iff_forall_ne_some]
        intro comparison found
        exact noComparison comparison (Comparison.key_of_ofKey? found).symm
      have notAnd : key ≠ "$and" := noConnective .and
      have notOr : key ≠ "$or" := noConnective .or
      rw [parseAt, unknown] <;> simp_all
  | @expectedList connective operand noQueries =>
      cases connective <;> rw [Connective.key, parseAt] <;> simp_all
  | expectedSingleField other =>
      rw [parseAt_compare, parseComparison]
      simp_all
  | @expectedValues field value noValues =>
      have refused : Comparison.oneOf.admits value = false :=
        Comparison.admits_eq_false_iff.mpr ⟨rfl, noValues⟩
      change parseAt path (.map [(Comparison.oneOf.key, .map [(field, value)])]) = _
      rw [parseAt_compare, parseComparison, refused, if_neg (by simp)]

theorem parseAt_admitted {comparison : Comparison} {field : String}
    (admitted : comparison.admits value = true) :
    parseAt path (.map [(comparison.key, .map [(field, value)])]) =
      .ok (.compare comparison field value) := by
  rw [parseAt_compare, parseComparison, if_pos admitted]

/-! ## Reading all levels -/

/-- A connective is read where its queries are. -/
theorem parseAt_joined (connective : Connective) {queries : List Query} (some : queries ≠ [])
    (parsed : parseItems path connective.step 0 (toValues queries) = .ok queries) :
    parseAt path (connective.join queries).toValue = .ok (connective.join queries) := by
  cases queries with
  | nil => contradiction
  | cons query queries =>
      rw [Connective.toValue_join, toValues, parseAt_join, ← toValues, parsed]
      rfl

mutual

/-- A well-formed query is read from the value that it is written as. -/
theorem parseAt_toValue : (path : List Step) → (query : Query) → query.WellFormed →
    parseAt path query.toValue = .ok query
  | _, .all, _ => by rw [toValue, parseAt]
  | path, .and queries, wellFormed => by
      obtain ⟨some, all⟩ := (Connective.wellFormed_join .and).mp wellFormed
      exact parseAt_joined .and some (parseItems_toValues path _ 0 queries all)
  | path, .or queries, wellFormed => by
      obtain ⟨some, all⟩ := (Connective.wellFormed_join .or).mp wellFormed
      exact parseAt_joined .or some (parseItems_toValues path _ 0 queries all)
  | path, .not query, wellFormed => by
      rw [WellFormed] at wellFormed
      rw [toValue, parseAt_not, parseAt_toValue _ query wellFormed]
      rfl
  | path, .compare comparison field value, wellFormed => by
      rw [WellFormed] at wellFormed
      rw [toValue, parseAt_admitted wellFormed]

theorem parseItems_toValues : (path : List Step) → (step : Nat → Step) → (index : Nat) →
    (queries : List Query) → AllWellFormed queries →
    parseItems path step index (toValues queries) = .ok queries
  | _, _, _, [], _ => by rw [toValues, parseItems]
  | path, step, index, query :: queries, wellFormed => by
      rw [AllWellFormed] at wellFormed
      rw [toValues, parseItems, parseAt_toValue _ query wellFormed.1,
        parseItems_toValues path step (index + 1) queries wellFormed.2]
      rfl

end

mutual

/-- What is read is well formed and written as the value that it is read from. -/
theorem wellFormed_of_parseAt : (path : List Step) → (value : Value) → {query : Query} →
    parseAt path value = .ok query → query.WellFormed ∧ query.toValue = value := by
  intro path value query parsed
  rcases locallyWellFormed_or_broken value with level | ⟨fault, broken⟩
  · cases level with
    | all =>
        rw [parseAt] at parsed
        cases parsed
        exact ⟨trivial, by rw [toValue]⟩
    | join connective item items =>
        rw [parseAt_join] at parsed
        obtain ⟨queries, itemsParsed, rfl⟩ := Decode.map_eq_ok parsed
        obtain ⟨wellFormed, same⟩ := allWellFormed_of_parseItems path _ 0 _ itemsParsed
        have some : queries ≠ [] := by
          rintro rfl
          rw [toValues] at same
          cases same
        exact ⟨(Connective.wellFormed_join _).mpr ⟨some, wellFormed⟩,
          by rw [Connective.toValue_join, same]⟩
    | not operand =>
        rw [parseAt_not] at parsed
        obtain ⟨query, operandParsed, rfl⟩ := Decode.map_eq_ok parsed
        obtain ⟨wellFormed, same⟩ := wellFormed_of_parseAt _ operand operandParsed
        exact ⟨by rwa [WellFormed], by rw [toValue, same]⟩
    | compare comparison field admitted =>
        rw [parseAt_admitted admitted] at parsed
        cases parsed
        exact ⟨admitted, by rw [toValue]⟩
  · rw [parseAt_broken _ broken] at parsed
    cases parsed
termination_by _ value => sizeOf value

theorem allWellFormed_of_parseItems : (path : List Step) → (step : Nat → Step) → (index : Nat) →
    (items : List Value) → {queries : List Query} →
    parseItems path step index items = .ok queries →
      AllWellFormed queries ∧ toValues queries = items
  | _, _, _, [], queries, parsed => by
      rw [parseItems] at parsed
      cases parsed
      exact ⟨by rw [AllWellFormed]; trivial, by rw [toValues]⟩
  | path, step, index, item :: items, queries, parsed => by
      rw [parseItems] at parsed
      obtain ⟨query, itemParsed, parsed⟩ := Decode.bind_eq_ok parsed
      obtain ⟨queries, itemsParsed, parsed⟩ := Decode.bind_eq_ok parsed
      cases parsed
      obtain ⟨wellFormed, same⟩ := wellFormed_of_parseAt _ item itemParsed
      obtain ⟨allWellFormed, allSame⟩ := allWellFormed_of_parseItems path step _ items itemsParsed
      exact ⟨by rw [AllWellFormed]; exact ⟨wellFormed, allWellFormed⟩,
        by rw [toValues, same, allSame]⟩
termination_by _ _ _ items => sizeOf items

end

/-- Reading does not depend on where a value stands. -/
theorem parseAt_eq_ok_iff :
    parseAt path value = .ok query ↔ query.WellFormed ∧ query.toValue = value := by
  constructor
  · exact wellFormed_of_parseAt path value
  · rintro ⟨wellFormed, rfl⟩
    exact parseAt_toValue path query wellFormed

theorem parse_eq_ok_iff :
    parse value = .ok query ↔ query.WellFormed ∧ query.toValue = value :=
  parseAt_eq_ok_iff

/-- **Reading and writing queries are inverse to each other.** A value is read exactly where it
is what a well-formed query is written as, and then as that query. -/
theorem parse_inverts_toValue :
    (∀ value query, parse value = .ok query ↔ query.WellFormed ∧ query.toValue = value) ∧
    Set.BijOn toValue {query | query.WellFormed} {value | ∃ query, parse value = .ok query} := by
  refine ⟨fun _ _ => parse_eq_ok_iff, ?_, ?_, ?_⟩
  · intro query wellFormed
    exact ⟨query, parse_eq_ok_iff.mpr ⟨wellFormed, rfl⟩⟩
  · intro left leftWellFormed right rightWellFormed same
    have readLeft := parse_eq_ok_iff.mpr ⟨leftWellFormed, rfl⟩
    have readRight := parse_eq_ok_iff.mpr ⟨rightWellFormed, rfl⟩
    rw [same, readRight] at readLeft
    exact (Except.ok.inj readLeft).symm
  · rintro value ⟨query, parsed⟩
    obtain ⟨wellFormed, same⟩ := parse_eq_ok_iff.mp parsed
    exact ⟨query, wellFormed, same⟩

end Query

end Converge
