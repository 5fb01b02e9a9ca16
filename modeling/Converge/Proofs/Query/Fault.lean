import Converge.Proofs.Query
import Converge.Proofs.Text.Percent

/-!
# Where a query breaks the grammar

The steps of an error lead from the value to one of its sub-queries. Sub-queries come in pre-order:
a query before those below it, and these from left to right. The error of a value that is refused
stands at the first sub-query whose own top level breaks the grammar: all queries above it follow
the grammar at their level, and all others before it are accepted.
-/

namespace Converge.Query

/-! ## Sub-queries -/

namespace Step

/-- The operator that a step goes through. -/
def key : Step → String
  | .and _ => "$and"
  | .or _ => "$or"
  | .not => "$not"

/-- Which of the operator's sub-queries a step leads to. -/
def index : Step → Nat
  | .and index => index
  | .or index => index
  | .not => 0

/-- The sub-query of an operand that a step leads to. -/
def operand? : Step → Value → Option Value
  | .and index, .list items => items[index]?
  | .or index, .list items => items[index]?
  | .not, operand => some operand
  | _, _ => none

/-- The sub-query of a value that a step leads to. -/
def target? (step : Step) : Value → Option Value
  | .map fields => (Entries.find? step.key fields).bind step.operand?
  | _ => none

/-- Of two steps from one value, the one that leads further to the left. -/
def Before (step other : Step) : Prop :=
  step.key < other.key ∨ step.key = other.key ∧ step.index < other.index

theorem before_irrefl (step : Step) : ¬ step.Before step := by
  rintro (less | ⟨_, less⟩)
  · exact String.lt_irrefl _ less
  · exact Nat.lt_irrefl _ less

end Step

/-- Where the steps lead from a value. -/
def at? : List Step → Value → Option Value
  | [], value => some value
  | step :: path, value => (step.target? value).bind (at? path)

/-- A value that is read as a query. -/
def Accepted (value : Value) : Prop := ∃ query, parse value = .ok query

/-- The first place in pre-order at which a value breaks the grammar, and how it does so. -/
structure FirstFault (value : Value) (path : List Step) (fault : Fault) : Prop where
  /-- The steps lead to a sub-query that breaks the grammar itself. -/
  broken : ∃ found, at? path value = some found ∧ Broken found fault
  /-- The queries above follow the grammar at their level. -/
  above : ∀ higher, higher <+: path → higher ≠ path →
    ∃ found, at? higher value = some found ∧ LocallyWellFormed found
  /-- The other queries before are accepted. -/
  before : ∀ other found, at? other value = some found →
    List.Lex Step.Before other path → ¬ other <+: path → Accepted found

/-! ## Steps from one level -/

variable {value child : Value} {step : Step} {path : List Step} {fault : Fault}

theorem target?_single {key : String} {operand : Value}
    (leads : step.target? (.map [(key, operand)]) = some child) :
    key = step.key ∧ step.operand? operand = some child := by
  rw [Step.target?, Entries.find?] at leads
  split at leads
  · exact ⟨‹_›, leads⟩
  · cases leads

theorem target?_key (step : Step) (operand : Value) :
    step.target? (.map [(step.key, operand)]) = step.operand? operand := by
  rw [Step.target?, Entries.find?, if_pos rfl, Option.bind_some]

theorem Connective.exists_step {connective : Connective} (same : connective.key = step.key) :
    ∃ index, step = connective.step index := by
  cases connective <;> cases step <;> simp_all [Connective.key, Step.key, Connective.step]

theorem Connective.operand?_step (connective : Connective) (index : Nat) (items : List Value) :
    (connective.step index).operand? (.list items) = items[index]? := by
  cases connective <;> rfl

theorem Connective.key_step (connective : Connective) (index : Nat) :
    (connective.step index).key = connective.key := by
  cases connective <;> rfl

theorem Connective.lt_of_before {connective : Connective} {index other : Nat}
    (left : (connective.step index).Before (connective.step other)) : index < other := by
  rcases left with less | ⟨_, less⟩
  · rw [Connective.key_step, Connective.key_step] at less
    exact absurd less (String.lt_irrefl _)
  · cases connective <;> exact less

/-- The steps from a connective lead to its queries. -/
theorem target?_join {connective : Connective} {items : List Value} :
    step.target? (.map [(connective.key, .list items)]) = some child ↔
      ∃ index, step = connective.step index ∧ items[index]? = some child := by
  constructor
  · intro leads
    obtain ⟨sameKey, leads⟩ := target?_single leads
    obtain ⟨index, rfl⟩ := Connective.exists_step sameKey
    rw [Connective.operand?_step] at leads
    exact ⟨index, rfl, leads⟩
  · rintro ⟨index, rfl, found⟩
    rw [← Connective.key_step connective index, target?_key, Connective.operand?_step, found]

theorem target?_not {operand : Value} :
    step.target? (.map [("$not", operand)]) = some child ↔ step = .not ∧ operand = child := by
  constructor
  · intro leads
    obtain ⟨sameKey, leads⟩ := target?_single leads
    cases step with
    | not => exact ⟨rfl, Option.some.inj leads⟩
    | and index => simp [Step.key] at sameKey
    | or index => simp [Step.key] at sameKey
  · rintro ⟨rfl, rfl⟩
    rfl

theorem target?_compare (comparison : Comparison) (operand : Value) :
    step.target? (.map [(comparison.key, operand)]) = none := by
  rw [Option.eq_none_iff_forall_ne_some]
  intro child leads
  obtain ⟨sameKey, _⟩ := target?_single leads
  obtain ⟨notAnd, notOr, notNot⟩ := comparison.key_ne
  cases step <;> contradiction

/-! ## Accepted queries -/

theorem toValues_eq_map (queries : List Query) : toValues queries = queries.map toValue := by
  induction queries with
  | nil => rw [toValues, List.map_nil]
  | cons query queries ih => rw [toValues, ih, List.map_cons]

theorem allWellFormed_iff {queries : List Query} :
    AllWellFormed queries ↔ ∀ query ∈ queries, query.WellFormed := by
  induction queries with
  | nil => simp [AllWellFormed]
  | cons query queries ih => simp [AllWellFormed, ih]

/-- A step from a connective that is accepted leads to an accepted query. -/
theorem accepted_of_joined (connective : Connective) {queries : List Query}
    (wellFormed : AllWellFormed queries)
    (leads : step.target? (connective.join queries).toValue = some child) : Accepted child := by
  rw [Connective.toValue_join, target?_join, toValues_eq_map] at leads
  obtain ⟨index, _, found⟩ := leads
  rw [List.getElem?_map, Option.map_eq_some_iff] at found
  obtain ⟨query, isQuery, rfl⟩ := found
  have member : query ∈ queries := List.mem_of_getElem? isQuery
  exact ⟨query, parse_eq_ok_iff.mpr ⟨allWellFormed_iff.mp wellFormed query member, rfl⟩⟩

/-- What an accepted query has below it is accepted. -/
theorem Accepted.target? (accepted : Accepted value) (leads : step.target? value = some child) :
    Accepted child := by
  obtain ⟨query, parsed⟩ := accepted
  obtain ⟨wellFormed, rfl⟩ := parse_eq_ok_iff.mp parsed
  cases query with
  | all => cases leads
  | and queries =>
      exact accepted_of_joined .and ((Connective.wellFormed_join .and).mp wellFormed).2 leads
  | or queries =>
      exact accepted_of_joined .or ((Connective.wellFormed_join .or).mp wellFormed).2 leads
  | not query =>
      rw [toValue, target?_not] at leads
      exact ⟨query, parse_eq_ok_iff.mpr ⟨wellFormed, leads.2⟩⟩
  | compare comparison field value =>
      rw [toValue, target?_compare] at leads
      cases leads

theorem Accepted.at? (accepted : Accepted value) (leads : at? path value = some child) :
    Accepted child := by
  induction path generalizing value with
  | nil =>
      cases leads
      exact accepted
  | cons step path ih =>
      obtain ⟨next, isNext, leads⟩ := Option.bind_eq_some_iff.mp leads
      exact ih (accepted.target? isNext) leads

/-- What breaks the grammar is not accepted. -/
theorem Broken.not_accepted (broken : Broken value fault) : ¬ Accepted value := by
  rintro ⟨query, parsed⟩
  rw [parse, parseAt_broken _ broken] at parsed
  cases parsed

theorem Broken.unique {other : Fault} (broken : Broken value fault) (also : Broken value other) :
    fault = other := by
  have first := parseAt_broken [] broken
  rw [parseAt_broken _ also] at first
  cases first
  rfl

/-! ## The first fault -/

theorem map_eq_error {α β : Type} {result : Except Error α} {change : α → β} {error : Error}
    (failed : result.map change = .error error) : result = .error error := by
  cases result with
  | error found => cases failed; rfl
  | ok found => cases failed

namespace FirstFault

theorem here (broken : Broken value fault) : FirstFault value [] fault where
  broken := ⟨value, rfl, broken⟩
  above _ within proper := absurd (List.prefix_nil.mp within) proper
  before _ _ _ earlier _ := nomatch earlier

/-- The first fault below a step is the first one at all, where what the steps further to the
left lead to is accepted. -/
theorem below (level : LocallyWellFormed value) (leads : step.target? value = some child)
    (earlier : ∀ (other : Step) (found : Value), other.target? value = some found →
      other.Before step → Accepted found)
    (first : FirstFault child path fault) : FirstFault value (step :: path) fault where
  broken := by
    obtain ⟨found, isFound, broken⟩ := first.broken
    exact ⟨found, by rw [Query.at?, leads, Option.bind_some, isFound], broken⟩
  above higher within proper := by
    rcases List.prefix_cons_iff.mp within with rfl | ⟨rest, rfl, inside⟩
    · exact ⟨value, rfl, level⟩
    · obtain ⟨found, isFound, level⟩ :=
        first.above rest inside fun same => proper (congrArg _ same)
      exact ⟨found, by rw [Query.at?, leads, Option.bind_some, isFound], level⟩
  before other found isFound before outside := by
    cases before with
    | nil => exact absurd List.nil_prefix outside
    | rel left =>
        obtain ⟨next, isNext, isFound⟩ := Option.bind_eq_some_iff.mp isFound
        exact (earlier _ next isNext left).at? isFound
    | @cons _ rest _ behind =>
        rw [Query.at?, leads, Option.bind_some] at isFound
        refine first.before rest found isFound behind fun within => outside ?_
        exact (List.prefix_cons_inj step).mpr within

end FirstFault

mutual

/-- The error of a value that is refused stands at its first fault. -/
theorem firstFault_of_parseAt (path : List Step) (value : Value) {error : Error}
    (refused : parseAt path value = .error error) :
    ∃ rest, error.path = path ++ rest ∧ FirstFault value rest error.fault := by
  rcases locallyWellFormed_or_broken value with level | ⟨fault, broken⟩
  · cases level with
    | all =>
        rw [parseAt] at refused
        cases refused
    | join connective item items =>
        rw [parseAt_join] at refused
        obtain ⟨front, other, back, rest, same, accepted, isPath, first⟩ :=
          firstFault_of_parseItems path connective.step 0 (item :: items) (map_eq_error refused)
        rw [Nat.zero_add] at isPath
        refine ⟨_, isPath, .below (.join connective item items)
          (target?_join.mpr ⟨front.length, rfl, ?_⟩) ?_ first⟩
        · rw [same, List.getElem?_append_right (Nat.le_refl _), Nat.sub_self]
          rfl
        · intro step found leads left
          obtain ⟨index, rfl, isFound⟩ := target?_join.mp leads
          rw [same, List.getElem?_append_left (Connective.lt_of_before left)] at isFound
          exact accepted found (List.mem_of_getElem? isFound)
    | not operand =>
        rw [parseAt_not] at refused
        obtain ⟨rest, isPath, first⟩ :=
          firstFault_of_parseAt (path ++ [.not]) operand (map_eq_error refused)
        refine ⟨.not :: rest, by rw [isPath, List.append_assoc]; rfl,
          .below (.not operand) (target?_not.mpr ⟨rfl, rfl⟩) ?_ first⟩
        intro step found leads left
        rw [(target?_not.mp leads).1] at left
        exact absurd left (Step.before_irrefl _)
    | compare comparison field admitted =>
        rw [parseAt_admitted admitted] at refused
        cases refused
  · rw [parseAt_broken _ broken] at refused
    cases refused
    exact ⟨[], (List.append_nil path).symm, .here broken⟩
termination_by sizeOf value

/-- The error of several values stands in the first one that is refused. -/
theorem firstFault_of_parseItems (path : List Step) (step : Nat → Step) (index : Nat)
    (items : List Value) {error : Error}
    (refused : parseItems path step index items = .error error) :
    ∃ front item back rest, items = front ++ item :: back ∧ (∀ other ∈ front, Accepted other) ∧
      error.path = path ++ step (index + front.length) :: rest ∧
      FirstFault item rest error.fault := by
  match items with
  | [] =>
      rw [parseItems] at refused
      cases refused
  | item :: items =>
      rw [parseItems] at refused
      cases itemParsed : parseAt (path ++ [step index]) item with
      | error itemError =>
          rw [itemParsed] at refused
          cases refused
          obtain ⟨rest, isPath, first⟩ := firstFault_of_parseAt _ item itemParsed
          refine ⟨[], item, items, rest, rfl, nofun, ?_, first⟩
          rw [isPath, List.append_assoc]
          rfl
      | ok query =>
          have itemAccepted : Accepted item :=
            ⟨query, parse_eq_ok_iff.mpr (parseAt_eq_ok_iff.mp itemParsed)⟩
          rw [itemParsed] at refused
          change (parseItems path step (index + 1) items).map (query :: ·) = _ at refused
          obtain ⟨front, other, back, rest, rfl, accepted, isPath, first⟩ :=
            firstFault_of_parseItems path step (index + 1) items (map_eq_error refused)
          refine ⟨item :: front, other, back, rest, rfl, ?_, ?_, first⟩
          · exact List.forall_mem_cons.mpr ⟨itemAccepted, accepted⟩
          · rw [isPath, List.length_cons, Nat.add_right_comm, Nat.add_assoc]
termination_by sizeOf items

end

/-! ## There is one first fault -/

/-- No level both follows the grammar and breaks it: where it follows the grammar, errors stand
further below. -/
theorem LocallyWellFormed.not_broken (level : LocallyWellFormed value) : ¬ Broken value fault := by
  intro broken
  have refused := parseAt_broken [] broken
  cases level with
  | all =>
      rw [parseAt] at refused
      cases refused
  | join connective item items =>
      rw [parseAt_join] at refused
      obtain ⟨_, _, _, _, _, _, isPath, _⟩ :=
        firstFault_of_parseItems [] connective.step 0 (item :: items) (map_eq_error refused)
      cases isPath
  | not operand =>
      rw [parseAt_not] at refused
      obtain ⟨_, isPath, _⟩ := firstFault_of_parseAt ([] ++ [.not]) operand (map_eq_error refused)
      cases isPath
  | compare comparison field admitted =>
      rw [parseAt_admitted admitted] at refused
      cases refused

theorem Step.before_trichotomy (step other : Step) :
    step.Before other ∨ step = other ∨ other.Before step := by
  rcases Std.lt_trichotomy step.key other.key with less | same | greater
  · exact .inl (.inl less)
  · rcases Nat.lt_trichotomy step.index other.index with less | sameIndex | greater
    · exact .inl (.inr ⟨same, less⟩)
    · refine .inr (.inl ?_)
      cases step <;> cases other <;> simp_all [Step.key, Step.index]
    · exact .inr (.inr (.inr ⟨same.symm, greater⟩))
  · exact .inr (.inr (.inl greater))

theorem lex_trichotomy (path other : List Step) :
    List.Lex Step.Before path other ∨ path = other ∨ List.Lex Step.Before other path := by
  induction path generalizing other with
  | nil =>
      cases other with
      | nil => exact .inr (.inl rfl)
      | cons => exact .inl .nil
  | cons step path ih =>
      cases other with
      | nil => exact .inr (.inr .nil)
      | cons first rest =>
          rcases step.before_trichotomy first with left | rfl | right
          · exact .inl (.rel left)
          · rcases ih rest with before | rfl | behind
            · exact .inl (.cons before)
            · exact .inr (.inl rfl)
            · exact .inr (.inr (.cons behind))
          · exact .inr (.inr (.rel right))

namespace FirstFault

/-- No fault stands before the first one. -/
theorem not_lex {other : List Step} {otherFault : Fault} (first : FirstFault value path fault)
    (also : FirstFault value other otherFault) : ¬ List.Lex Step.Before other path := by
  intro before
  obtain ⟨found, isFound, broken⟩ := also.broken
  by_cases within : other <+: path
  · have proper : other ≠ path := by
      rintro rfl
      exact List.lex_irrefl Step.before_irrefl _ before
    obtain ⟨_, isFound', level⟩ := first.above other within proper
    rw [isFound] at isFound'
    cases isFound'
    exact level.not_broken broken
  · exact broken.not_accepted (first.before other found isFound before within)

theorem unique {other : List Step} {otherFault : Fault} (first : FirstFault value path fault)
    (also : FirstFault value other otherFault) : path = other ∧ fault = otherFault := by
  have same : path = other := by
    rcases lex_trichotomy path other with before | same | before
    · exact absurd before (also.not_lex first)
    · exact same
    · exact absurd before (first.not_lex also)
  subst same
  obtain ⟨found, isFound, broken⟩ := first.broken
  obtain ⟨_, isFound', alsoBroken⟩ := also.broken
  rw [isFound] at isFound'
  cases isFound'
  exact ⟨rfl, broken.unique alsoBroken⟩

theorem not_accepted (first : FirstFault value path fault) : ¬ Accepted value := by
  intro accepted
  obtain ⟨found, isFound, broken⟩ := first.broken
  exact broken.not_accepted (accepted.at? isFound)

end FirstFault

theorem parse_eq_error_iff {error : Error} :
    parse value = .error error ↔ FirstFault value error.path error.fault := by
  constructor
  · intro refused
    obtain ⟨rest, isPath, first⟩ := firstFault_of_parseAt [] value refused
    rwa [isPath]
  · intro first
    cases parsed : parse value with
    | ok query => exact absurd ⟨query, parsed⟩ first.not_accepted
    | error found =>
        obtain ⟨rest, isPath, also⟩ := firstFault_of_parseAt [] value parsed
        rw [List.nil_append] at isPath
        rw [← isPath] at also
        obtain ⟨samePath, sameFault⟩ := also.unique first
        obtain ⟨path, fault⟩ := found
        obtain ⟨errorPath, errorFault⟩ := error
        simp_all

/-! ## Paths as texts -/

/-- A path as messages show it. -/
def pathText (path : List Step) : String := "query" ++ String.join (path.map Step.text)

/-- Digits say which number they show, and where it ends. -/
theorem digits_append_inj {index other : Nat} {rest rest' : List Char}
    (same : Nat.toDigits 10 index ++ ']' :: rest = Nat.toDigits 10 other ++ ']' :: rest') :
    index = other ∧ rest = rest' := by
  have front (number : Nat) (rest : List Char) :
      (Nat.toDigits 10 number ++ ']' :: rest).takeWhile Char.isDigit = Nat.toDigits 10 number := by
    rw [List.takeWhile_append_of_pos]
    · simp
    · intro c member
      exact Nat.isDigit_of_mem_toDigits (by decide) (by decide) member
  have sameDigits : Nat.toDigits 10 index = Nat.toDigits 10 other := by
    rw [← front index rest, same, front]
  have sameNumber := congrArg (Nat.ofDigitChars 10 · 0) sameDigits
  simp only [Nat.ofDigitChars_ten_toDigits] at sameNumber
  have sameRest := List.append_inj_right same (congrArg _ sameDigits)
  exact ⟨sameNumber, (List.cons.inj sameRest).2⟩

/-- A step says which one it is, and where it ends. -/
theorem Step.text_append_inj {step other : Step} {rest rest' : List Char}
    (same : step.text.toList ++ rest = other.text.toList ++ rest') :
    step = other ∧ rest = rest' := by
  -- the letter behind the dollar sign tells the operators apart
  cases step <;> cases other <;> simp [Step.text] at same ⊢
  · exact digits_append_inj same
  · exact digits_append_inj same
  · exact same

theorem Step.text_ne_nil (step : Step) : step.text.toList ≠ [] := by
  cases step <;> simp [Step.text]

/-- The text of a path is that of no other one. -/
theorem pathText_inj {other : List Step} (same : pathText path = pathText other) :
    path = other := by
  have sameChars : path.flatMap (fun step => step.text.toList) =
      other.flatMap (fun step => step.text.toList) := by
    have chars := congrArg String.toList same
    simpa [pathText, String.toList_join, List.flatMap_map] using chars
  exact Text.flatMap_inj_of_append_inj Step.text_ne_nil Step.text_append_inj sameChars

/-- **An error stands at the first fault.** A value is refused with an error exactly where the
steps of the error lead to the first sub-query in pre-order that breaks the grammar, and its fault
says how. The message shows the steps, and their text is that of no others. -/
theorem parse_error_locates (value : Value) (error : Error) :
    (parse value = .error error ↔ FirstFault value error.path error.fault) ∧
    error.message = pathText error.path ++ ": " ++ error.fault.message ∧
    ∀ path, pathText path = pathText error.path → path = error.path :=
  ⟨parse_eq_error_iff, rfl, fun _ => pathText_inj⟩

example : parse (.map [("$and", .list [.map [("$match", .map [("a", .int 1)])],
    .map [("bad", .int 1)]])]) = .error ⟨[.and 1], .unknownOperator "bad"⟩ := rfl

end Converge.Query
