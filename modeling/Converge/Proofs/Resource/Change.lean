import Converge.Proofs.Remote.Keeping
import Converge.Resource

/-!
# Changes in turn

A program that makes changes in turn either makes them all, or it stops at one of them and
keeps the state in which the ones before have been made. A stop is reported by the failure
of that change and, unless it is the first, by the changes made and the ones that are left.
-/

namespace Converge.Resource

open Remote

variable {M σ : Type}

/-- Only what differs is listed. -/
theorem unless_eq_nil_iff {α : Type} {same : Prop} [Decidable same] {entry : α} :
    (if same then [] else [entry]) = [] ↔ same := by
  split <;> simp_all

theorem mem_unless_iff {α : Type} {same : Prop} [Decidable same] {entry other : α} :
    other ∈ (if same then [] else [entry]) ↔ other = entry ∧ ¬ same := by
  by_cases isSame : same <;> simp [isSame]

theorem unless_sublist {α : Type} {same : Prop} [Decidable same] {entry : α} :
    (if same then [] else [entry]).Sublist [entry] := by
  split
  · exact List.nil_sublist _
  · exact List.Sublist.refl _

/-- Of the fields that are looked for one is named if it differs. -/
theorem filter_unless {same : Prop} [Decidable same] {field : String} {fields : List String} :
    (if same then [] else [field]).filter fields.contains =
      if same ∨ field ∉ fields then [] else [field] := by
  by_cases isSame : same <;> by_cases isListed : field ∈ fields <;> simp [isSame, isListed]

/-- A failure alone is an error if it is one. -/
theorem hasError_of_failure {failure : Diagnostic} (isError : failure.isError = true)
    (state : Option M) : (⟨state, [failure]⟩ : Transition M).hasError = true := by
  simp [Transition.hasError, Diagnostics.hasError, isError]

namespace Change

/-- The state once changes have been made in turn. -/
def applyAll (changes : List (Change M)) (state : M) : M :=
  changes.foldl (fun state change => change.apply state) state

def commands (changes : List (Change M)) : List Command := changes.map Change.command

/-- The calls that tell the stack of changes. -/
def calls (changes : List (Change M)) : List Call :=
  changes.map fun change => .command change.command

def labels (changes : List (Change M)) : List String := changes.map Change.label

@[simp] theorem applyAll_cons (change : Change M) (changes : List (Change M)) (state : M) :
    applyAll (change :: changes) state = applyAll changes (change.apply state) := rfl

@[simp] theorem applyAll_append (first second : List (Change M)) (state : M) :
    applyAll (first ++ second) state = applyAll second (applyAll first state) :=
  List.foldl_append

@[simp] theorem labels_append (first second : List (Change M)) :
    labels (first ++ second) = labels first ++ labels second :=
  List.map_append

theorem calls_eq (changes : List (Change M)) :
    calls changes = (commands changes).map Call.command := by
  simp [calls, commands]

theorem hasError_stopped (failure : Diagnostic) (applied pending : List String)
    (isError : failure.isError = true) :
    (stopped failure applied pending).hasError = true := by
  rw [stopped]
  split <;> simp [Diagnostics.hasError, isError]

/-- The program makes changes in turn. Where one fails it ends with the state so far, and
`named` are the changes that it reports as not made; behind the last change it ends with
`final`. -/
inductive Makes (named : (made pending : List (Change M)) → List String) (final : M) :
    (made : List (Change M)) → (state : M) → (pending : List (Change M)) →
      Program (Transition M) → Prop where
  | done (made : List (Change M)) (state : M) :
      Makes named final made state [] (.done (.ok final))
  | call {made : List (Change M)} {state : M} {change : Change M} {rest : List (Change M)}
      {next : Except Diagnostic Unit → Program (Transition M)}
      (stops : ∀ failure, next (.error failure) =
        .done (.keeping state (stopped failure (labels made) (named made (change :: rest)))))
      (goesOn : Makes named final (made ++ [change]) (change.apply state) rest (next (.ok ()))) :
      Makes named final made state (change :: rest) (.call (.command change.command) next)

/-- A run of changes makes them, and what `finish` makes behind them, if it reports its own
changes as not made. -/
theorem runAll_makes {named : (made pending : List (Change M)) → List String} {final : M}
    {finish : M → Program (Transition M)} {made changes rest : List (Change M)} {state : M}
    (names : ∀ before change after, changes = before ++ change :: after →
      named (made ++ before) (change :: after ++ rest) = labels (change :: after))
    (goesOn : Makes named final (made ++ changes) (applyAll changes state) rest
      (finish (applyAll changes state))) :
    Makes named final made state (changes ++ rest)
      (runAll finish (labels made) state changes) := by
  induction changes generalizing made state with
  | nil =>
      rw [List.append_nil] at goesOn
      exact goesOn
  | cons change changes ih =>
      apply Makes.call
      · intro failure
        have reported : named made (change :: (changes ++ rest)) = labels (change :: changes) := by
          simpa using names [] change changes rfl
        change _ = Program.done (Transition.keeping state
          (stopped failure (labels made) (named made (change :: (changes ++ rest)))))
        rw [reported]
        rfl
      · have appended : labels made ++ [change.label] = labels (made ++ [change]) := by
          rw [labels_append]
          rfl
        simp only [appended]
        apply ih
        · intro before other after split
          have named := names (change :: before) other after (by rw [split]; rfl)
          simpa using named
        · simpa using goesOn

theorem runAll_makes_all {named : (made pending : List (Change M)) → List String} {final : M}
    {finish : M → Program (Transition M)} {made changes : List (Change M)} {state : M}
    (names : ∀ before change after, changes = before ++ change :: after →
      named (made ++ before) (change :: after) = labels (change :: after))
    (ends : finish (applyAll changes state) = .done (.ok final)) :
    Makes named final made state changes (runAll finish (labels made) state changes) := by
  have whole : Makes named final made state (changes ++ [])
      (runAll finish (labels made) state changes) := by
    apply runAll_makes
    · intro before change after split
      rw [List.append_nil]
      exact names before change after split
    · rw [ends]
      exact .done _ _
  rw [List.append_nil] at whole
  exact whole

/-- A program that makes changes ends behind all of them or at the first that fails. -/
theorem Makes.run {named : (made pending : List (Change M)) → List String} {final : M}
    {made pending : List (Change M)} {state : M} {program : Program (Transition M)}
    (makes : Makes named final made state pending program) (remote : Responder σ)
    (patience : Patience) (context : Context) (world : σ) (now : Nat) :
    (∃ reached, Trail remote context world now (commands pending) reached ∧
      program.run remote patience context world now =
        ⟨.ok final, reached.world, reached.instant, reached.log⟩) ∨
    ∃ before change after reached failure, pending = before ++ change :: after ∧
      Trail remote context world now (commands before) reached ∧
      let tried := perform remote context (.command change.command) reached.world
        reached.instant
      tried.value = .error failure ∧
      program.run remote patience context world now =
        ⟨.keeping (applyAll before state) (stopped failure (labels (made ++ before))
          (named (made ++ before) (change :: after))), tried.world, tried.instant,
          reached.log ++ tried.log⟩ := by
  induction makes generalizing world now with
  | done made state => exact .inl ⟨_, .nil world now, rfl⟩
  | @call made state change rest next stops goesOn ih =>
      let tried := perform remote context (.command change.command) world now
      have step : (Program.call (.command change.command) next).run remote patience context
          world now = ((next tried.value).run remote patience context tried.world
            tried.instant).behind tried.log := rfl
      rw [step]
      cases answer : tried.value with
      | error failure =>
          refine .inr ⟨[], change, rest, _, failure, rfl, .nil world now, answer, ?_⟩
          rw [stops, List.append_nil, Program.run, Outcome.behind, List.append_nil]
          rfl
      | ok done =>
          rcases ih tried.world tried.instant with
            ⟨reached, trail, equal⟩ |
            ⟨before, other, after, reached, failure, split, trail, failed, equal⟩
          · refine .inl ⟨_, .cons answer trail, ?_⟩
            rw [equal]
            rfl
          · refine .inr ⟨change :: before, other, after, _, failure, ?_,
              .cons answer trail, failed, ?_⟩
            · rw [split]
              rfl
            · rw [equal, List.append_assoc]
              simp only [Outcome.behind, tried, List.append_assoc]
              rfl

/-- Changes that end without an error have all been made. -/
theorem Makes.value_of_no_error {named : (made pending : List (Change M)) → List String}
    {final : M} {made pending : List (Change M)} {state : M} {program : Program (Transition M)}
    (makes : Makes named final made state pending program) {remote : Responder σ}
    {patience : Patience} {context : Context} {world : σ} {now : Nat}
    (succeeded : (program.run remote patience context world now).value.hasError = false) :
    (program.run remote patience context world now).value = .ok final := by
  rcases makes.run remote patience context world now with
    ⟨reached, _, equal⟩ | ⟨before, change, after, reached, failure, _, _, failed, equal⟩
  · rw [equal]
  · rw [equal] at succeeded
    have isError : (stopped failure (labels (made ++ before))
        (named (made ++ before) (change :: after))).hasError = true :=
      hasError_stopped failure _ _ (perform_error_isError failed)
    exact absurd (isError.symm.trans succeeded) (by simp)

end Change

end Converge.Resource
