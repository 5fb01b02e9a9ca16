import Converge.Proofs.Resource.Interruption

/-!
# What a stopped update reports

An update that makes its changes in turn ends in one of three ways: all of them are carried out,
or none, or some are and the report on the first that fails names these and others. Each program
of changes ends so, and what it names as not made is its own affair: a ledger names all that is
left, and so does a pool that stops at its query. A pool that stops among its members names the
members that are left, and never the query behind them.
-/

namespace Converge.Resource

open Remote Program

variable {M σ : Type}

namespace Change

variable {named : (made pending : List (Change M)) → List String}

/-- How an update by changes in turn ends, behind the calls that were answered well. -/
inductive Accounts (named : (made pending : List (Change M)) → List String)
    (changes : List (Change M)) : (carried : List Exchange) → Transition M → Prop where
  | whole {transition : Transition M} (clean : transition.hasError = false) :
      Accounts named changes (carriedOut (commands changes)) transition
  | nothing {transition : Transition M} (failed : transition.hasError = true) :
      Accounts named changes [] transition
  | part {made after : List (Change M)} {change : Change M} {state : Option M}
      {failure : Diagnostic} (split : changes = made ++ change :: after) (begun : made ≠ [])
      (isError : failure.isError = true) :
      Accounts named changes (carriedOut (commands made))
        ⟨state, [failure, partialUpdate (labels made) (named made (change :: after))]⟩

/-- The course of an update that accounts for its changes. -/
def accounting (named : (made pending : List (Change M)) → List String)
    (changes : List (Change M)) : Course (Transition M) :=
  .uniform fun carried _ => Accounts named changes carried

/-- Wherever the changes stop, those before are carried out and reported. -/
theorem Makes.accounts {final : M} {changes made pending : List (Change M)} {state : M}
    {program : Program (Transition M)} (makes : Makes named final made state pending program)
    (split : changes = made ++ pending) :
    program.Takes (accounting named changes) (carriedOut (commands made)) := by
  induction makes with
  | done made state =>
      rw [List.append_nil] at split
      rw [← split]
      exact .whole rfl
  | @call made state change rest next stops goesOn ih =>
      refine ⟨rfl, fun failure => ⟨_, stops failure, fun isError => ?_⟩, fun answer => ?_⟩
      · cases made with
        | nil => exact .nothing (hasError_of_failure isError _)
        | cons first made => exact .part split (by simp) isError
      · rw [← carriedOut_snoc]
        exact ih (by rw [split, List.append_assoc]; rfl)

/-- Behind a wait as well. -/
theorem Makes.accounts_whenReady {kind : Kind} {final observed : M} {changes : List (Change M)}
    {body : Program (Transition M)} (makes : Makes named final [] observed changes body) :
    (whenReady kind (some observed) body).Takes (accounting named changes) [] := by
  refine ⟨fun failure => ⟨_, rfl, fun isError => ?_⟩, makes.accounts rfl⟩
  exact .nothing (hasError_of_failure isError _)

/-- What is carried out without an error is everything. -/
theorem Accounts.eq_of_no_error {changes : List (Change M)} {carried : List Exchange}
    {transition : Transition M} (accounts : Accounts named changes carried transition)
    (clean : transition.hasError = false) : carried = carriedOut (commands changes) := by
  cases accounts with
  | whole => rfl
  | nothing failed => exact absurd (failed.symm.trans clean) (by simp)
  | part split begun isError =>
      simp [Transition.hasError, Diagnostics.hasError, isError] at clean

/-- Behind the first change a failure is reported with what is carried out and what is named. -/
theorem Accounts.reported {changes : List (Change M)} {carried : List Exchange}
    {transition : Transition M} (accounts : Accounts named changes carried transition)
    (failed : transition.hasError = true) (begun : carried ≠ []) :
    ∃ made pending failure, changes = made ++ pending ∧ made ≠ [] ∧ pending ≠ [] ∧
      carried = carriedOut (commands made) ∧ failure.isError = true ∧
      transition.diagnostics = [failure, partialUpdate (labels made) (named made pending)] := by
  cases accounts with
  | whole clean => exact absurd (clean.symm.trans failed) (by simp)
  | nothing failed => exact absurd rfl begun
  | part split nonempty isError =>
      exact ⟨_, _, _, split, nonempty, by simp, rfl, isError, rfl⟩

end Change

namespace Ledger

/-- A ledger's update reports all changes, in turn. -/
theorem update_accounts (observed desired : Ledger) :
    (update observed desired).Takes
      (Change.accounting (fun _ pending => Change.labels pending) (changes observed desired))
      [] := by
  rcases update_cases observed desired with ⟨_, failed, refused⟩ | ⟨_, equal, makes⟩
  · rw [refused]
    exact .nothing failed
  · rw [equal]
    exact makes.accounts_whenReady

/-- Wherever an update of a ledger stops behind a change, it reports all of its changes: those
that were answered well as applied, and the others as not applied. -/
theorem stopped_update_reports_all (observed desired : Ledger) (remote : Responder σ)
    (patience : Patience) (context : Context) (world : σ) (now : Nat) :
    let program := update observed desired
    let outcome := program.run remote patience context world now
    let carried := (program.exchanges remote patience context world now).filter Exchange.succeeds
    outcome.value.hasError = true → carried ≠ [] →
    ∃ made pending failure, changes observed desired = made ++ pending ∧
      carried = carriedOut (Change.commands made) ∧
      outcome.value.diagnostics =
        [failure, partialUpdate (Change.labels made) (Change.labels pending)] := by
  intro program outcome carried reportsError begun
  have takes := update_accounts observed desired
  obtain ⟨_, accounts⟩ := Program.comes_succeeded takes remote patience context world now
  obtain ⟨made, pending, failure, split, _, _, all, _, reported⟩ :=
    accounts.reported reportsError begun
  exact ⟨made, pending, failure, split, all, reported⟩

end Ledger

namespace PaymentsPool

theorem update_accounts (observed desired : PaymentsPool) :
    (update observed desired).Takes
      (Change.accounting (unmade observed desired) (plan observed desired)) [] := by
  rcases update_cases observed desired with ⟨_, failed, refused⟩ | ⟨_, equal, makes⟩
  · rw [refused]
    exact .nothing failed
  · rw [equal]
    exact makes.accounts_whenReady

/-- What a stop names, with the query behind members that are left, is the whole plan. -/
theorem labels_unmade {observed desired : PaymentsPool} {id : String}
    {made pending : List (Change PaymentsPool)} (known : observed.id = some id)
    (split : plan observed desired = made ++ pending) :
    Change.labels made ++ unmade observed desired made pending ++
        (if made.length < (changes id observed desired).length then
          Change.labels (queryChange id observed desired)
        else []) =
      Change.labels (plan observed desired) := by
  rw [unmade, known]
  dsimp only
  rw [plan_eq known] at split
  by_cases early : made.length < (changes id observed desired).length
  · have begun : made <+: changes id observed desired ++ queryChange id observed desired := by
      rw [split]
      exact List.prefix_append _ _
    obtain ⟨left, members⟩ :=
      List.prefix_of_prefix_length_le begun (List.prefix_append _ _) (Nat.le_of_lt early)
    rw [if_pos early, if_pos early, plan_eq known, ← members, List.drop_left,
      Change.labels_append, Change.labels_append]
  · rw [if_neg early, if_neg early, List.append_nil, plan_eq known, split, Change.labels_append]

/-- **A stopped update reports the changes that it has made, and the query only where it comes
to it.** Wherever an update that has made a change ends with an error, the calls that were
answered well are those of the changes that stand first in its plan, and behind the failure
exactly these are reported as applied. What is reported as not applied completes them to the
whole plan, save that a stop among the members leaves out the change of the query. The plan is
what the same update carries out wherever it ends without an error. -/
theorem stopped_update_reports (observed desired : PaymentsPool) (remote : Responder σ)
    (patience : Patience) (context : Context) (world : σ) (now : Nat) :
    let program := update observed desired
    let outcome := program.run remote patience context world now
    let carried := (program.exchanges remote patience context world now).filter Exchange.succeeds
    outcome.value.hasError = true → carried ≠ [] →
    ∃ id made pending failure unapplied, observed.id = some id ∧
      let members := changes id observed desired
      let settings := queryChange id observed desired
      members ++ settings = made ++ pending ∧ made ≠ [] ∧ pending ≠ [] ∧
      carried = carriedOut (Change.commands made) ∧ failure.isError = true ∧
      outcome.value.diagnostics = [failure, partialUpdate (Change.labels made) unapplied] ∧
      Change.labels made ++ unapplied ++
          (if made.length < members.length then Change.labels settings else []) =
        Change.labels (members ++ settings) ∧
      ∀ {τ : Type} (other : Responder τ) (patience : Patience) (context : Context) (world : τ)
        (now : Nat),
        (program.run other patience context world now).value.hasError = false →
        (program.exchanges other patience context world now).filter Exchange.succeeds =
          carriedOut (Change.commands (members ++ settings)) := by
  intro program outcome carried reportsError begun
  have takes := update_accounts observed desired
  obtain ⟨_, accounts⟩ := Program.comes_succeeded takes remote patience context world now
  obtain ⟨made, pending, failure, split, applied, left, all, isError, reported⟩ :=
    accounts.reported reportsError begun
  cases known : observed.id with
  | none =>
      rw [plan, known] at split
      exact absurd (List.append_eq_nil_iff.mp split.symm).1 applied
  | some id =>
      have whole := labels_unmade known split
      rw [plan_eq known] at split whole
      refine ⟨id, made, pending, failure, _, rfl, split, applied, left, all, isError, reported,
        whole, ?_⟩
      intro τ other patience context world now clean
      rw [← plan_eq known]
      obtain ⟨_, ended⟩ := Program.comes_succeeded takes other patience context world now
      exact ended.eq_of_no_error clean

/-- A stack with one pool of two accounts, of which the second is not removed. -/
def withoutRemoval : Rehearsal :=
  { Rehearsal.empty with
    memory := { Memory.empty with
      pools := .ofList [("pool-1", ⟨"pool-1", "savings", none, ["a", "b"], none⟩)] }
    failures := .ofList [("remove_account_from_pool pool-1 b", Memory.notFound "account")] }

/-- That pool as it is observed, with a query besides. -/
def paired : PaymentsPool :=
  ⟨some "pool-1", "savings", ["a", "b"], some (.map [("$match", .map [("name", .text "x")])])⟩

/-- Of four changes two are made, the third fails, and the fourth, the query, is not reported. -/
theorem stopped_update_reports_withoutRemoval :
    let desired : PaymentsPool := ⟨none, "savings", ["c"], none⟩
    let program := update paired desired
    let outcome := program.run Rehearsal.remote .standard .free withoutRemoval 0
    ∃ (made : List (Change PaymentsPool)) (failure : Diagnostic) (unapplied : List String),
      made.length = 2 ∧
      outcome.value.diagnostics = [failure, partialUpdate (Change.labels made) unapplied] ∧
      Change.labels made ++ unapplied ++ ["update query"] =
        ["add account 'c'", "remove account 'a'", "remove account 'b'", "update query"] := by
  intro desired program outcome
  have two : ((program.exchanges Rehearsal.remote .standard .free withoutRemoval 0).filter
      Exchange.succeeds).length = 2 := by
    decide +kernel
  obtain ⟨id, made, pending, failure, unapplied, known, _, _, _, carried, _, reported, whole, _⟩ :=
    stopped_update_reports paired desired Rehearsal.remote .standard .free withoutRemoval 0
      (by decide +kernel) (List.ne_nil_of_length_pos (by rw [two]; decide))
  cases known
  rw [carried, carriedOut, Change.commands, List.length_map, List.length_map] at two
  have members : (changes "pool-1" paired desired).length = 3 := by rfl
  rw [two, members] at whole
  exact ⟨made, failure, unapplied, two, reported, whole⟩

/-- **A query that waits behind the members goes unreported.** Two accounts give way to a query,
and the second is not removed: one of two changes is reported as made, where the same update
makes three. -/
theorem query_unreported :
    let observed : PaymentsPool := { paired with query := none }
    let desired : PaymentsPool := { paired with accounts := [] }
    let stopped := (update observed desired).run Rehearsal.remote .standard .free withoutRemoval 0
    let whole := (update observed desired).run Memory.remote .standard .free
      withoutRemoval.memory 0
    stopped.value.diagnostics = [(Memory.notFound "account").diagnose,
      partialUpdate ["remove account 'a'"] ["remove account 'b'"]] ∧
    whole.value.hasError = false ∧
    whole.log.map (fun entry => entry.call.label) = ["list_module_versions",
      "remove_account_from_pool pool-1 a", "remove_account_from_pool pool-1 b",
      "update_pool_query pool-1"] := by
  decide +kernel

end PaymentsPool

end Converge.Resource
