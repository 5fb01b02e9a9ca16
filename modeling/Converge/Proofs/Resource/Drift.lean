import Converge.Proofs.Resource.PaymentsPool

/-!
# Drift of payments pools

A read takes over the accounts and the query that the stack reports, unless it reports none.
The plan against the declaration then finds a difference exactly where what is reported
differs, and where nothing is reported it compares what the state held before. Behind a
creation or an update without error that is the declaration itself, so a pool that has been
emptied or whose query has been cleared out of band is found unchanged.
-/

namespace Converge

open Remote

theorem Plan.ofChanges_noOp_iff {changed replaceFields : List String} :
    (Plan.ofChanges changed replaceFields).action = .noOp ↔ changed = [] := by
  rw [ofChanges]
  cases changed with
  | nil => simp
  | cons field fields =>
      simp only [List.isEmpty_cons, Bool.false_eq_true, if_false, reduceCtorEq, iff_false]
      split <;> simp

namespace Resource

variable {σ : Type}

namespace PaymentsPool

/-! ## What transitions end with -/

/-- What a creation or an update of a declaration ends with, in any circumstances. -/
inductive Returned (desired : PaymentsPool) : Transition PaymentsPool → Prop where
  | created {σ : Type} (remote : Responder σ) (patience : Patience) (context : Context)
      (world : σ) (now : Nat) :
      Returned desired ((create desired).run remote patience context world now).value
  | updated {σ : Type} (observed : PaymentsPool) (remote : Responder σ) (patience : Patience)
      (context : Context) (world : σ) (now : Nat) :
      Returned desired ((update observed desired).run remote patience context world now).value

theorem create_state {desired state : PaymentsPool} {remote : Responder σ} {patience : Patience}
    {context : Context} {world : σ} {now : Nat}
    (isState : ((create desired).run remote patience context world now).value.state =
      some state) :
    ∃ id, state = { desired with id := some id } := by
  obtain ⟨next, asks, stops, goesOn⟩ := create_asks desired
  rw [asks] at isState
  split at isState
  · cases isState
  · rcases whenReady_call_answered rfl (by simp) stops goesOn remote patience context world
        now with
      ⟨failure, _, ended, _⟩ | ⟨id, ended, _⟩
    · rw [ended] at isState
      cases isState
    · rw [ended] at isState
      exact ⟨id, (Option.some.inj isState).symm⟩

theorem update_value_of_no_error {observed desired : PaymentsPool} {remote : Responder σ}
    {patience : Patience} {context : Context} {world : σ} {now : Nat}
    (succeeded : ((update observed desired).run remote patience context world now).value.hasError =
      false) :
    ((update observed desired).run remote patience context world now).value =
      .ok { desired with id := observed.id } := by
  rcases update_cases observed desired with ⟨_, failed, refused⟩ | ⟨_, equal, makes⟩
  · rw [refused] at succeeded
    exact absurd (failed.symm.trans succeeded) (by simp)
  · rw [equal] at succeeded ⊢
    exact whenReady_value_of_no_error makes succeeded

/-- A state that is returned without error is the declaration, but for its identifier. -/
theorem Returned.declared {desired state : PaymentsPool} {transition : Transition PaymentsPool}
    (returned : Returned desired transition) (isState : transition.state = some state)
    (succeeded : transition.hasError = false) :
    ∃ id, state = { desired with id := id } := by
  cases returned with
  | created remote patience context world now =>
      obtain ⟨id, equal⟩ := create_state isState
      exact ⟨some id, equal⟩
  | updated observed remote patience context world now =>
      rw [update_value_of_no_error succeeded] at isState
      exact ⟨observed.id, (Option.some.inj isState).symm⟩

/-! ## Plans behind a read -/

theorem read_answered {state : PaymentsPool} {info : Stack.Pool}
    (known : state.id = some info.id) {remote : Responder σ} {patience : Patience}
    {context : Context} {world : σ} {now : Nat}
    (answered : ⟨.getPool info.id, some (.ok info)⟩ ∈
      (read state).exchanges remote patience context world now) :
    ((read state).run remote patience context world now).value =
      .ok (state.applyRemote info) := by
  obtain ⟨next, asks, stops, goesOn⟩ := read_asks known
  exact read_answered_of_asks asks (by simp) stops goesOn answered

/-- The accounts that are compared behind a read. -/
def heldAccounts (state : PaymentsPool) (info : Stack.Pool) : List String :=
  if info.accounts.isEmpty then state.accounts else info.accounts

/-- The query that is compared behind a read. -/
def heldQuery (state : PaymentsPool) (info : Stack.Pool) : Value :=
  (givenQuery info.query).getD state.effectiveQuery

theorem effectiveQuery_applyRemote (state : PaymentsPool) (info : Stack.Pool) :
    (state.applyRemote info).effectiveQuery = state.heldQuery info := by
  rw [effectiveQuery, applyRemote, heldQuery]
  cases givenQuery info.query <;> rfl

theorem plan_applyRemote_noOp_iff {state desired : PaymentsPool} {info : Stack.Pool}
    (named : info.name = desired.name) :
    (resource.plan (some (state.applyRemote info)) desired).action = .noOp ↔
      (∀ account, account ∈ state.heldAccounts info ↔ account ∈ desired.accounts) ∧
        (state.heldQuery info).semanticallyEqual desired.effectiveQuery = true := by
  have fields : resource.changedFields (state.applyRemote info) desired =
      (if (Delta.between desired.accounts (state.heldAccounts info)).isEmpty then []
        else ["accounts_ids"]) ++
      (if (state.heldQuery info).semanticallyEqual desired.effectiveQuery then []
        else ["query"]) := by
    have sameName : (state.applyRemote info).name = desired.name := named
    change changedFields (state.applyRemote info) desired = _
    rw [changedFields, effectiveQuery_applyRemote, if_pos sameName]
    rfl
  rw [Resource.plan, Plan.ofChanges_noOp_iff, fields, List.append_eq_nil_iff, unless_eq_nil_iff,
    unless_eq_nil_iff, Delta.isEmpty_between_iff]

theorem query_eq_of_given {info : Stack.Pool} {query : Value}
    (given : givenQuery info.query = some query) : info.query = some query := by
  rw [givenQuery, Option.filter_eq_some_iff] at given
  exact given.1

/-- Where the state is the declaration, what the stack leaves out is found unchanged. -/
theorem held_iff_of_declared {state desired : PaymentsPool} {id : Option String}
    (declared : state = { desired with id := id }) (info : Stack.Pool) :
    ((∀ account, account ∈ state.heldAccounts info ↔ account ∈ desired.accounts) ↔
      info.accounts = [] ∨ ∀ account, account ∈ info.accounts ↔ account ∈ desired.accounts) ∧
    ((state.heldQuery info).semanticallyEqual desired.effectiveQuery = true ↔
      givenQuery info.query = none ∨
        (info.query.getD (.map [])).semanticallyEqual desired.effectiveQuery = true) := by
  subst declared
  constructor
  · rw [heldAccounts]
    cases info.accounts with
    | nil => simp
    | cons account accounts => simp
  · rw [heldQuery]
    cases given : givenQuery info.query with
    | none =>
        have same : effectiveQuery { desired with id := id } = desired.effectiveQuery := rfl
        simp [same]
    | some query => simp [query_eq_of_given given]

/-- **Drift of pools.** Let a creation or an update of a declaration have left a state, and
let a read of it have been answered with a pool of the same identifier and the declared name.
The plan of what the read ends with finds nothing to do exactly where the accounts are the
declared set and the query says what is declared, an empty list of accounts and a query that
says nothing standing for what the state held. Where the transition reported no error that is
the declaration: what is left out is then found unchanged, and anything else is compared. -/
theorem read_finds_drift {desired state : PaymentsPool} {transition : Transition PaymentsPool}
    (returned : Returned desired transition) (isState : transition.state = some state)
    {info : Stack.Pool} (known : state.id = some info.id) (named : info.name = desired.name)
    (remote : Responder σ) (patience : Patience) (context : Context) (world : σ) (now : Nat)
    (answered : ⟨.getPool info.id, some (.ok info)⟩ ∈
      (read state).exchanges remote patience context world now) :
    ∃ next, ((read state).run remote patience context world now).value = .ok next ∧
      ((resource.plan (some next) desired).action = .noOp ↔
        (∀ account, account ∈ state.heldAccounts info ↔ account ∈ desired.accounts) ∧
          (state.heldQuery info).semanticallyEqual desired.effectiveQuery = true) ∧
      (transition.hasError = false →
        ((resource.plan (some next) desired).action = .noOp ↔
          (info.accounts = [] ∨
            ∀ account, account ∈ info.accounts ↔ account ∈ desired.accounts) ∧
          (givenQuery info.query = none ∨
            (info.query.getD (.map [])).semanticallyEqual desired.effectiveQuery = true))) := by
  refine ⟨state.applyRemote info, read_answered known answered, plan_applyRemote_noOp_iff named,
    ?_⟩
  intro succeeded
  obtain ⟨id, declared⟩ := returned.declared isState succeeded
  obtain ⟨accounts, query⟩ := held_iff_of_declared declared info
  rw [plan_applyRemote_noOp_iff named, accounts, query]

/-- A memory that holds one pool. -/
def holding (pool : Stack.Pool) : Memory :=
  { Memory.empty with pools := .ofList [(pool.id, pool)] }

/-- A pool with other accounts is found changed. -/
theorem read_finds_drift_otherAccounts :
    let made := (create savings).run Memory.remote .standard .free .empty 0
    let info : Stack.Pool := ⟨"pool-1", "savings", none, ["a", "b"], none⟩
    ∃ state next, made.value = .ok state ∧
      ((read state).run Memory.remote .standard .free (holding info) 0).value = .ok next ∧
      (resource.plan (some next) savings).action ≠ .noOp := by
  intro made info
  let state : PaymentsPool := { savings with id := some "pool-1" }
  have returned : Returned savings made.value := .created Memory.remote .standard .free .empty 0
  have isState : made.value.state = some state := rfl
  have known : state.id = some info.id := rfl
  obtain ⟨next, ended, _, unchanged⟩ := read_finds_drift returned isState known rfl Memory.remote
    .standard .free (holding info) 0 (.tail _ (.head _))
  refine ⟨state, next, rfl, ended, ?_⟩
  rw [Ne, unchanged rfl]
  rintro ⟨emptied | same, _⟩
  · cases emptied
  · have member := (same "b").mp (by simp [info])
    simp [savings] at member

/-- A pool that is declared by a query. -/
def queried : PaymentsPool :=
  ⟨some "pool-1", "savings", [], some (.map [("$match", .map [("name", .text "x")])])⟩

/-- A pool that has been emptied out of band is found unchanged, and so is one whose query has
been cleared. -/
theorem drift_unnoticed :
    let listed : PaymentsPool := { savings with id := some "pool-1" }
    let info : Stack.Pool := ⟨"pool-1", "savings", none, [], none⟩
    (validate listed).hasError = false ∧ (validate queried).hasError = false ∧
    (∃ next, ((create listed).run Memory.remote .standard .free .empty 0).value = .ok listed ∧
      ((read listed).run Memory.remote .standard .free (holding info) 0).value = .ok next ∧
      (resource.plan (some next) listed).action = .noOp ∧
      ¬ ∀ account, account ∈ info.accounts ↔ account ∈ listed.accounts) ∧
    ∃ next, ((create queried).run Memory.remote .standard .free .empty 0).value = .ok queried ∧
      ((read queried).run Memory.remote .standard .free (holding info) 0).value = .ok next ∧
      (resource.plan (some next) queried).action = .noOp ∧
      ¬ (info.query.getD (.map [])).semanticallyEqual queried.effectiveQuery = true := by
  dsimp only
  have made : ((create queried).run Memory.remote .standard .free .empty 0).value =
      .ok queried := by rfl
  refine ⟨rfl, by rfl, ⟨_, rfl, rfl, rfl, ?_⟩, queried, made, rfl, rfl, ?_⟩
  · intro same
    exact absurd ((same "a").mpr (.head _)) (by simp)
  · have different : (Value.map []).semanticallyEqual queried.effectiveQuery = false := rfl
    intro same
    exact absurd (different.symm.trans same) (by simp)

end PaymentsPool
end Resource
end Converge
