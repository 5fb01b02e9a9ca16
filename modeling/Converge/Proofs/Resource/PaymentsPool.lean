import Converge.Proofs.Dictionary
import Converge.Proofs.Membership
import Converge.Proofs.Resource.Convergence
import Converge.Proofs.Value
import Converge.Resource.PaymentsPool

/-!
# Payments pools converge

The plan of a pool lists the accounts to add, the accounts to remove, and the query where it
differs. Which of the three comes first is read off the state alone, and behind it the state
plans the others: this carries whole lives of a pool, however their updates are stopped.
-/

namespace Converge.Resource.PaymentsPool

open Remote

variable {σ : Type}

/-- The state tells of a stored pool: its identifier, its accounts as a set and its query up
to how it is written. -/
structure Mirrors (state : PaymentsPool) (pool : Stack.Pool) : Prop where
  id : state.id = some pool.id
  accounts : ∀ account, account ∈ state.accounts ↔ account ∈ pool.accounts
  query : state.effectiveQuery.semanticallyEqual (pool.query.getD (.map [])) = true

def Agrees (state : PaymentsPool) (memory : Memory) : Prop :=
  ∃ pool : Stack.Pool, memory.pools.get? pool.id = some pool ∧ state.Mirrors pool

/-- The changes of an update, none where the identifier is not known. -/
def plan (observed desired : PaymentsPool) : List (Change PaymentsPool) :=
  match observed.id with
  | none => []
  | some id => changes id observed desired ++ queryChange id observed desired

/-! ## The first change of a plan -/

def addition (id account : String) : Change PaymentsPool :=
  ⟨"add account '" ++ account ++ "'", .addAccount id account,
    fun state => { state with accounts := state.accounts ++ [account] }⟩

def removal (id account : String) : Change PaymentsPool :=
  ⟨"remove account '" ++ account ++ "'", .removeAccount id account,
    fun state => { state with accounts := state.accounts.filter (· != account) }⟩

def querySetting (id : String) (desired : PaymentsPool) : Change PaymentsPool :=
  ⟨"update query", .setPoolQuery id desired.effectiveQuery,
    fun state => { state with query := desired.query }⟩

@[simp] theorem addition_apply (id account : String) (state : PaymentsPool) :
    (addition id account).apply state =
      { state with accounts := state.accounts ++ [account] } := rfl

@[simp] theorem removal_apply (id account : String) (state : PaymentsPool) :
    (removal id account).apply state =
      { state with accounts := state.accounts.filter (· != account) } := rfl

theorem changes_eq (id : String) (observed desired : PaymentsPool) :
    changes id observed desired =
      (Delta.missing desired.accounts observed.accounts).map (addition id) ++
        (Delta.missing observed.accounts desired.accounts).map (removal id) := by
  rw [changes, Delta.between_eq]
  rfl

theorem queryChange_eq (id : String) (observed desired : PaymentsPool) :
    queryChange id observed desired =
      if observed.effectiveQuery.semanticallyEqual desired.effectiveQuery then []
      else [querySetting id desired] := rfl

theorem queryChange_eq_nil_iff {id : String} {observed desired : PaymentsPool} :
    queryChange id observed desired = [] ↔
      observed.effectiveQuery.semanticallyEqual desired.effectiveQuery = true := by
  rw [queryChange_eq, unless_eq_nil_iff]

theorem plan_eq {observed desired : PaymentsPool} {id : String} (known : observed.id = some id) :
    plan observed desired = changes id observed desired ++ queryChange id observed desired := by
  rw [plan, known]

/-- Nothing is planned where the accounts are the same set and the queries say the same. -/
theorem plan_eq_nil_iff {observed desired : PaymentsPool} {id : String}
    (known : observed.id = some id) :
    plan observed desired = [] ↔
      (∀ account, account ∈ observed.accounts ↔ account ∈ desired.accounts) ∧
        observed.effectiveQuery.semanticallyEqual desired.effectiveQuery = true := by
  rw [plan_eq known, List.append_eq_nil_iff, changes_eq, List.append_eq_nil_iff,
    List.map_eq_nil_iff, List.map_eq_nil_iff, Delta.missing_eq_nil_iff,
    Delta.missing_eq_nil_iff, queryChange_eq_nil_iff]
  constructor
  · intro ⟨⟨added, removed⟩, querySame⟩
    exact ⟨fun account => ⟨removed account, added account⟩, querySame⟩
  · intro ⟨same, querySame⟩
    exact ⟨⟨fun account => (same account).mpr, fun account => (same account).mp⟩, querySame⟩

/-- What the first change of a plan can be. -/
inductive First (desired : PaymentsPool) (id : String) : Change PaymentsPool → Prop where
  | addition {account : String} (wanted : account ∈ desired.accounts) :
      First desired id (addition id account)
  | removal {account : String} (unwanted : account ∉ desired.accounts) :
      First desired id (removal id account)
  | querySetting : First desired id (querySetting id desired)

theorem plan_of_addition {observed desired : PaymentsPool} {id account : String}
    {others : List String} (known : observed.id = some id)
    (toAdd : Delta.missing desired.accounts observed.accounts = account :: others) :
    account ∈ desired.accounts ∧ ∃ rest,
      plan observed desired = addition id account :: rest ∧
      plan ((addition id account).apply observed) desired = rest := by
  have missing : account ∈ Delta.missing desired.accounts observed.accounts := by
    simp [toAdd]
  have wanted := (Delta.mem_missing_iff.mp missing).1
  have unmoved : Delta.missing (observed.accounts ++ [account]) desired.accounts =
      Delta.missing observed.accounts desired.accounts := Delta.missing_append_of_mem wanted
  have added := Delta.missing_append_of_eq_cons toAdd
  refine ⟨wanted, _, ?_, plan_eq known⟩
  rw [plan_eq known, changes_eq, changes_eq, toAdd]
  simp only [addition_apply, unmoved, added]
  rfl

theorem plan_of_removal {observed desired : PaymentsPool} {id account : String}
    {others : List String} (known : observed.id = some id)
    (noneToAdd : Delta.missing desired.accounts observed.accounts = [])
    (toRemove : Delta.missing observed.accounts desired.accounts = account :: others) :
    account ∉ desired.accounts ∧ ∃ rest,
      plan observed desired = removal id account :: rest ∧
      plan ((removal id account).apply observed) desired = rest := by
  have missing : account ∈ Delta.missing observed.accounts desired.accounts := by
    simp [toRemove]
  have unwanted := (Delta.mem_missing_iff.mp missing).2
  have unmoved : Delta.missing desired.accounts (observed.accounts.filter (· != account)) =
      Delta.missing desired.accounts observed.accounts :=
    Delta.missing_filter_of_not_mem unwanted
  have removed := Delta.missing_filter_of_eq_cons toRemove
  refine ⟨unwanted, _, ?_, plan_eq known⟩
  rw [plan_eq known, changes_eq, changes_eq, noneToAdd, toRemove]
  simp only [removal_apply, unmoved, removed, noneToAdd]
  rfl

theorem plan_of_query {observed desired : PaymentsPool} {id : String}
    (known : observed.id = some id)
    (noneToAdd : Delta.missing desired.accounts observed.accounts = [])
    (noneToRemove : Delta.missing observed.accounts desired.accounts = [])
    (different : observed.effectiveQuery.semanticallyEqual desired.effectiveQuery = false) :
    plan observed desired = [querySetting id desired] ∧
      plan ((querySetting id desired).apply observed) desired = [] := by
  constructor
  · rw [plan_eq known, changes_eq, noneToAdd, noneToRemove, queryChange_eq, different]
    rfl
  · have knownAfter : ((querySetting id desired).apply observed).id = some id := known
    rw [plan_eq_nil_iff knownAfter]
    constructor
    · intro account
      exact ⟨Delta.missing_eq_nil_iff.mp noneToRemove account,
        Delta.missing_eq_nil_iff.mp noneToAdd account⟩
    · exact Value.semanticallyEqual_self desired.effectiveQuery

/-- Additions come first, then removals, then the query, and behind each of them the state
plans the changes that are left. -/
theorem plan_cases {observed desired : PaymentsPool} {change : Change PaymentsPool}
    {rest : List (Change PaymentsPool)} (planned : plan observed desired = change :: rest) :
    ∃ id, observed.id = some id ∧ First desired id change ∧
      plan (change.apply observed) desired = rest := by
  cases known : observed.id with
  | none =>
      rw [plan, known] at planned
      cases planned
  | some id =>
      refine ⟨id, rfl, ?_⟩
      cases toAdd : Delta.missing desired.accounts observed.accounts with
      | cons account others =>
          obtain ⟨wanted, rest, equal, remaining⟩ := plan_of_addition known toAdd
          rw [equal] at planned
          cases planned
          exact ⟨.addition wanted, remaining⟩
      | nil =>
          cases toRemove : Delta.missing observed.accounts desired.accounts with
          | cons account others =>
              obtain ⟨unwanted, rest, equal, remaining⟩ :=
                plan_of_removal known toAdd toRemove
              rw [equal] at planned
              cases planned
              exact ⟨.removal unwanted, remaining⟩
          | nil =>
              cases querySame :
                  observed.effectiveQuery.semanticallyEqual desired.effectiveQuery with
              | true =>
                  rw [plan_eq known, changes_eq, toAdd, toRemove, queryChange_eq,
                    querySame] at planned
                  cases planned
              | false =>
                  obtain ⟨equal, remaining⟩ := plan_of_query known toAdd toRemove querySame
                  rw [equal] at planned
                  cases planned
                  exact ⟨.querySetting, remaining⟩

/-! ## Transitions -/

/-- A change of the stored pool succeeds, and what mirrors the changed pool agrees. -/
theorem agrees_modify {next : PaymentsPool} {memory : Memory} {pool : Stack.Pool}
    (held : memory.pools.get? pool.id = some pool) (change : Stack.Pool → Stack.Pool)
    (sameId : (change pool).id = pool.id) (mirrors : next.Mirrors (change pool)) :
    let effect := memory.modify "pool" (memory.pools.get? pool.id) fun found =>
      { memory with pools := memory.pools.insert pool.id (change found) }
    effect.1 = .ok () ∧ next.Agrees effect.2 := by
  rw [held]
  refine ⟨rfl, change pool, ?_, mirrors⟩
  rw [sameId]
  exact Dictionary.get?_insert_self _ _ _

/-- The memory follows the first change of a plan. -/
theorem follows {observed desired : PaymentsPool} {memory : Memory}
    {change : Change PaymentsPool} {rest : List (Change PaymentsPool)}
    (agrees : observed.Agrees memory) (planned : plan observed desired = change :: rest) :
    (memory.execute change.command).1 = .ok () ∧
      (change.apply observed).Agrees (memory.execute change.command).2 := by
  obtain ⟨pool, held, mirrors⟩ := agrees
  obtain ⟨id, known, first, _⟩ := plan_cases planned
  rw [mirrors.id] at known
  cases known
  cases first with
  | @addition account wanted =>
      apply agrees_modify held (fun pool => { pool with accounts := pool.accounts ++ [account] })
      · rfl
      · refine ⟨mirrors.id, ?_, mirrors.query⟩
        intro other
        simp [mirrors.accounts other]
  | @removal account unwanted =>
      apply agrees_modify held
        (fun pool => { pool with accounts := pool.accounts.filter (· != account) })
      · rfl
      · refine ⟨mirrors.id, ?_, mirrors.query⟩
        intro other
        simp [mirrors.accounts other]
  | querySetting =>
      apply agrees_modify held
        (fun pool => { pool with query := some desired.effectiveQuery })
      · rfl
      · exact ⟨mirrors.id, mirrors.accounts,
          Value.semanticallyEqual_self desired.effectiveQuery⟩

theorem resumes {observed desired : PaymentsPool} {change : Change PaymentsPool}
    {rest : List (Change PaymentsPool)} (planned : plan observed desired = change :: rest) :
    plan (change.apply observed) desired = rest ∧
      objections (change.apply observed) desired = objections observed desired := by
  obtain ⟨id, _, first, remaining⟩ := plan_cases planned
  refine ⟨remaining, ?_⟩
  cases first <;> rfl

theorem settles {observed desired : PaymentsPool} {memory : Memory}
    (agrees : observed.Agrees memory) (settled : plan observed desired = []) :
    Agrees { desired with id := observed.id } memory := by
  obtain ⟨pool, held, mirrors⟩ := agrees
  obtain ⟨same, querySame⟩ := (plan_eq_nil_iff mirrors.id).mp settled
  refine ⟨pool, held, mirrors.id, ?_, ?_⟩
  · intro account
    rw [← mirrors.accounts, ← same]
  · rw [Value.semanticallyEqual_symm] at querySame
    exact Value.semanticallyEqual_trans querySame mirrors.query

/-- What a stopped update reports as not made: where it stops among the members, the other
members alone. -/
def unmade (observed desired : PaymentsPool) (made pending : List (Change PaymentsPool)) :
    List String :=
  match observed.id with
  | none => []
  | some id =>
    let members := changes id observed desired
    if made.length < members.length then Change.labels (members.drop made.length)
    else Change.labels pending

theorem refused {observed desired : PaymentsPool} {memory : Memory}
    (agrees : observed.Agrees memory) (objected : (objections observed desired).hasError = true) :
    update observed desired = .done (.keeping observed (objections observed desired)) := by
  obtain ⟨pool, _, mirrors⟩ := agrees
  rw [update, mirrors.id]
  simp only [objected, if_true]

theorem update_makes {observed desired : PaymentsPool} {id : String}
    (known : observed.id = some id)
    (notObjected : (objections observed desired).hasError = false) :
    ∃ body, update observed desired = whenReady .paymentsPool (some observed) body ∧
      Change.Makes (unmade observed desired) { desired with id := observed.id } [] observed
        (plan observed desired) body := by
  let members := changes id observed desired
  let settings := queryChange id observed desired
  have equal : update observed desired = whenReady .paymentsPool (some observed)
      (Change.runAll (fun state => Change.runAll
        (fun _ => .done (.ok { desired with id := some id })) (Change.labels members) state
        settings) [] observed members) := by
    rw [update, known]
    simp only [notObjected, Bool.false_eq_true, if_false]
    rfl
  refine ⟨_, equal, ?_⟩
  rw [plan_eq known]
  apply Change.runAll_makes
  · intro before change after split
    have early : before.length < members.length := by
      simp [members, split]
    simp only [unmade, known, List.nil_append]
    rw [if_pos early, split, List.drop_left]
  · apply Change.runAll_makes_all
    · intro before change after split
      have late : ¬ (members ++ before).length < members.length := by
        simp
      simp only [unmade, known]
      exact if_neg late
    · rw [known]

/-- An update is refused, or it makes the changes of its plan in turn. -/
theorem update_cases (observed desired : PaymentsPool) :
    (∃ diagnostics : Diagnostics, diagnostics.hasError = true ∧
      update observed desired = .done (.keeping observed diagnostics)) ∨
    ∃ body, update observed desired = whenReady .paymentsPool (some observed) body ∧
      Change.Makes (unmade observed desired) { desired with id := observed.id } [] observed
        (plan observed desired) body := by
  cases known : observed.id with
  | none =>
      refine .inl ⟨objections observed desired ++ [missingId], ?_, by rw [update, known]⟩
      rw [Diagnostics.hasError, List.any_append]
      exact Bool.or_true _
  | some id =>
      cases objected : (objections observed desired).hasError with
      | true =>
          refine .inl ⟨_, objected, ?_⟩
          rw [update, known]
          exact if_pos objected
      | false =>
          rw [← known]
          exact .inr (update_makes known objected)

theorem accepted {observed desired : PaymentsPool} {memory : Memory}
    (agrees : observed.Agrees memory)
    (notObjected : (objections observed desired).hasError = false) :
    ∃ body, update observed desired = whenReady .paymentsPool (some observed) body ∧
      Change.Makes (unmade observed desired) { desired with id := observed.id } [] observed
        (plan observed desired) body := by
  obtain ⟨pool, _, mirrors⟩ := agrees
  exact update_makes mirrors.id notObjected

/-- A query that passes validation is told to the stack, or else means the same as none. -/
theorem givenQuery_getD {desired : PaymentsPool} (valid : (validate desired).hasError = false) :
    (givenQuery desired.query).getD (.map []) = desired.effectiveQuery := by
  rw [effectiveQuery]
  cases declared : desired.query with
  | none => rfl
  | some query =>
      cases empty : isEmptyQuery query with
      | false => simp [givenQuery, empty, Option.filter]
      | true =>
          rw [isEmptyQuery.eq_def] at empty
          split at empty
          · rename_i isNull
            have broken : Query.parse .null = .error ⟨[], .notAnObject⟩ := rfl
            simp [validate, declared, broken, Diagnostics.hasError] at valid
          · rfl
          · cases empty

theorem create_asks (desired : PaymentsPool) :
    ∃ next,
      create desired = (if (validate desired).hasError then .done (.failed (validate desired))
        else whenReady .paymentsPool none (.call (.createPool desired.request) next)) ∧
      (∀ failure, next (.error failure) = .done (.failed [failure])) ∧
      ∀ id, next (.ok id) = .done (.ok { desired with id := some id }) :=
  ⟨_, rfl, fun _ => rfl, fun _ => rfl⟩

theorem read_asks {state : PaymentsPool} {id : String} (known : state.id = some id) :
    ∃ next,
      read state = whenReady .paymentsPool (some state) (.call (.getPool id) next) ∧
      (∀ failure, next (.error failure) = .done (.keeping state [failure])) ∧
      ∀ info, next (.ok info) = .done (.ok (state.applyRemote info)) := by
  rw [read, known]
  exact ⟨_, rfl, fun _ => rfl, fun _ => rfl⟩

/-- What a pool is stored as when it is created. -/
def stored (id : String) (desired : PaymentsPool) : Stack.Pool :=
  ⟨id, desired.name, none, desired.accounts, givenQuery desired.query⟩

theorem created_stored {remote : Responder σ} {memory : σ → Memory} (keeps : remote.Keeps memory)
    (desired : PaymentsPool) (patience : Patience) (context : Context) (world : σ) (now : Nat) :
    let outcome := (create desired).run remote patience context world now
    outcome.value.hasError = false →
      (validate desired).hasError = false ∧
      ∃ id, outcome.value.state = some { desired with id := some id } ∧
        (memory outcome.world).pools.get? id = some (stored id desired) := by
  intro outcome succeeded
  obtain ⟨next, asks, stops, goesOn⟩ := create_asks desired
  obtain ⟨valid, id, reached, instant, answered, ended, there⟩ :=
    create_keeps keeps asks (by simp) stops succeeded
  rw [goesOn] at ended there
  refine ⟨valid, id, congrArg Transition.state ended, ?_⟩
  obtain ⟨issued, after⟩ := Prod.mk.inj answered
  cases issued
  have sameWorld : memory outcome.world = memory reached := congrArg memory there
  rw [sameWorld, ← after]
  exact Dictionary.get?_insert_self _ _ _

theorem created {remote : Responder σ} {memory : σ → Memory} (keeps : remote.Keeps memory)
    (desired : PaymentsPool) (patience : Patience) (context : Context) (world : σ) (now : Nat) :
    let outcome := (create desired).run remote patience context world now
    outcome.value.hasError = false →
      ∃ state, outcome.value.state = some state ∧ state.Agrees (memory outcome.world) := by
  intro outcome succeeded
  obtain ⟨valid, id, isState, held⟩ :=
    created_stored keeps desired patience context world now succeeded
  refine ⟨{ desired with id := some id }, isState, stored id desired, held, rfl,
    fun _ => Iff.rfl, ?_⟩
  rw [stored]
  dsimp only
  rw [givenQuery_getD valid]
  exact Value.semanticallyEqual_self desired.effectiveQuery

/-- A pool that is taken over is the one that the state tells of. -/
theorem Mirrors.applyRemote {state : PaymentsPool} {pool : Stack.Pool}
    (mirrors : state.Mirrors pool) : (state.applyRemote pool).Mirrors pool := by
  constructor
  · rfl
  · intro account
    rw [PaymentsPool.applyRemote]
    dsimp only
    split
    · exact mirrors.accounts account
    · rfl
  · cases given : givenQuery pool.query with
    | some query =>
        have reported : pool.query = some query := by
          rw [givenQuery, Option.filter_eq_some_iff] at given
          exact given.1
        have taken : (state.applyRemote pool).effectiveQuery = query := by
          simp only [PaymentsPool.applyRemote, effectiveQuery, given, Option.some_or,
            Option.getD_some]
        rw [taken, reported]
        exact Value.semanticallyEqual_self query
    | none =>
        have kept : (state.applyRemote pool).effectiveQuery = state.effectiveQuery := by
          simp only [PaymentsPool.applyRemote, effectiveQuery, given, Option.none_or]
        rw [kept]
        exact mirrors.query

theorem read_agrees {remote : Responder σ} {memory : σ → Memory} (keeps : remote.Keeps memory)
    {state : PaymentsPool} {world : σ} (agrees : state.Agrees (memory world))
    (patience : Patience) (context : Context) (now : Nat) :
    let outcome := (read state).run remote patience context world now
    ∃ next, outcome.value.state = some next ∧ next.Agrees (memory outcome.world) := by
  intro outcome
  obtain ⟨pool, held, mirrors⟩ := agrees
  obtain ⟨next, asks, stops, goesOn⟩ := read_asks mirrors.id
  have answer : (memory world).answer (.getPool pool.id) = (.ok pool, memory world) := by
    change Memory.fetch _ _ _ = _
    rw [held]
    rfl
  obtain ⟨ended, same⟩ := read_keeps keeps asks (by simp) stops goesOn answer patience context now
  have heldStill : (memory outcome.world).pools.get? pool.id = some pool := by
    rw [same]
    exact held
  rcases ended with kept | taken
  · exact ⟨state, kept, pool, heldStill, mirrors⟩
  · exact ⟨state.applyRemote pool, taken, pool, heldStill, mirrors.applyRemote⟩

/-- The changes of a plan leave the identifier. -/
theorem id_applyAll {observed desired : PaymentsPool} {planned : List (Change PaymentsPool)}
    (isPlan : plan observed desired = planned) :
    (Change.applyAll planned observed).id = observed.id := by
  induction planned generalizing observed with
  | nil => rfl
  | cons change rest ih =>
      obtain ⟨id, _, first, remaining⟩ := plan_cases isPlan
      rw [Change.applyAll_cons, ih remaining]
      cases first <;> rfl

/-- How payments pools converge. -/
def convergence : Convergence resource where
  Agrees := Agrees
  plan := plan
  final observed desired := { desired with id := observed.id }
  objections := objections
  named := unmade
  created := created
  read keeps _ _ agrees := read_agrees keeps agrees
  refused := refused
  accepted agrees notObjected := by
    rw [id_applyAll rfl]
    exact accepted agrees notObjected
  follows := follows
  resumes := resumes
  settles := settles

/-! ## Whole lives -/

/-- The update makes the changes that are left, and what is stored is what is desired. -/
structure Converged (id : String) (desired : PaymentsPool) (pending : List (Change PaymentsPool))
    (memory : σ → Memory) (outcome : Outcome σ (Transition PaymentsPool)) : Prop where
  value : outcome.value = .ok { desired with id := some id }
  requested : requests outcome.log = Change.calls pending
  stored : ∃ pool : Stack.Pool, (memory outcome.world).pools.get? id = some pool ∧
    (∀ account, account ∈ pool.accounts ↔ account ∈ desired.accounts) ∧
    (pool.query.getD (.map [])).semanticallyEqual desired.effectiveQuery = true

theorem converged_of_completes {observed desired : PaymentsPool} {id : String}
    (known : observed.id = some id) {pending : List (Change PaymentsPool)} {memory : σ → Memory}
    {outcome : Outcome σ (Transition PaymentsPool)}
    (completes : convergence.Completes observed desired pending memory outcome) :
    Converged id desired pending memory outcome := by
  have same : (Change.applyAll (plan observed desired) observed).id = some id :=
    (id_applyAll rfl).trans known
  obtain ⟨pool, held, mirrors⟩ := completes.agrees
  have isId : pool.id = id := by
    have stored : (Change.applyAll (plan observed desired) observed).id = some pool.id :=
      mirrors.id
    rw [same] at stored
    exact (Option.some.inj stored).symm
  constructor
  · rw [completes.value, ← same]
    rfl
  · exact completes.requested
  · refine ⟨pool, isId ▸ held, ?_, ?_⟩
    · intro account
      exact (mirrors.accounts account).symm
    · rw [Value.semanticallyEqual_symm]
      exact mirrors.query

/-- **Payments pools converge.** In every life of a pool, against a remote side that keeps a
memory, the state names the accounts that are stored, as a set, and its query says what the
stored one says. An update that nothing speaks against and that reports an error has been
stopped by a failed or interrupted step with some of its changes `made` and the others
`pending`. The same update of the state that it leaves makes exactly the pending changes, in
their order, and what is stored is then what is desired: this is so for every repetition
that reports no error, and a repetition against the memory itself reports none. -/
theorem pool_converges_in_life {remote : Responder σ} {memory : σ → Memory}
    (keeps : remote.Keeps memory) {state : Option PaymentsPool} {world : σ}
    (life : Life resource remote memory state world) :
    ∃ (observed : PaymentsPool) (pool : Stack.Pool),
      state = some observed ∧ (memory world).pools.get? pool.id = some pool ∧
      observed.Mirrors pool ∧
      ∀ (desired : PaymentsPool) (patience : Patience) (context : Context) (now : Nat),
        (objections observed desired).hasError = false →
        let outcome := (update observed desired).run remote patience context world now
        outcome.value.hasError = true →
        ∃ made pending failure next,
          changes pool.id observed desired ++ queryChange pool.id observed desired =
            made ++ pending ∧
          Stops remote ⟨Kind.paymentsPool.module, patience, context, now⟩ world
            (Change.commands made) (Change.commands pending) failure ∧
          (requests outcome.log = Change.calls made ∨
            requests outcome.log = Change.calls (made ++ pending.take 1)) ∧
          memory outcome.world = (memory world).executeAll (Change.commands made) ∧
          outcome.value.state = some next ∧
          (∀ (again : σ) (patience : Patience) (context : Context) (now : Nat),
            memory again = memory outcome.world →
            let rerun := (update next desired).run remote patience context again now
            rerun.value.hasError = false → Converged pool.id desired pending memory rerun) ∧
          ∀ (patience : Patience) (now : Nat), 0 < patience.timeout →
            Converged pool.id desired pending (fun memory => memory)
              ((update next desired).run Memory.remote patience .free (memory outcome.world)
                now) := by
  obtain ⟨observed, isState, agrees⟩ := convergence.agrees_of_life keeps life
  obtain ⟨pool, held, mirrors⟩ := agrees
  refine ⟨observed, pool, isState, held, mirrors, ?_⟩
  intro desired patience context now notObjected outcome reportsError
  have agrees : observed.Agrees (memory world) := ⟨pool, held, mirrors⟩
  obtain ⟨made, pending, failure, breaks⟩ :=
    convergence.breaks_of_error keeps agrees notObjected reportsError
  obtain ⟨resumed, resumedInMemory⟩ := breaks.resumed convergence keeps agrees notObjected
  refine ⟨made, pending, failure, Change.applyAll made observed, ?_, breaks.stops,
    breaks.requested, breaks.kept, ?_, ?_, ?_⟩
  · rw [← plan_eq mirrors.id]
    exact breaks.split
  · exact congrArg Transition.state breaks.value
  · intro again patience context now same rerun noError
    exact converged_of_completes mirrors.id
      (resumed again patience context now same noError)
  · intro patience now patient
    exact converged_of_completes mirrors.id (resumedInMemory patience now patient)

/-- A pool that is created with one account. -/
def savings : PaymentsPool := ⟨none, "savings", ["a"], none⟩

/-- The same pool with two other accounts. -/
def exchanged : PaymentsPool := ⟨none, "savings", ["b", "c"], none⟩

/-- A stack that does not add the account `c` to its first pool. -/
def withoutC : Rehearsal :=
  { Rehearsal.empty with
    failures := .ofList [("add_account_to_pool pool-1 c", Memory.notFound "account")] }

theorem pool_converges_in_life_withoutC :
    let made := (resource.create savings).run Rehearsal.faithful .standard .free withoutC 0
    let stopped := (update { savings with id := some "pool-1" } exchanged).run Rehearsal.faithful
      .standard .free made.world 0
    ∃ pending next, stopped.value.state = some next ∧
      Converged "pool-1" exchanged pending (fun memory => memory)
        ((update next exchanged).run Memory.remote .standard .free stopped.world.memory 0) := by
  dsimp only
  obtain ⟨observed, pool, isState, held, mirrors, resumed⟩ :=
    pool_converges_in_life Rehearsal.faithful_keeps
      (.created savings .standard .free withoutC 0 (by rfl))
  have isSaved : observed = { savings with id := some "pool-1" } := (Option.some.inj isState).symm
  subst isSaved
  have named : pool.id = "pool-1" := (Option.some.inj mirrors.id).symm
  obtain ⟨_, pending, _, next, _, _, _, _, isNext, _, again⟩ :=
    resumed exchanged .standard .free 0 (by rfl) (by rfl)
  rw [named] at again
  exact ⟨pending, next, isNext, again .standard 0 (by decide)⟩

end Converge.Resource.PaymentsPool
