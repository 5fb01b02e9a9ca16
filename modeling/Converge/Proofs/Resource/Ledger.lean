import Converge.Proofs.Dictionary
import Converge.Proofs.Membership
import Converge.Proofs.Resource.Convergence
import Converge.Resource.Ledger

/-!
# Ledgers converge

The plan of a ledger sets the metadata that is new or different, where there is any, and then
deletes the keys that are not desired, one by one. Setting leaves nothing to set and the same
keys to delete, and deleting a key leaves the others: this carries whole lives of a ledger,
however their updates are stopped.
-/

namespace Converge.Resource.Ledger

open Remote

variable {σ : Type} {observed desired : Ledger}

/-- The state tells the metadata of the stored ledger with its name. -/
def Agrees (state : Ledger) (memory : Memory) : Prop :=
  ∃ ledger : Stack.Ledger, memory.ledgers.get? state.name = some ledger ∧
    ledger.name = state.name ∧ ledger.metadata = state.metadata

/-! ## What is set and what is deleted -/

theorem get?_upserts (observed desired : Ledger) (key : String) :
    (upserts observed desired).get? key =
      (desired.metadata.get? key).filter fun value =>
        observed.metadata.get? key != some value :=
  Dictionary.get?_filter _ _ _

theorem get?_upserts_eq_some_iff {key value : String} :
    (upserts observed desired).get? key = some value ↔
      desired.metadata.get? key = some value ∧ observed.metadata.get? key ≠ some value := by
  rw [get?_upserts, Option.filter_eq_some_iff, bne_iff_ne]

/-- Nothing is set where all that is desired is there. -/
theorem isEmpty_upserts_iff :
    (upserts observed desired).isEmpty = true ↔
      ∀ key value, desired.metadata.get? key = some value →
        observed.metadata.get? key = some value := by
  rw [Dictionary.isEmpty_iff]
  constructor
  · intro nothing key value wanted
    have absent := nothing key
    rw [get?_upserts, Option.filter_eq_none_iff] at absent
    simpa using absent value wanted
  · intro present key
    rw [get?_upserts, Option.filter_eq_none_iff]
    intro value wanted
    simp [present key value wanted]

theorem removals_eq (observed desired : Ledger) :
    removals observed desired = Delta.missing observed.metadata.keys desired.metadata.keys := by
  rw [removals, Delta.between_eq]

theorem mem_removals_iff {key : String} :
    key ∈ removals observed desired ↔
      (observed.metadata.get? key).isSome = true ∧ desired.metadata.get? key = none := by
  rw [removals_eq, Delta.mem_missing_iff, Dictionary.mem_keys_iff,
    Dictionary.mem_keys_iff, Option.not_isSome_iff_eq_none]

theorem nodup_removals (observed desired : Ledger) : (removals observed desired).Nodup := by
  rw [removals_eq]
  exact Delta.nodup_missing _ _

/-! ## The first change of a plan -/

def setting (name : String) (metadata : Dictionary String) : Change Ledger :=
  ⟨"set metadata " ++ ", ".intercalate metadata.keys, .setLedgerMetadata name metadata,
    fun state => { state with metadata := state.metadata.extend metadata }⟩

def deletion (name key : String) : Change Ledger :=
  ⟨"delete metadata '" ++ key ++ "'", .deleteLedgerMetadata name key,
    fun state => { state with metadata := state.metadata.erase key }⟩

theorem changes_eq (observed desired : Ledger) :
    changes observed desired =
      (if (upserts observed desired).isEmpty then []
        else [setting observed.name (upserts observed desired)]) ++
      (removals observed desired).map (deletion observed.name) := rfl

theorem changes_of_isEmpty (nothing : (upserts observed desired).isEmpty = true) :
    changes observed desired = (removals observed desired).map (deletion observed.name) := by
  rw [changes_eq, if_pos nothing, List.nil_append]

/-- Nothing is planned where the metadata is what is desired. -/
theorem changes_eq_nil_iff :
    changes observed desired = [] ↔ observed.metadata = desired.metadata := by
  rw [changes_eq, List.append_eq_nil_iff, List.map_eq_nil_iff]
  constructor
  · intro ⟨nothingSet, nothingDeleted⟩
    have nothing : (upserts observed desired).isEmpty = true := by
      split at nothingSet
      · assumption
      · cases nothingSet
    apply Dictionary.ext_get?
    intro key
    cases wanted : desired.metadata.get? key with
    | some value => exact isEmpty_upserts_iff.mp nothing key value wanted
    | none =>
        have kept : key ∉ removals observed desired := by simp [nothingDeleted]
        rw [mem_removals_iff] at kept
        cases held : observed.metadata.get? key with
        | none => rfl
        | some value => exact (kept ⟨by rw [held]; rfl, wanted⟩).elim
  · intro same
    have nothing : (upserts observed desired).isEmpty = true := by
      rw [isEmpty_upserts_iff, same]
      exact fun _ _ wanted => wanted
    refine ⟨if_pos nothing, ?_⟩
    rw [removals_eq, Delta.missing_eq_nil_iff, same]
    exact fun _ member => member

/-- Once the new and different metadata is set, the deletions are left. -/
theorem changes_of_setting (something : (upserts observed desired).isEmpty = false) :
    ∃ rest, changes observed desired =
        setting observed.name (upserts observed desired) :: rest ∧
      changes ((setting observed.name (upserts observed desired)).apply observed) desired =
        rest := by
  let next := (setting observed.name (upserts observed desired)).apply observed
  have nothingLeft : (upserts next desired).isEmpty = true := by
    rw [isEmpty_upserts_iff]
    intro key value wanted
    change (observed.metadata.extend (upserts observed desired)).get? key = some value
    rw [Dictionary.get?_extend, get?_upserts, wanted]
    by_cases held : observed.metadata.get? key = some value
    · simp [held, Option.filter]
    · simp [held, Option.filter]
  have sameRemovals : removals next desired = removals observed desired := by
    rw [removals_eq, removals_eq]
    change Delta.missing (observed.metadata.extend (upserts observed desired)).keys
      desired.metadata.keys = Delta.missing observed.metadata.keys desired.metadata.keys
    rw [Delta.missing, Delta.missing, Dictionary.filter_keys_extend]
    intro key added
    rw [Dictionary.mem_keys_iff, Option.isSome_iff_exists] at added
    obtain ⟨value, isAdded⟩ := added
    have wanted : key ∈ desired.metadata.keys := by
      rw [Dictionary.mem_keys_iff, (get?_upserts_eq_some_iff.mp isAdded).1]
      rfl
    simp [wanted]
  refine ⟨(removals observed desired).map (deletion observed.name), ?_, ?_⟩
  · rw [changes_eq, something]
    rfl
  · rw [changes_of_isEmpty nothingLeft, sameRemovals]
    rfl

/-- Once a key is deleted, the deletions of the others are left. -/
theorem changes_of_deletion {key : String} {others : List String}
    (nothing : (upserts observed desired).isEmpty = true)
    (toRemove : removals observed desired = key :: others) :
    ∃ rest, changes observed desired = deletion observed.name key :: rest ∧
      changes ((deletion observed.name key).apply observed) desired = rest := by
  let next := (deletion observed.name key).apply observed
  have unwanted : desired.metadata.get? key = none := by
    have member : key ∈ removals observed desired := by simp [toRemove]
    exact (mem_removals_iff.mp member).2
  have nothingLeft : (upserts next desired).isEmpty = true := by
    rw [isEmpty_upserts_iff] at nothing ⊢
    intro other value wanted
    have different : other ≠ key := by
      intro same
      rw [same, unwanted] at wanted
      cases wanted
    change (observed.metadata.erase key).get? other = some value
    rw [Dictionary.get?_erase, if_neg different]
    exact nothing other value wanted
  have othersLeft : removals next desired = others := by
    rw [removals_eq] at toRemove ⊢
    change Delta.missing (observed.metadata.erase key).keys desired.metadata.keys = others
    rw [Dictionary.keys_erase]
    exact Delta.missing_filter_of_eq_cons toRemove
  refine ⟨others.map (deletion observed.name), ?_, ?_⟩
  · rw [changes_of_isEmpty nothing, toRemove]
    rfl
  · rw [changes_of_isEmpty nothingLeft, othersLeft]
    rfl

/-- What the first change of a plan can be. -/
inductive First (name : String) : Change Ledger → Prop where
  | setting (metadata : Dictionary String) : First name (setting name metadata)
  | deletion (key : String) : First name (deletion name key)

/-- Setting comes first, then the deletions, and behind each of them the state plans the
changes that are left. -/
theorem changes_cases {change : Change Ledger} {rest : List (Change Ledger)}
    (planned : changes observed desired = change :: rest) :
    First observed.name change ∧ changes (change.apply observed) desired = rest := by
  cases nothing : (upserts observed desired).isEmpty with
  | false =>
      obtain ⟨rest, equal, remaining⟩ := changes_of_setting nothing
      rw [equal] at planned
      cases planned
      exact ⟨.setting _, remaining⟩
  | true =>
      cases toRemove : removals observed desired with
      | nil =>
          rw [changes_of_isEmpty nothing, toRemove] at planned
          cases planned
      | cons key others =>
          obtain ⟨rest, equal, remaining⟩ := changes_of_deletion nothing toRemove
          rw [equal] at planned
          cases planned
          exact ⟨.deletion key, remaining⟩

/-! ## Transitions -/

/-- A change of the stored metadata succeeds, and the state that makes it too agrees. -/
theorem agrees_modify {memory : Memory} (agrees : observed.Agrees memory)
    (change : Dictionary String → Dictionary String) :
    let effect := memory.modify "ledger" (memory.ledgers.get? observed.name) fun ledger =>
      let ledger := { ledger with metadata := change ledger.metadata }
      { memory with ledgers := memory.ledgers.insert observed.name ledger }
    effect.1 = .ok () ∧
      Agrees { observed with metadata := change observed.metadata } effect.2 := by
  obtain ⟨ledger, held, isNamed, same⟩ := agrees
  rw [held]
  exact ⟨rfl, { ledger with metadata := change ledger.metadata },
    Dictionary.get?_insert_self _ _ _, isNamed, congrArg change same⟩

/-- The memory follows the first change of a plan. -/
theorem follows {memory : Memory} {change : Change Ledger} {rest : List (Change Ledger)}
    (agrees : observed.Agrees memory) (planned : changes observed desired = change :: rest) :
    (memory.execute change.command).1 = .ok () ∧
      (change.apply observed).Agrees (memory.execute change.command).2 := by
  obtain ⟨first, _⟩ := changes_cases planned
  cases first with
  | setting metadata => exact agrees_modify agrees fun held => held.extend metadata
  | deletion key => exact agrees_modify agrees fun held => held.erase key

/-- Metadata can be updated in place, so only the other fields are objected to. -/
theorem filter_changedFields (observed desired : Ledger) :
    (changedFields observed desired).filter replaceFields.contains =
      (if observed.name = desired.name then [] else ["name"]) ++
      (if desired.bucket.isNone ∨ observed.bucket = desired.bucket then [] else ["bucket"]) ++
      (if observed.features = desired.features then [] else ["features"]) := by
  simp [changedFields, filter_unless, replaceFields]

theorem objections_setMetadata (observed desired : Ledger) (metadata : Dictionary String) :
    objections { observed with metadata := metadata } desired = objections observed desired := by
  rw [objections, objections, filter_changedFields, filter_changedFields]

theorem resumes {change : Change Ledger} {rest : List (Change Ledger)}
    (planned : changes observed desired = change :: rest) :
    changes (change.apply observed) desired = rest ∧
      objections (change.apply observed) desired = objections observed desired := by
  obtain ⟨first, remaining⟩ := changes_cases planned
  refine ⟨remaining, ?_⟩
  cases first with
  | setting metadata => exact objections_setMetadata observed desired _
  | deletion key => exact objections_setMetadata observed desired _

theorem accepted (notObjected : (objections observed desired).hasError = false) :
    ∃ body, update observed desired = whenReady .ledger (some observed) body ∧
      Change.Makes (fun _ pending => Change.labels pending)
        (Change.applyAll (changes observed desired) observed) [] observed
        (changes observed desired) body := by
  have equal : update observed desired = whenReady .ledger (some observed)
      (Change.runAll (fun state => .done (.ok state)) [] observed (changes observed desired)) := by
    rw [update, if_neg (by simp [notObjected])]
  refine ⟨_, equal, ?_⟩
  exact Change.runAll_makes_all (fun _ _ _ _ => rfl) rfl

/-- An update is refused, or it makes its changes in turn. -/
theorem update_cases (observed desired : Ledger) :
    (∃ diagnostics : Diagnostics, diagnostics.hasError = true ∧
      update observed desired = .done (.keeping observed diagnostics)) ∨
    ∃ body, update observed desired = whenReady .ledger (some observed) body ∧
      Change.Makes (fun _ pending => Change.labels pending)
        (Change.applyAll (changes observed desired) observed) [] observed
        (changes observed desired) body := by
  cases objected : (objections observed desired).hasError with
  | true => exact .inl ⟨_, objected, if_pos objected⟩
  | false => exact .inr (accepted objected)

theorem name_applyRemote {state : Ledger} {ledger : Stack.Ledger}
    (isNamed : ledger.name = state.name) : (state.applyRemote ledger).name = state.name := by
  rw [applyRemote]
  dsimp only
  split
  · rfl
  · exact isNamed

/-- The stored ledger is taken over with its name and its metadata. -/
theorem agrees_applyRemote {state : Ledger} {memory : Memory} {ledger : Stack.Ledger}
    (held : memory.ledgers.get? state.name = some ledger) (isNamed : ledger.name = state.name) :
    (state.applyRemote ledger).Agrees memory := by
  have sameName := name_applyRemote isNamed
  refine ⟨ledger, ?_, ?_, rfl⟩
  · rw [sameName]
    exact held
  · rw [sameName]
    exact isNamed

theorem answer_getLedger {memory : Memory} {name : String} {ledger : Stack.Ledger}
    (held : memory.ledgers.get? name = some ledger) :
    memory.answer (.getLedger name) = (.ok ledger, memory) := by
  change Memory.fetch _ _ _ = _
  rw [held]
  rfl

/-- The second half of a creation. -/
def readBack (desired : Ledger) : Program (Transition Ledger) :=
  .call (.getLedger desired.name) fun
  | .error failure => .done (.keeping desired [notReadBack failure])
  | .ok info => .done (.ok (desired.applyRemote info))

/-- A new ledger is in the state whether or not it can be read back. -/
theorem readBack_keeps {remote : Responder σ} {memory : σ → Memory} (keeps : remote.Keeps memory)
    {desired : Ledger} {world : σ} {ledger : Stack.Ledger}
    (held : (memory world).ledgers.get? desired.name = some ledger) (patience : Patience)
    (context : Context) (now : Nat) :
    let outcome := (readBack desired).run remote patience context world now
    (∃ state, outcome.value.state = some state ∧
      (state = desired ∨ state = desired.applyRemote ledger)) ∧
      memory outcome.world = memory world := by
  intro outcome
  rcases call_keeps keeps (.getLedger desired.name) (by simp) _ patience context world now with
    ⟨failure, reached, instant, _, kept, ended, there⟩ |
    ⟨info, reached, instant, found, ended, there⟩
  · exact ⟨⟨desired, congrArg Transition.state ended, .inl rfl⟩, (congrArg memory there).trans kept⟩
  · rw [answer_getLedger held] at found
    obtain ⟨isLedger, kept⟩ := Prod.mk.inj found
    cases isLedger
    exact ⟨⟨_, congrArg Transition.state ended, .inr rfl⟩,
      (congrArg memory there).trans kept.symm⟩

/-- What a ledger is stored as when it is created. -/
def stored (desired : Ledger) : Stack.Ledger :=
  ⟨desired.name, desired.bucket.getD Memory.standardBucket, desired.metadata, desired.features,
    none⟩

theorem created_stored {remote : Responder σ} {memory : σ → Memory} (keeps : remote.Keeps memory)
    (desired : Ledger) (patience : Patience) (context : Context) (world : σ) (now : Nat) :
    let outcome := (create desired).run remote patience context world now
    outcome.value.hasError = false →
      (validate desired).hasError = false ∧
      (∃ state, outcome.value.state = some state ∧
        (state = desired ∨ state = desired.applyRemote (stored desired))) ∧
      (memory outcome.world).ledgers.get? desired.name = some (stored desired) := by
  intro outcome succeeded
  obtain ⟨next, asks, stops, goesOn⟩ : ∃ next,
      create desired = (if (validate desired).hasError then .done (.failed (validate desired))
        else whenReady .ledger none
          (.call (.command (.createLedger desired.name desired.request)) next)) ∧
      (∀ failure, next (.error failure) = .done (.failed [failure])) ∧
      next (.ok ()) = readBack desired :=
    ⟨_, rfl, fun _ => rfl, rfl⟩
  obtain ⟨valid, _, reached, instant, answered, ended, there⟩ :=
    create_keeps keeps asks (by simp) stops succeeded
  rw [goesOn] at ended there
  have held : (memory reached).ledgers.get? desired.name = some (stored desired) := by
    have after := congrArg Prod.snd answered
    change _ = memory reached at after
    rw [← after]
    exact Dictionary.get?_insert_self _ _ _
  obtain ⟨⟨state, isState, isLedger⟩, kept⟩ := readBack_keeps keeps held patience context instant
  refine ⟨valid, ⟨state, (congrArg Transition.state ended).trans isState, isLedger⟩, ?_⟩
  have sameMemory : memory outcome.world = memory reached := (congrArg memory there).trans kept
  rw [sameMemory]
  exact held

theorem created {remote : Responder σ} {memory : σ → Memory} (keeps : remote.Keeps memory)
    (desired : Ledger) (patience : Patience) (context : Context) (world : σ) (now : Nat) :
    let outcome := (create desired).run remote patience context world now
    outcome.value.hasError = false →
      ∃ state, outcome.value.state = some state ∧ state.Agrees (memory outcome.world) := by
  intro outcome succeeded
  obtain ⟨_, ⟨state, isState, isLedger⟩, held⟩ :=
    created_stored keeps desired patience context world now succeeded
  refine ⟨state, isState, ?_⟩
  rcases isLedger with rfl | rfl
  · exact ⟨stored state, held, rfl, rfl⟩
  · exact agrees_applyRemote held rfl

/-- What a read asks, and what it makes of the answer. -/
theorem read_asks (state : Ledger) :
    ∃ next, read state = whenReady .ledger (some state) (.call (.getLedger state.name) next) ∧
      (∀ failure, next (.error failure) = .done (.keeping state [failure])) ∧
      ∀ info, next (.ok info) = .done (.ok (state.applyRemote info)) :=
  ⟨_, rfl, fun _ => rfl, fun _ => rfl⟩

theorem read_agrees {remote : Responder σ} {memory : σ → Memory} (keeps : remote.Keeps memory)
    {state : Ledger} {world : σ} (agrees : state.Agrees (memory world)) (patience : Patience)
    (context : Context) (now : Nat) :
    let outcome := (read state).run remote patience context world now
    ∃ next, outcome.value.state = some next ∧ next.Agrees (memory outcome.world) := by
  intro outcome
  obtain ⟨ledger, held, isNamed, same⟩ := agrees
  obtain ⟨next, asks, stops, goesOn⟩ := read_asks state
  obtain ⟨ended, sameMemory⟩ := read_keeps keeps asks (by simp) stops goesOn
    (answer_getLedger held) patience context now
  rw [sameMemory]
  rcases ended with kept | taken
  · exact ⟨state, kept, ledger, held, isNamed, same⟩
  · exact ⟨state.applyRemote ledger, taken, agrees_applyRemote held isNamed⟩

/-- How ledgers converge. -/
def convergence : Convergence resource where
  Agrees := Agrees
  plan := changes
  final observed _ := observed
  objections := objections
  named _ _ _ pending := Change.labels pending
  created := created
  read keeps _ _ agrees := read_agrees keeps agrees
  refused _ objected := by
    change update _ _ = _
    rw [update, if_pos objected]
  accepted _ notObjected := accepted notObjected
  follows := follows
  resumes := resumes
  settles agrees _ := agrees

/-! ## Whole lives -/

/-- The calls set at most once what is new or different, and then delete, one by one, the
keys that are not desired. -/
def Itemized (observed desired : Ledger) (calls : List Call) : Prop :=
  ∃ (added : Dictionary String) (dropped : List String),
    calls = (if added.isEmpty then []
        else [.command (.setLedgerMetadata observed.name added)]) ++
      dropped.map (fun key => .command (.deleteLedgerMetadata observed.name key)) ∧
    (∀ key value, added.get? key = some value ↔
      desired.metadata.get? key = some value ∧ observed.metadata.get? key ≠ some value) ∧
    dropped.Nodup ∧
    ∀ key, key ∈ dropped ↔
      (observed.metadata.get? key).isSome = true ∧ desired.metadata.get? key = none

theorem itemized_changes (observed desired : Ledger) :
    Itemized observed desired (Change.calls (changes observed desired)) := by
  refine ⟨upserts observed desired, removals observed desired, ?_,
    fun _ _ => get?_upserts_eq_some_iff, nodup_removals _ _, fun _ => mem_removals_iff⟩
  rw [changes_eq, Change.calls, List.map_append, List.map_map]
  congr 1
  split <;> rfl

/-- The update makes the changes that are left, and the metadata is then what is desired, in
the state as in what is stored. -/
structure Converged (name : String) (desired : Ledger) (pending : List (Change Ledger))
    (memory : σ → Memory) (outcome : Outcome σ (Transition Ledger)) : Prop where
  value : ∃ settled, outcome.value = .ok settled ∧ settled.metadata = desired.metadata
  requested : requests outcome.log = Change.calls pending
  stored : ∃ ledger : Stack.Ledger, (memory outcome.world).ledgers.get? name = some ledger ∧
    ledger.metadata = desired.metadata

/-- The changes of a plan leave the name. -/
theorem name_applyAll {planned : List (Change Ledger)}
    (isPlan : changes observed desired = planned) :
    (Change.applyAll planned observed).name = observed.name := by
  induction planned generalizing observed with
  | nil => rfl
  | cons change rest ih =>
      obtain ⟨first, remaining⟩ := changes_cases isPlan
      rw [Change.applyAll_cons, ih remaining]
      cases first <;> rfl

/-- Behind all changes of a plan the metadata is what is desired. -/
theorem metadata_applyAll {planned : List (Change Ledger)}
    (isPlan : changes observed desired = planned) :
    (Change.applyAll planned observed).metadata = desired.metadata := by
  induction planned generalizing observed with
  | nil => exact changes_eq_nil_iff.mp isPlan
  | cons change rest ih => exact ih (changes_cases isPlan).2

theorem converged_of_completes {pending : List (Change Ledger)} {memory : σ → Memory}
    {outcome : Outcome σ (Transition Ledger)}
    (completes : convergence.Completes observed desired pending memory outcome) :
    Converged observed.name desired pending memory outcome := by
  have settled : (Change.applyAll (changes observed desired) observed).metadata =
      desired.metadata := metadata_applyAll rfl
  obtain ⟨ledger, held, _, same⟩ := completes.agrees
  change (memory outcome.world).ledgers.get?
    (Change.applyAll (changes observed desired) observed).name = some ledger at held
  rw [name_applyAll rfl] at held
  exact ⟨⟨_, completes.value, settled⟩, completes.requested, ledger, held, same.trans settled⟩

/-- **Ledgers converge.** In every life of a ledger, against a remote side that keeps a
memory, the state has the metadata that is stored. An update sets at most once what is new or
different and then deletes each key that is not desired; whatever becomes of it, its requests
are the first of these, and all of them if it reports no error. An update that nothing speaks
against and that reports an error has been stopped by a failed or interrupted step with some
of its changes `made` and the others `pending`. It reports that failure and, behind a change
that was made, which changes were made and which were not. The same update of the state that
it leaves makes exactly the pending changes, and the metadata is then what is desired: this is
so for every repetition that reports no error, and a repetition against the memory itself
reports none. -/
theorem metadata_converges_in_life {remote : Responder σ} {memory : σ → Memory}
    (keeps : remote.Keeps memory) {state : Option Ledger} {world : σ}
    (life : Life resource remote memory state world) :
    ∃ (observed : Ledger) (ledger : Stack.Ledger),
      state = some observed ∧ (memory world).ledgers.get? observed.name = some ledger ∧
      observed.metadata = ledger.metadata ∧
      ∀ (desired : Ledger) (patience : Patience) (context : Context) (now : Nat),
        let outcome := (update observed desired).run remote patience context world now
        let planned := changes observed desired
        Itemized observed desired (Change.calls planned) ∧
        requests outcome.log <+: Change.calls planned ∧
        ((objections observed desired).hasError = false → outcome.value.hasError = false →
          requests outcome.log = Change.calls planned) ∧
        ((objections observed desired).hasError = false → outcome.value.hasError = true →
          ∃ made pending failure next,
            planned = made ++ pending ∧
            Stops remote ⟨Kind.ledger.module, patience, context, now⟩ world
              (Change.commands made) (Change.commands pending) failure ∧
            (requests outcome.log = Change.calls made ∨
              requests outcome.log = Change.calls (made ++ pending.take 1)) ∧
            memory outcome.world = (memory world).executeAll (Change.commands made) ∧
            outcome.value.state = some next ∧
            (made = [] → outcome.value.diagnostics = [failure]) ∧
            (made ≠ [] → outcome.value.diagnostics =
              [failure, partialUpdate (Change.labels made) (Change.labels pending)]) ∧
            (∀ (again : σ) (patience : Patience) (context : Context) (now : Nat),
              memory again = memory outcome.world →
              let rerun := (update next desired).run remote patience context again now
              rerun.value.hasError = false →
                Converged observed.name desired pending memory rerun) ∧
            ∀ (patience : Patience) (now : Nat), 0 < patience.timeout →
              Converged observed.name desired pending (fun memory => memory)
                ((update next desired).run Memory.remote patience .free (memory outcome.world)
                  now)) := by
  obtain ⟨observed, isState, agrees⟩ := convergence.agrees_of_life keeps life
  obtain ⟨ledger, held, _, same⟩ := id agrees
  refine ⟨observed, ledger, isState, held, same.symm, ?_⟩
  intro desired patience context now outcome planned
  refine ⟨itemized_changes observed desired,
    convergence.requests_of_update keeps agrees desired patience context now, ?_, ?_⟩
  · intro notObjected noError
    exact (convergence.completes_of_no_error keeps agrees notObjected noError).requested
  · intro notObjected reportsError
    obtain ⟨made, pending, failure, breaks⟩ :=
      convergence.breaks_of_error keeps agrees notObjected reportsError
    obtain ⟨resumed, resumedInMemory⟩ := breaks.resumed convergence keeps agrees notObjected
    have reported : outcome.value.diagnostics =
        stopped failure (Change.labels made) (Change.labels pending) :=
      congrArg Transition.diagnostics breaks.value
    refine ⟨made, pending, failure, Change.applyAll made observed, breaks.split, breaks.stops,
      breaks.requested, breaks.kept, congrArg Transition.state breaks.value, ?_, ?_, ?_, ?_⟩
    · intro noneMade
      rw [reported, noneMade]
      rfl
    · intro someMade
      have labelled : (Change.labels made).isEmpty = false := by
        cases made with
        | nil => exact (someMade rfl).elim
        | cons change made => rfl
      rw [reported, stopped, labelled]
      rfl
    · intro again patience context now same rerun noError
      exact converged_of_completes (resumed again patience context now same noError)
    · intro patience now patient
      exact converged_of_completes (resumedInMemory patience now patient)

/-- A ledger that is created with three keys. -/
def books : Ledger := ⟨"main", none, ∅, .ofList [("a", "1"), ("b", "2"), ("c", "3")]⟩

/-- The same ledger with another value and without two of the keys. -/
def trimmed : Ledger := ⟨"main", none, ∅, .ofList [("a", "9")]⟩

/-- A stack that does not delete the key `c`. -/
def withC : Rehearsal :=
  { Rehearsal.empty with
    failures := .ofList [("delete_ledger_metadata main c", Memory.notFound "key")] }

theorem metadata_converges_in_life_withC :
    let made := (resource.create books).run Rehearsal.faithful .standard .free withC 0
    let stopped := (update { books with bucket := some "_default" } trimmed).run
      Rehearsal.faithful .standard .free made.world 0
    ∃ pending next, stopped.value.state = some next ∧
      Converged "main" trimmed pending (fun memory => memory)
        ((update next trimmed).run Memory.remote .standard .free stopped.world.memory 0) := by
  dsimp only
  obtain ⟨observed, ledger, isState, _, _, updates⟩ :=
    metadata_converges_in_life Rehearsal.faithful_keeps
      (.created books .standard .free withC 0 (by rfl))
  have isBooks : observed = { books with bucket := some "_default" } :=
    (Option.some.inj isState).symm
  subst isBooks
  obtain ⟨_, _, _, stopped⟩ := updates trimmed .standard .free 0
  obtain ⟨_, pending, _, next, _, _, _, _, isNext, _, _, _, again⟩ := stopped (by rfl) (by rfl)
  exact ⟨pending, next, isNext, again .standard 0 (by decide)⟩

end Converge.Resource.Ledger
