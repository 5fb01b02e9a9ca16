import Converge.Proofs.Dictionary
import Converge.Proofs.Remote.Course
import Converge.Proofs.Resource.Convergence
import Converge.Resource.Webhook

/-!
# Webhooks tell what is stored

An update of a webhook tells the stack the whole webhook again. What is desired may leave out the
secret, and then the secret that is known is repeated; it may leave out the name as well, but the
name is not repeated. The state keeps both. So over whole lives the state tells what is stored,
save for a name that an update has left out: that one is erased in the stack, and the state goes
on reporting it.
-/

namespace Converge.Resource.Webhook

open Remote

variable {σ : Type}

/-! ## What the stack was told -/

/-- The call has told the stack of an update. -/
def Updates (exchanges : List Exchange) : Prop :=
  ∃ id request, ⟨.command (.updateWebhook id request), some (.ok ())⟩ ∈ exchanges

/-- Lives as `Life` has them, with what was desired when the stack was last told: by the creation
or by an update that was answered well. -/
inductive Told (remote : Responder σ) (memory : σ → Memory) :
    (told : Webhook) → Option Webhook → σ → Prop where
  | created (desired : Webhook) (patience : Patience) (context : Context) (world : σ) (now : Nat)
      (succeeded :
        ((create desired).run remote patience context world now).value.hasError = false) :
      Told remote memory desired
        ((create desired).run remote patience context world now).value.state
        ((create desired).run remote patience context world now).world
  | read {told state : Webhook} {world : σ} (before : Told remote memory told (some state) world)
      (patience : Patience) (context : Context) (now : Nat) :
      Told remote memory told
        ((read state).run remote patience context world now).value.state
        ((read state).run remote patience context world now).world
  | updated {told observed : Webhook} {world : σ}
      (before : Told remote memory told (some observed) world) (desired : Webhook)
      (patience : Patience) (context : Context) (now : Nat)
      (answered : Updates ((update observed desired).exchanges remote patience context world now)) :
      Told remote memory desired
        ((update observed desired).run remote patience context world now).value.state
        ((update observed desired).run remote patience context world now).world
  | kept {told observed : Webhook} {world : σ}
      (before : Told remote memory told (some observed) world) (desired : Webhook)
      (patience : Patience) (context : Context) (now : Nat)
      (unanswered :
        ¬ Updates ((update observed desired).exchanges remote patience context world now)) :
      Told remote memory told
        ((update observed desired).run remote patience context world now).value.state
        ((update observed desired).run remote patience context world now).world
  | rearranged {told : Webhook} {state : Option Webhook} {world other : σ}
      (before : Told remote memory told state world) (same : memory other = memory world) :
      Told remote memory told state other

/-- In every life the stack was last told of something. -/
theorem told_of_life {remote : Responder σ} {memory : σ → Memory} {state : Option Webhook}
    {world : σ} (life : Life resource remote memory state world) :
    ∃ told, Told remote memory told state world := by
  induction life with
  | created desired patience context world now succeeded =>
      exact ⟨desired, .created desired patience context world now succeeded⟩
  | read before patience context now ih =>
      obtain ⟨told, before⟩ := ih
      exact ⟨told, before.read patience context now⟩
  | @updated observed world before desired patience context now ih =>
      obtain ⟨told, before⟩ := ih
      by_cases answered :
          Updates ((update observed desired).exchanges remote patience context world now)
      · exact ⟨desired, before.updated desired patience context now answered⟩
      · exact ⟨told, before.kept desired patience context now answered⟩
  | rearranged before same ih =>
      obtain ⟨told, before⟩ := ih
      exact ⟨told, before.rearranged same⟩

/-! ## States that tell what is stored -/

/-- The state tells of a stored webhook what it is, absent texts counting as empty ones. The
stored name is the one that the stack was told, and the state has it too if one was declared. -/
structure Mirrors (told state : Webhook) (stored : Stack.Webhook) : Prop where
  id : state.id = some stored.id
  endpoint : state.endpoint = stored.endpoint
  eventTypes : state.eventTypes = stored.eventTypes
  secret : given state.secret = given stored.secret
  toldName : given stored.name = given told.name
  sameName : told.name ≠ none → given state.name = given stored.name

def Agrees (told state : Webhook) (memory : Memory) : Prop :=
  ∃ stored : Stack.Webhook, memory.webhooks.get? stored.id = some stored ∧
    Mirrors told state stored

@[simp] theorem given_given (text : Option String) : given (given text) = given text := by
  simp [given]

/-- Of two texts the first that says something counts. -/
@[simp] theorem given_or_given (first second : Option String) :
    given ((given first).or second) = (given first).or (given second) := by
  cases said : given first with
  | none => simp
  | some text =>
      have same := given_given first
      rw [said] at same
      simp [same]

/-- A text that another one replaces where it says nothing. -/
theorem given_getD_or (text : Option String) (other : String) :
    (given (some ((given text).getD other))).or (given text) =
      given (some ((given text).getD other)) := by
  cases said : given text with
  | none => exact Option.or_none
  | some own =>
      have same : given (some own) = some own := by rw [← said, given_given]
      rw [Option.getD_some, same]
      rfl

/-- What a webhook is stored as when it is created. -/
def stored (id : String) (desired : Webhook) : Stack.Webhook :=
  ⟨id, desired.endpoint, desired.eventTypes, given desired.name,
    some ((given desired.secret).getD Memory.generatedSecret), true, none⟩

theorem mirrors_stored (id : String) (desired : Webhook) :
    Mirrors desired (desired.applyRemote (stored id desired)) (stored id desired) where
  id := rfl
  endpoint := rfl
  eventTypes := rfl
  secret := (given_or_given _ _).trans (given_getD_or _ _)
  toldName := given_given _
  sameName _ := by
    rw [applyRemote, given_or_given, stored, given_given, Option.or_self]

/-- A webhook that is created without error is stored, and the state takes over what is stored:
the secret is the one that the stack has, be it declared or generated. -/
theorem created_stored {remote : Responder σ} {memory : σ → Memory} (keeps : remote.Keeps memory)
    (desired : Webhook) (patience : Patience) (context : Context) (world : σ) (now : Nat) :
    let outcome := (create desired).run remote patience context world now
    outcome.value.hasError = false →
      ∃ id, outcome.value.state = some (desired.applyRemote (stored id desired)) ∧
        (memory outcome.world).webhooks.get? id = some (stored id desired) := by
  intro outcome succeeded
  obtain ⟨next, asks, stops, goesOn⟩ : ∃ next,
      create desired = (if (validate desired).hasError then .done (.failed (validate desired))
        else whenReady .webhooks none (.call (.createWebhook desired.request) next)) ∧
      (∀ failure, next (.error failure) = .done (.failed [failure])) ∧
      ∀ info, next (.ok info) = .done (.ok (desired.applyRemote info)) :=
    ⟨_, rfl, fun _ => rfl, fun _ => rfl⟩
  obtain ⟨_, info, reached, instant, answered, ended, there⟩ :=
    create_keeps keeps asks (by simp) stops succeeded
  rw [goesOn] at ended there
  obtain ⟨isInfo, after⟩ := Prod.mk.inj answered
  have isStored : stored ((memory world).issue "wh").1 desired = info := Except.ok.inj isInfo
  refine ⟨((memory world).issue "wh").1, ?_, ?_⟩
  · rw [isStored]
    exact congrArg Transition.state ended
  · rw [there, Program.run, ← after]
    exact Dictionary.get?_insert_self _ _ _

theorem created_agrees {remote : Responder σ} {memory : σ → Memory} (keeps : remote.Keeps memory)
    (desired : Webhook) (patience : Patience) (context : Context) (world : σ) (now : Nat) :
    let outcome := (create desired).run remote patience context world now
    outcome.value.hasError = false →
      ∃ state, outcome.value.state = some state ∧ Agrees desired state (memory outcome.world) := by
  intro outcome succeeded
  obtain ⟨id, isState, held⟩ :=
    created_stored keeps desired patience context world now succeeded
  exact ⟨_, isState, stored id desired, held, mirrors_stored id desired⟩

theorem Mirrors.applyRemote {told state : Webhook} {stored : Stack.Webhook}
    (mirrors : Mirrors told state stored) : Mirrors told (state.applyRemote stored) stored where
  id := rfl
  endpoint := rfl
  eventTypes := rfl
  secret := by
    rw [Webhook.applyRemote, given_or_given, mirrors.secret, Option.or_self]
  toldName := mirrors.toldName
  sameName declared := by
    rw [Webhook.applyRemote, given_or_given, mirrors.sameName declared, Option.or_self]

/-- A read looks for the webhook in the listing that it asks for. -/
theorem read_listing {state : Webhook} {id : String} (known : state.id = some id) :
    ∃ next, read state = whenReady .webhooks (some state) (.call (.getWebhooks id) next) ∧
      (∀ failure, next (.error failure) = .done (.keeping state [failure])) ∧
      ∀ listed, next (.ok listed) = .done (match listed.find? (·.id == id) with
        | some info => .ok (state.applyRemote info)
        | none => .keeping state [notFound id]) := by
  rw [read, known]
  refine ⟨_, rfl, fun _ => rfl, fun listed => ?_⟩
  dsimp only
  cases listed.find? (·.id == id) <;> rfl

/-- A read takes over a webhook that is listed alone. -/
theorem read_asks {state : Webhook} {stored : Stack.Webhook} (known : state.id = some stored.id) :
    ∃ next,
      read state = whenReady .webhooks (some state) (.call (.getWebhooks stored.id) next) ∧
      (∀ failure, next (.error failure) = .done (.keeping state [failure])) ∧
      next (.ok [stored]) = .done (.ok (state.applyRemote stored)) := by
  obtain ⟨next, asks, stops, goesOn⟩ := read_listing known
  refine ⟨next, asks, stops, (goesOn [stored]).trans ?_⟩
  simp only [List.find?_cons_of_pos, beq_self_eq_true]

/-- A read ends with the state, or with what the stored webhook makes of it. -/
theorem read_agrees {remote : Responder σ} {memory : σ → Memory} (keeps : remote.Keeps memory)
    {told state : Webhook} {world : σ} (agrees : Agrees told state (memory world))
    (patience : Patience) (context : Context) (now : Nat) :
    let outcome := (read state).run remote patience context world now
    ∃ next, outcome.value.state = some next ∧ Agrees told next (memory outcome.world) := by
  intro outcome
  obtain ⟨stored, held, mirrors⟩ := agrees
  obtain ⟨next, asks, stops, goesOn⟩ := read_asks mirrors.id
  rcases whenReady_call_keeps keeps asks (by simp) stops patience context world now with
    ⟨failure, _, ended, kept⟩ | ⟨listed, reached, instant, answered, ended, there⟩
  · refine ⟨state, congrArg Transition.state ended, ?_⟩
    rw [kept]
    exact ⟨stored, held, mirrors⟩
  · have isListed : ((memory world).webhooks.get? stored.id).toList = listed :=
      Except.ok.inj (Prod.mk.inj answered).1
    have kept : memory world = memory reached := (Prod.mk.inj answered).2
    rw [held, Option.toList_some] at isListed
    subst isListed
    rw [goesOn] at ended there
    refine ⟨state.applyRemote stored, congrArg Transition.state ended, ?_⟩
    rw [there, Program.run, ← kept]
    exact ⟨stored, held, mirrors.applyRemote⟩

/-- An update is refused, or it finds nothing changed, or it tells the stack what is desired. -/
theorem update_cases (observed desired : Webhook) :
    (∃ diagnostics : Diagnostics, diagnostics.hasError = true ∧
      update observed desired = .done (.keeping observed diagnostics)) ∨
    ∃ id, observed.id = some id ∧ (validate desired).hasError = false ∧
      ((changedFields observed desired = [] ∧ update observed desired = .done (.ok observed)) ∨
        ∃ next, update observed desired = whenReady .webhooks (some observed)
            (.call (.command (.updateWebhook id (updateRequest observed desired))) next) ∧
          (∀ failure, next (.error failure) = .done (.keeping observed [failure])) ∧
          ∀ done, next (.ok done) = .done (.ok (updated id observed desired))) := by
  cases invalid : (validate desired).hasError with
  | true => exact .inl ⟨_, invalid, if_pos invalid⟩
  | false =>
      rw [update, if_neg (by simp [invalid])]
      cases known : observed.id with
      | none => exact .inl ⟨[missingId], rfl, rfl⟩
      | some id =>
          refine .inr ⟨id, rfl, rfl, ?_⟩
          cases changedFields observed desired with
          | nil => exact .inl ⟨rfl, rfl⟩
          | cons field fields => exact .inr ⟨_, rfl, fun _ => rfl, fun _ => rfl⟩

theorem update_decided {observed : Webhook} {id : String} (known : observed.id = some id)
    (desired : Webhook) :
    (∃ diagnostics, update observed desired = .done (.keeping observed diagnostics)) ∨
    ∃ next, update observed desired = whenReady .webhooks (some observed)
        (.call (.command (.updateWebhook id (updateRequest observed desired))) next) ∧
      (∀ failure, next (.error failure) = .done (.keeping observed [failure])) ∧
      ∀ done, next (.ok done) = .done (.ok (updated id observed desired)) := by
  rcases update_cases observed desired with
    ⟨diagnostics, _, refused⟩ | ⟨found, isFound, _, ⟨_, ended⟩ | asks⟩
  · exact .inl ⟨diagnostics, refused⟩
  · exact .inl ⟨[], ended⟩
  · rw [known] at isFound
    cases isFound
    exact .inr asks

/-- The stored webhook once the stack has been told of an update. -/
def rewritten (request : Stack.WebhookRequest) (stored : Stack.Webhook) : Stack.Webhook :=
  { stored with
    endpoint := request.endpoint
    eventTypes := request.eventTypes
    name := request.name
    secret := request.secret }

theorem execute_update {memory : Memory} {stored : Stack.Webhook}
    (held : memory.webhooks.get? stored.id = some stored) (request : Stack.WebhookRequest) :
    memory.execute (.updateWebhook stored.id request) =
      (.ok (), { memory with
        webhooks := memory.webhooks.insert stored.id (rewritten request stored) }) := by
  change memory.modify "webhook" (memory.webhooks.get? stored.id) _ = _
  rw [held]
  rfl

theorem mirrors_rewritten (observed desired : Webhook) (stored : Stack.Webhook) :
    Mirrors desired (updated stored.id observed desired)
      (rewritten (updateRequest observed desired) stored) where
  id := rfl
  endpoint := rfl
  eventTypes := rfl
  secret := rfl
  toldName := given_given _
  sameName declared := by
    obtain ⟨name, isName⟩ := Option.ne_none_iff_exists'.mp declared
    rw [Webhook.updated, isName]
    change given (some name) = given (given desired.name)
    rw [given_given, isName]

/-- A last command behind a wait has been carried out unless an error is reported. -/
theorem command_takes {kind : Kind} {state : Webhook} {command : Command}
    {next : Except Diagnostic Unit → Program (Transition Webhook)}
    (stops : ∀ failure, next (.error failure) = .done (.keeping state [failure]))
    {final : Transition Webhook} (goesOn : ∀ done, next (.ok done) = .done final) :
    (whenReady kind (some state) (.call (.command command) next)).Takes
      (.uniform fun made _ transition => (made = [] ∧ transition.hasError = true) ∨
        (made = [⟨.command command, some (.ok ())⟩] ∧ transition = final)) [] := by
  refine ⟨fun failure => ⟨_, rfl, fun isError => .inl ⟨rfl, hasError_of_failure isError _⟩⟩, rfl,
    fun failure => ⟨_, stops failure, fun isError => .inl ⟨rfl, hasError_of_failure isError _⟩⟩,
    fun done => ?_⟩
  rw [goesOn]
  exact .inr ⟨rfl, rfl⟩

/-- The stack has been told of an update exactly where it reports no error. -/
theorem updates_iff {observed desired : Webhook} {id : String}
    {next : Except Diagnostic Unit → Program (Transition Webhook)}
    (asks : update observed desired = whenReady .webhooks (some observed)
      (.call (.command (.updateWebhook id (updateRequest observed desired))) next))
    (stops : ∀ failure, next (.error failure) = .done (.keeping observed [failure]))
    (goesOn : ∀ done, next (.ok done) = .done (.ok (updated id observed desired)))
    (remote : Responder σ) (patience : Patience) (context : Context) (world : σ) (now : Nat) :
    Updates ((update observed desired).exchanges remote patience context world now) ↔
      ((update observed desired).run remote patience context world now).value.hasError = false := by
  rw [asks]
  obtain ⟨answered, failed, tried, split, ends, _, last⟩ :=
    Program.comes (command_takes stops goesOn) remote patience context world now
  rcases ends with ⟨nothing, hasError⟩ | ⟨made, ended⟩
  · rw [hasError]
    refine iff_of_false ?_ (by simp)
    rintro ⟨other, request, member⟩
    rw [List.nil_append] at nothing
    have asked := (mem_demands_iff rfl).mpr member
    rw [split] at asked
    have good := mem_answered last rfl asked
    rw [nothing] at good
    cases good
  · rw [ended]
    refine iff_of_true ⟨id, updateRequest observed desired, ?_⟩ rfl
    rw [List.nil_append] at made
    apply (mem_demands_iff rfl).mp
    rw [split, made]
    exact List.mem_append_left failed (List.mem_singleton_self _)

/-- An update that the stack was told of leads to what was desired, and any other leaves things
as they are. -/
theorem update_agrees {remote : Responder σ} {memory : σ → Memory} (keeps : remote.Keeps memory)
    {told observed : Webhook} {world : σ} (agrees : Agrees told observed (memory world))
    (desired : Webhook) (patience : Patience) (context : Context) (now : Nat) :
    let outcome := (update observed desired).run remote patience context world now
    let exchanges := (update observed desired).exchanges remote patience context world now
    ∃ next, outcome.value.state = some next ∧
      (Updates exchanges → Agrees desired next (memory outcome.world)) ∧
      (¬ Updates exchanges → Agrees told next (memory outcome.world)) := by
  intro outcome exchanges
  obtain ⟨stored, held, mirrors⟩ := agrees
  rcases update_decided mirrors.id desired with ⟨diagnostics, refused⟩ | ⟨next, asks, stops, goesOn⟩
  · have nothing : exchanges = [] := by
      simp only [exchanges]
      rw [refused]
      rfl
    have ended : outcome = ⟨.keeping observed diagnostics, world, now, []⟩ := by
      simp only [outcome]
      rw [refused]
      rfl
    rw [ended, nothing]
    refine ⟨observed, rfl, ?_, fun _ => ⟨stored, held, mirrors⟩⟩
    rintro ⟨id, request, member⟩
    cases member
  · have isTold := updates_iff asks stops goesOn remote patience context world now
    rcases whenReady_call_keeps keeps asks (by simp) stops patience context world now with
      ⟨failure, isError, ended, kept⟩ | ⟨done, reached, instant, answered, ended, there⟩
    · refine ⟨observed, congrArg Transition.state ended, ?_, ?_⟩
      · intro updates
        have succeeded : outcome.value.hasError = false := isTold.mp updates
        rw [ended, hasError_of_failure isError] at succeeded
        cases succeeded
      · intro _
        rw [kept]
        exact ⟨stored, held, mirrors⟩
    · rw [goesOn] at ended there
      refine ⟨updated stored.id observed desired, congrArg Transition.state ended, ?_, ?_⟩
      · intro _
        obtain ⟨_, after⟩ := Prod.mk.inj (answered.symm.trans (execute_update held _))
        rw [there, Program.run, after]
        exact ⟨rewritten (updateRequest observed desired) stored,
          Dictionary.get?_insert_self _ _ _, mirrors_rewritten observed desired stored⟩
      · intro untold
        exact absurd (isTold.mpr (congrArg Transition.hasError ended)) untold

/-! ## Whole lives -/

theorem Told.agrees {remote : Responder σ} {memory : σ → Memory} (keeps : remote.Keeps memory)
    {told : Webhook} {state : Option Webhook} {world : σ}
    (isTold : Told remote memory told state world) :
    ∃ webhook, state = some webhook ∧ Agrees told webhook (memory world) := by
  induction isTold with
  | created desired patience context world now succeeded =>
      exact created_agrees keeps desired patience context world now succeeded
  | read before patience context now ih =>
      obtain ⟨_, same, agrees⟩ := ih
      cases same
      exact read_agrees keeps agrees patience context now
  | updated before desired patience context now answered ih =>
      obtain ⟨_, same, agrees⟩ := ih
      cases same
      obtain ⟨next, isNext, updates, _⟩ := update_agrees keeps agrees desired patience context now
      exact ⟨next, isNext, updates answered⟩
  | kept before desired patience context now unanswered ih =>
      obtain ⟨_, same, agrees⟩ := ih
      cases same
      obtain ⟨next, isNext, _, keepsOn⟩ := update_agrees keeps agrees desired patience context now
      exact ⟨next, isNext, keepsOn unanswered⟩
  | rearranged before same ih =>
      obtain ⟨webhook, isState, agrees⟩ := ih
      rw [same]
      exact ⟨webhook, isState, agrees⟩

/-- **Webhooks tell what is stored.** In every life of a webhook, against a remote side that keeps
a memory, the state tells the identifier, the endpoint, the event types and the secret that are
stored, absent texts counting as empty ones. The name that is stored is the one in what the stack
was last told, and the state tells it too, unless that declared no name: then the state may still
tell an earlier name, which has been erased in the stack. -/
theorem tells_stored_in_life {remote : Responder σ} {memory : σ → Memory}
    (keeps : remote.Keeps memory) {state : Option Webhook} {world : σ}
    (life : Life resource remote memory state world) :
    ∃ (webhook : Webhook) (stored : Stack.Webhook),
      state = some webhook ∧ (memory world).webhooks.get? stored.id = some stored ∧
      webhook.id = some stored.id ∧ webhook.endpoint = stored.endpoint ∧
      webhook.eventTypes = stored.eventTypes ∧ given webhook.secret = given stored.secret ∧
      (∃ told, Told remote memory told state world) ∧
      ∀ told, Told remote memory told state world →
        given stored.name = given told.name ∧
        (told.name ≠ none → given webhook.name = given stored.name) := by
  obtain ⟨told, isTold⟩ := told_of_life life
  obtain ⟨webhook, isState, stored, held, mirrors⟩ := isTold.agrees keeps
  refine ⟨webhook, stored, isState, held, mirrors.id, mirrors.endpoint, mirrors.eventTypes,
    mirrors.secret, ⟨told, isTold⟩, ?_⟩
  intro other isOther
  obtain ⟨_, again, found, heldToo, mirrorsToo⟩ := isOther.agrees keeps
  rw [isState] at again
  cases again
  -- the state has one identifier, under which one webhook is stored
  have sameId : found.id = stored.id :=
    Option.some.inj (mirrorsToo.id.symm.trans mirrors.id)
  rw [sameId, held] at heldToo
  cases heldToo
  exact ⟨mirrorsToo.toldName, mirrorsToo.sameName⟩

/-- A webhook that is created with a name. -/
def named : Webhook := ⟨none, "https://a", ["created"], some "main", none⟩

/-- The webhook as the stack in memory has created it. -/
def namedFirst : Webhook :=
  ⟨some "wh-1", "https://a", ["created"], some "main", some "whsec_generated"⟩

/-- The same webhook with another name. -/
def renamed : Webhook := ⟨none, "https://a", ["created"], some "other", none⟩

theorem tells_stored_in_life_renamed :
    let made := (create named).run Memory.remote .standard .free .empty 0
    let outcome := (update namedFirst renamed).run Memory.remote .standard .free made.world 0
    ∃ (webhook : Webhook) (stored : Stack.Webhook),
      outcome.value.state = some webhook ∧
      outcome.world.webhooks.get? stored.id = some stored ∧
      given stored.name = some "other" ∧ given webhook.name = given stored.name := by
  intro made outcome
  have born : Life resource Memory.remote (fun memory => memory) (some namedFirst) made.world :=
    .created named .standard .free Memory.empty 0 (by rfl)
  have first : Told Memory.remote (fun memory => memory) named (some namedFirst) made.world :=
    .created named .standard .free Memory.empty 0 (by rfl)
  have second : ((update namedFirst renamed).exchanges Memory.remote .standard .free made.world
      0)[1]? = some ⟨.command (.updateWebhook "wh-1" (updateRequest namedFirst renamed)),
        some (.ok ())⟩ := rfl
  obtain ⟨webhook, stored, isState, held, _, _, _, _, _, names⟩ :=
    tells_stored_in_life Memory.remote_keeps (born.updated renamed .standard .free 0)
  obtain ⟨name, same⟩ := names renamed
    (first.updated renamed .standard .free 0 ⟨_, _, List.mem_of_getElem? second⟩)
  exact ⟨webhook, stored, isState, held, name, same (by simp [renamed])⟩

/-- An update that changes the endpoint and leaves out the name erases the name in the stack, and
the state goes on reporting it, also behind a read. -/
theorem name_erased :
    let made := (create named).run Memory.remote .standard .free .empty 0
    let desired : Webhook := ⟨none, "https://b", ["created"], none, none⟩
    let outcome := (update namedFirst desired).run Memory.remote .standard .free made.world 0
    let moved : Webhook := { namedFirst with endpoint := "https://b" }
    made.value = .ok namedFirst ∧ outcome.value = .ok moved ∧
      outcome.world.webhooks.get? "wh-1" =
        some ⟨"wh-1", "https://b", ["created"], none, some "whsec_generated", true, none⟩ ∧
      ((read moved).run Memory.remote .standard .free outcome.world 0).value = .ok moved :=
  ⟨rfl, rfl, rfl, rfl⟩

end Converge.Resource.Webhook
