import Converge.Proofs.Connector.Configuration
import Converge.Proofs.Resource.Convergence
import Converge.Resource.PaymentsConnector

/-!
# Payments connectors stay as they were sent

What is stored of a connector is the object that its two groups were merged to. A stack may
show less of it than it stores, and more than was ever declared. A read splits what is shown
by the keys of the groups and takes over only what has been declared, so the groups merge to
the stored object again: this carries whole lives of a connector, whatever is shown of its
credentials.
-/

namespace Converge

open Remote Connector

namespace Resource.PaymentsConnector

variable {σ : Type}

/-! ## What a read takes over -/

theorem get?_sanitize (fields : Dictionary Value) (allowed : List String) (key : String) :
    (Value.sanitize fields allowed).get? key = if key ∈ allowed then fields.get? key else none := by
  rw [Value.sanitize, Dictionary.get?_filterKeys]
  simp only [List.contains_iff_mem]

/-- What of an object a read takes over: values under declared keys, each in its own group.
What is not shown of the credentials stays as it was, as the spelling of the provider may. -/
structure Takes (connector : PaymentsConnector) (shown : Dictionary Value)
    (next : PaymentsConnector) : Prop where
  id : next.id = connector.id
  credentialKeys : next.credentials.keys = connector.credentials.keys
  credentials : ∀ key ∈ connector.credentials.keys,
    next.credentials.get? key = (shown.get? key).or (connector.credentials.get? key)
  configKeys : ∀ key ∈ next.config.keys, key ∈ connector.config.keys
  config : ∀ key value, next.config.get? key = some value →
    shown.get? key = some value ∨
      key = providerKey ∧ connector.config.get? providerKey = some value

theorem get?_credentials_applyRemote (connector : PaymentsConnector) (shown : Dictionary Value)
    (key : String) :
    (connector.applyRemote shown).credentials.get? key =
      if key ∈ connector.credentials.keys then
        (shown.get? key).or (connector.credentials.get? key)
      else none := by
  have merged : (connector.applyRemote shown).credentials =
      connector.credentials.extend (Value.sanitize shown connector.credentials.keys) := rfl
  rw [merged, Dictionary.get?_extend, get?_sanitize]
  split
  · rfl
  · rename_i absent
    rw [Dictionary.get?_eq_none_of_not_mem absent]
    rfl

/-- Under each of its keys the configuration takes over what is shown; under the provider's
it may keep what is declared. -/
theorem get?_config_applyRemote (connector : PaymentsConnector) (shown : Dictionary Value)
    (key : String) :
    (connector.applyRemote shown).config.get? key =
        (if key ∈ connector.config.keys then shown.get? key else none) ∨
      key = providerKey ∧
        (connector.applyRemote shown).config.get? key = connector.config.get? key := by
  rw [applyRemote, Value.partition, ← get?_sanitize]
  dsimp only
  cases found : connector.config.get? providerKey with
  | none => exact .inl rfl
  | some declared =>
      dsimp only
      split
      · rw [Dictionary.get?_insert]
        split
        · rename_i isProvider
          subst isProvider
          exact .inr ⟨rfl, found.symm⟩
        · exact .inl rfl
      · exact .inl rfl

theorem applyRemote_takes (connector : PaymentsConnector) (shown : Dictionary Value) :
    Takes connector shown (connector.applyRemote shown) where
  id := rfl
  credentialKeys := by
    apply Dictionary.keys_eq_of_isSome
    intro key
    rw [get?_credentials_applyRemote]
    split
    · rename_i declared
      rw [Option.isSome_or, Dictionary.mem_keys_iff.mp declared, Bool.or_true]
    · rename_i absent
      rw [Dictionary.mem_keys_iff, Bool.not_eq_true] at absent
      exact absent.symm
  credentials key declared := by
    rw [get?_credentials_applyRemote, if_pos declared]
  configKeys key member := by
    rcases get?_config_applyRemote connector shown key with taken | ⟨_, kept⟩
    · rw [Dictionary.mem_keys_iff, taken] at member
      split at member
      · assumption
      · cases member
    · rw [Dictionary.mem_keys_iff, kept] at member
      exact Dictionary.mem_keys_iff.mpr member
  config key value found := by
    rcases get?_config_applyRemote connector shown key with taken | ⟨isProvider, kept⟩
    · rw [taken] at found
      split at found
      · exact .inl found
      · cases found
    · subst isProvider
      exact .inr ⟨rfl, kept.symm.trans found⟩

/-! ## Splitting and merging -/

/-- What may be shown of a stored object: the configuration as it is stored, any credentials,
and anything under keys that are declared in neither group. -/
structure Reveals (connector : PaymentsConnector) (stored shown : Dictionary Value) : Prop where
  config : ∀ key ∈ connector.config.keys, shown.get? key = stored.get? key
  credentials : ∀ key ∈ connector.credentials.keys,
    shown.get? key = stored.get? key ∨ shown.get? key = none

/-- Under each key the groups hold behind a read what they held, or what is stored. -/
theorem get?_merged_applyRemote {connector : PaymentsConnector} {stored shown : Dictionary Value}
    (reveals : Reveals connector stored shown) (key : String) :
    let next := connector.applyRemote shown
    let merged := connector.config.extend connector.credentials
    let mergedNext := next.config.extend next.credentials
    mergedNext.get? key = merged.get? key ∨ mergedNext.get? key = stored.get? key := by
  intro next merged mergedNext
  have lookup : mergedNext.get? key =
      (next.credentials.get? key).or (next.config.get? key) := Dictionary.get?_extend _ _ _
  have lookupBefore : merged.get? key =
      (connector.credentials.get? key).or (connector.config.get? key) :=
    Dictionary.get?_extend _ _ _
  rw [lookup, lookupBefore, get?_credentials_applyRemote]
  by_cases secret : key ∈ connector.credentials.keys
  · obtain ⟨held, isHeld⟩ := Option.isSome_iff_exists.mp (Dictionary.mem_keys_iff.mp secret)
    rw [if_pos secret, isHeld]
    rcases reveals.credentials key secret with revealed | hidden
    · rw [revealed]
      cases stored.get? key with
      | none => exact .inl rfl
      | some value => exact .inr rfl
    · rw [hidden]
      exact .inl rfl
  · rw [if_neg secret, Dictionary.get?_eq_none_of_not_mem secret]
    rcases get?_config_applyRemote connector shown key with taken | ⟨_, kept⟩
    · rw [taken]
      split
      · rename_i declared
        exact .inr (reveals.config key declared)
      · rename_i undeclared
        rw [Dictionary.get?_eq_none_of_not_mem undeclared]
        exact .inl rfl
    · rw [kept]
      exact .inl rfl

/-- Groups that were merged to what is stored merge to it behind a read as well. -/
theorem payload_applyRemote {connector : PaymentsConnector} {stored shown : Dictionary Value}
    (sent : Configuration.payload connector.credentials connector.config = .ok stored)
    (reveals : Reveals connector stored shown) :
    let next := connector.applyRemote shown
    Configuration.payload next.credentials next.config = .ok stored := by
  intro next
  obtain ⟨apart, provider, named, accepts, isStored⟩ := Configuration.payload_eq_ok_iff.mp sent
  have takes := applyRemote_takes connector shown
  have apartNext : Configuration.Apart next.credentials next.config := by
    intro key secret declared
    rw [takes.credentialKeys] at secret
    exact apart key secret (takes.configKeys key declared)
  have lookup : ∀ key, stored.get? key =
      ((provider.tidied (connector.config.extend connector.credentials)).get? key).map
        Value.normalize := by
    intro key
    rw [isStored, Dictionary.get?_mapValues]
  have either := get?_merged_applyRemote reveals
  have namedNext : Configuration.providerOf (next.config.extend next.credentials) =
      .ok provider := by
    rcases either providerKey with same | isStored
    · obtain ⟨name, isText, isName⟩ := Configuration.providerOf_eq_ok_iff.mp named
      exact Configuration.providerOf_eq_ok_iff.mpr ⟨name, same.trans isText, isName⟩
    · apply Configuration.providerOf_canonical
      rw [isStored, lookup, Provider.get?_tidied_provider]
      rfl
  have read := Configuration.decode_blend accepts namedNext fun key _ => by
    rw [← lookup]
    exact either key
  rw [Configuration.payload, Configuration.ofParts_eq apartNext, read]
  exact (Provider.encode_reading accepts).trans (congrArg Except.ok isStored.symm)

/-! ## Transitions -/

/-- What is stored under the connector's identifier is what its groups merge to. -/
def Sent (connector : PaymentsConnector) (memory : Memory) : Prop :=
  ∃ id stored, connector.id = some id ∧ memory.connectors.get? id = some stored ∧
    Configuration.payload connector.credentials connector.config = .ok stored

theorem create_cases (desired : PaymentsConnector) :
    (∃ diagnostics : Diagnostics, diagnostics.hasError = true ∧
      create desired = .done (.failed diagnostics)) ∨
    ∃ provider payload next,
      Configuration.payload desired.credentials desired.config = .ok payload ∧
      create desired = whenReady .paymentsConnector none
        (.call (.installConnector provider payload) next) ∧
      (∀ failure, next (.error failure) = .done (.failed [failure])) ∧
      ∀ id, next (.ok id) = .done (.ok { desired with id := some id }) := by
  rw [create, Configuration.payload]
  split
  · rename_i refused
    exact .inl ⟨_, refused, rfl⟩
  · cases Configuration.ofParts desired.credentials desired.config with
    | error fault => exact .inl ⟨_, rfl, rfl⟩
    | ok configuration =>
        dsimp only [bind, Except.bind]
        cases configuration.encode with
        | error fault => exact .inl ⟨_, rfl, rfl⟩
        | ok payload => exact .inr ⟨_, payload, _, rfl, rfl, fun _ => rfl, fun _ => rfl⟩

/-- An update is refused for the name of the provider, or else for the declaration, or else it
tells the stack what the groups of the declaration merge to. -/
theorem update_decided {observed : PaymentsConnector} {id : String} (known : observed.id = some id)
    (desired : PaymentsConnector) :
    (providerName observed.config ≠ providerName desired.config ∧
      update observed desired =
        .done (.keeping observed [requiresReplacement "config.provider"])) ∨
    (∃ error, Configuration.payload desired.credentials desired.config = .error error ∧
      update observed desired = .done (.keeping observed [configurationFault error])) ∨
    (providerName observed.config = providerName desired.config ∧ ∃ payload next,
      Configuration.payload desired.credentials desired.config = .ok payload ∧
      update observed desired = whenReady .paymentsConnector (some observed)
        (.call (.command (.updateConnector id payload)) next) ∧
      (∀ failure, next (.error failure) = .done (.keeping observed [failure])) ∧
      ∀ done, next (.ok done) = .done (.ok { desired with id := some id })) := by
  rw [update, known]
  dsimp only
  split
  · rename_i different
    exact .inl ⟨by simpa using different, rfl⟩
  · rename_i same
    cases sent : Configuration.payload desired.credentials desired.config with
    | error fault => exact .inr (.inl ⟨fault, rfl, rfl⟩)
    | ok payload =>
        exact .inr (.inr ⟨by simpa using same, payload, _, rfl, rfl, fun _ => rfl, fun _ => rfl⟩)

theorem update_cases {observed : PaymentsConnector} {id : String} (known : observed.id = some id)
    (desired : PaymentsConnector) :
    (∃ diagnostics, update observed desired = .done (.keeping observed diagnostics)) ∨
    ∃ payload next,
      Configuration.payload desired.credentials desired.config = .ok payload ∧
      update observed desired = whenReady .paymentsConnector (some observed)
        (.call (.command (.updateConnector id payload)) next) ∧
      (∀ failure, next (.error failure) = .done (.keeping observed [failure])) ∧
      ∀ done, next (.ok done) = .done (.ok { desired with id := some id }) := by
  rcases update_decided known desired with ⟨_, equal⟩ | ⟨_, _, equal⟩ | ⟨_, asks⟩
  · exact .inl ⟨_, equal⟩
  · exact .inl ⟨_, equal⟩
  · exact .inr asks

theorem read_asks {state : PaymentsConnector} {id : String} (known : state.id = some id) :
    ∃ next,
      read state = whenReady .paymentsConnector (some state) (.call (.getConnector id) next) ∧
      (∀ failure, next (.error failure) = .done (.keeping state [failure])) ∧
      ∀ flat, next (.ok flat) = .done (.ok (state.applyRemote flat)) := by
  rw [read, known]
  exact ⟨_, rfl, fun _ => rfl, fun _ => rfl⟩

variable {remote : Responder σ} {memory : σ → Memory}

theorem created (shows : remote.Shows memory) (desired : PaymentsConnector) (patience : Patience)
    (context : Context) (world : σ) (now : Nat) :
    let outcome := (create desired).run remote patience context world now
    outcome.value.hasError = false →
      ∃ state, outcome.value.state = some state ∧ state.Sent (memory outcome.world) := by
  intro outcome succeeded
  rcases create_cases desired with
    ⟨diagnostics, refused, equal⟩ | ⟨provider, payload, next, sent, asks, stops, goesOn⟩
  · have ended : outcome.value = .failed diagnostics := by
      simp only [outcome]
      rw [equal]
      rfl
    rw [ended] at succeeded
    exact absurd (refused.symm.trans succeeded) (by simp)
  · rcases whenReady_call_leaves shows.toLeaves asks stops patience context world now with
      ⟨failure, isError, ended, _⟩ | ⟨id, asked, instant, same, answered, ended, there⟩
    · have failed : outcome.value.hasError = true := by
        simp only [outcome]
        rw [ended]
        simp [Transition.hasError, Diagnostics.hasError, isError]
      exact absurd (failed.symm.trans succeeded) (by simp)
    · rw [goesOn] at ended there
      refine ⟨{ desired with id := some id }, congrArg Transition.state ended, id, payload, rfl,
        ?_, sent⟩
      have installed := shows.succeeded asked _ id (by simp) (by simp) answered
      obtain ⟨isId, after⟩ := Prod.mk.inj installed
      have reached : memory outcome.world = _ := (congrArg memory there).trans after.symm
      rw [reached, ← Except.ok.inj isId]
      exact Dictionary.get?_insert_self _ _ _

theorem updated (shows : remote.Shows memory) {observed : PaymentsConnector} {world : σ}
    (sent : observed.Sent (memory world)) (desired : PaymentsConnector) (patience : Patience)
    (context : Context) (now : Nat) :
    let outcome := (update observed desired).run remote patience context world now
    ∃ state, outcome.value.state = some state ∧ state.Sent (memory outcome.world) := by
  intro outcome
  obtain ⟨id, stored, known, held, payload⟩ := sent
  rcases update_cases known desired with
    ⟨diagnostics, equal⟩ | ⟨resent, next, sentNext, asks, stops, goesOn⟩
  · refine ⟨observed, ?_, id, stored, known, ?_, payload⟩
    · simp only [outcome]
      rw [equal]
      rfl
    · simp only [outcome]
      rw [equal]
      exact held
  · rcases whenReady_call_leaves shows.toLeaves asks stops patience context world now with
      ⟨failure, _, ended, kept⟩ | ⟨done, asked, instant, same, answered, ended, there⟩
    · refine ⟨observed, congrArg Transition.state ended, id, stored, known, ?_, payload⟩
      rw [kept]
      exact held
    · rw [goesOn] at ended there
      refine ⟨{ desired with id := some id }, congrArg Transition.state ended, id, resent, rfl,
        ?_, sentNext⟩
      have replaced := shows.succeeded asked _ done (by simp) (by simp) answered
      rw [same] at replaced
      have modified : (memory world).modify "connector" ((memory world).connectors.get? id)
          (fun _ => { memory world with
            connectors := (memory world).connectors.insert id resent }) =
          (.ok done, memory (remote.reply asked (.command (.updateConnector id resent))).after) :=
        replaced
      rw [held] at modified
      obtain ⟨_, after⟩ := Prod.mk.inj modified
      have reached : memory outcome.world = _ := (congrArg memory there).trans after.symm
      rw [reached]
      exact Dictionary.get?_insert_self _ _ _

/-- A read leaves what is stored. It ends with the state, or with what that takes over of an
object that has been shown. -/
theorem read_outcome (shows : remote.Shows memory) {connector : PaymentsConnector} {id : String}
    (known : connector.id = some id) (patience : Patience) (context : Context) (world : σ)
    (now : Nat) :
    let outcome := (read connector).run remote patience context world now
    memory outcome.world = memory world ∧
    (outcome.value.state = some connector ∨
      ∃ shown, ⟨.getConnector id, some (.ok shown)⟩ ∈
          (read connector).exchanges remote patience context world now ∧
        outcome.value.state = some (connector.applyRemote shown)) := by
  intro outcome
  obtain ⟨next, asks, stops, goesOn⟩ := read_asks known
  constructor
  · rcases whenReady_call_leaves shows.toLeaves asks stops patience context world now with
      ⟨failure, _, _, kept⟩ | ⟨shown, asked, instant, same, answered, _, there⟩
    · exact kept
    · rw [goesOn] at there
      have reached : memory outcome.world = _ := congrArg memory there
      rw [reached, ← same]
      exact shows.shown asked id shown answered
  · rcases whenReady_call_answered asks (by simp) stops goesOn remote patience context world now
      with ⟨failure, _, ended, _⟩ | ⟨shown, ended, answers⟩
    · exact .inl (congrArg Transition.state ended)
    · exact .inr ⟨shown, (answers shown).mpr rfl, congrArg Transition.state ended⟩

/-! ## Whole lives -/

/-- Every object that is shown in a read reveals the stored one. -/
def ReadReveals (connector : PaymentsConnector) (remote : Responder σ) (memory : σ → Memory)
    (patience : Patience) (context : Context) (world : σ) (now : Nat) : Prop :=
  ∀ id stored shown, connector.id = some id →
    (memory world).connectors.get? id = some stored →
    ⟨.getConnector id, some (.ok shown)⟩ ∈
      (read connector).exchanges remote patience context world now →
    Reveals connector stored shown

/-- The states of a connector and the worlds that they are left in. It is created without
error and then read and updated in turn, in any circumstances, and what a read is shown
reveals what is stored. In between the remote side may become any other, but for its
memory. -/
inductive VeiledLife (remote : Responder σ) (memory : σ → Memory) :
    Option PaymentsConnector → σ → Prop where
  | created (desired : PaymentsConnector) (patience : Patience) (context : Context) (world : σ)
      (now : Nat)
      (succeeded :
        ((create desired).run remote patience context world now).value.hasError = false) :
      VeiledLife remote memory
        ((create desired).run remote patience context world now).value.state
        ((create desired).run remote patience context world now).world
  | read {state : PaymentsConnector} {world : σ}
      (before : VeiledLife remote memory (some state) world) (patience : Patience)
      (context : Context) (now : Nat)
      (reveals : state.ReadReveals remote memory patience context world now) :
      VeiledLife remote memory
        ((read state).run remote patience context world now).value.state
        ((read state).run remote patience context world now).world
  | updated {observed : PaymentsConnector} {world : σ}
      (before : VeiledLife remote memory (some observed) world) (desired : PaymentsConnector)
      (patience : Patience) (context : Context) (now : Nat) :
      VeiledLife remote memory
        ((update observed desired).run remote patience context world now).value.state
        ((update observed desired).run remote patience context world now).world
  | rearranged {state : Option PaymentsConnector} {world other : σ}
      (before : VeiledLife remote memory state world) (same : memory other = memory world) :
      VeiledLife remote memory state other

theorem sent_of_life (shows : remote.Shows memory) {state : Option PaymentsConnector} {world : σ}
    (life : VeiledLife remote memory state world) :
    ∃ connector, state = some connector ∧ connector.Sent (memory world) := by
  induction life with
  | created desired patience context world now succeeded =>
      exact created shows desired patience context world now succeeded
  | read before patience context now reveals ih =>
      obtain ⟨connector, isState, id, stored, known, held, sent⟩ := ih
      obtain rfl := Option.some.inj isState
      obtain ⟨same, kept | ⟨shown, exchanged, taken⟩⟩ :=
        read_outcome shows known patience context _ now
      · refine ⟨_, kept, id, stored, known, ?_, sent⟩
        rw [same]
        exact held
      · refine ⟨_, taken, id, stored, known, ?_, ?_⟩
        · rw [same]
          exact held
        · exact payload_applyRemote sent (reveals id stored shown known held exchanged)
  | updated before desired patience context now ih =>
      obtain ⟨connector, isState, sent⟩ := ih
      obtain rfl := Option.some.inj isState
      exact updated shows sent desired patience context now
  | rearranged before same ih =>
      obtain ⟨connector, isState, sent⟩ := ih
      refine ⟨connector, isState, ?_⟩
      rw [same]
      exact sent

/-- **Connectors stay as they were sent.** In every life of a connector, against a remote side
that may hide credentials and show keys that were never declared, the groups of the state
merge to the stored object. A read ends with the state as it was, or takes over what it has
been shown: the credentials keep their keys, and their values where they are not shown, no
key of the configuration is gained, no value comes from another key than its own, and no key
is in both groups. -/
theorem connector_stays_sent (shows : remote.Shows memory) {state : Option PaymentsConnector}
    {world : σ} (life : VeiledLife remote memory state world) :
    ∃ connector id stored, state = some connector ∧ connector.id = some id ∧
      (memory world).connectors.get? id = some stored ∧
      Configuration.payload connector.credentials connector.config = .ok stored ∧
      ∀ (patience : Patience) (context : Context) (now : Nat),
        let outcome := (read connector).run remote patience context world now
        outcome.value.state = some connector ∨
        ∃ shown next, outcome.value.state = some next ∧
          ⟨.getConnector id, some (.ok shown)⟩ ∈
            (read connector).exchanges remote patience context world now ∧
          Takes connector shown next ∧ Configuration.Apart next.credentials next.config := by
  obtain ⟨connector, isState, id, stored, known, held, sent⟩ := sent_of_life shows life
  refine ⟨connector, id, stored, isState, known, held, sent, ?_⟩
  intro patience context now
  obtain ⟨_, kept | ⟨shown, exchanged, taken⟩⟩ :=
    read_outcome shows known patience context world now
  · exact .inl kept
  · have takes := applyRemote_takes connector shown
    refine .inr ⟨shown, _, taken, exchanged, takes, ?_⟩
    intro key secret declared
    rw [takes.credentialKeys] at secret
    exact (Configuration.payload_eq_ok_iff.mp sent).1 key secret (takes.configKeys key declared)

/-- A connector whose provider is spelled in other letters. -/
def stripe : PaymentsConnector :=
  ⟨some "conn-1", .ofList [("apiKey", .text "key")],
    .ofList [("name", .text "main"), ("pageSize", .null), ("provider", .text "stripe")]⟩

/-- A stack that does not show a credential, and shows a key that was never declared. -/
def withoutApiKey : Responder Memory :=
  Memory.remote.veiled fun flat => (flat.erase "apiKey").insert "internalFlag" (.bool true)

theorem connector_stays_sent_withoutApiKey :
    let made := (create stripe).run withoutApiKey .standard .free .empty 0
    let seen := (read stripe).run withoutApiKey .standard .free made.world 0
    made.value.state = some stripe ∧ ∃ connector stored, seen.value.state = some connector ∧
      seen.world.connectors.get? "conn-1" = some stored ∧
      Configuration.payload connector.credentials connector.config = .ok stored ∧
      connector.credentials.get? "apiKey" = some (.text "key") ∧
      connector.config.keys = ["name", "provider"] := by
  dsimp only
  have shows : withoutApiKey.Shows fun memory => memory := Memory.remote_keeps.veiled _
  have born : VeiledLife withoutApiKey (fun memory => memory) (some stripe)
      ((create stripe).run withoutApiKey .standard .free .empty 0).world :=
    .created stripe .standard .free Memory.empty 0 rfl
  have reveals : stripe.ReadReveals withoutApiKey (fun memory => memory) .standard .free
      ((create stripe).run withoutApiKey .standard .free .empty 0).world 0 := by
    intro id stored shown known held exchanged
    have exchanges : (read stripe).exchanges withoutApiKey .standard .free
        ((create stripe).run withoutApiKey .standard .free .empty 0).world 0 =
          [⟨.listModules, some (.ok (Memory.healthyListing Memory.modules))⟩,
            ⟨.getConnector "conn-1", some (.ok (.ofList [("internalFlag", .bool true),
              ("name", .text "main"), ("provider", .text "Stripe")]))⟩] := rfl
    rw [exchanges] at exchanged
    cases exchanged with
    | tail _ last =>
        cases last with
        | head =>
            have isStored : some (Dictionary.ofList [("apiKey", .text "key"),
                ("name", .text "main"), ("provider", .text "Stripe")]) = some stored := held
            cases isStored
            have configKeys : stripe.config.keys = ["name", "pageSize", "provider"] := rfl
            have credentialKeys : stripe.credentials.keys = ["apiKey"] := rfl
            constructor
            · rw [configKeys]
              simp only [List.mem_cons, List.not_mem_nil, or_false]
              rintro key (rfl | rfl | rfl) <;> rfl
            · rw [credentialKeys]
              simp only [List.mem_cons, List.not_mem_nil, or_false]
              rintro key rfl
              exact .inr rfl
        | tail _ last => cases last
  have life := VeiledLife.read born .standard .free 0 reveals
  obtain ⟨connector, id, stored, isState, known, held, sent, _⟩ := connector_stays_sent shows life
  let seen : PaymentsConnector := ⟨some "conn-1", stripe.credentials,
    .ofList [("name", .text "main"), ("provider", .text "stripe")]⟩
  obtain rfl : seen = connector := Option.some.inj isState
  obtain rfl : "conn-1" = id := Option.some.inj known
  exact ⟨rfl, seen, stored, isState, held, sent, rfl, rfl⟩

end Resource.PaymentsConnector

end Converge
