import Converge.Proofs.Resource.Drift
import Converge.Proofs.Resource.ProviderKept
import Converge.Proofs.Resource.Reload

/-!
# Reading a connector again

What is stored of a connector is what its provider takes of the two groups: no null under a key
that the provider knows, the provider in its canonical spelling, and anything else in its normal
form. A read takes over what is shown of that, and gives back the spelling of a provider that is
declared in the configuration. It does not give back a null that was declared there, nor the
spelling of a provider that is declared among the credentials. A connector with neither is left as
it is by every read, and any other is found changed for as long as it is declared so.
-/

namespace Converge

open Remote Connector

/-! ## Values that equal their normal form -/

namespace Value

mutual

theorem normalize_of_equal : (value : Value) → value.normalize.equal value = true →
    value.normalize = value
  | .null, _ => by rw [normalize]
  | .bool _, _ => by rw [normalize]
  | .int _, _ => by rw [normalize]
  | .float number, same => by
      rw [normalize, normalizeFloat] at same ⊢
      split at same
      · rename_i finite
        rw [if_pos finite]
        rw [ofBinary64] at same ⊢
        split at same
        · simp [equal] at same
        · rfl
      · simp [equal] at same
  | .text _, _ => by rw [normalize]
  | .list items, same => by
      rw [normalize, equal] at same
      rw [normalize, normalizeItems_of_equal items same]
  | .map fields, same => by
      rw [normalize, equal] at same
      rw [normalize, normalizeFields_of_equal fields same]

theorem normalizeItems_of_equal : (items : List Value) →
    equalItems (normalizeItems items) items = true → normalizeItems items = items
  | [], _ => by rw [normalizeItems]
  | item :: items, same => by
      rw [normalizeItems, equalItems, Bool.and_eq_true] at same
      rw [normalizeItems, normalize_of_equal item same.1, normalizeItems_of_equal items same.2]

theorem normalizeFields_of_equal : (fields : List (String × Value)) →
    equalFields (normalizeFields fields) fields = true → normalizeFields fields = fields
  | [], _ => by rw [normalizeFields]
  | (_, value) :: fields, same => by
      rw [normalizeFields, equalFields, Bool.and_eq_true, Bool.and_eq_true] at same
      rw [normalizeFields, normalize_of_equal value same.1.2,
        normalizeFields_of_equal fields same.2]

end

theorem find?_of_equalFields {left right : List (String × Value)}
    (same : equalFields left right = true) {key : String} {value : Value}
    (found : Entries.find? key right = some value) :
    ∃ other, Entries.find? key left = some other ∧ other.equal value = true := by
  induction left generalizing right with
  | nil =>
      cases right with
      | nil => cases found
      | cons field fields => simp [equalFields] at same
  | cons field fields ih =>
      obtain ⟨leftKey, left⟩ := field
      cases right with
      | nil => cases found
      | cons other others =>
          obtain ⟨rightKey, right⟩ := other
          rw [equalFields, Bool.and_eq_true, Bool.and_eq_true, beq_iff_eq] at same
          obtain ⟨⟨rfl, sameValue⟩, sameRest⟩ := same
          rw [Entries.find?] at found ⊢
          split at found
          · cases found
            rename_i isKey
            rw [if_pos isKey]
            exact ⟨left, rfl, sameValue⟩
          · rename_i notKey
            rw [if_neg notKey]
            exact ih sameRest found

/-- Equal dictionaries hold equal values under the same keys. -/
theorem get?_of_beq {left right : Dictionary Value} (same : (left == right) = true)
    {key : String} {value : Value} (found : right.get? key = some value) :
    ∃ other, left.get? key = some other ∧ other.equal value = true := by
  change (left.entries == right.entries) = true at same
  rw [← equalFields_eq_beq] at same
  exact find?_of_equalFields same found

end Value

namespace Connector

/-- What a provider takes of a value that it accepts under one of its keys: all but null. -/
theorem Provider.taken_of_accepts {provider : Provider} {flat : Dictionary Value}
    (accepts : provider.Accepts flat) {key : String} {value : Value}
    (found : flat.get? key = some value) (known : provider.knows key = true)
    (other : key ≠ providerKey) :
    value.normalize = value ∧
      provider.taken key (some value) = if value.isNull then none else some value := by
  rcases slot_or_provider known with ⟨slot, member, rfl⟩ | isProvider
  · have accepted := accepts slot member
    rw [found] at accepted
    rw [taken, if_pos known]
    rcases fits_cases member accepted with ⟨_, rfl, _⟩ | ⟨_, rfl, _⟩ | ⟨rfl, _⟩ <;>
      exact ⟨by rw [Value.normalize], rfl⟩
  · exact absurd isProvider other

/-- Under any other key it takes the normal form. -/
theorem Provider.taken_unknown {provider : Provider} {key : String}
    (unknown : provider.knows key = false) (value : Value) :
    provider.taken key (some value) = some value.normalize := by
  rw [taken, unknown]
  rfl

theorem Provider.knows_provider (provider : Provider) : provider.knows providerKey = true :=
  knows_iff.mpr (.inr (by decide))

end Connector

namespace Resource.PaymentsConnector

variable {σ : Type}

/-! ## What is stored -/

/-- The connector has been sent for a provider, and `stored` is what the stack was told. -/
structure SentAs (provider : Provider) (stored : Dictionary Value)
    (connector : PaymentsConnector) : Prop where
  apart : Configuration.Apart connector.credentials connector.config
  named :
    Configuration.providerOf (connector.config.extend connector.credentials) = .ok provider
  accepts : provider.Accepts (connector.config.extend connector.credentials)
  stored :
    stored = (provider.tidied (connector.config.extend connector.credentials)).mapValues
      Value.normalize

theorem sentAs_of_payload {connector : PaymentsConnector} {stored : Dictionary Value}
    (sent : Configuration.payload connector.credentials connector.config = .ok stored) :
    ∃ provider, SentAs provider stored connector := by
  obtain ⟨apart, provider, named, accepts, isStored⟩ := Configuration.payload_eq_ok_iff.mp sent
  exact ⟨provider, apart, named, accepts, isStored⟩

namespace SentAs

variable {provider : Provider} {stored shown : Dictionary Value} {connector : PaymentsConnector}
  {key : String} {value : Value}

/-- A key of either group holds in the merged object what it holds in its group. -/
theorem get?_merged (sent : SentAs provider stored connector)
    (held : connector.config.get? key = some value ∨ connector.credentials.get? key = some value) :
    (connector.config.extend connector.credentials).get? key = some value := by
  rw [Dictionary.get?_extend]
  rcases held with declared | secret
  · have isDeclared : key ∈ connector.config.keys := by
      rw [Dictionary.mem_keys_iff, declared]
      rfl
    have notSecret : key ∉ connector.credentials.keys := fun secret =>
      sent.apart key secret isDeclared
    rw [Dictionary.get?_eq_none_of_not_mem notSecret, declared]
    rfl
  · rw [secret]
    rfl

/-- Under each key of the groups the provider's part of the value is stored. -/
theorem get?_stored (sent : SentAs provider stored connector)
    (held : connector.config.get? key = some value ∨ connector.credentials.get? key = some value)
    (other : key ≠ providerKey) : stored.get? key = provider.taken key (some value) := by
  rw [sent.stored, Dictionary.get?_mapValues, Provider.get?_tidied sent.accepts,
    Provider.canonical, Dictionary.get?_insert, if_neg (Ne.symm other), sent.get?_merged held]

theorem get?_stored_provider (sent : SentAs provider stored connector) :
    stored.get? providerKey = some (.text provider.name) := by
  rw [sent.stored, Dictionary.get?_mapValues, Provider.get?_tidied_provider, Option.map_some,
    Value.normalize]

/-- Wherever the provider is declared, a text names it. -/
theorem provider_declared (sent : SentAs provider stored connector)
    (held : connector.config.get? providerKey = some value ∨
      connector.credentials.get? providerKey = some value) :
    ∃ name, value = .text name ∧ Provider.sameLetters provider.name name = true := by
  obtain ⟨name, isText, isName⟩ := Configuration.providerOf_eq_ok_iff.mp sent.named
  rw [sent.get?_merged held] at isText
  exact ⟨name, Option.some.inj isText, isName⟩

/-! ## What a read leaves -/

/-- A read leaves the declaration of the provider in the configuration, and takes over what is
stored under its other keys. -/
theorem get?_config (sent : SentAs provider stored connector)
    (reveals : Reveals connector stored shown) (key : String) :
    (connector.applyRemote shown).config.get? key =
      if key = providerKey then connector.config.get? key
      else if key ∈ connector.config.keys then stored.get? key else none := by
  have sanitized : (Value.sanitize shown connector.config.keys).get? key =
      if key ∈ connector.config.keys then stored.get? key else none := by
    rw [get?_sanitize]
    split
    · rename_i declared
      exact reveals.config key declared
    · rfl
  cases declared : connector.config.get? providerKey with
  | none =>
      have taken : (connector.applyRemote shown).config =
          Value.sanitize shown connector.config.keys := by
        simp only [applyRemote, Value.partition, declared]
      rw [taken, sanitized]
      by_cases isProvider : key = providerKey
      · subst isProvider
        have absent : providerKey ∉ connector.config.keys := by
          rw [Dictionary.mem_keys_iff, declared]
          simp
        rw [if_neg absent, if_pos rfl, declared]
      · rw [if_neg isProvider]
  | some value =>
      obtain ⟨name, rfl, isName⟩ := sent.provider_declared (.inl declared)
      have isKey : providerKey ∈ connector.config.keys := by
        rw [Dictionary.mem_keys_iff, declared]
        rfl
      have shownProvider : (Value.sanitize shown connector.config.keys).get? providerKey =
          some (.text provider.name) := by
        rw [get?_sanitize, if_pos isKey, reveals.config _ isKey, sent.get?_stored_provider]
      have same : (providerName connector.config ==
          providerName (Value.sanitize shown connector.config.keys)) = true := by
        rw [providerName_of_named declared isName,
          providerName_of_named shownProvider provider.sameLetters_name]
        exact beq_self_eq_true _
      have kept : (connector.applyRemote shown).config =
          (Value.sanitize shown connector.config.keys).insert providerKey (.text name) := by
        simp only [applyRemote, Value.partition, declared]
        exact if_pos same
      rw [kept, Dictionary.get?_insert]
      split
      · rename_i isProvider
        subst isProvider
        rw [if_pos rfl, declared]
      · rename_i notProvider
        rw [if_neg (Ne.symm notProvider), sanitized]

end SentAs

/-! ## Connectors that every read leaves as they are -/

/-- The stack can give back all that is declared: no key of the configuration that the provider
knows holds null, a provider that is declared among the credentials is in its canonical spelling,
and what the provider does not know is in its normal form, as it is in every document. -/
structure Steady (provider : Provider) (connector : PaymentsConnector) : Prop where
  present : ∀ key, provider.knows key = true → key ≠ providerKey →
    connector.config.get? key ≠ some .null
  spelled : ∀ name, connector.credentials.get? providerKey = some (.text name) →
    name = provider.name
  normal : ∀ key value, provider.knows key = false →
    connector.config.get? key = some value ∨ connector.credentials.get? key = some value →
    value.normalize = value

namespace SentAs

variable {provider : Provider} {stored shown : Dictionary Value} {connector : PaymentsConnector}

/-- Where a connector is steady the stack holds what the configuration declares. -/
theorem stored_config (sent : SentAs provider stored connector)
    (steady : Steady provider connector) {key : String} {value : Value}
    (held : connector.config.get? key = some value) (other : key ≠ providerKey) :
    stored.get? key = some value := by
  rw [sent.get?_stored (.inl held) other]
  cases known : provider.knows key with
  | true =>
      have taken := (Provider.taken_of_accepts sent.accepts (sent.get?_merged (.inl held)) known
        other).2
      have notNull : value.isNull = false := by
        cases value with
        | null => exact absurd held (steady.present key known other)
        | _ => rfl
      rw [taken, notNull]
      rfl
  | false => rw [Provider.taken_unknown known, steady.normal key value known (.inl held)]

/-- Where a connector is steady the stack holds what is declared as a credential, or nothing where
that is null. -/
theorem stored_credential (sent : SentAs provider stored connector)
    (steady : Steady provider connector) {key : String} {value : Value}
    (held : connector.credentials.get? key = some value) :
    stored.get? key = some value ∨ stored.get? key = none := by
  by_cases isProvider : key = providerKey
  · subst isProvider
    obtain ⟨name, rfl, _⟩ := sent.provider_declared (.inr held)
    rw [sent.get?_stored_provider, steady.spelled name held]
    exact .inl rfl
  · rw [sent.get?_stored (.inr held) isProvider]
    cases known : provider.knows key with
    | true =>
        rw [(Provider.taken_of_accepts sent.accepts (sent.get?_merged (.inr held)) known
          isProvider).2]
        split
        · exact .inr rfl
        · exact .inl rfl
    | false =>
        rw [Provider.taken_unknown known, steady.normal key value known (.inr held)]
        exact .inl rfl

/-- A read leaves a steady connector as it is. -/
theorem applyRemote_of_steady (sent : SentAs provider stored connector)
    (steady : Steady provider connector) (reveals : Reveals connector stored shown) :
    connector.applyRemote shown = connector := by
  have credentials : (connector.applyRemote shown).credentials = connector.credentials := by
    apply Dictionary.ext_get?
    intro key
    rw [get?_credentials_applyRemote]
    split
    · rename_i secret
      obtain ⟨value, held⟩ := Option.isSome_iff_exists.mp (Dictionary.mem_keys_iff.mp secret)
      rcases reveals.credentials key secret with isShown | hidden
      · rw [isShown, held]
        rcases sent.stored_credential steady held with isStored | notStored
        · rw [isStored]
          rfl
        · rw [notStored]
          rfl
      · rw [hidden]
        rfl
    · rename_i absent
      exact (Dictionary.get?_eq_none_of_not_mem absent).symm
  have config : (connector.applyRemote shown).config = connector.config := by
    apply Dictionary.ext_get?
    intro key
    rw [sent.get?_config reveals]
    by_cases isProvider : key = providerKey
    · rw [if_pos isProvider]
    · rw [if_neg isProvider]
      split
      · rename_i declared
        obtain ⟨value, held⟩ := Option.isSome_iff_exists.mp (Dictionary.mem_keys_iff.mp declared)
        rw [held, sent.stored_config steady held isProvider]
      · rename_i absent
        exact (Dictionary.get?_eq_none_of_not_mem absent).symm
  calc connector.applyRemote shown
      = ⟨connector.id, (connector.applyRemote shown).credentials,
          (connector.applyRemote shown).config⟩ := rfl
    _ = connector := by rw [credentials, config]

/-- All values of a steady connector are in their normal form. -/
theorem normalize_of_steady (sent : SentAs provider stored connector)
    (steady : Steady provider connector) {key : String} {value : Value}
    (held : connector.config.get? key = some value ∨ connector.credentials.get? key = some value) :
    value.normalize = value := by
  by_cases isProvider : key = providerKey
  · subst isProvider
    obtain ⟨name, rfl, _⟩ := sent.provider_declared held
    rw [Value.normalize]
  · cases known : provider.knows key with
    | true =>
        exact (Provider.taken_of_accepts sent.accepts (sent.get?_merged held) known isProvider).1
    | false => exact steady.normal key value known held

/-- A steady connector equals itself. -/
theorem beq_of_steady (sent : SentAs provider stored connector)
    (steady : Steady provider connector) :
    (connector.credentials == connector.credentials) = true ∧
      (connector.config == connector.config) = true :=
  ⟨Value.beq_of_mapValues (Value.mapValues_normalize_iff.mpr
      fun _ _ held => sent.normalize_of_steady steady (.inr held)),
    Value.beq_of_mapValues (Value.mapValues_normalize_iff.mpr
      fun _ _ held => sent.normalize_of_steady steady (.inl held))⟩

/-- Where a read that is shown all that is stored leaves the groups equal to what they were, the
connector is steady. -/
theorem steady_of_beq (sent : SentAs provider stored connector)
    (reveals : Reveals connector stored shown)
    (whole : ∀ key ∈ connector.credentials.keys, shown.get? key = stored.get? key)
    (credentials : ((connector.applyRemote shown).credentials == connector.credentials) = true)
    (config : ((connector.applyRemote shown).config == connector.config) = true) :
    Steady provider connector := by
  -- what is stored under a declared key equals what is declared there
  have ofConfig : ∀ {key value}, connector.config.get? key = some value → key ≠ providerKey →
      ∃ other, stored.get? key = some other ∧ other.equal value = true := by
    intro key value held isOther
    obtain ⟨other, found, same⟩ := Value.get?_of_beq config held
    have declared : key ∈ connector.config.keys := by
      rw [Dictionary.mem_keys_iff, held]
      rfl
    rw [sent.get?_config reveals, if_neg isOther, if_pos declared] at found
    exact ⟨other, found, same⟩
  have ofCredentials : ∀ {key value}, connector.credentials.get? key = some value →
      ∃ other, (stored.get? key).or (some value) = some other ∧ other.equal value = true := by
    intro key value held
    obtain ⟨other, found, same⟩ := Value.get?_of_beq credentials held
    have secret : key ∈ connector.credentials.keys := by
      rw [Dictionary.mem_keys_iff, held]
      rfl
    rw [get?_credentials_applyRemote, if_pos secret, whole key secret, held] at found
    exact ⟨other, found, same⟩
  refine ⟨?_, ?_, ?_⟩
  · intro key known isOther held
    obtain ⟨other, found, _⟩ := ofConfig held isOther
    rw [sent.get?_stored (.inl held) isOther, (Provider.taken_of_accepts sent.accepts
      (sent.get?_merged (.inl held)) known isOther).2] at found
    cases found
  · intro name held
    obtain ⟨other, found, same⟩ := ofCredentials held
    rw [sent.get?_stored_provider] at found
    cases found
    rw [Value.equal, beq_iff_eq] at same
    exact same.symm
  · intro key value unknown held
    have isOther : key ≠ providerKey := by
      rintro rfl
      rw [provider.knows_provider] at unknown
      cases unknown
    have isStored : stored.get? key = some value.normalize := by
      rw [sent.get?_stored held isOther, Provider.taken_unknown unknown]
    apply Value.normalize_of_equal
    rcases held with declared | secret
    · obtain ⟨other, found, same⟩ := ofConfig declared isOther
      rw [isStored] at found
      cases found
      exact same
    · obtain ⟨other, found, same⟩ := ofCredentials secret
      rw [isStored] at found
      cases found
      exact same

end SentAs

/-! ## Reads behind a creation -/

theorem create_state {desired state : PaymentsConnector} {remote : Responder σ}
    {patience : Patience} {context : Context} {world : σ} {now : Nat}
    (isState : ((create desired).run remote patience context world now).value.state =
      some state) :
    ∃ id, state = { desired with id := some id } := by
  rcases create_cases desired with
    ⟨diagnostics, _, equal⟩ | ⟨provider, payload, next, _, asks, stops, goesOn⟩
  · rw [equal] at isState
    cases isState
  · rcases whenReady_call_answered asks (by simp) stops goesOn remote patience context world now
      with ⟨failure, _, ended, _⟩ | ⟨id, ended, _⟩
    · rw [ended] at isState
      cases isState
    · rw [ended] at isState
      exact ⟨id, (Option.some.inj isState).symm⟩

theorem read_answered {state : PaymentsConnector} {id : String} (known : state.id = some id)
    {remote : Responder σ} {patience : Patience} {context : Context} {world : σ} {now : Nat}
    {shown : Dictionary Value}
    (answered : ⟨.getConnector id, some (.ok shown)⟩ ∈
      (read state).exchanges remote patience context world now) :
    ((read state).run remote patience context world now).value = .ok (state.applyRemote shown) := by
  obtain ⟨next, asks, stops, goesOn⟩ := read_asks known
  rcases whenReady_call_answered asks (by simp) stops goesOn remote patience context world now with
    ⟨_, _, _, unanswered⟩ | ⟨found, ended, answers⟩
  · exact absurd answered (unanswered shown)
  · rw [ended, (answers shown).mp answered]

/-- A state is read again and again, in any circumstances, and what a read is shown reveals what is
stored. In between the remote side may become any other, but for its memory. -/
inductive Reread (remote : Responder σ) (memory : σ → Memory) (first : PaymentsConnector)
    (start : σ) : PaymentsConnector → σ → Prop where
  | unread : Reread remote memory first start first start
  | read {state next : PaymentsConnector} {world : σ}
      (before : Reread remote memory first start state world) (patience : Patience)
      (context : Context) (now : Nat)
      (reveals : state.ReadReveals remote memory patience context world now)
      (ended : ((read state).run remote patience context world now).value.state = some next) :
      Reread remote memory first start next
        ((read state).run remote patience context world now).world
  | rearranged {state : PaymentsConnector} {world other : σ}
      (before : Reread remote memory first start state world)
      (same : memory other = memory world) : Reread remote memory first start state other

/-- However often a steady connector is read, it stays. -/
theorem Reread.eq_first {remote : Responder σ} {memory : σ → Memory} (shows : remote.Shows memory)
    {provider : Provider} {stored : Dictionary Value} {first : PaymentsConnector} {id : String}
    (sent : SentAs provider stored first) (steady : Steady provider first)
    (known : first.id = some id) {start : σ}
    (held : (memory start).connectors.get? id = some stored) {state : PaymentsConnector} {world : σ}
    (reread : Reread remote memory first start state world) :
    state = first ∧ (memory world).connectors.get? id = some stored := by
  induction reread with
  | unread => exact ⟨rfl, held⟩
  | read before patience context now reveals ended ih =>
      obtain ⟨rfl, stillHeld⟩ := ih
      obtain ⟨same, kept | ⟨shown, exchanged, taken⟩⟩ :=
        read_outcome shows known patience context _ now
      · refine ⟨Option.some.inj (ended.symm.trans kept), ?_⟩
        rw [same]
        exact stillHeld
      · have revealed := reveals id stored shown known stillHeld exchanged
        rw [sent.applyRemote_of_steady steady revealed] at taken
        refine ⟨Option.some.inj (ended.symm.trans taken), ?_⟩
        rw [same]
        exact stillHeld
  | rearranged before same ih =>
      obtain ⟨isFirst, stillHeld⟩ := ih
      refine ⟨isFirst, ?_⟩
      rw [same]
      exact stillHeld

theorem plan_noOp_of_beq {state desired : PaymentsConnector}
    (settled : (resource.plan (some state) desired).action = .noOp) :
    (state.credentials == desired.credentials) = true ∧
      (state.config == desired.config) = true := by
  have unchanged : changedFields state desired = [] := Plan.ofChanges_noOp_iff.mp settled
  simp only [changedFields, List.append_eq_nil_iff, unless_eq_nil_iff] at unchanged
  exact unchanged.1

/-! ## What the stack has given an identifier -/

section Identified

variable {provider : Provider} {stored : Dictionary Value} {desired : PaymentsConnector}

/-- The identifier, which the stack gives, is in neither group. -/
theorem SentAs.identified (sent : SentAs provider stored desired) (id : String) :
    SentAs provider stored { desired with id := some id } :=
  ⟨sent.apart, sent.named, sent.accepts, sent.stored⟩

theorem Steady.identified (steady : Steady provider desired) (id : String) :
    Steady provider { desired with id := some id } :=
  ⟨steady.present, steady.spelled, steady.normal⟩

/-- What a creation ends with is the declaration, sent for a provider and stored. -/
theorem created_sentAs {remote : Responder σ} {memory : σ → Memory} (shows : remote.Shows memory)
    {created : PaymentsConnector} {patience : Patience} {context : Context} {world : σ} {now : Nat}
    (made : ((create desired).run remote patience context world now).value = .ok created) :
    ∃ id stored provider, created = { desired with id := some id } ∧
      (memory ((create desired).run remote patience context world now).world).connectors.get? id =
        some stored ∧
      SentAs provider stored desired := by
  have succeeded :
      ((create desired).run remote patience context world now).value.hasError = false := by
    rw [made]
    rfl
  obtain ⟨state, isState, id, stored, known, held, payload⟩ :=
    PaymentsConnector.created shows desired patience context world now succeeded
  obtain ⟨given, rfl⟩ := create_state isState
  obtain rfl : given = id := Option.some.inj known
  rw [made] at isState
  obtain rfl : created = { desired with id := some given } := Option.some.inj isState
  obtain ⟨provider, sent⟩ := sentAs_of_payload payload
  exact ⟨given, stored, provider, rfl, held, sent.apart, sent.named, sent.accepts, sent.stored⟩

/-- A steady declaration equals what a creation leaves of it, and is planned to stay. -/
theorem SentAs.settled (sent : SentAs provider stored desired) (steady : Steady provider desired)
    (id : String) :
    PaymentsConnector.equal { desired with id := some id } { desired with id := some id } = true ∧
      (resource.plan (some { desired with id := some id }) desired).action = .noOp := by
  obtain ⟨credentials, config⟩ := sent.beq_of_steady steady
  constructor
  · simp [PaymentsConnector.equal, credentials, config]
  · refine Plan.ofChanges_noOp_iff.mpr ?_
    change changedFields desired desired = []
    rw [changedFields, credentials, config, beq_self_eq_true]
    rfl

/-- A read that is shown all that is stored leaves an equal state exactly of a steady declaration,
and is planned to stay exactly then. -/
theorem SentAs.settles_iff (sent : SentAs provider stored desired) {id : String}
    {shown : Dictionary Value} (reveals : Reveals desired stored shown)
    (whole : ∀ key ∈ desired.credentials.keys, shown.get? key = stored.get? key) :
    let created : PaymentsConnector := { desired with id := some id }
    ((created.applyRemote shown).equal created = true ↔ Steady provider desired) ∧
      ((resource.plan (some (created.applyRemote shown)) desired).action = .noOp ↔
        Steady provider desired) := by
  intro created
  have kept : Steady provider desired → created.applyRemote shown = created := fun steady =>
    (sent.identified id).applyRemote_of_steady (steady.identified id)
      ⟨reveals.config, reveals.credentials⟩
  refine ⟨⟨?_, ?_⟩, ⟨?_, ?_⟩⟩
  · intro same
    rw [PaymentsConnector.equal, Bool.and_eq_true, Bool.and_eq_true] at same
    exact sent.steady_of_beq reveals whole same.1.2 same.2
  · intro steady
    rw [kept steady]
    exact (sent.settled steady id).1
  · intro unchanged
    obtain ⟨credentials, config⟩ := plan_noOp_of_beq unchanged
    exact sent.steady_of_beq reveals whole credentials config
  · intro steady
    rw [kept steady]
    exact (sent.settled steady id).2

end Identified

/-- **Reads settle on steady connectors.** Let a connector have been created against a remote side
that stores what it is told, may hide credentials and may show keys that were never declared. If
the declaration is steady then the state stays what it was, however often it is read, and the plan
for it finds nothing to do. A read that is shown all that is stored leaves an equal state exactly
then, and exactly then the plan finds nothing to do. -/
theorem rereads_settle {remote : Responder σ} {memory : σ → Memory} (shows : remote.Shows memory)
    {desired created : PaymentsConnector} {patience : Patience} {context : Context} {world : σ}
    {now : Nat}
    (made : ((create desired).run remote patience context world now).value = .ok created) :
    let start := ((create desired).run remote patience context world now).world
    ∃ id stored provider, created = { desired with id := some id } ∧
      (memory start).connectors.get? id = some stored ∧ SentAs provider stored desired ∧
      (Steady provider desired → ∀ state later, Reread remote memory created start state later →
        state = created ∧ state.equal created = true ∧
          (resource.plan (some state) desired).action = .noOp) ∧
      ∀ (patience : Patience) (context : Context) (world : σ) (now : Nat)
        (shown : Dictionary Value),
        ⟨.getConnector id, some (.ok shown)⟩ ∈
          (read created).exchanges remote patience context world now →
        Reveals desired stored shown →
        (∀ key ∈ desired.credentials.keys, shown.get? key = stored.get? key) →
        ∃ next, ((read created).run remote patience context world now).value = .ok next ∧
          (next.equal created = true ↔ Steady provider desired) ∧
          ((resource.plan (some next) desired).action = .noOp ↔ Steady provider desired) := by
  intro start
  obtain ⟨id, stored, provider, rfl, held, sent⟩ := created_sentAs shows made
  refine ⟨id, stored, provider, rfl, held, sent, ?_, ?_⟩
  · intro steady state later reread
    obtain ⟨rfl, _⟩ :=
      reread.eq_first shows (sent.identified id) (steady.identified id) rfl held
    exact ⟨rfl, sent.settled steady id⟩
  · intro patience context world now shown answered reveals whole
    exact ⟨_, read_answered rfl answered, sent.settles_iff reveals whole⟩

/-- A connector without nulls whose provider is spelled in other letters. -/
def plainStripe : PaymentsConnector :=
  ⟨none, .ofList [("apiKey", .text "key")],
    .ofList [("name", .text "main"), ("provider", .text "stripe")]⟩

theorem plainStripe_steady : Steady .stripe plainStripe := by
  have texts : ∀ key value, plainStripe.config.get? key = some value ∨
      plainStripe.credentials.get? key = some value → ∃ text, value = .text text := by
    rintro key value (held | held)
    · have member : (key, value) ∈ [("name", Value.text "main"), ("provider", .text "stripe")] :=
        Entries.mem_of_find? held
      simp only [List.mem_cons, Prod.mk.injEq, List.not_mem_nil, or_false] at member
      rcases member with ⟨_, rfl⟩ | ⟨_, rfl⟩ <;> exact ⟨_, rfl⟩
    · have member : (key, value) ∈ [("apiKey", Value.text "key")] := Entries.mem_of_find? held
      simp only [List.mem_cons, Prod.mk.injEq, List.not_mem_nil, or_false] at member
      exact ⟨_, member.2⟩
  refine ⟨?_, nofun, ?_⟩
  · intro key _ _ held
    obtain ⟨text, isText⟩ := texts key .null (.inl held)
    cases isText
  · intro key value _ held
    obtain ⟨text, rfl⟩ := texts key value held
    rw [Value.normalize]

/-- The connector is created and read, by a stack that does not show the credential and shows a key
that was never declared, and is planned to stay. -/
theorem rereads_settle_plainStripe :
    let made := (create plainStripe).run withoutApiKey .standard .free .empty 0
    let state : PaymentsConnector := { plainStripe with id := some "conn-1" }
    let seen := (read state).run withoutApiKey .standard .free made.world 0
    made.value = .ok state ∧ seen.value.state = some state ∧
      (resource.plan (some state) plainStripe).action = .noOp := by
  intro made state seen
  have shows : withoutApiKey.Shows fun memory => memory := Memory.remote_keeps.veiled _
  have isMade : made.value = .ok state := rfl
  have isSeen : seen.value.state = some state := rfl
  obtain ⟨id, stored, provider, created, held, sent, stays, _⟩ := rereads_settle shows isMade
  obtain rfl : provider = .stripe := Except.ok.inj (sent.named.symm.trans rfl)
  have reveals : state.ReadReveals withoutApiKey (fun memory => memory) .standard .free made.world
      0 := by
    intro id stored shown known held exchanged
    have exchanges : (read state).exchanges withoutApiKey .standard .free made.world 0 =
        [⟨.listModules, some (.ok (Memory.healthyListing Memory.modules))⟩,
          ⟨.getConnector "conn-1", some (.ok (.ofList [("internalFlag", .bool true),
            ("name", .text "main"), ("provider", .text "Stripe")]))⟩] := rfl
    rw [exchanges] at exchanged
    cases exchanged with
    | tail _ last =>
        cases last with
        | head =>
            have isStored : some (Dictionary.ofList [("apiKey", .text "key"),
                ("name", .text "main"), ("provider", .text "Stripe")]) = some stored := held
            cases isStored
            have configKeys : state.config.keys = ["name", "provider"] := rfl
            have credentialKeys : state.credentials.keys = ["apiKey"] := rfl
            constructor
            · rw [configKeys]
              simp only [List.mem_cons, List.not_mem_nil, or_false]
              rintro key (rfl | rfl) <;> rfl
            · rw [credentialKeys]
              simp only [List.mem_cons, List.not_mem_nil, or_false]
              rintro key rfl
              exact .inr rfl
        | tail _ last => cases last
  have reread := Reread.unread.read .standard .free 0 reveals isSeen
  obtain ⟨_, _, unchanged⟩ := stays plainStripe_steady state seen.world reread
  exact ⟨isMade, isSeen, unchanged⟩

/-- A connector whose configuration declares a null. -/
def sizeless : PaymentsConnector :=
  ⟨none, .ofList [("apiKey", .text "key")],
    .ofList [("name", .text "main"), ("pageSize", .null), ("provider", .text "Stripe")]⟩

/-- A connector whose provider is declared among the credentials, in other letters. -/
def secretive : PaymentsConnector :=
  ⟨none, .ofList [("apiKey", .text "key"), ("provider", .text "stripe")],
    .ofList [("name", .text "main")]⟩

/-- A stack that shows all that it stores makes a read forget a null, and respell a provider, and
either is planned to be changed. -/
theorem reads_unsettle :
    (∃ created next, ((create sizeless).run Memory.remote .standard .free .empty 0).value =
        .ok created ∧
      ((read created).run Memory.remote .standard .free
        ((create sizeless).run Memory.remote .standard .free .empty 0).world 0).value = .ok next ∧
      next.equal created = false ∧ next.config.get? "pageSize" = none ∧
      (resource.plan (some next) sizeless).action = .update) ∧
    ∃ created next, ((create secretive).run Memory.remote .standard .free .empty 0).value =
        .ok created ∧
      ((read created).run Memory.remote .standard .free
        ((create secretive).run Memory.remote .standard .free .empty 0).world 0).value = .ok next ∧
      next.equal created = false ∧ next.credentials.get? "provider" = some (.text "Stripe") ∧
      (resource.plan (some next) secretive).action = .update :=
  ⟨⟨_, _, rfl, rfl, rfl, rfl, rfl⟩, ⟨_, _, rfl, rfl, rfl, rfl, rfl⟩⟩

end Resource.PaymentsConnector

end Converge
