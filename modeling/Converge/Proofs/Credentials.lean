import Converge.Credentials

/-!
# Where credentials come from

What a configuration says counts where it is a text that is not empty, and a default stands in
where it is not. A secret is supplied by a variable or by an entry of the configuration. The
variable is asked first, and one that is set to nothing hides the entry behind it: then nothing
counts as supplied.
-/

namespace Converge

namespace Config

theorem given_eq_some_iff {value : Option String} {text : String} :
    given value = some text ↔ value = some text ∧ text ≠ "" := by
  simp [given, Option.filter_eq_some_iff]

theorem given_eq_none_iff {value : Option String} :
    given value = none ↔ ∀ text, value = some text → text = "" := by
  simp [given, Option.filter_eq_none_iff]

/-! ## Secrets -/

/-- What is supplied for a secret. -/
structure Supply where
  /-- The value of the variable that the configuration names. -/
  named : Option String
  /-- The entry of the configuration. -/
  entry : Option String

def Cloud.supply (cloud : Cloud) (environment : Environment) : Supply :=
  ⟨cloud.clientSecretVariable.bind environment, cloud.clientSecret⟩

def Access.supply (access : Access) (environment : Environment) : Supply :=
  ⟨access.tokenVariable.bind environment, access.token⟩

namespace Supply

variable {supply : Supply} {text : String}

/-- The variable or the entry is set to something. -/
def IsSet (supply : Supply) : Prop :=
  (∃ text, supply.named = some text ∧ text ≠ "") ∨ ∃ text, supply.entry = some text ∧ text ≠ ""

/-- The first of the variable and the entry that is set to something. -/
inductive First (supply : Supply) (text : String) : Prop where
  | named (isSet : supply.named = some text) (nonempty : text ≠ "")
  | entry (unset : ∀ other, supply.named = some other → other = "")
      (isSet : supply.entry = some text) (nonempty : text ≠ "")

/-- The variable is set to nothing, and the entry behind it is set to something. -/
def Hidden (supply : Supply) : Prop :=
  supply.named = some "" ∧ ∃ text, supply.entry = some text ∧ text ≠ ""

theorem isSet_iff : supply.IsSet ↔ ∃ text, supply.First text := by
  constructor
  · intro isSet
    by_cases found : ∃ text, supply.named = some text ∧ text ≠ ""
    · obtain ⟨text, isNamed, nonempty⟩ := found
      exact ⟨text, .named isNamed nonempty⟩
    · obtain ⟨text, isEntry, nonempty⟩ := isSet.resolve_left found
      have unset : ∀ other, supply.named = some other → other = "" := by
        intro other isNamed
        by_cases empty : other = ""
        · exact empty
        · exact absurd ⟨other, isNamed, empty⟩ found
      exact ⟨text, .entry unset isEntry nonempty⟩
  · intro supplied
    obtain ⟨text, first⟩ := supplied
    cases first with
    | named isSet nonempty => exact .inl ⟨text, isSet, nonempty⟩
    | entry _ isSet nonempty => exact .inr ⟨text, isSet, nonempty⟩

theorem given_or_eq_some_iff :
    given (supply.named.or supply.entry) = some text ↔ supply.First text ∧ ¬ supply.Hidden := by
  rw [given_eq_some_iff]
  constructor
  · intro found
    obtain ⟨isFirst, nonempty⟩ := found
    cases isNamed : supply.named with
    | none =>
        rw [isNamed, Option.none_or] at isFirst
        exact ⟨.entry (by simp [isNamed]) isFirst nonempty, by simp [Hidden, isNamed]⟩
    | some value =>
        rw [isNamed, Option.some_or] at isFirst
        obtain rfl := Option.some.inj isFirst
        exact ⟨.named isNamed nonempty, by simp [Hidden, isNamed, nonempty]⟩
  · intro found
    obtain ⟨first, visible⟩ := found
    refine ⟨?_, ?_⟩
    · cases first with
      | named isSet => rw [isSet, Option.some_or]
      | entry unset isSet nonempty =>
          cases isNamed : supply.named with
          | none => rw [Option.none_or, isSet]
          | some value =>
              obtain rfl := unset value isNamed
              exact absurd ⟨isNamed, text, isSet, nonempty⟩ visible
    · cases first with
      | named _ nonempty | entry _ _ nonempty => exact nonempty

theorem given_or_eq_none_iff :
    given (supply.named.or supply.entry) = none ↔ ¬ supply.IsSet ∨ supply.Hidden := by
  rw [Option.eq_none_iff_forall_ne_some, isSet_iff]
  constructor
  · intro absent
    by_cases hidden : supply.Hidden
    · exact .inr hidden
    · refine .inl fun supplied => ?_
      obtain ⟨text, first⟩ := supplied
      exact absent text (given_or_eq_some_iff.mpr ⟨first, hidden⟩)
  · intro absent text found
    obtain ⟨first, visible⟩ := given_or_eq_some_iff.mp found
    exact absent.elim (fun none => none ⟨text, first⟩) visible

end Supply

end Config

namespace Credentials

open Config (given)

variable {cloud : Config.Cloud} {defaults : Defaults} {environment : Environment}
  {credentials : Credentials}

theorem pick_of_given {own fallback : Option String} {text : String}
    (isGiven : given own = some text) : pick own fallback = some text := by
  rw [pick, isGiven, Option.some_or]

theorem pick_of_not_given {own fallback : Option String} (absent : given own = none) :
    pick own fallback = fallback := by
  rw [pick, absent, Option.none_or]

theorem pick_eq_none_iff {own fallback : Option String} :
    pick own fallback = none ↔ given own = none ∧ fallback = none := Option.or_eq_none_iff

/-! ## Entries -/

/-- An entry that credentials cannot do without. -/
inductive Entry where
  | clientId
  | clientSecret
deriving DecidableEq, Repr

theorem Entry.forall_iff {property : Entry → Prop} :
    (∀ entry, property entry) ↔ property .clientId ∧ property .clientSecret := by
  constructor
  · exact fun every => ⟨every .clientId, every .clientSecret⟩
  · rintro ⟨isClient, isSecret⟩ entry
    cases entry with
    | clientId => exact isClient
    | clientSecret => exact isSecret

/-- The name of the entry in messages. -/
def Entry.subject : Entry → String
  | .clientId => "cloud.client_id"
  | .clientSecret => "cloud.client_secret"

/-- What the configuration says about an entry. -/
def Entry.configured (cloud : Config.Cloud) (environment : Environment) :
    Entry → Option String
  | .clientId => cloud.clientId
  | .clientSecret => cloud.secret environment

def Defaults.get (defaults : Defaults) : Entry → Option String
  | .clientId => defaults.clientId
  | .clientSecret => defaults.clientSecret

def Defaults.set (defaults : Defaults) (value : Option String) : Entry → Defaults
  | .clientId => { defaults with clientId := value }
  | .clientSecret => { defaults with clientSecret := value }

def get (credentials : Credentials) : Entry → String
  | .clientId => credentials.clientId
  | .clientSecret => credentials.clientSecret

/-- What the configuration says about an entry, or else the defaults. -/
def picked (cloud : Config.Cloud) (defaults : Defaults) (environment : Environment)
    (entry : Entry) : Option String :=
  pick (entry.configured cloud environment) (defaults.get entry)

@[simp] theorem Defaults.get_set (defaults : Defaults) (value : Option String) (entry : Entry) :
    (defaults.set value entry).get entry = value := by
  cases entry <;> rfl

theorem Defaults.get_set_of_ne (defaults : Defaults) (value : Option String)
    {entry other : Entry} (different : other ≠ entry) :
    (defaults.set value entry).get other = defaults.get other := by
  cases entry with
  | clientId =>
      cases other with
      | clientId => exact absurd rfl different
      | clientSecret => rfl
  | clientSecret =>
      cases other with
      | clientId => rfl
      | clientSecret => exact absurd rfl different

theorem Defaults.endpoint_set (defaults : Defaults) (value : Option String) (entry : Entry) :
    (defaults.set value entry).endpoint = defaults.endpoint := by
  cases entry <;> rfl

/-! ## Resolution -/

theorem resolve_of_picks
    (picks : ∀ entry, picked cloud defaults environment entry = some (credentials.get entry))
    (endpoint : credentials.endpoint =
      (pick cloud.endpoint defaults.endpoint).getD standardEndpoint) :
    resolve cloud defaults environment =
      if credentials.isOrganizationClient then .ok credentials else .error .foreignClient := by
  have isClient : pick cloud.clientId defaults.clientId = some credentials.clientId :=
    picks .clientId
  have isSecret : pick (cloud.secret environment) defaults.clientSecret =
      some credentials.clientSecret := picks .clientSecret
  rw [resolve, isClient, isSecret, ← endpoint]
  rfl

/-- How the resolution of credentials ends. -/
inductive Resolves (cloud : Config.Cloud) (defaults : Defaults) (environment : Environment) :
    Except Config.Error Credentials → Prop where
  | noClientId (absent : picked cloud defaults environment .clientId = none) :
      Resolves cloud defaults environment (.error .missingClientId)
  | noClientSecret (present : picked cloud defaults environment .clientId ≠ none)
      (absent : picked cloud defaults environment .clientSecret = none) :
      Resolves cloud defaults environment (.error .missingClientSecret)
  | foreign {credentials : Credentials}
      (picks : ∀ entry, picked cloud defaults environment entry = some (credentials.get entry))
      (isForeign : credentials.isOrganizationClient = false) :
      Resolves cloud defaults environment (.error .foreignClient)
  | resolved {credentials : Credentials}
      (picks : ∀ entry, picked cloud defaults environment entry = some (credentials.get entry))
      (endpoint : credentials.endpoint =
        (pick cloud.endpoint defaults.endpoint).getD standardEndpoint)
      (belongs : credentials.isOrganizationClient = true) :
      Resolves cloud defaults environment (.ok credentials)

theorem resolves (cloud : Config.Cloud) (defaults : Defaults) (environment : Environment) :
    Resolves cloud defaults environment (resolve cloud defaults environment) := by
  cases isClient : picked cloud defaults environment .clientId with
  | none =>
      have absent : pick cloud.clientId defaults.clientId = none := isClient
      rw [resolve, absent]
      exact .noClientId isClient
  | some client =>
      cases isSecret : picked cloud defaults environment .clientSecret with
      | none =>
          have found : pick cloud.clientId defaults.clientId = some client := isClient
          have absent : pick (cloud.secret environment) defaults.clientSecret = none := isSecret
          rw [resolve, found, absent]
          exact .noClientSecret (by simp [isClient]) isSecret
      | some secret =>
          let credentials : Credentials :=
            ⟨client, secret, (pick cloud.endpoint defaults.endpoint).getD standardEndpoint⟩
          have picks : ∀ entry,
              picked cloud defaults environment entry = some (credentials.get entry) :=
            Entry.forall_iff.mpr ⟨isClient, isSecret⟩
          rw [resolve_of_picks picks rfl]
          cases belongs : credentials.isOrganizationClient with
          | false => exact .foreign picks belongs
          | true => exact .resolved picks rfl belongs

theorem resolve_eq_ok_iff :
    resolve cloud defaults environment = .ok credentials ↔
      (∀ entry, picked cloud defaults environment entry = some (credentials.get entry)) ∧
        credentials.endpoint = (pick cloud.endpoint defaults.endpoint).getD standardEndpoint ∧
          credentials.isOrganizationClient = true := by
  constructor
  · intro resolved
    have outcome := resolves cloud defaults environment
    rw [resolved] at outcome
    cases outcome with
    | resolved picks endpoint belongs => exact ⟨picks, endpoint, belongs⟩
  · intro expected
    obtain ⟨picks, endpoint, belongs⟩ := expected
    rw [resolve_of_picks picks endpoint, if_pos belongs]

/-- Once each entry has a value, only a client of no organization is refused. -/
theorem complete_iff :
    (∀ entry, picked cloud defaults environment entry ≠ none) ↔
      (∃ credentials, resolve cloud defaults environment = .ok credentials) ∨
        resolve cloud defaults environment = .error .foreignClient := by
  have outcome := resolves cloud defaults environment
  generalize resolve cloud defaults environment = result at outcome
  cases outcome with
  | noClientId absent | noClientSecret _ absent =>
      exact iff_of_false (fun complete => complete _ absent) (by simp)
  | foreign picks _ | resolved picks _ _ =>
      exact iff_of_true (fun entry => by simp [picks entry]) (by simp)

theorem resolve_congr {other : Defaults}
    (same : ∀ entry, picked cloud other environment entry = picked cloud defaults environment entry)
    (endpoint : other.endpoint = defaults.endpoint) :
    resolve cloud other environment = resolve cloud defaults environment := by
  have sameClient : pick cloud.clientId other.clientId = pick cloud.clientId defaults.clientId :=
    same .clientId
  have sameSecret : pick (cloud.secret environment) other.clientSecret =
      pick (cloud.secret environment) defaults.clientSecret := same .clientSecret
  rw [resolve, resolve, sameClient, sameSecret, endpoint]

/-- The clients of organizations carry the mark in front. -/
theorem isOrganizationClient_iff :
    credentials.isOrganizationClient = true ↔
      ∃ rest, credentials.clientId = Config.organizationMark ++ rest := by
  rw [isOrganizationClient, String.startsWith_string_iff]
  constructor
  · intro found
    obtain ⟨rest, split⟩ := found
    exact ⟨String.ofList rest, String.toList_inj.mp (by simp [← split])⟩
  · intro found
    obtain ⟨rest, split⟩ := found
    exact ⟨rest.toList, by rw [split, String.toList_append]⟩

/-- Credentials come from a client of an organization and any secret. -/
theorem exists_resolved_iff :
    (∃ credentials, resolve cloud defaults environment = .ok credentials) ↔
      (∃ rest, picked cloud defaults environment .clientId =
        some (Config.organizationMark ++ rest)) ∧
        picked cloud defaults environment .clientSecret ≠ none := by
  constructor
  · rintro ⟨credentials, resolved⟩
    obtain ⟨picks, -, belongs⟩ := resolve_eq_ok_iff.mp resolved
    obtain ⟨rest, isClient⟩ := isOrganizationClient_iff.mp belongs
    exact ⟨⟨rest, isClient ▸ picks .clientId⟩, by simp [picks .clientSecret]⟩
  · rintro ⟨⟨rest, isClient⟩, present⟩
    obtain ⟨secret, isSecret⟩ := Option.ne_none_iff_exists'.mp present
    refine ⟨⟨Config.organizationMark ++ rest, secret, _⟩, resolve_eq_ok_iff.mpr ⟨?_, rfl, ?_⟩⟩
    · exact Entry.forall_iff.mpr ⟨isClient, isSecret⟩
    · exact isOrganizationClient_iff.mpr ⟨rest, rfl⟩

theorem resolve_ne_missingClientSecret
    (present : picked cloud defaults environment .clientSecret ≠ none) :
    resolve cloud defaults environment ≠ .error .missingClientSecret := by
  intro failed
  have outcome := resolves cloud defaults environment
  rw [failed] at outcome
  cases outcome with
  | noClientSecret _ absent => exact present absent

/-! ## Origins -/

/-- The value of an entry is the default's: it is the default, and another default in its place
is taken instead. -/
structure Entry.TakesDefault (cloud : Config.Cloud) (defaults : Defaults)
    (environment : Environment) (credentials : Credentials) (entry : Entry) : Prop where
  isDefault : defaults.get entry = some (credentials.get entry)
  follows : ∀ other found,
    resolve cloud (defaults.set (some other) entry) environment = .ok found →
      found.get entry = other

/-- The default of an entry is never looked at: with any other, and with none, the resolution ends
in the same way. -/
def Entry.IgnoresDefault (cloud : Config.Cloud) (defaults : Defaults)
    (environment : Environment) (entry : Entry) : Prop :=
  ∀ other : Option String,
    resolve cloud (defaults.set other entry) environment = resolve cloud defaults environment

theorem get_of_given {entry : Entry} {own : String}
    (isGiven : given (entry.configured cloud environment) = some own)
    (resolved : resolve cloud defaults environment = .ok credentials) :
    credentials.get entry = own := by
  obtain ⟨picks, -, -⟩ := resolve_eq_ok_iff.mp resolved
  have taken := picks entry
  rw [picked, pick_of_given isGiven] at taken
  exact (Option.some.inj taken).symm

theorem ignoresDefault_of_given {entry : Entry} {own : String}
    (isGiven : given (entry.configured cloud environment) = some own) :
    entry.IgnoresDefault cloud defaults environment := by
  intro other
  refine resolve_congr (fun one => ?_) (defaults.endpoint_set other entry)
  by_cases isEntry : one = entry
  · rw [isEntry, picked, picked, pick_of_given isGiven, pick_of_given isGiven]
  · rw [picked, picked, defaults.get_set_of_ne other isEntry]

/-- Resolved credentials take the default of an entry that the configuration does not give, and
of no other. -/
theorem takesDefault_iff {entry : Entry}
    (resolved : resolve cloud defaults environment = .ok credentials) :
    entry.TakesDefault cloud defaults environment credentials ↔
      given (entry.configured cloud environment) = none := by
  obtain ⟨picks, -, -⟩ := resolve_eq_ok_iff.mp resolved
  cases isGiven : given (entry.configured cloud environment) with
  | none =>
      refine iff_of_true ⟨?_, fun other found foundOther => ?_⟩ rfl
      · rw [← picks entry, picked, pick_of_not_given isGiven]
      · obtain ⟨others, -, -⟩ := resolve_eq_ok_iff.mp foundOther
        have taken := others entry
        rw [picked, pick_of_not_given isGiven, Defaults.get_set] at taken
        exact (Option.some.inj taken).symm
  | some own =>
      -- the empty text in the default's place would not be taken
      refine iff_of_false (fun takes => ?_) nofun
      have empty : credentials.get entry = "" :=
        takes.follows "" credentials ((ignoresDefault_of_given isGiven (some "")).trans resolved)
      have kept : credentials.get entry = own := get_of_given isGiven resolved
      exact (Config.given_eq_some_iff.mp isGiven).2 (kept.symm.trans empty)

end Credentials

end Converge
