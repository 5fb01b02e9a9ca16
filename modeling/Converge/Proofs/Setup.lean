import Converge.Proofs.Credentials
import Converge.Setup

/-!
# Setups that connect

What is reported about a setup without the network is all that can keep it from connecting: a
setup without errors connects, and one that connects has no errors. A default that stands in for
an entry of the credentials is no error; it is told in a warning, and exactly there the resolved
credentials take the default.
-/

namespace Converge

open Config (given)
open Credentials (Entry picked)

/-- The warning that a default stands in for an entry. -/
def Credentials.Entry.defaulted (entry : Entry) : Diagnostic :=
  (Diagnostic.warning .invalidConfiguration "DEFAULT_CREDENTIAL"
    (entry.subject ++ " is not set; using the value from the environment")).withSubject
      entry.subject

/-- The error that nothing gives an entry. -/
def Credentials.Entry.missing (entry : Entry) : Diagnostic :=
  .invalid entry.subject (entry.subject ++ " is not set in the configuration or the environment")

theorem Credentials.Entry.subject_inj {entry other : Entry} (same : entry.subject = other.subject) :
    entry = other := by
  revert same
  cases entry <;> cases other <;> decide

namespace Setup

variable {setup : Setup} {entry : Entry} {diagnostic : Diagnostic}

/-- What the configuration of a setup says about an entry. -/
def configured (setup : Setup) (entry : Entry) : Option String :=
  entry.configured setup.config.cloud setup.environment

/-! ## Findings -/

/-- What there is to report about a setup. -/
inductive Finds (setup : Setup) : Diagnostic → Prop where
  | defaulted {entry : Entry} {default : String} (absent : given (setup.configured entry) = none)
      (isSet : setup.defaults.get entry = some default) : Finds setup entry.defaulted
  | missing {entry : Entry} (absent : given (setup.configured entry) = none)
      (isUnset : setup.defaults.get entry = none) : Finds setup entry.missing
  | foreign (refused : setup.credentials = .error (.config .foreignClient)) :
      Finds setup (.invalid "cloud.client_id" (Error.message (.config .foreignClient)))
  | noUri (isUnset : setup.config.stack.uri = "") :
      Finds setup (.invalid "stack.uri" Error.missingUri.message)

/-- What is reported about an entry. -/
def report (setup : Setup) (entry : Entry) : Diagnostics :=
  reportEntry entry.subject (given (setup.configured entry)).isSome
    (setup.defaults.get entry).isSome

theorem mem_report_iff : diagnostic ∈ setup.report entry ↔
    given (setup.configured entry) = none ∧
      ((∃ default, setup.defaults.get entry = some default ∧ diagnostic = entry.defaulted) ∨
        setup.defaults.get entry = none ∧ diagnostic = entry.missing) := by
  rw [report, reportEntry]
  cases given (setup.configured entry) with
  | some own => simp
  | none =>
      cases setup.defaults.get entry with
      | some default => simp [Entry.defaulted]
      | none => simp [Entry.missing]

/-- What is reported about both entries. -/
def reportEntries (setup : Setup) : Diagnostics :=
  setup.report .clientId ++ setup.report .clientSecret

theorem mem_reportEntries_iff :
    diagnostic ∈ setup.reportEntries ↔ ∃ entry, diagnostic ∈ setup.report entry := by
  rw [reportEntries, List.mem_append]
  constructor
  · rintro (isClient | isSecret)
    · exact ⟨_, isClient⟩
    · exact ⟨_, isSecret⟩
  · rintro ⟨entry, reported⟩
    cases entry with
    | clientId => exact .inl reported
    | clientSecret => exact .inr reported

/-! ## Credentials -/

theorem credentials_eq_ok_iff {credentials : Credentials} :
    setup.credentials = .ok credentials ↔
      Credentials.resolve setup.config.cloud setup.defaults setup.environment =
        .ok credentials := by
  rw [Setup.credentials]
  cases Credentials.resolve setup.config.cloud setup.defaults setup.environment with
  | ok found => simp
  | error error => simp

theorem credentials_eq_error_iff {error : Config.Error} :
    setup.credentials = .error (.config error) ↔
      Credentials.resolve setup.config.cloud setup.defaults setup.environment =
        .error error := by
  rw [Setup.credentials]
  cases Credentials.resolve setup.config.cloud setup.defaults setup.environment with
  | ok found => simp
  | error found => simp

/-- Each entry has a value, the configuration's or the default. -/
def Complete (setup : Setup) : Prop :=
  ∀ entry, picked setup.config.cloud setup.defaults setup.environment entry ≠ none

theorem complete_iff :
    setup.Complete ↔ (∃ credentials, setup.credentials = .ok credentials) ∨
      setup.credentials = .error (.config .foreignClient) := by
  simp only [credentials_eq_ok_iff, credentials_eq_error_iff]
  exact Credentials.complete_iff

theorem complete_iff_defaults :
    setup.Complete ↔
      ∀ entry, given (setup.configured entry) = none → setup.defaults.get entry ≠ none := by
  refine forall_congr' fun entry => ?_
  rw [picked, Ne, Credentials.pick_eq_none_iff, not_and]
  rfl

/-- An entry without a value is the only error among what is reported about entries. -/
theorem hasError_reportEntries_iff : setup.reportEntries.hasError = false ↔ setup.Complete := by
  rw [Diagnostics.hasError, List.any_eq_false, complete_iff_defaults]
  constructor
  · intro blameless entry absent isUnset
    have reported : entry.missing ∈ setup.reportEntries :=
      mem_reportEntries_iff.mpr ⟨entry, mem_report_iff.mpr ⟨absent, .inr ⟨isUnset, rfl⟩⟩⟩
    exact blameless entry.missing reported rfl
  · intro defaults diagnostic reported
    obtain ⟨entry, inReport⟩ := mem_reportEntries_iff.mp reported
    obtain ⟨absent, told⟩ := mem_report_iff.mp inReport
    cases told with
    | inl defaulted =>
        obtain ⟨default, _, rfl⟩ := defaulted
        exact nofun
    | inr missing => exact absurd missing.1 (defaults entry absent)

theorem reportCredentials_eq (setup : Setup) :
    setup.reportCredentials =
      if setup.reportEntries.hasError then setup.reportEntries
      else match setup.credentials with
        | .ok _ => setup.reportEntries
        | .error error => setup.reportEntries ++ [.invalid "cloud.client_id" error.message] := rfl

/-- The resolution, which is tried only if no entry is missing, adds to what is reported about the
entries that the client is foreign, and nothing else. -/
theorem mem_reportCredentials_iff :
    diagnostic ∈ setup.reportCredentials ↔
      diagnostic ∈ setup.reportEntries ∨
        setup.credentials = .error (.config .foreignClient) ∧
          diagnostic = .invalid "cloud.client_id" (Error.message (.config .foreignClient)) := by
  rw [reportCredentials_eq]
  cases blamed : setup.reportEntries.hasError with
  | true =>
      -- an entry without a value ends the resolution before anyone looks at the client
      have incomplete : ¬ setup.Complete := by simp [← hasError_reportEntries_iff, blamed]
      have notForeign : setup.credentials ≠ .error (.config .foreignClient) :=
        fun refused => incomplete (complete_iff.mpr (.inr refused))
      simp [notForeign]
  | false =>
      cases complete_iff.mp (hasError_reportEntries_iff.mp blamed) with
      | inl resolved =>
          obtain ⟨credentials, resolved⟩ := resolved
          simp [resolved]
      | inr refused => simp [refused]

/-- What is reported about a setup is all that there is to report, and nothing else. -/
theorem mem_validate_iff : diagnostic ∈ setup.validate ↔ setup.Finds diagnostic := by
  rw [validate, List.mem_append, mem_reportCredentials_iff, mem_reportEntries_iff]
  constructor
  · rintro ((⟨entry, reported⟩ | ⟨refused, rfl⟩) | noUri)
    · obtain ⟨absent, told⟩ := mem_report_iff.mp reported
      cases told with
      | inl defaulted =>
          obtain ⟨default, isSet, rfl⟩ := defaulted
          exact .defaulted absent isSet
      | inr missing =>
          obtain ⟨isUnset, rfl⟩ := missing
          exact .missing absent isUnset
    · exact .foreign refused
    · split at noUri
      next isEmpty =>
        obtain rfl := List.mem_singleton.mp noUri
        exact .noUri (String.isEmpty_iff.mp isEmpty)
      next => exact nomatch noUri
  · intro found
    cases found with
    | defaulted absent isSet =>
        exact .inl (.inl ⟨_, mem_report_iff.mpr ⟨absent, .inl ⟨_, isSet, rfl⟩⟩⟩)
    | missing absent isUnset =>
        exact .inl (.inl ⟨_, mem_report_iff.mpr ⟨absent, .inr ⟨isUnset, rfl⟩⟩⟩)
    | foreign refused => exact .inl (.inr ⟨refused, rfl⟩)
    | noUri isUnset =>
        rw [if_pos (String.isEmpty_iff.mpr isUnset)]
        exact .inr (List.mem_singleton.mpr rfl)

/-! ## Checking and connecting -/

theorem validate_hasError_iff :
    setup.validate.hasError = false ↔
      (∃ credentials, setup.credentials = .ok credentials) ∧ setup.config.stack.uri ≠ "" := by
  rw [Diagnostics.hasError, List.any_eq_false]
  constructor
  · intro blameless
    have unfound : ∀ {diagnostic}, diagnostic.isError = true → ¬ setup.Finds diagnostic :=
      fun isError found => blameless _ (mem_validate_iff.mpr found) isError
    have complete : setup.Complete :=
      complete_iff_defaults.mpr fun _ absent isUnset => unfound rfl (.missing absent isUnset)
    refine ⟨?_, fun isUnset => unfound rfl (.noUri isUnset)⟩
    exact (complete_iff.mp complete).resolve_right fun refused => unfound rfl (.foreign refused)
  · rintro ⟨⟨credentials, resolved⟩, isSet⟩ diagnostic reported
    have complete : setup.Complete := complete_iff.mpr (.inl ⟨credentials, resolved⟩)
    cases mem_validate_iff.mp reported with
    | defaulted _ _ => exact nofun
    | missing absent isUnset => exact absurd isUnset (complete_iff_defaults.mp complete _ absent)
    | foreign refused => exact nomatch refused.symm.trans resolved
    | noUri isUnset => exact absurd isUnset isSet

theorem connect_eq (setup : Setup) (trace : Nat → String)
    (token : Nat → Except Failure.Cause String) :
    setup.connect trace token =
      match setup.credentials with
      | .error error => .error error
      | .ok _ =>
        if setup.config.stack.uri.isEmpty then .error .missingUri
        else if Http.isHeaderValue setup.config.http.sender then
          .ok ⟨⟨Http.Client.withoutSlashes setup.config.stack.uri, setup.config.http.sender,
            [.stamp trace, .bearer token]⟩, setup.config.health.patience⟩
        else .error .client := by
  simp only [connect, Http.Client.build?]
  cases setup.credentials with
  | error error => rfl
  | ok credentials =>
      cases setup.config.stack.uri.isEmpty with
      | true => rfl
      | false => cases Http.isHeaderValue setup.config.http.sender <;> rfl

theorem connects_iff {trace : Nat → String} {token : Nat → Except Failure.Cause String} :
    (∃ connection, setup.connect trace token = .ok connection) ↔
      ((∃ credentials, setup.credentials = .ok credentials) ∧ setup.config.stack.uri ≠ "") ∧
        Http.isHeaderValue setup.config.http.sender = true := by
  rw [connect_eq]
  cases setup.credentials with
  | error error => simp
  | ok credentials =>
      cases empty : setup.config.stack.uri.isEmpty with
      | true =>
          have isUnset : setup.config.stack.uri = "" := String.isEmpty_iff.mp empty
          simp [isUnset]
      | false =>
          have isSet : setup.config.stack.uri ≠ "" := by simpa using empty
          cases Http.isHeaderValue setup.config.http.sender with
          | true => simp [isSet]
          | false => simp

/-- A warning tells that a default stands in for an entry. -/
def Warns (setup : Setup) (entry : Entry) : Prop :=
  ∃ diagnostic ∈ setup.validate, diagnostic.severity = .warning ∧
    diagnostic.code = "DEFAULT_CREDENTIAL" ∧ diagnostic.subject = some entry.subject

theorem warns_iff :
    setup.Warns entry ↔
      given (setup.configured entry) = none ∧ setup.defaults.get entry ≠ none := by
  constructor
  · rintro ⟨diagnostic, reported, isWarning, isCode, isSubject⟩
    cases mem_validate_iff.mp reported with
    | defaulted absent isSet =>
        obtain rfl := Credentials.Entry.subject_inj (Option.some.inj isSubject)
        exact ⟨absent, by simp [isSet]⟩
    | missing _ _ | foreign _ | noUri _ => exact nomatch isWarning
  · rintro ⟨absent, isSet⟩
    obtain ⟨default, isSet⟩ := Option.ne_none_iff_exists'.mp isSet
    exact ⟨entry.defaulted, mem_validate_iff.mpr (.defaulted absent isSet), rfl, rfl, rfl⟩

/-- **Checking decides connecting.** Nothing that is reported about a setup is an error exactly if
its credentials resolve and its address is set, which is exactly if it connects, whatever the
sources of traces and tokens, as long as the client's name can stand in a header. A default is
warned of exactly if it is set, be it to nothing, and the configuration does not give its entry;
then, and only then, resolved credentials take it. Their client belongs to an organization. -/
theorem validate_decides_connect (setup : Setup) :
    (setup.validate.hasError = false ↔
      (∃ credentials, setup.credentials = .ok credentials) ∧ setup.config.stack.uri ≠ "") ∧
    (∀ trace token, Http.isHeaderValue setup.config.http.sender = true →
      (setup.validate.hasError = false ↔
        ∃ connection, setup.connect trace token = .ok connection)) ∧
    (∀ entry, setup.Warns entry ↔ setup.defaults.get entry ≠ none ∧
      ∀ text, setup.configured entry = some text → text = "") ∧
    ∀ credentials, setup.credentials = .ok credentials →
      (∀ entry, setup.Warns entry ↔ entry.TakesDefault setup.config.cloud setup.defaults
        setup.environment credentials) ∧
      ∃ rest, credentials.clientId = "organization_" ++ rest := by
  refine ⟨validate_hasError_iff, ?_, ?_, ?_⟩
  · intro trace token acceptable
    rw [validate_hasError_iff, connects_iff, and_iff_left acceptable]
  · intro entry
    rw [warns_iff, Config.given_eq_none_iff, and_comm]
  · intro credentials succeeded
    have resolved := credentials_eq_ok_iff.mp succeeded
    obtain ⟨-, -, belongs⟩ := Credentials.resolve_eq_ok_iff.mp resolved
    have complete : setup.Complete := complete_iff.mpr (.inl ⟨credentials, succeeded⟩)
    refine ⟨fun entry => ?_, Credentials.isOrganizationClient_iff.mp belongs⟩
    rw [warns_iff, Credentials.takesDefault_iff resolved]
    exact and_iff_left_of_imp (complete_iff_defaults.mp complete entry)

/-- A setup that gives an empty client and no secret, and takes both from defaults of which the
secret is empty too. -/
def sparse : Setup :=
  ⟨{ Config.standard with
      stack := ⟨"abcd", "org", "https://stack", []⟩
      cloud := ⟨some "", none, some "SECRET", none⟩ },
    ⟨some "organization_default", some "", none⟩, fun _ => none⟩

/-- The empty default of a secret is good enough to connect, and it is warned of. -/
theorem validate_decides_connect_sparse :
    sparse.validate.hasError = false ∧
      (∀ trace token, ∃ connection, sparse.connect trace token = .ok connection) ∧
      sparse.credentials =
        .ok ⟨"organization_default", "", Credentials.standardEndpoint⟩ ∧
      sparse.Warns .clientSecret ∧
      Entry.clientSecret.TakesDefault sparse.config.cloud sparse.defaults sparse.environment
        ⟨"organization_default", "", Credentials.standardEndpoint⟩ := by
  have picks : ∀ entry, picked sparse.config.cloud sparse.defaults sparse.environment entry =
      some (Credentials.get ⟨"organization_default", "", Credentials.standardEndpoint⟩ entry) :=
    Entry.forall_iff.mpr ⟨by decide, by decide⟩
  have succeeded : sparse.credentials =
      .ok ⟨"organization_default", "", Credentials.standardEndpoint⟩ :=
    credentials_eq_ok_iff.mpr
      (Credentials.resolve_eq_ok_iff.mpr ⟨picks, by decide, by decide +kernel⟩)
  obtain ⟨checks, connects, warns, origins⟩ := validate_decides_connect sparse
  have blameless := checks.mpr ⟨⟨_, succeeded⟩, by decide⟩
  have warned : sparse.Warns .clientSecret := (warns .clientSecret).mpr ⟨by decide, nofun⟩
  refine ⟨blameless, fun trace token => ?_, succeeded, warned, ?_⟩
  · exact (connects trace token (by decide)).mp blameless
  · exact ((origins _ succeeded).1 .clientSecret).mp warned

/-! ## Secrets -/

theorem token_eq (setup : Setup) :
    setup.token =
      match given ((setup.config.access.supply setup.environment).named.or
        (setup.config.access.supply setup.environment).entry) with
      | some token => .ok token
      | none => .error .missingToken := rfl

theorem token_eq_ok_iff {token : String} :
    setup.token = .ok token ↔
      (setup.config.access.supply setup.environment).First token ∧
        ¬ (setup.config.access.supply setup.environment).Hidden := by
  rw [token_eq, ← Config.Supply.given_or_eq_some_iff]
  cases given _ with
  | some found => simp
  | none => simp

theorem token_eq_missing_iff :
    setup.token = .error .missingToken ↔
      ¬ (setup.config.access.supply setup.environment).IsSet ∨
        (setup.config.access.supply setup.environment).Hidden := by
  rw [token_eq, ← Config.Supply.given_or_eq_none_iff]
  cases given _ with
  | some found => simp
  | none => simp

/-- **A supplied secret wins over the defaults.** Where the variable or the entry of a secret is
set to something, and the one does not hide the other, the default of the secret is never looked
at, the secret is never missing, and it is the first of the two; whether the credentials resolve
is then up to the client alone. Hidden behind a variable that is set to nothing, the entry counts
for nothing: the default is taken, or nothing resolves. The access token is supplied likewise, but
it has no default. -/
theorem supplied_secret_wins (setup : Setup) :
    let supply := setup.config.cloud.supply setup.environment
    let tokens := setup.config.access.supply setup.environment
    let outcome :=
      Credentials.resolve setup.config.cloud setup.defaults setup.environment
    (supply.IsSet → ¬ supply.Hidden →
      Entry.clientSecret.IgnoresDefault setup.config.cloud setup.defaults setup.environment ∧
      outcome ≠ .error .missingClientSecret ∧
      ∃ secret, supply.First secret ∧
        (∀ credentials, outcome = .ok credentials → credentials.clientSecret = secret) ∧
        ((∃ credentials, outcome = .ok credentials) ↔
          ∃ rest, picked setup.config.cloud setup.defaults setup.environment .clientId =
            some ("organization_" ++ rest))) ∧
    (supply.Hidden → ∀ credentials, outcome = .ok credentials →
      Entry.clientSecret.TakesDefault setup.config.cloud setup.defaults setup.environment
        credentials) ∧
    (setup.token = .error .missingToken ↔ ¬ tokens.IsSet ∨ tokens.Hidden) ∧
    ∀ token, setup.token = .ok token ↔ tokens.First token ∧ ¬ tokens.Hidden := by
  refine ⟨?_, ?_, token_eq_missing_iff, fun token => token_eq_ok_iff⟩
  · intro isSet visible
    obtain ⟨secret, first⟩ := Config.Supply.isSet_iff.mp isSet
    have isGiven : given (Entry.clientSecret.configured setup.config.cloud setup.environment) =
        some secret := Config.Supply.given_or_eq_some_iff.mpr ⟨first, visible⟩
    have isPicked : picked setup.config.cloud setup.defaults setup.environment .clientSecret =
        some secret := Credentials.pick_of_given isGiven
    have present : picked setup.config.cloud setup.defaults setup.environment .clientSecret ≠
        none := by simp [isPicked]
    refine ⟨Credentials.ignoresDefault_of_given isGiven,
      Credentials.resolve_ne_missingClientSecret present, secret, first, ?_, ?_⟩
    · exact fun credentials resolved => Credentials.get_of_given isGiven resolved
    · exact Credentials.exists_resolved_iff.trans (and_iff_left present)
  · intro hidden credentials resolved
    have absent := Config.Supply.given_or_eq_none_iff.mpr (.inr hidden)
    exact (Credentials.takesDefault_iff resolved).mpr absent

/-- A setup whose secret and token are both supplied twice, by variables that all have one value
and by entries, with a default for the secret. -/
def twofold (value : String) : Setup :=
  ⟨{ Config.standard with
      cloud := ⟨some "organization_abc", some "s3cret", some "SECRET", none⟩
      access := ⟨some "token", some "TOKEN"⟩ },
    ⟨none, some "default", none⟩, fun _ => some value⟩

theorem twofold_resolved :
    Credentials.resolve (twofold "").config.cloud (twofold "").defaults (twofold "").environment =
      .ok ⟨"organization_abc", "default", Credentials.standardEndpoint⟩ := by
  refine Credentials.resolve_eq_ok_iff.mpr ⟨?_, by decide, by decide +kernel⟩
  exact Entry.forall_iff.mpr ⟨by decide, by decide⟩

/-- A variable that is set to something counts, for the secret and for the token. One that is set
to nothing makes way for the default. -/
theorem supplied_secret_wins_twofold :
    (∃ credentials, Credentials.resolve (twofold "inner").config.cloud (twofold "inner").defaults
        (twofold "inner").environment = .ok credentials ∧ credentials.clientSecret = "inner") ∧
      (twofold "inner").token = .ok "inner" ∧
      Entry.clientSecret.TakesDefault (twofold "").config.cloud (twofold "").defaults
        (twofold "").environment ⟨"organization_abc", "default", Credentials.standardEndpoint⟩ := by
  obtain ⟨wins, -, -, tokens⟩ := supplied_secret_wins (twofold "inner")
  obtain ⟨-, hidden, -, -⟩ := supplied_secret_wins (twofold "")
  have nonempty : "inner" ≠ "" := by decide
  refine ⟨?_, (tokens "inner").mpr ⟨.named rfl nonempty, fun hides => ?_⟩, ?_⟩
  · obtain ⟨-, -, secret, first, taken, resolves⟩ :=
      wins (.inl ⟨"inner", rfl, nonempty⟩) fun hides => nonempty (Option.some.inj hides.1)
    obtain ⟨credentials, resolved⟩ := resolves.mpr ⟨"abc", by decide⟩
    refine ⟨credentials, resolved, (taken credentials resolved).trans ?_⟩
    cases first with
    | named isNamed => exact (Option.some.inj isNamed).symm
    | entry unset => exact absurd (unset "inner" rfl) nonempty
  · exact nonempty (Option.some.inj hides.1)
  · exact hidden ⟨rfl, "s3cret", rfl, by decide⟩ _ twofold_resolved

/-- A variable that is set to nothing keeps an entry from being used. The default is used instead
where there is one, and else the secret is missing, as is the token. -/
theorem hidden_secret_passed_over :
    ((twofold "").config.cloud.supply (twofold "").environment).First "s3cret" ∧
      Credentials.resolve (twofold "").config.cloud (twofold "").defaults
        (twofold "").environment =
          .ok ⟨"organization_abc", "default", Credentials.standardEndpoint⟩ ∧
      Credentials.resolve (twofold "").config.cloud ⟨none, none, none⟩ (twofold "").environment =
        .error .missingClientSecret ∧
      ((twofold "").config.access.supply (twofold "").environment).First "token" ∧
      (twofold "").token = .error .missingToken := by
  have unset : ∀ other, some "" = some other → other = "" :=
    fun other same => (Option.some.inj same).symm
  refine ⟨.entry unset rfl (by decide), twofold_resolved, rfl, ?_, rfl⟩
  exact .entry unset rfl (by decide)

end Setup

end Converge
