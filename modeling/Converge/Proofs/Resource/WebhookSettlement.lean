import Converge.Proofs.Resource.Adoption
import Converge.Proofs.Resource.Planning

/-!
# Webhooks settle

What a creation or an update of a webhook leaves behind shows what was declared: its endpoint, its
event types, a name where one is declared, and a secret that says something where the declared one
does. So the plan for the same declaration finds nothing to do, and a second update makes no call.

An empty secret is the exception. The stack is told of none, and keeps or generates its own; the
comparison takes the empty text for a declared one, which no stack ever shows.
-/

namespace Converge.Resource.Webhook

open Remote Program

variable {σ : Type}

/-- A text that says something is not the empty one. -/
theorem given_ne_empty (text : Option String) : given text ≠ some "" := by
  intro isEmpty
  have said := (Option.filter_eq_some_iff.mp isEmpty).2
  simp at said

/-- The state shows what is declared. The secret is the declared one, or else the one that was
known before, where they say something. -/
structure Shows (desired state : Webhook) : Prop where
  endpoint : state.endpoint = desired.endpoint
  eventTypes : state.eventTypes = desired.eventTypes
  name : desired.name = none ∨ state.name = desired.name
  secret : ∃ known, state.secret = (given desired.secret).or (given known)

theorem shows_created (id : String) (desired : Webhook) :
    Shows desired (desired.applyRemote (stored id desired)) where
  endpoint := rfl
  eventTypes := rfl
  name := by
    refine .inr ?_
    change (given (given desired.name)).or desired.name = desired.name
    rw [given_given]
    cases said : given desired.name with
    | none => rfl
    | some name => exact (Option.filter_eq_some_iff.mp said).1.symm
  secret := by
    refine ⟨some Memory.generatedSecret, ?_⟩
    change (given (some ((given desired.secret).getD _))).or desired.secret = _
    cases said : given desired.secret with
    | none => rfl
    | some secret =>
        have same := given_given desired.secret
        rw [said] at same
        rw [Option.getD_some, same]
        rfl

theorem shows_updated (id : String) (observed desired : Webhook) :
    Shows desired (updated id observed desired) where
  endpoint := rfl
  eventTypes := rfl
  name := by
    cases declared : desired.name with
    | none => exact .inl rfl
    | some name =>
        refine .inr ?_
        rw [updated, declared]
        rfl
  secret := ⟨observed.secret, rfl⟩

namespace Shows

variable {desired state : Webhook}

theorem secret_ne_empty (shown : Shows desired state) : state.secret ≠ some "" := by
  obtain ⟨known, isSecret⟩ := shown.secret
  rw [isSecret]
  cases said : given desired.secret with
  | none => exact given_ne_empty known
  | some secret =>
      rw [Option.some_or, ← said]
      exact given_ne_empty desired.secret

/-- A secret that is declared is shown unless it is empty. -/
theorem sameSecret_iff (shown : Shows desired state) :
    (desired.secret.isNone ∨ state.secret = desired.secret) ↔ desired.secret ≠ some "" := by
  constructor
  · rintro (undeclared | same)
    · intro isEmpty
      rw [isEmpty] at undeclared
      cases undeclared
    · rw [← same]
      exact shown.secret_ne_empty
  · intro plain
    obtain ⟨known, isSecret⟩ := shown.secret
    rw [given_eq_self plain] at isSecret
    cases declared : desired.secret with
    | none => exact .inl rfl
    | some secret =>
        rw [declared] at isSecret
        exact .inr isSecret

theorem changedFields_eq (shown : Shows desired state) :
    changedFields state desired = if desired.secret = some "" then ["secret"] else [] := by
  have eventTypes : state.sameEventTypes desired = true := by
    rw [sameEventTypes, Delta.isEmpty_between_iff, shown.eventTypes]
    exact fun _ => Iff.rfl
  have name : desired.name.isNone ∨ state.name = desired.name := by
    rw [Option.isNone_iff_eq_none]
    exact shown.name
  rw [changedFields, if_pos shown.endpoint, if_pos eventTypes, if_pos name]
  simp only [shown.sameSecret_iff, ite_not, List.nil_append]

end Shows

/-- Nothing is left to do, and a further update makes no call; or the declared secret is empty
where the state has none that is, and the plan is to change the secret. -/
structure Settles (desired state : Webhook) : Prop where
  settled : desired.secret ≠ some "" ∨ state.secret = some "" →
    (resource.plan (some state) desired).action = .noOp ∧
      update state desired = .done (.ok state)
  unsettled : desired.secret = some "" → state.secret ≠ some "" →
    resource.plan (some state) desired = ⟨.update, ["secret"], []⟩

/-- An update that finds nothing changed ends with the state and makes no call. -/
theorem update_eq_of_same {desired state : Webhook}
    (valid : (validate desired).hasError = false) {id : String} (known : state.id = some id)
    (same : changedFields state desired = []) : update state desired = .done (.ok state) := by
  rw [update, known, same, valid]
  rfl

theorem settles_of_same {desired state : Webhook} (valid : (validate desired).hasError = false)
    {id : String} (known : state.id = some id) (same : changedFields state desired = []) :
    Settles desired state where
  settled _ := ⟨plan_noOp_iff.mpr same, update_eq_of_same valid known same⟩
  unsettled isEmpty differs := by
    have sameSecret : desired.secret.isNone ∨ state.secret = desired.secret := by
      rw [changedFields, List.append_eq_nil_iff] at same
      exact unless_eq_nil_iff.mp same.2
    rw [isEmpty] at sameSecret
    rcases sameSecret with undeclared | sameSecret
    · cases undeclared
    · exact absurd sameSecret differs

theorem Shows.settles {desired state : Webhook} (shown : Shows desired state)
    (valid : (validate desired).hasError = false) {id : String} (known : state.id = some id) :
    Settles desired state where
  settled := by
    rintro (plain | isEmpty)
    · have same := shown.changedFields_eq
      rw [if_neg plain] at same
      exact ⟨plan_noOp_iff.mpr same, update_eq_of_same valid known same⟩
    · exact absurd isEmpty shown.secret_ne_empty
  unsettled isEmpty _ := by
    have changed : resource.changedFields state desired = ["secret"] :=
      shown.changedFields_eq.trans (if_pos isEmpty)
    rw [plan, changed]
    rfl

theorem valid_of_created {desired : Webhook} {remote : Responder σ} {patience : Patience}
    {context : Context} {world : σ} {now : Nat}
    (succeeded : ((create desired).run remote patience context world now).value.hasError = false) :
    (validate desired).hasError = false := by
  cases invalid : (validate desired).hasError with
  | true =>
      rw [create, if_pos invalid] at succeeded
      exact absurd (invalid.symm.trans succeeded) (by simp)
  | false => rfl

/-- An update without an error has found nothing changed, or it ends with what is declared. -/
theorem update_ends {observed desired : Webhook} {remote : Responder σ} {patience : Patience}
    {context : Context} {world : σ} {now : Nat}
    (succeeded :
      ((update observed desired).run remote patience context world now).value.hasError = false) :
    (validate desired).hasError = false ∧ ∃ id, observed.id = some id ∧
      ((changedFields observed desired = [] ∧ update observed desired = .done (.ok observed)) ∨
        ((update observed desired).run remote patience context world now).value =
          .ok (updated id observed desired)) := by
  rcases update_cases observed desired with
    ⟨_, failed, refused⟩ | ⟨id, known, valid, same | ⟨next, asks, stops, goesOn⟩⟩
  · rw [refused] at succeeded
    exact absurd (failed.symm.trans succeeded) (by simp)
  · exact ⟨valid, id, known, .inl same⟩
  · refine ⟨valid, id, known, .inr ?_⟩
    rw [asks] at succeeded ⊢
    obtain ⟨_, _, _, _, ends, _, _⟩ :=
      Program.comes (command_takes stops goesOn) remote patience context world now
    rcases ends with ⟨_, failed⟩ | ⟨_, ended⟩
    · exact absurd (failed.symm.trans succeeded) (by simp)
    · exact ended

/-- **Webhooks settle, but for an empty secret.** A creation without an error against a remote
side that keeps a memory, and an update without an error from any state against any remote side,
leave a state for which the plan for the same declaration finds nothing to do, and from which the
same update ends at once with that state and makes no call. Where the declared secret is empty the
plan is to change the secret: after every creation, and after every update that made a call. -/
theorem settles_unless_secret_empty (desired : Webhook) :
    (∀ {σ : Type} {remote : Responder σ} {memory : σ → Memory}, remote.Keeps memory →
      ∀ (patience : Patience) (context : Context) (world : σ) (now : Nat),
        let outcome := (create desired).run remote patience context world now
        outcome.value.hasError = false →
          ∃ state, outcome.value.state = some state ∧ Settles desired state ∧
            state.secret ≠ some "") ∧
    ∀ {σ : Type} (observed : Webhook) (remote : Responder σ) (patience : Patience)
      (context : Context) (world : σ) (now : Nat),
        let outcome := (update observed desired).run remote patience context world now
        outcome.value.hasError = false →
          ∃ state, outcome.value.state = some state ∧ Settles desired state ∧
            (state.secret = some "" → state = observed ∧ outcome.log = []) := by
  constructor
  · intro σ remote memory keeps patience context world now outcome succeeded
    have valid := valid_of_created succeeded
    obtain ⟨id, isState, _⟩ := created_stored keeps desired patience context world now succeeded
    have shown := shows_created id desired
    exact ⟨_, isState, shown.settles valid rfl, shown.secret_ne_empty⟩
  · intro σ observed remote patience context world now outcome succeeded
    obtain ⟨valid, id, known, ⟨same, ended⟩ | ended⟩ := update_ends succeeded
    · have equal : outcome = ⟨.ok observed, world, now, []⟩ := by
        simp only [outcome]
        rw [ended]
        rfl
      rw [equal]
      exact ⟨observed, rfl, settles_of_same valid known same, fun _ => ⟨rfl, rfl⟩⟩
    · have shown := shows_updated id observed desired
      refine ⟨_, congrArg Transition.state ended, shown.settles valid rfl, fun isEmpty => ?_⟩
      exact absurd isEmpty shown.secret_ne_empty

/-- A webhook whose secret is generated settles, and so does one that is renamed. -/
theorem settles_unless_secret_empty_renamed :
    let made := (create named).run Memory.remote .standard .free .empty 0
    let outcome := (update namedFirst renamed).run Memory.remote .standard .free made.world 0
    update namedFirst named = .done (.ok namedFirst) ∧
      ∃ state, outcome.value.state = some state ∧
        (resource.plan (some state) renamed).action = .noOp ∧
        update state renamed = .done (.ok state) := by
  intro made outcome
  obtain ⟨created, isCreated, settled, _⟩ :=
    (settles_unless_secret_empty named).1 Memory.remote_keeps .standard .free Memory.empty 0
      (by rfl)
  have isFirst : namedFirst = created := Option.some.inj isCreated
  rw [← isFirst] at settled
  obtain ⟨state, isState, settledToo, _⟩ :=
    (settles_unless_secret_empty renamed).2 namedFirst Memory.remote .standard .free made.world 0
      (by rfl)
  have plain : named.secret ≠ some "" ∧ renamed.secret ≠ some "" := by simp [named, renamed]
  exact ⟨(settled.settled (.inl plain.1)).2, state, isState, settledToo.settled (.inl plain.2)⟩

/-- **An empty secret never settles.** The stack generates a secret; the plan for the same
declaration is to change it, and an update makes a call and leaves everything as it was. -/
theorem emptySecret_unsettled :
    let desired : Webhook := ⟨none, "https://a", ["created"], none, some ""⟩
    let first : Webhook := ⟨some "wh-1", "https://a", ["created"], none, some "whsec_generated"⟩
    let made := (create desired).run Memory.remote .standard .free .empty 0
    let outcome := (update first desired).run Memory.remote .standard .free made.world 0
    (validate desired).hasError = false ∧ made.value = .ok first ∧
      resource.plan (some first) desired = ⟨.update, ["secret"], []⟩ ∧
      outcome.value = .ok first ∧
      outcome.log.map (fun entry => entry.call.label) =
        ["list_module_versions", "update_config wh-1"] :=
  ⟨rfl, rfl, rfl, rfl, rfl⟩

end Converge.Resource.Webhook
