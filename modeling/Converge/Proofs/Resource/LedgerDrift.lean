import Converge.Proofs.Resource.Drift
import Converge.Proofs.Resource.Ledger
import Converge.Proofs.Resource.Refresh

/-!
# Drift of ledgers

A read takes over the name, the bucket and the metadata that the stack reports, and of its
features those that the state declares. Where the declaration has features under the same keys,
the plan behind the read compares exactly what is managed: a feature that is declared and missing
or different in the stack is found, and one that nobody has declared is not looked at.
-/

namespace Converge.Resource.Ledger

open Remote

variable {σ : Type} {state desired : Ledger} {info : Stack.Ledger}

/-- The stack has every feature that is declared, as it is declared. -/
def HasFeatures (info : Stack.Ledger) (desired : Ledger) : Prop :=
  ∀ key value, desired.features.get? key = some value → info.features.get? key = some value

theorem not_hasFeatures_iff :
    ¬ HasFeatures info desired ↔ ∃ key value, desired.features.get? key = some value ∧
      info.features.get? key ≠ some value := by
  simp only [HasFeatures, Classical.not_forall, exists_prop, ne_eq]

/-- Of the reported features the declared ones enter the state. -/
theorem get?_features_applyRemote (declared : state.features.keys = desired.features.keys)
    (key : String) :
    (state.applyRemote info).features.get? key =
      if key ∈ desired.features.keys then info.features.get? key else none := by
  have kept : state.features.contains key = true ↔ key ∈ desired.features.keys := by
    rw [Dictionary.contains_iff, declared]
  rw [applyRemote, Dictionary.get?_filterKeys]
  simp only [kept]

theorem features_applyRemote_eq_iff (declared : state.features.keys = desired.features.keys) :
    (state.applyRemote info).features = desired.features ↔ HasFeatures info desired := by
  constructor
  · intro same key value isDeclared
    have isKey : key ∈ desired.features.keys := by
      rw [Dictionary.mem_keys_iff, isDeclared]
      rfl
    have taken : (state.applyRemote info).features.get? key = _ :=
      get?_features_applyRemote declared key
    rw [if_pos isKey, same] at taken
    exact taken.symm.trans isDeclared
  · intro has
    apply Dictionary.ext_get?
    intro key
    rw [get?_features_applyRemote declared]
    cases isDeclared : desired.features.get? key with
    | none =>
        rw [if_neg]
        rw [Dictionary.mem_keys_iff, isDeclared]
        simp
    | some value =>
        rw [if_pos, has key value isDeclared]
        rw [Dictionary.mem_keys_iff, isDeclared]
        rfl

theorem name_bucket_applyRemote (named : info.name ≠ "") (bucketed : info.bucket ≠ "") :
    (state.applyRemote info).name = info.name ∧
      (state.applyRemote info).bucket = some info.bucket := by
  rw [applyRemote]
  exact ⟨if_neg (by simpa using named), if_neg (by simpa using bucketed)⟩

/-- The bucket is compared only where one is declared. -/
theorem sameBucket_iff {bucket : String} :
    (desired.bucket.isNone ∨ some bucket = desired.bucket) ↔
      ∀ other, desired.bucket = some other → bucket = other := by
  cases desired.bucket with
  | none => simp
  | some declared => simp

/-- A plan names fields in one order, each of them once. -/
theorem changedFields_sublist (prior desired : Ledger) :
    (changedFields prior desired).Sublist ["name", "bucket", "features", "metadata"] :=
  ((unless_sublist.append unless_sublist).append unless_sublist).append unless_sublist

theorem mem_changedFields_iff (prior desired : Ledger) (field : String) :
    field ∈ changedFields prior desired ↔
      (field = "name" ∧ prior.name ≠ desired.name) ∨
      (field = "bucket" ∧ ¬ (desired.bucket.isNone ∨ prior.bucket = desired.bucket)) ∨
      (field = "features" ∧ prior.features ≠ desired.features) ∨
      (field = "metadata" ∧ prior.metadata ≠ desired.metadata) := by
  rw [changedFields, List.mem_append, List.mem_append, List.mem_append, mem_unless_iff,
    mem_unless_iff, mem_unless_iff, mem_unless_iff, or_assoc, or_assoc]

theorem changedFields_eq_nil_iff {prior desired : Ledger} :
    changedFields prior desired = [] ↔ prior.name = desired.name ∧
      (desired.bucket.isNone ∨ prior.bucket = desired.bucket) ∧
      prior.features = desired.features ∧ prior.metadata = desired.metadata := by
  rw [changedFields, List.append_eq_nil_iff, List.append_eq_nil_iff, List.append_eq_nil_iff,
    unless_eq_nil_iff, unless_eq_nil_iff, unless_eq_nil_iff, unless_eq_nil_iff, and_assoc,
    and_assoc]

/-- A feature that is not declared might as well not be reported. -/
theorem applyRemote_eq_of_declared (declared : state.features.keys = desired.features.keys) :
    state.applyRemote info = state.applyRemote
      { info with features := info.features.filterKeys desired.features.contains } := by
  have features : info.features.filterKeys state.features.contains =
      (info.features.filterKeys desired.features.contains).filterKeys
        state.features.contains := by
    apply Dictionary.ext_get?
    intro key
    have same : state.features.contains key = desired.features.contains key := by
      rw [Bool.eq_iff_iff, Dictionary.contains_iff, Dictionary.contains_iff, declared]
    rw [Dictionary.get?_filterKeys, Dictionary.get?_filterKeys, Dictionary.get?_filterKeys, same]
    split <;> rfl
  rw [applyRemote, features]
  rfl

/-- A read ends without an error exactly where the stack has answered with the ledger. -/
theorem read_hasError_iff (state : Ledger) (remote : Responder σ) (patience : Patience)
    (context : Context) (world : σ) (now : Nat) :
    ((read state).run remote patience context world now).value.hasError = false ↔
      ∃ info, ⟨.getLedger state.name, some (.ok info)⟩ ∈
        (read state).exchanges remote patience context world now := by
  obtain ⟨next, asks, stops, goesOn⟩ := read_asks state
  rcases whenReady_call_answered asks (by simp) stops goesOn remote patience context world now with
    ⟨failure, isError, ended, unanswered⟩ | ⟨info, ended, answers⟩
  · rw [ended]
    refine iff_of_false ?_ fun ⟨info, answered⟩ => unanswered info answered
    simp [Transition.hasError, Diagnostics.hasError, isError]
  · rw [ended]
    exact iff_of_true rfl ⟨info, (answers info).mpr rfl⟩

/-- Behind a read that has been told of the ledger, the plan names exactly the managed attributes on
which the ledger differs from the declaration, and features that are not declared stay out of the
state. -/
structure FindsDrift (desired : Ledger) (info : Stack.Ledger) (next : Ledger) : Prop where
  name : "name" ∈ (resource.plan (some next) desired).changed ↔ info.name ≠ desired.name
  bucket : "bucket" ∈ (resource.plan (some next) desired).changed ↔
    ∃ bucket, desired.bucket = some bucket ∧ info.bucket ≠ bucket
  features : "features" ∈ (resource.plan (some next) desired).changed ↔
    ∃ key value, desired.features.get? key = some value ∧ info.features.get? key ≠ some value
  metadata : "metadata" ∈ (resource.plan (some next) desired).changed ↔
    info.metadata ≠ desired.metadata
  /-- Nothing else is named, and nothing twice. -/
  nothingElse : (resource.plan (some next) desired).changed.Sublist
    ["name", "bucket", "features", "metadata"]
  noOp : (resource.plan (some next) desired).action = .noOp ↔ info.name = desired.name ∧
    (∀ bucket, desired.bucket = some bucket → info.bucket = bucket) ∧
    HasFeatures info desired ∧ info.metadata = desired.metadata
  taken : ∀ key, next.features.get? key =
    if key ∈ desired.features.keys then info.features.get? key else none

theorem findsDrift_applyRemote (declared : state.features.keys = desired.features.keys)
    (named : info.name ≠ "") (bucketed : info.bucket ≠ "") :
    FindsDrift desired info (state.applyRemote info) := by
  let next := state.applyRemote info
  let plan := resource.plan (some next) desired
  obtain ⟨name, bucket⟩ : next.name = info.name ∧ next.bucket = some info.bucket :=
    name_bucket_applyRemote named bucketed
  have metadata : next.metadata = info.metadata := rfl
  have fields : ∀ field, field ∈ plan.changed ↔
      (field = "name" ∧ ¬ info.name = desired.name) ∨
      (field = "bucket" ∧ ¬ ∀ bucket, desired.bucket = some bucket → info.bucket = bucket) ∨
      (field = "features" ∧ ¬ HasFeatures info desired) ∨
      (field = "metadata" ∧ ¬ info.metadata = desired.metadata) := by
    intro field
    have listed := mem_changedFields_iff next desired field
    rw [name, bucket, sameBucket_iff, metadata, ne_eq next.features,
      features_applyRemote_eq_iff declared] at listed
    exact listed
  have settled : plan.action = .noOp ↔ changedFields next desired = [] := Plan.ofChanges_noOp_iff
  refine ⟨?name, ?bucket, ?features, ?metadata, changedFields_sublist next desired, ?noOp,
    get?_features_applyRemote declared⟩
  case name =>
    rw [fields]
    simp
  case bucket =>
    rw [fields]
    simp
  case features =>
    rw [fields, ← not_hasFeatures_iff]
    simp
  case metadata =>
    rw [fields]
    simp
  case noOp =>
    rw [settled, changedFields_eq_nil_iff, name, bucket, sameBucket_iff, metadata,
      features_applyRemote_eq_iff declared]

/-- **Drift of ledgers.** Let a state declare features under the same keys as the declaration, and
read it in any circumstances. The read ends without an error exactly where the stack has answered
with the ledger, and then it takes the answer over, save for features that are not declared.
Where the ledger has a name and a bucket, the plan behind the read names exactly the managed
attributes on which it differs: the name, a bucket that is declared, some feature that is
declared, and the metadata. It finds nothing to do exactly where the stack agrees on them all. -/
theorem read_finds_managed_drift (declared : state.features.keys = desired.features.keys)
    (remote : Responder σ) (patience : Patience) (context : Context) (world : σ) (now : Nat) :
    let transition := ((read state).run remote patience context world now).value
    let exchanges := (read state).exchanges remote patience context world now
    (transition.hasError = false ↔
      ∃ info, ⟨.getLedger state.name, some (.ok info)⟩ ∈ exchanges) ∧
    ∀ info, ⟨.getLedger state.name, some (.ok info)⟩ ∈ exchanges →
      ∃ next, transition = .ok next ∧
        next = state.applyRemote
          { info with features := info.features.filterKeys desired.features.contains } ∧
        (info.name ≠ "" → info.bucket ≠ "" → FindsDrift desired info next) := by
  intro transition exchanges
  refine ⟨read_hasError_iff state remote patience context world now, ?_⟩
  intro info answered
  obtain ⟨_, asks, stops, goesOn⟩ := read_asks state
  have ended : transition = .ok (state.applyRemote info) :=
    read_answered_of_asks asks (by simp) stops goesOn answered
  exact ⟨_, ended, applyRemote_eq_of_declared declared, findsDrift_applyRemote declared⟩

/-- What was applied is what is declared, and only in the stack somebody else has changed the
metadata and one of two features, and has added a third. The two changes are found, and the third
feature does not enter the state. -/
theorem read_finds_managed_drift_undeclared :
    let ledger : Ledger :=
      ⟨"main", none, .ofList [("A", "1"), ("B", "2")], .ofList [("owner", "ops")]⟩
    let info : Stack.Ledger :=
      ⟨"main", "_default", .ofList [("owner", "other")],
        .ofList [("A", "1"), ("B", "3"), ("C", "9")], none⟩
    let memory : Memory := { Memory.empty with ledgers := .ofList [("main", info)] }
    (resource.plan (some ledger) ledger).action = .noOp ∧
    ∃ next, ((read ledger).run Memory.remote .standard .free memory 0).value = .ok next ∧
      "features" ∈ (resource.plan (some next) ledger).changed ∧
      "metadata" ∈ (resource.plan (some next) ledger).changed ∧
      "name" ∉ (resource.plan (some next) ledger).changed ∧
      "bucket" ∉ (resource.plan (some next) ledger).changed ∧
      next.features.get? "B" = some "3" ∧ next.features.get? "C" = none := by
  intro ledger info memory
  have declared : ledger.features.keys = ledger.features.keys := rfl
  obtain ⟨_, finds⟩ :=
    read_finds_managed_drift declared Memory.remote .standard .free memory 0
  obtain ⟨next, ended, _, found⟩ := finds info (.tail _ (.head _))
  have drift : FindsDrift ledger info next := found (by decide) (by decide)
  refine ⟨rfl, next, ended, drift.features.mpr ⟨"B", "2", rfl, by decide⟩,
    drift.metadata.mpr (by decide), ?_, ?_, (drift.taken "B").trans rfl,
    (drift.taken "C").trans rfl⟩
  · rw [drift.name]
    exact fun differs => differs rfl
  · rw [drift.bucket]
    rintro ⟨_, undeclared, _⟩
    cases undeclared

end Converge.Resource.Ledger
