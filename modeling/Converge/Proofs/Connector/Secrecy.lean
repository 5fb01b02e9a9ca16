import Converge.Proofs.Connector.Configuration
import Converge.Proofs.Decode.Agreement

/-!
# Errors do not depend on secrets

Two values have one shape when they are built alike: the same kinds at the same places, with
the same keys in their maps and as many items in their lists. A connector's configuration is
refused for its placeholders alone, and of these for no more than the kinds under the keys that
its provider knows. So of two pairs of credentials and configuration that are shaped alike and
name one provider, either both are read or both are refused, with the same error.
-/

namespace Converge

/-! ## Shapes -/

namespace Value

mutual

/-- Two values of the same kinds, keys and lengths throughout. -/
def SameShape : Value → Value → Prop
  | .null, .null => True
  | .bool _, .bool _ => True
  | .int _, .int _ => True
  | .float _, .float _ => True
  | .text _, .text _ => True
  | .list lefts, .list rights => SameItemShapes lefts rights
  | .map lefts, .map rights => SameFieldShapes lefts rights
  | _, _ => False

def SameItemShapes : List Value → List Value → Prop
  | [], [] => True
  | left :: lefts, right :: rights => SameShape left right ∧ SameItemShapes lefts rights
  | _, _ => False

def SameFieldShapes : List (String × Value) → List (String × Value) → Prop
  | [], [] => True
  | (leftKey, left) :: lefts, (rightKey, right) :: rights =>
    leftKey = rightKey ∧ SameShape left right ∧ SameFieldShapes lefts rights
  | _, _ => False

end

end Value

/-- Two dictionaries with the same keys whose values have the same shapes. -/
def Dictionary.SameShape (left right : Dictionary Value) : Prop :=
  Value.SameFieldShapes left.entries right.entries

namespace Value

theorem kind_of_sameShape {left right : Value} (same : left.SameShape right) :
    left.kind = right.kind := by
  cases left <;> cases right <;> rw [SameShape] at same
  all_goals first | rfl | exact same.elim

theorem kinds_of_sameFieldShapes : {lefts rights : List (String × Value)} →
    SameFieldShapes lefts rights →
      (lefts.map fun entry => (entry.1, entry.2.kind)) =
        rights.map fun entry => (entry.1, entry.2.kind)
  | [], [], _ => rfl
  | [], _ :: _, same => by simp [SameFieldShapes] at same
  | _ :: _, [], same => by simp [SameFieldShapes] at same
  | (_, _) :: _, (_, _) :: _, same => by
      rw [SameFieldShapes] at same
      obtain ⟨rfl, value, rest⟩ := same
      rw [List.map_cons, List.map_cons, kind_of_sameShape value, kinds_of_sameFieldShapes rest]

end Value

/-- Dictionaries of one shape hold values of one kind under the same keys. -/
theorem Dictionary.SameShape.kinds {left right : Dictionary Value} (same : left.SameShape right) :
    left.mapValues Value.kind = right.mapValues Value.kind :=
  Dictionary.ext (Value.kinds_of_sameFieldShapes same)

namespace Connector

open Decode

/-! ## What is told of placeholders -/

/-- Documents that are equal unless both are lists or both are maps. -/
inductive Alike : Json → Json → Prop where
  | same (document : Json) : Alike document document
  | lists (items others : List Json) : Alike (.array items) (.array others)
  | maps (members others : List (String × Json)) : Alike (.object members) (.object others)

namespace Alike

variable {left right : Json}

theorem text (alike : Alike left right) : Decode.text left = Decode.text right := by
  cases alike <;> rfl

theorem optionalText (alike : Alike left right) :
    Decode.optional Decode.text left = Decode.optional Decode.text right := by
  cases alike <;> rfl

theorem optionalInt64 (alike : Alike left right) :
    Decode.optional Decode.int64 left = Decode.optional Decode.int64 right := by
  cases alike <;> rfl

theorem detail (alike : Alike left right) (detail : Detail) :
    detail.read left = detail.read right := by
  rw [Detail.read, Detail.read, alike.text, alike.optionalText]

end Alike

theorem alike_placeholder {left right : Value} (kinds : left.kind = right.kind) :
    Alike (placeholder left).encode (placeholder right).encode := by
  cases left <;> cases right <;> cases kinds
  case list.list => exact .lists _ _
  case map.map => exact .maps _ _
  all_goals exact .same _

/-- Under the same keys, where the values are of one kind, the placeholders are alike. -/
theorem alongside_placeholders {first second : Dictionary Value} {known : String → Bool}
    (keys : first.keys = second.keys)
    (kinds : ∀ key, known key = true →
      (first.get? key).map Value.kind = (second.get? key).map Value.kind) :
    Alongside (fun key left right => known key = true → Alike left right)
      (Value.encodeFields (placeholderFields first.entries))
      (Value.encodeFields (placeholderFields second.entries)) := by
  rw [Dictionary.keys, Dictionary.keys, ← List.forall₂_eq_eq_eq, List.forall₂_map_left_iff,
    List.forall₂_map_right_iff, List.forall₂_iff_zip] at keys
  rw [placeholderFields_eq, placeholderFields_eq, Value.encodeFields_eq_map,
    Value.encodeFields_eq_map, Alongside, Dictionary.entries_mapValues,
    Dictionary.entries_mapValues, List.map_map, List.map_map, List.forall₂_map_left_iff,
    List.forall₂_map_right_iff, List.forall₂_iff_zip]
  refine ⟨keys.1, ?_⟩
  rintro ⟨key, left⟩ ⟨other, right⟩ member
  obtain rfl : key = other := keys.2 member
  obtain ⟨inFirst, inSecond⟩ := List.of_mem_zip member
  refine ⟨rfl, fun isKnown => alike_placeholder ?_⟩
  have same := kinds key isKnown
  rw [Dictionary.get?, Dictionary.get?,
    (Entries.find?_eq_some_iff first.ordered.nodup).mpr inFirst,
    (Entries.find?_eq_some_iff second.ordered.nodup).mpr inSecond] at same
  exact Option.some.inj same

section Known

variable {related : String → Json → Json → Prop} {apart : Fault → Fault → Prop}

/-- A provider's own keys are read alike of what is alike. -/
theorem Detail.agrees {details : List Detail}
    (alike : ∀ detail ∈ details, ∀ left right, related detail.key left right → Alike left right) :
    (Detail.fields details).Agrees related apart fun _ _ => True where
  checks := by
    intro field member left right isRelated
    obtain ⟨detail, isDetail, rfl⟩ := List.mem_map.mp member
    dsimp only
    rw [(alike detail isDetail left right isRelated).detail detail]
    exact .refl (fun _ => trivial) _
  builds := by
    intro lookup other absence areRelated
    have same : collect lookup details = collect other details := by
      induction details with
      | nil => rfl
      | cons detail rest ih =>
          have given := areRelated detail.key
          rw [collect, collect, ih fun one member => alike one (List.mem_cons_of_mem _ member)]
          generalize lookup detail.key = one at given ⊢
          generalize other detail.key = two at given ⊢
          cases given with
          | none => rfl
          | some isRelated =>
              dsimp only
              rw [(alike detail List.mem_cons_self _ _ isRelated).detail detail]
    change Agree apart _ (collect lookup details) (collect other details)
    rw [same]
    exact .refl (fun _ => trivial) _

/-- The common keys are read alike of what is alike. -/
theorem Common.agrees
    (alike : ∀ key ∈ Common.keys, ∀ left right, related key left right → Alike left right) :
    Common.fields.Agrees related apart fun _ _ => True := by
  apply Fields.Agrees.optional _ fun left right isRelated =>
    (alike providerKey (by decide) left right isRelated).optionalText
  apply Fields.Agrees.optional _ fun left right isRelated =>
    (alike "pollingPeriod" (by decide) left right isRelated).optionalText
  apply Fields.Agrees.optional _ fun left right isRelated =>
    (alike "pageSize" (by decide) left right isRelated).optionalInt64
  apply Fields.Agrees.required _ fun left right isRelated =>
    (alike "name" (by decide) left right isRelated).text
  exact Fields.agrees_none fun _ _ _ _ => trivial

end Known

namespace Configuration

variable {first second : Dictionary Value}

/-! ## What the outcome depends on -/

/-- Both are read, or both are refused with the same error. -/
def SameOutcome (first second : Except ShapeError Configuration) : Prop :=
  (∃ left right, first = .ok left ∧ second = .ok right) ∨
    ∃ error, first = .error error ∧ second = .error error

theorem ofMembers_agree {provider : Provider} (keys : first.keys = second.keys)
    (kinds : ∀ key, provider.knows key = true →
      (first.get? key).map Value.kind = (second.get? key).map Value.kind) :
    Agree (fun _ _ => False) (fun _ _ => True)
      (ofMembers provider (Value.encodeFields (placeholderFields first.entries)))
      (ofMembers provider (Value.encodeFields (placeholderFields second.entries))) := by
  have alike := alongside_placeholders keys kinds
  apply (Fields.ofMembers_agree (Detail.agrees ?_) alike).bind
  · intro _ _ _
    apply (Fields.ofMembers_agree (Common.agrees ?_) alike).bind
    · intro _ _ _
      exact .ok trivial
    · exact fun key isCommon left right same => same (Provider.knows_iff.mpr (.inr isCommon))
  · intro detail isDetail left right same
    exact same (Provider.knows_iff.mpr (.inl (List.mem_map_of_mem isDetail)))

/-- The keys, and the kinds under those that the provider knows, decide whether an object is
read, and the error that refuses it. -/
theorem ofDictionary_sameOutcome {provider : Provider} (keys : first.keys = second.keys)
    (kinds : ∀ key, provider.knows key = true →
      (first.get? key).map Value.kind = (second.get? key).map Value.kind) :
    SameOutcome (ofDictionary provider first) (ofDictionary provider second) := by
  have agree := ofMembers_agree keys kinds
  generalize judged :
    ofMembers provider (Value.encodeFields (placeholderFields first.entries)) = left at agree
  generalize judgedSecond :
    ofMembers provider (Value.encodeFields (placeholderFields second.entries)) = right at agree
  cases agree with
  | ok _ =>
      refine .inl ⟨provider.reading first, provider.reading second, ?_, ?_⟩
      · rw [ofDictionary, judged, ofMembers_of_placeholders judged]
      · rw [ofDictionary, judgedSecond, ofMembers_of_placeholders judgedSecond]
  | fault fault =>
      refine .inr ⟨shapeError provider fault, ?_, ?_⟩
      · rw [ofDictionary, judged]
      · rw [ofDictionary, judgedSecond]
  | apart differ => exact differ.elim

/-- The provider depends on the kind of what names it and on the name. -/
theorem providerOf_congr
    (kinds : (first.get? providerKey).map Value.kind = (second.get? providerKey).map Value.kind)
    (names : (first.get? providerKey).bind Value.asText? =
      (second.get? providerKey).bind Value.asText?) :
    providerOf first = providerOf second := by
  rw [providerOf, providerOf]
  cases left : first.get? providerKey with
  | none =>
      cases right : second.get? providerKey with
      | none => rfl
      | some other => simp [left, right] at kinds
  | some one =>
      cases right : second.get? providerKey with
      | none => simp [left, right] at kinds
      | some other =>
          rw [left, right] at kinds names
          -- of one kind, and only texts are told apart
          cases one <;> cases other <;> simp_all [Value.kind, Value.asText?]

/-- Credentials that declare a provider name it, and otherwise the configuration does. -/
theorem providerOf_extend (config credentials : Dictionary Value) :
    providerOf (config.extend credentials) =
      if (credentials.get? providerKey).isSome then providerOf credentials
      else providerOf config := by
  rw [providerOf, Dictionary.get?_extend]
  cases declared : credentials.get? providerKey with
  | none => rw [Option.none_or, if_neg (by simp), providerOf]
  | some value => rw [Option.some_or, if_pos (by simp), providerOf, declared]

/-- What an error may tell of a flat object: the keys, the kinds of what stands under those that
providers know, and the provider. -/
structure SameOutline (first second : Dictionary Value) : Prop where
  keys : first.keys = second.keys
  kinds : ∀ (provider : Provider) (key : String), provider.knows key = true →
    (first.get? key).map Value.kind = (second.get? key).map Value.kind
  provider : providerOf first = providerOf second

namespace SameOutline

theorem refl (flat : Dictionary Value) : SameOutline flat flat := ⟨rfl, fun _ _ _ => rfl, rfl⟩

theorem of_sameShape (same : first.SameShape second)
    (names : (first.get? providerKey).bind Value.asText? =
      (second.get? providerKey).bind Value.asText?) : SameOutline first second := by
  have kinds : ∀ key, (first.get? key).map Value.kind = (second.get? key).map Value.kind := by
    intro key
    rw [← Dictionary.get?_mapValues, ← Dictionary.get?_mapValues, same.kinds]
  refine ⟨?_, fun _ key _ => kinds key, providerOf_congr (kinds providerKey) names⟩
  rw [← Dictionary.keys_mapValues Value.kind, same.kinds, Dictionary.keys_mapValues]

theorem isSome (same : SameOutline first second) (key : String) :
    (first.get? key).isSome = (second.get? key).isSome := by
  rw [Bool.eq_iff_iff, ← Dictionary.mem_keys_iff, ← Dictionary.mem_keys_iff, same.keys]

/-- Merging two groups merges their outlines. -/
theorem extend {config otherConfig : Dictionary Value} (same : SameOutline first second)
    (configSame : SameOutline config otherConfig) :
    SameOutline (config.extend first) (otherConfig.extend second) where
  keys := by
    apply Dictionary.keys_eq_of_isSome
    intro key
    rw [Dictionary.get?_extend, Dictionary.get?_extend, Option.isSome_or, Option.isSome_or,
      same.isSome, configSame.isSome]
  kinds := by
    intro provider key known
    simp only [Dictionary.get?_extend, Option.map_or, same.kinds provider key known,
      configSame.kinds provider key known]
  provider := by
    rw [providerOf_extend, providerOf_extend, same.isSome, same.provider, configSame.provider]

theorem canonical (same : SameOutline first second) (provider : Provider) :
    (provider.canonical first).keys = (provider.canonical second).keys ∧
      ∀ key, provider.knows key = true →
        ((provider.canonical first).get? key).map Value.kind =
          ((provider.canonical second).get? key).map Value.kind := by
  constructor
  · apply Dictionary.keys_eq_of_isSome
    intro key
    rw [Provider.canonical, Provider.canonical, Dictionary.get?_insert, Dictionary.get?_insert]
    split
    · rfl
    · exact same.isSome key
  · intro key known
    rw [Provider.canonical, Provider.canonical, Dictionary.get?_insert, Dictionary.get?_insert]
    split
    · rfl
    · exact same.kinds provider key known

end SameOutline

theorem decode_sameOutcome (same : SameOutline first second) :
    SameOutcome (decode first) (decode second) := by
  have providers := same.provider
  cases named : providerOf first with
  | error error =>
      refine .inr ⟨error, ?_, ?_⟩
      · rw [decode, named]
        rfl
      · rw [decode, ← providers, named]
        rfl
  | ok provider =>
      rw [decode_eq named, decode_eq (providers.symm.trans named)]
      obtain ⟨keys, kinds⟩ := same.canonical provider
      exact ofDictionary_sameOutcome keys kinds

/-- Two groups of keys are read, or refused, for their outlines. -/
theorem ofParts_sameOutcome {config otherConfig : Dictionary Value}
    (same : SameOutline first second) (configSame : SameOutline config otherConfig) :
    SameOutcome (ofParts first config) (ofParts second otherConfig) := by
  have contains : config.contains = otherConfig.contains := funext configSame.isSome
  rw [ofParts, ofParts, same.keys, contains]
  cases shared : second.keys.find? otherConfig.contains with
  | some key => exact .inr ⟨_, rfl, rfl⟩
  | none => exact decode_sameOutcome (same.extend configSame)

/-- **Errors tell no secrets.** Whether a configuration is read from two groups, and the error
that refuses it, depend on the shapes of the groups and the name of the provider alone. What
the placeholders pass the values pass too. -/
theorem ofParts_secrecy :
    (∀ (provider : Provider) (flat : Dictionary Value) (judged : Configuration),
      ofMembers provider (Value.encodeFields (placeholderFields flat.entries)) = .ok judged →
      ∃ configuration, ofMembers provider (Value.encodeFields flat.entries) = .ok configuration) ∧
    (∀ credentials config otherCredentials otherConfig : Dictionary Value,
      credentials.SameShape otherCredentials → config.SameShape otherConfig →
      (credentials.get? providerKey).bind Value.asText? =
        (otherCredentials.get? providerKey).bind Value.asText? →
      (config.get? providerKey).bind Value.asText? =
        (otherConfig.get? providerKey).bind Value.asText? →
      SameOutcome (ofParts credentials config) (ofParts otherCredentials otherConfig)) := by
  constructor
  · intro provider flat judged passed
    exact ⟨_, ofMembers_of_placeholders passed⟩
  · intro credentials config otherCredentials otherConfig credentialShapes configShapes
      credentialNames configNames
    exact ofParts_sameOutcome (.of_sameShape credentialShapes credentialNames)
      (.of_sameShape configShapes configNames)

/-- Two secrets with which one endpoint is refused for its type. -/
theorem ofParts_secrecy_endpoint :
    let config : Dictionary Value := .ofList [("endpoint", .int 1), ("name", .text "main"),
      ("provider", .text "generic")]
    let first : Dictionary Value := .ofList [("apiKey", .text "first")]
    let second : Dictionary Value := .ofList [("apiKey", .text "second")]
    first.SameShape second ∧ config.SameShape config ∧
      SameOutcome (ofParts first config) (ofParts second config) ∧
      ofParts first config = .error (.invalid "Generic connector"
        "invalid type: integer `0`, expected a string") := by
  intro config first second
  have firstShape : first.SameShape second := ⟨rfl, trivial, trivial⟩
  have configShape : config.SameShape config :=
    ⟨rfl, trivial, rfl, trivial, rfl, trivial, trivial⟩
  refine ⟨firstShape, configShape, ?_, ?_⟩
  · exact ofParts_secrecy.2 first config second config firstShape configShape rfl rfl
  · rfl

end Configuration
end Connector
end Converge
