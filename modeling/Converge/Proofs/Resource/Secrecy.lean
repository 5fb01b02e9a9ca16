import Converge.Proofs.Connector.Secrecy
import Converge.Resource.Documents

/-!
# Secrets in documents

The credentials of a connector and the secret of a webhook must not be shown. Take two
declarations that are shaped alike and differ in such a secret alone. They are judged alike, with
the same report on both, unless a leaf is given for the secret that is not of its type: the
report that refuses such a document copies the leaf. Of credentials that are an object a report
tells an outline: the provider that is named among them, and the kinds of values under the keys
that providers know.
-/

namespace Converge

namespace Json

mutual

/-- Two documents of the same kinds, keys and lengths throughout. All numbers are of one kind. -/
def SameShape : Json → Json → Prop
  | .null, .null => True
  | .bool _, .bool _ => True
  | .number _, .number _ => True
  | .string _, .string _ => True
  | .array lefts, .array rights => SameItemShapes lefts rights
  | .object lefts, .object rights => SameMemberShapes lefts rights
  | _, _ => False

def SameItemShapes : List Json → List Json → Prop
  | [], [] => True
  | left :: lefts, right :: rights => SameShape left right ∧ SameItemShapes lefts rights
  | _, _ => False

def SameMemberShapes : List (String × Json) → List (String × Json) → Prop
  | [], [] => True
  | (leftKey, left) :: lefts, (rightKey, right) :: rights =>
    leftKey = rightKey ∧ SameShape left right ∧ SameMemberShapes lefts rights
  | _, _ => False

end

/-- A document that messages tell by its value. -/
def IsLeaf : Json → Prop
  | .bool _ | .number _ | .string _ => True
  | _ => False

end Json

/-- An attribute of a record whose value must not be shown. -/
structure Secret where
  name : String
  /-- The names of the record's fields, in the order of their declaration. -/
  declared : List String
  /-- What messages call the attribute's type. -/
  expected : String

namespace Secret

/-- The credentials of a connector. -/
def credentials : Secret := ⟨"credentials", ["id", "credentials", "config"], "a map"⟩

/-- The secret of a webhook. -/
def webhook : Secret :=
  ⟨"secret", ["id", "endpoint", "event_types", "name", "secret"], "a string"⟩

end Secret

/-- The secret of a kind's declarations. -/
def Kind.secret? : Kind → Option Secret
  | .paymentsConnector => some .credentials
  | .webhooks => some .webhook
  | _ => none

namespace Secret

open Decode

variable (secret : Secret)

/-- A list of fields with the given names, with null in place of the secret. -/
def blankItems : List String → List Json → List Json
  | [], items => items
  | _, [] => []
  | name :: names, item :: items =>
    (if name = secret.name then .null else item) :: blankItems names items

/-- The document of a record with null in place of the secret. -/
def blank : Json → Json
  | .object members => .object (members.map fun member =>
      (member.1, if member.1 = secret.name then .null else member.2))
  | .array items => .array (secret.blankItems secret.declared items)
  | other => other

/-- The fields that the document of a record gives, by name or by place. -/
def fields : Json → List (String × Json)
  | .object members => members
  | .array items => secret.declared.zip items
  | _ => []

/-- The document gives the value for the secret. -/
def Gives (document value : Json) : Prop := (secret.name, value) ∈ secret.fields document

/-- The report on a document that gives a value of another type for the secret. -/
def mismatch (value : Json) : Diagnostics :=
  [.invalid "desired" ("desired does not match the resource schema: "
    ++ (Fault.unexpectedType (.ofJson value) secret.expected).message)]

/-! ## Documents that differ in a secret -/

/-- One value for a field, or for the secret two of one shape. -/
def Varies (name : String) (left right : Json) : Prop :=
  if name = secret.name then left.SameShape right else left = right

/-- What the documents give for a field is one value, or for the secret two of one shape. -/
def Differs (first second : Json) (name : String) (left right : Json) : Prop :=
  secret.Varies name left right ∧
    (name, left) ∈ secret.fields first ∧ (name, right) ∈ secret.fields second

variable {secret} {first second : Json}

theorem Differs.shape {left right : Json}
    (differs : secret.Differs first second secret.name left right) : left.SameShape right := by
  have same := differs.1
  rwa [Varies, if_pos rfl] at same

/-- Any other field is read alike. -/
theorem read_other {β : Type} (read : Json → β) {name : String} (other : name ≠ secret.name)
    (left right : Json) (differs : secret.Differs first second name left right) :
    read left = read right := by
  have same := differs.1
  rw [Varies, if_neg other] at same
  rw [same]

theorem alongside_members {members others : List (String × Json)}
    (shape : Json.SameMemberShapes members others)
    (outside : secret.blank (.object members) = secret.blank (.object others)) :
    Alongside secret.Varies members others := by
  rw [blank, blank, Json.object.injEq] at outside
  induction members generalizing others with
  | nil =>
      cases others with
      | nil => exact .nil
      | cons other others => cases outside
  | cons member members ih =>
      cases others with
      | nil => cases outside
      | cons other others =>
          obtain ⟨key, value⟩ := member
          obtain ⟨otherKey, held⟩ := other
          rw [Json.SameMemberShapes] at shape
          obtain ⟨rfl, sameShape, shape⟩ := shape
          rw [List.map_cons, List.map_cons, List.cons.injEq, Prod.mk.injEq] at outside
          obtain ⟨⟨_, same⟩, outside⟩ := outside
          refine .cons ⟨rfl, ?_⟩ (ih shape outside)
          dsimp only at same ⊢
          rw [Varies]
          split
          · exact sameShape
          · rename_i notSecret
            rwa [if_neg notSecret, if_neg notSecret] at same

theorem alongside_items {names : List String} {items others : List Json}
    (shape : Json.SameItemShapes items others)
    (outside : secret.blankItems names items = secret.blankItems names others) :
    items.length = others.length ∧
      Alongside secret.Varies (names.zip items) (names.zip others) := by
  induction names generalizing items others with
  | nil =>
      rw [blankItems, blankItems] at outside
      exact ⟨congrArg List.length outside, .nil⟩
  | cons name names ih =>
      cases items with
      | nil =>
          cases others with
          | nil => exact ⟨rfl, .nil⟩
          | cons other others => cases outside
      | cons item items =>
          cases others with
          | nil => cases outside
          | cons other others =>
              rw [Json.SameItemShapes] at shape
              obtain ⟨sameShape, shape⟩ := shape
              rw [blankItems, blankItems, List.cons.injEq] at outside
              obtain ⟨same, outside⟩ := outside
              obtain ⟨length, rest⟩ := ih shape outside
              refine ⟨congrArg (· + 1) length, .cons ⟨rfl, ?_⟩ rest⟩
              dsimp only
              rw [Varies]
              split
              · exact sameShape
              · rename_i notSecret
                rwa [if_neg notSecret, if_neg notSecret] at same

/-- Documents of one shape that are equal but for the secret are read side by side. -/
theorem recorded (shape : first.SameShape second)
    (outside : secret.blank first = secret.blank second) :
    Recorded secret.declared (secret.Differs first second) first second := by
  cases first <;> cases second <;> rw [Json.SameShape] at shape
  case object.object members others => exact .object (alongside_members shape outside).mem
  case array.array items others =>
    obtain ⟨length, same⟩ := alongside_items shape (Json.array.inj outside)
    exact .array length same.mem
  all_goals first
    | exact shape.elim
    | cases outside; exact .neither (by simp) (by simp)

/-! ## Faults that copy a leaf -/

variable (secret) in
/-- Both faults are those of a leaf that is given for the secret. -/
def Copied (first second : Json) (left right : Fault) : Prop :=
  ∃ one other, secret.Gives first one ∧ secret.Gives second other ∧ one.IsLeaf ∧ other.IsLeaf ∧
    left = .unexpectedType (.ofJson one) secret.expected ∧
    right = .unexpectedType (.ofJson other) secret.expected

/-- What is given for the secret is refused alike, unless it is a leaf. -/
theorem agree_mismatch {α : Type} {needs : α → α → Prop} {left right : Json}
    (differs : secret.Differs first second secret.name left right) :
    Agree (secret.Copied first second) needs
      (.error (.unexpectedType (.ofJson left) secret.expected))
      (.error (.unexpectedType (.ofJson right) secret.expected)) := by
  have shape := differs.shape
  obtain ⟨_, given, givenToo⟩ := differs
  cases left <;> cases right <;> rw [Json.SameShape] at shape
  case null.null => exact .fault _
  case array.array => exact .fault _
  case object.object => exact .fault _
  all_goals first
    | exact shape.elim
    | exact .apart ⟨_, _, given, givenToo, trivial, trivial, rfl, rfl⟩

/-- Documents that are read side by side into what is judged alike are reported alike, unless a
leaf is copied. -/
theorem validate_of_agree {M : Type} {resource : Resource M} {values : M → M → Prop}
    (agree : Agree (secret.Copied first second) values (resource.decode first)
      (resource.decode second))
    (judged : ∀ left right, values left right → resource.validate left = resource.validate right) :
    resource.validateDocument first = resource.validateDocument second ∨
      ∃ left right, secret.Gives first left ∧ secret.Gives second right ∧
        left.IsLeaf ∧ right.IsLeaf ∧
        resource.validateDocument first = secret.mismatch left ∧
        resource.validateDocument second = secret.mismatch right := by
  rw [Resource.validateDocument, Resource.validateDocument, Resource.ofDocument,
    Resource.ofDocument]
  generalize resource.decode first = one at agree ⊢
  generalize resource.decode second = other at agree ⊢
  cases agree with
  | ok related => exact .inl (judged _ _ related)
  | fault fault => exact .inl rfl
  | apart copied =>
      obtain ⟨left, right, given, givenToo, leaf, leafToo, rfl, rfl⟩ := copied
      exact .inr ⟨left, right, given, givenToo, leaf, leafToo, rfl, rfl⟩

end Secret

open Connector

variable {first second : Json}

/-! ## Webhooks -/

namespace Resource.Webhook

/-- Texts of one shape are read alike, and anything else is refused. -/
theorem optionalText_agree {left right : Json}
    (differs : Secret.webhook.Differs first second "secret" left right) :
    Decode.Agree (Secret.webhook.Copied first second) (fun _ _ => True)
      (Decode.optional Decode.text left) (Decode.optional Decode.text right) := by
  have shape := Secret.Differs.shape differs
  cases left <;> cases right <;> rw [Json.SameShape] at shape
  case null.null => exact .ok trivial
  case string.string => exact .ok trivial
  all_goals first
    | exact shape.elim
    | exact Secret.agree_mismatch differs

/-- What is not the secret is read from both documents. -/
theorem decode_agree (shape : first.SameShape second)
    (outside : Secret.webhook.blank first = Secret.webhook.blank second) :
    Decode.Agree (Secret.webhook.Copied first second)
      (fun left right : Webhook => left.endpoint = right.endpoint ∧
        left.eventTypes = right.eventTypes)
      (resource.decode first) (resource.decode second) := by
  change Decode.Agree _ _ (decode first) (decode second)
  rw [decode]
  refine Decode.record_agree ?_ _ (Secret.recorded shape outside)
  refine Decode.Fields.Agrees.defaulted ?_ (fun left right => optionalText_agree) trivial
  apply Decode.Fields.Agrees.optional _ (Secret.read_other _ (by decide))
  apply Decode.Fields.Agrees.required _ (Secret.read_other _ (by decide))
  apply Decode.Fields.Agrees.required _ (Secret.read_other _ (by decide))
  apply Decode.Fields.Agrees.optional _ (Secret.read_other _ (by decide))
  apply Decode.Fields.agrees_none
  intro id endpoint eventTypes name secret other _
  exact ⟨rfl, rfl⟩

theorem validate_congr {left right : Webhook} (same : left.endpoint = right.endpoint ∧
    left.eventTypes = right.eventTypes) : validate left = validate right := by
  rw [validate, validate, same.1, same.2]

end Resource.Webhook

/-! ## Payments connectors -/

namespace Resource.PaymentsConnector

open Connector.Configuration

/-- Credentials that are objects are outlined alike. -/
def OutlinedAlike (left right : Json) : Prop :=
  ∀ one other : Dictionary Value, (Value.decode left).asMap? = some one →
    (Value.decode right).asMap? = some other → Configuration.SameOutline one other

/-- Objects of one shape are read alike, and anything else is refused. -/
theorem dictionary_agree {left right : Json}
    (differs : Secret.credentials.Differs first second "credentials" left right)
    (outline : OutlinedAlike left right) :
    Decode.Agree (Secret.credentials.Copied first second) Configuration.SameOutline
      (Decode.dictionary Decode.dynamic left) (Decode.dictionary Decode.dynamic right) := by
  have shape := Secret.Differs.shape differs
  cases left <;> cases right <;> rw [Json.SameShape] at shape
  case object.object members others =>
    rw [Decode.dictionary_dynamic_object, Decode.dictionary_dynamic_object]
    exact .ok (outline _ _ rfl rfl)
  all_goals first
    | exact shape.elim
    | exact Secret.agree_mismatch differs

/-- The configurations are one, and the credentials outlined alike. -/
theorem decode_agree (shape : first.SameShape second)
    (outside : Secret.credentials.blank first = Secret.credentials.blank second)
    (outlines : ∀ left right, Secret.credentials.Gives first left →
      Secret.credentials.Gives second right → OutlinedAlike left right) :
    Decode.Agree (Secret.credentials.Copied first second)
      (fun left right : PaymentsConnector => left.config = right.config ∧
        Configuration.SameOutline left.credentials right.credentials)
      (resource.decode first) (resource.decode second) := by
  change Decode.Agree _ _ (decode first) (decode second)
  rw [decode]
  refine Decode.record_agree ?_ _ (Secret.recorded shape outside)
  apply Decode.Fields.Agrees.alike _ (Secret.read_other _ (by decide))
  refine Decode.Fields.Agrees.defaulted ?_ ?_ (Configuration.SameOutline.refl ∅)
  · apply Decode.Fields.Agrees.optional _ (Secret.read_other _ (by decide))
    apply Decode.Fields.agrees_none
    intro id credentials other same config
    exact ⟨rfl, same⟩
  · intro left right differs
    exact dictionary_agree differs (outlines left right differs.2.1 differs.2.2)

/-- Connectors of one configuration whose credentials are outlined alike are judged alike. -/
theorem validate_congr {left right : PaymentsConnector} (same : left.config = right.config ∧
    Configuration.SameOutline left.credentials right.credentials) :
    validate left = validate right := by
  obtain ⟨config, outline⟩ := same
  have empty : left.credentials.isEmpty = right.credentials.isEmpty := by
    have keys := congrArg List.isEmpty outline.keys
    rwa [Dictionary.keys, Dictionary.keys, List.isEmpty_map, List.isEmpty_map] at keys
  rw [validate, validate, empty, config]
  split
  · rfl
  · rcases ofParts_sameOutcome outline (.refl right.config) with
      ⟨one, other, read, readToo⟩ | ⟨error, refused, refusedToo⟩
    · rw [read, readToo]
    · rw [refused, refusedToo]

end Resource.PaymentsConnector

/-- What the reports of a kind may tell of its secret is the same of both values. -/
def Kind.SameOutline : Kind → Json → Json → Prop
  | .paymentsConnector, left, right => Resource.PaymentsConnector.OutlinedAlike left right
  | _, _, _ => True

/-- **Reports tell no secrets but misplaced ones.** Declarations of one shape that differ in the
secret alone are reported alike, as long as their secrets have one outline, unless both give a
leaf that is not of the secret's type. Each is then refused with a report that copies its leaf. -/
theorem Kind.validate_secrecy {kind : Kind} {secret : Secret}
    (isSecret : kind.secret? = some secret) (shape : first.SameShape second)
    (outside : secret.blank first = secret.blank second)
    (outlines : ∀ left right, secret.Gives first left → secret.Gives second right →
      kind.SameOutline left right) :
    kind.documents.validate first = kind.documents.validate second ∨
      ∃ left right, secret.Gives first left ∧ secret.Gives second right ∧
        left.IsLeaf ∧ right.IsLeaf ∧
        kind.documents.validate first = secret.mismatch left ∧
        kind.documents.validate second = secret.mismatch right := by
  cases kind with
  | paymentsConnector =>
      cases isSecret
      apply Secret.validate_of_agree
      · exact Resource.PaymentsConnector.decode_agree shape outside outlines
      · exact fun _ _ => Resource.PaymentsConnector.validate_congr
  | webhooks =>
      cases isSecret
      apply Secret.validate_of_agree
      · exact Resource.Webhook.decode_agree shape outside
      · exact fun _ _ => Resource.Webhook.validate_congr
  | _ => cases isSecret

/-! ## What reports tell -/

/-- The declaration of a connector. -/
def connectorDocument (credentials config : Json) : Json :=
  .object [("config", config), ("credentials", credentials)]

/-- The declaration of a webhook. -/
def webhookDocument (secret : Json) : Json :=
  .object [("endpoint", .string "https://a"), ("event_types", .array [.string "created"]),
    ("secret", secret)]

/-- Credentials that are one key. -/
def keyed (key : Json) : Json := .object [("apiKey", key)]

/-- A connector without a name is reported alike whatever its key is. -/
theorem Kind.validate_secrecy_unnamed :
    let unnamed : Json := .object [("provider", .string "Stripe")]
    let first := connectorDocument (keyed (.string "first")) unnamed
    let second := connectorDocument (keyed (.string "second")) unnamed
    Kind.paymentsConnector.secret? = some .credentials ∧ first.SameShape second ∧
      Secret.credentials.blank first = Secret.credentials.blank second ∧
      (∀ left right, Secret.credentials.Gives first left → Secret.credentials.Gives second right →
        Kind.paymentsConnector.SameOutline left right) ∧
      first ≠ second ∧
      Kind.paymentsConnector.documents.validate first =
        Kind.paymentsConnector.documents.validate second := by
  intro unnamed first second
  have shape : first.SameShape second :=
    ⟨rfl, ⟨rfl, trivial, trivial⟩, rfl, ⟨rfl, trivial, trivial⟩, trivial⟩
  have given : ∀ value, Secret.credentials.Gives first value →
      value = keyed (.string "first") := by
    intro value gives
    simpa [Secret.Gives, Secret.fields, Secret.credentials, first, connectorDocument] using gives
  have givenToo : ∀ value, Secret.credentials.Gives second value →
      value = keyed (.string "second") := by
    intro value gives
    simpa [Secret.Gives, Secret.fields, Secret.credentials, second, connectorDocument] using gives
  have outlines : ∀ left right, Secret.credentials.Gives first left →
      Secret.credentials.Gives second right →
        Kind.paymentsConnector.SameOutline left right := by
    intro left right gives givesToo
    rw [given left gives, givenToo right givesToo]
    rintro _ _ ⟨⟩ ⟨⟩
    exact .of_sameShape ⟨rfl, trivial, trivial⟩ rfl
  refine ⟨rfl, shape, rfl, outlines, by decide, ?_⟩
  rcases Kind.validate_secrecy rfl shape rfl outlines with same | ⟨left, _, gives, _, leaf, _⟩
  · exact same
  · rw [given left gives] at leaf
    exact leaf.elim

/-- The report tells declarations apart that are of one shape and differ in the secret alone. -/
def Kind.TellsApart (kind : Kind) (first second : Json) : Prop :=
  ∃ secret, kind.secret? = some secret ∧ first.SameShape second ∧
    secret.blank first = secret.blank second ∧
    kind.documents.validate first ≠ kind.documents.validate second

/-- A text in place of credentials is told, and so is a number in place of a webhook's secret.
Among the credentials the name of a provider is told, and whether a number is an integer. -/
theorem Kind.secrets_told :
    let named : Json := .object [("name", .string "main")]
    let main : Json := .object [("name", .string "main"), ("provider", .string "Stripe")]
    let half : Binary64 := ⟨0x3FE0000000000000⟩
    Kind.paymentsConnector.TellsApart (connectorDocument (.string "first") main)
      (connectorDocument (.string "second") main) ∧
    Kind.webhooks.TellsApart (webhookDocument (.number (.natural 1)))
      (webhookDocument (.number (.natural 2))) ∧
    Kind.paymentsConnector.TellsApart
      (connectorDocument (.object [("provider", .string "first")]) named)
      (connectorDocument (.object [("provider", .string "second")]) named) ∧
    Kind.paymentsConnector.TellsApart (connectorDocument (keyed (.number (.natural 1))) main)
      (connectorDocument (keyed (.number (.real half))) main) := by
  refine ⟨⟨_, rfl, ?_, rfl, by decide⟩, ⟨_, rfl, ?_, rfl, by decide⟩, ⟨_, rfl, ?_, rfl, by decide⟩,
    ⟨_, rfl, ?_, rfl, by decide⟩⟩
  · exact ⟨rfl, ⟨rfl, trivial, rfl, trivial, trivial⟩, rfl, trivial, trivial⟩
  · exact ⟨rfl, trivial, rfl, ⟨trivial, trivial⟩, rfl, trivial, trivial⟩
  · exact ⟨rfl, ⟨rfl, trivial, trivial⟩, rfl, ⟨rfl, trivial, trivial⟩, trivial⟩
  · exact ⟨rfl, ⟨rfl, trivial, rfl, trivial, trivial⟩, rfl, ⟨rfl, trivial, trivial⟩, trivial⟩

end Converge
