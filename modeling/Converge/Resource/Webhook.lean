import Converge.Membership
import Converge.Resource

/-!
# Webhooks

A webhook sends events of some types to an endpoint. Event types are compared as a set.
The stack generates a secret where none is given, and an update has to tell the whole
webhook again, so it repeats the secret that is known. Name and secret are compared only
where they are declared.
-/

namespace Converge.Resource

open Decode (Fields text list)
open Encode (field optional)
open Remote

structure Webhook where
  id : Option String
  endpoint : String
  eventTypes : List String
  name : Option String
  /-- The secret that events are signed with. -/
  secret : Option String
deriving DecidableEq

namespace Webhook

def decode {σ : Type} [Decode.Source σ] : Decode.Decoder σ Webhook :=
  Decode.record "struct WebhooksModel"
    ((Fields.none Webhook.mk).optional "id" text |>.required "endpoint" text
      |>.required "event_types" (list text) |>.optional "name" text
      |>.optional "secret" text)

def encode : Encode.Encoder Webhook := fun webhook =>
  Encode.record [optional "id" Encode.text webhook.id,
    field "endpoint" Encode.text webhook.endpoint,
    field "event_types" (Encode.list Encode.text) webhook.eventTypes,
    optional "name" Encode.text webhook.name,
    optional "secret" Encode.text webhook.secret]

/-- The webhook without its secret, for messages. -/
def shown (webhook : Webhook) : String :=
  Text.shownRecord "WebhooksModel"
    [("id", Text.shownText webhook.id), ("endpoint", Text.quoted webhook.endpoint),
      ("event_types", Text.shownList Text.quoted webhook.eventTypes),
      ("name", Text.shownText webhook.name), ("secret", Text.shownSecret webhook.secret)]

/-- A text that is set to something. -/
def given (value : Option String) : Option String := value.filter fun text => !text.isEmpty

def request (webhook : Webhook) : Stack.WebhookRequest :=
  ⟨webhook.endpoint, webhook.eventTypes, given webhook.name, given webhook.secret⟩

/-- Take over what the stack reports; an absent name or secret is not taken over. -/
def applyRemote (webhook : Webhook) (info : Stack.Webhook) : Webhook where
  id := some info.id
  endpoint := info.endpoint
  eventTypes := info.eventTypes
  name := (given info.name).or webhook.name
  secret := (given info.secret).or webhook.secret

def sameEventTypes (left right : Webhook) : Bool :=
  (Delta.between left.eventTypes right.eventTypes).isEmpty

def changedFields (prior desired : Webhook) : List String :=
  (if prior.endpoint = desired.endpoint then [] else ["endpoint"])
  ++ (if prior.sameEventTypes desired then [] else ["event_types"])
  ++ (if desired.name.isNone ∨ prior.name = desired.name then [] else ["name"])
  ++ (if desired.secret.isNone ∨ prior.secret = desired.secret then [] else ["secret"])

def validate (desired : Webhook) : Diagnostics :=
  requireGiven desired.endpoint "endpoint"
  ++ (if desired.eventTypes.isEmpty then
      [.invalid "event_types" "at least one event type is required"]
    else [])

/-- What is reported where the identifier is not known. -/
def missingId : Diagnostic :=
  .invalid "id" "webhook id is unknown; the webhook must be created first"

/-- What is reported where the stack lists no webhook with the identifier. -/
def notFound (id : String) : Diagnostic :=
  (Diagnostic.error .remote "WEBHOOK_NOT_FOUND"
    ("webhook configuration '" ++ id ++ "' not found")).withSubject "id"

def create (desired : Webhook) : Program (Transition Webhook) :=
  if (validate desired).hasError then .done (.failed (validate desired))
  else whenReady .webhooks none <|
    .call (.createWebhook desired.request) fun
    | .error failure => .done (.failed [failure])
    | .ok info => .done (.ok (desired.applyRemote info))

def read (state : Webhook) : Program (Transition Webhook) :=
  match state.id with
  | none => .done (.keeping state [missingId])
  | some id => whenReady .webhooks (some state) <|
    .call (.getWebhooks id) fun
    | .error failure => .done (.keeping state [failure])
    | .ok listed =>
      match listed.find? (·.id == id) with
      | some info => .done (.ok (state.applyRemote info))
      | none => .done (.keeping state [notFound id])

/-- What an update tells the stack: the desired webhook, with the secret that is known
where none is desired. -/
def updateRequest (observed desired : Webhook) : Stack.WebhookRequest :=
  { desired.request with secret := desired.request.secret.or (given observed.secret) }

/-- The state after an update. -/
def updated (id : String) (observed desired : Webhook) : Webhook :=
  { desired with
    id := some id
    name := desired.name.or observed.name
    secret := (updateRequest observed desired).secret }

def update (observed desired : Webhook) : Program (Transition Webhook) :=
  if (validate desired).hasError then .done (.keeping observed (validate desired))
  else
    match observed.id with
    | none => .done (.keeping observed [missingId])
    | some id =>
      if (changedFields observed desired).isEmpty then .done (.ok observed)
      else whenReady .webhooks (some observed) <|
        .call (.command (.updateWebhook id (updateRequest observed desired))) fun
        | .error failure => .done (.keeping observed [failure])
        | .ok () => .done (.ok (updated id observed desired))

def delete (state : Webhook) : Program Diagnostics :=
  match state.id with
  | none => .done [missingId]
  | some id => deleteBy .webhooks (.deleteWebhook id)

def resource : Resource Webhook where
  kind := .webhooks
  decode := decode
  encode := encode
  replaceFields := []
  changedFields := changedFields
  check? := some validate
  create := create
  read := read
  update := update
  delete := delete
  adopt? := some fun id => adoptBy read ⟨some id, "", [], none, none⟩

end Webhook

end Converge.Resource
