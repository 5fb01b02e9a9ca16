import Converge.Decode
import Converge.Text.Shown

/-!
# Webhooks of a stack

A webhook sends events of some types to an endpoint and signs them with a secret.
-/

namespace Converge.Stack

open Decode

variable {σ : Type} [Source σ]

/-- What a webhook is created or updated with. -/
structure WebhookRequest where
  endpoint : String
  eventTypes : List String
  name : Option String
  secret : Option String
deriving DecidableEq

namespace WebhookRequest

def decode : Decoder σ WebhookRequest :=
  record "struct WebhookConfigRequest"
    ((Fields.none WebhookRequest.mk).required "endpoint" text
      |>.required "eventTypes" (list text) |>.optional "name" text |>.optional "secret" text)

def toJson (request : WebhookRequest) : Json :=
  .ofEntries (
    [("endpoint", .string request.endpoint),
      ("eventTypes", .array (request.eventTypes.map .string))]
    ++ Json.member "name" (request.name.map .string)
    ++ Json.member "secret" (request.secret.map .string))

/-- The request without its secret, for messages. -/
def shown (request : WebhookRequest) : String :=
  Text.shownRecord "WebhookConfigRequest"
    [("endpoint", Text.quoted request.endpoint),
      ("event_types", Text.shownList Text.quoted request.eventTypes),
      ("name", Text.shownText request.name), ("secret", Text.shownSecret request.secret)]

end WebhookRequest

/-- A webhook as the stack reports it. -/
structure Webhook where
  id : String
  endpoint : String
  eventTypes : List String
  name : Option String
  secret : Option String
  active : Bool
  createdAt : Option String
deriving DecidableEq

namespace Webhook

def decode : Decoder σ Webhook :=
  record "struct WebhookConfig"
    ((Fields.none Webhook.mk).required "id" text |>.required "endpoint" text
      |>.defaulted "eventTypes" (list text) [] |>.optional "name" text
      |>.optional "secret" text |>.defaulted "active" bool false |>.optional "createdAt" text)

def toJson (webhook : Webhook) : Json :=
  .ofEntries (
    [("id", .string webhook.id), ("endpoint", .string webhook.endpoint),
      ("eventTypes", .array (webhook.eventTypes.map .string))]
    ++ Json.member "name" (webhook.name.map .string)
    ++ Json.member "secret" (webhook.secret.map .string)
    ++ [("active", .bool webhook.active)]
    ++ Json.member "createdAt" (webhook.createdAt.map .string))

end Webhook

end Converge.Stack
