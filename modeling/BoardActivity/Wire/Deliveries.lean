import BoardActivity.Delivery
import BoardActivity.Webhook
import BoardActivity.Wire.Records

/-!
# Wire forms of webhooks and deliveries

Webhooks, what is sent to them, deliveries and the count of failures as JSON. The actions of a
webhook are written in order, each once, and read in any order.
-/

namespace BoardActivity

open Wire

instance : Wire ActionSet := ⟨fun s => encode s.names, fun j => (decode? j).map ActionSet.ofList⟩

instance : Wire DeliveryState :=
  ⟨fun s => .string s.name, fun j => j.constant?.bind DeliveryState.ofName?⟩

instance : Wire Webhook where
  encode w := .object
    [("id", encode w.id), ("account_id", encode w.account), ("board_id", encode w.board),
     ("name", encode w.name), ("url", encode w.url), ("active", encode w.active),
     ("subscribed_actions", encode w.subscribed), ("created_at", encode w.createdAt)]
  decode? j := do
    let j ← j.record? ["id", "account_id", "board_id", "name", "url", "active",
      "subscribed_actions", "created_at"] 8
    return {
      id := ← j.field "id"
      account := ← j.field "account_id"
      board := ← j.field "board_id"
      name := ← j.field "name"
      url := ← j.field "url"
      active := ← j.field "active"
      subscribed := ← j.field "subscribed_actions"
      createdAt := ← j.field "created_at" }

instance : Wire PayloadParty where
  encode p := .object [("id", encode p.id), ("name", encodeOption p.name)]
  decode? j := do
    let j ← j.record? ["id", "name"] 2
    return { id := ← j.field "id", name := ← j.optional "name" decode? }

instance : Wire WebhookPayload where
  encode p := .object
    [("id", encode p.id), ("action", encode p.action), ("created_at", encode p.createdAt),
     ("particulars", .object p.particulars), ("eventable", encode p.eventable),
     ("board", encode p.board), ("creator", encode p.creator)]
  decode? j := do
    let j ← j.record? ["id", "action", "created_at", "particulars", "eventable", "board",
      "creator"] 7
    return {
      id := ← j.field "id"
      action := ← j.field "action"
      createdAt := ← j.field "created_at"
      particulars := ← j.required "particulars" Json.object?
      eventable := ← j.field "eventable"
      board := ← j.field "board"
      creator := ← j.field "creator" }

instance : Wire Delivery where
  encode d := .object
    [("id", encode d.id), ("webhook_id", encode d.webhook), ("event_id", encode d.event),
     ("state", encode d.state), ("response_code", Json.ofOption Json.ofNat d.responseCode),
     ("error", encodeOption d.error), ("created_at", encode d.createdAt),
     ("updated_at", encode d.updatedAt)]
  decode? j := do
    let j ← j.record? ["id", "webhook_id", "event_id", "state", "response_code", "error",
      "created_at", "updated_at"] 8
    return {
      id := ← j.field "id"
      webhook := ← j.field "webhook_id"
      event := ← j.field "event_id"
      state := ← j.field "state"
      responseCode := ← j.optional "response_code" (Json.below? (pow2 16))
      error := ← j.optional "error" decode?
      createdAt := ← j.field "created_at"
      updatedAt := ← j.field "updated_at" }

instance : Wire DelinquencyPolicy where
  encode p := .object [("threshold", .ofNat p.threshold), ("window", encode p.window)]
  decode? j := do
    let j ← j.record? ["threshold", "window"] 2
    return {
      threshold := ← j.required "threshold" (Json.below? (pow2 32))
      window := ← j.field "window" }

instance : Wire DelinquencyTracker where
  encode t := .object
    [("webhook_id", encode t.webhook), ("consecutive_failures", .ofNat t.failures),
     ("first_failure_at", encodeOption t.firstFailureAt)]
  decode? j := do
    let j ← j.record? ["webhook_id", "consecutive_failures", "first_failure_at"] 3
    return {
      webhook := ← j.field "webhook_id"
      failures := ← j.required "consecutive_failures" (Json.below? (pow2 32))
      firstFailureAt := ← j.optional "first_failure_at" decode? }

/-- Reads an outcome: a status, else the text of an error. -/
def Outcome.read? (j : Json) : Option Outcome := do
  match ← j.optional "status" (Json.below? (pow2 16)) with
  | some status => return .responded status
  | none => return .errored (← j.field "error")

end BoardActivity
