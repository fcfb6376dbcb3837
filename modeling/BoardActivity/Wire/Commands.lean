import BoardActivity.Simulation.Command
import BoardActivity.Wire.Settings

/-!
# Commands as JSON

Reading a command from an object: its name stands under `do`, its arguments are the other members.
Arguments that may be absent may also be null.
-/

namespace BoardActivity

open Wire

def Lookup.read? (name : String) (j : Json) : Option Lookup := do
  match name with
  | "card" => return .card (← j.field "id")
  | "comments" => return .commentsOn (← j.field "card")
  | "events" => return .eventLog
  | "find_event" => return .event (← j.field "id")
  | "list_events" => return .listing (← EventQuery.read? j)
  | "board_watchers" => return .boardWatchers (← j.field "id")
  | "card_watchers" => return .cardWatchers (← j.field "id")
  | "card_assignees" => return .cardAssignees (← j.field "id")
  | "mentionees" => return .mentionees ⟨← j.field "kind", ← j.field "id"⟩
  | "comment_card" => return .commentCard (← j.field "id")
  | "find_user" => return .user (← j.field "id")
  | "find_users" => return .users (← j.field "ids")
  | "find_board" => return .board (← j.field "id")
  | "notifications_for_event" => return .notificationsForEvent (← j.field "event")
  | "notifications_for_user" => return .notificationsForUser (← j.field "user")
  | "find_webhook" => return .webhook (← j.field "id")
  | "active_webhooks" => return .activeWebhooks (← j.field "board")
  | "find_delivery" => return .delivery (← j.field "id")
  | "deliveries" => return .deliveriesForEvent (← j.field "event")
  | "delinquency" => return .delinquency (← j.field "webhook")
  | _ => none

def CardOperation.read? (name : String) (j : Json) : Option CardOperation := do
  match name with
  | "publish" => return .publish
  | "close" => return .close
  | "reopen" => return .reopen
  | "postpone" => return .postpone
  | "assign" => return .assign (← j.field "users")
  | "unassign" => return .unassign (← j.field "users")
  | "rename" => return .rename (← j.field "title")
  | "move" => return .move (← j.field "board")
  | _ => none

def DeliveryChange.read? (j : Json) : Option DeliveryChange := do
  match ← (j.field "how" : Option String) with
  | "start" => return .start
  | "skip" => return .skip (← j.field "reason")
  | "finish" => return .finish (← Outcome.read? j)
  | "none" => return .none
  | _ => none

def ClaimRef.read? (j : Json) : Option ClaimRef := do
  return {
    place := ← j.required "claim" (Json.within? (-(pow2 63 : Int)) (pow2 63 - 1))
    worker := ← j.optional "as_worker" decode?
    task := ← j.optional "as_task" decode? }

/-- An argument that is a list, empty where it is absent. -/
def listArgument [Wire α] (name : String) (j : Json) : Option (List α) :=
  (j.optional name decode?).map fun items => items.getD []

/-- Kinds of tasks, all where nothing is said. -/
def TaskKind.readAll? (j : Json) : Option (List TaskKind) :=
  (j.optional "kinds" decode?).map fun kinds => kinds.getD TaskKind.all

/-- The changes of a poller's settings. -/
def pollerArgument (j : Json) : Option PollerConfig :=
  (j.optional "poller" PollerConfig.read?).map fun c => c.getD .standard

/-- A signed move of the clock: milliseconds and nanoseconds, added up. -/
def readMove (j : Json) : Option Int := do
  let word := Json.within? (-(pow2 63 : Int)) (pow2 63 - 1)
  return (← j.optional "ms" word).getD 0 * 1000000 + (← j.optional "ns" word).getD 0

namespace Command

/-- Reads what becomes of requests: a script of outcomes and the outcome after it. -/
def readTransport? (j : Json) : Option Command := do
  let script := (← j.optional "script" (Json.items? Outcome.read?)).getD []
  let fallback := (← j.optional "default" Outcome.read?).getD (.responded 200)
  return .setTransport script fallback ((← j.optional "hang" decode?).getD false)

/-- Reads an operation of users on cards and comments. -/
def readActivity? (name : String) (j : Json) : Option Command := do
  match name with
  | "create_draft" => return .createDraft (← j.field "board") (← j.field "by") (← j.field "title")
  | "destroy" => return .destroyCard (← j.field "card")
  | "comment" =>
    return .comment (← j.field "card") (← j.field "by") (← j.field "body")
      (← listArgument "mentions" j)
  | _ => return .changeCard (← j.field "card") (← j.field "by") (← CardOperation.read? name j)

/-- Reads a command that puts records in place or sets the world up. -/
def readSetup? (name : String) (j : Json) : Option Command := do
  match name with
  | "advance" => return .advance (← readMove j)
  | "user" => return .putUser (← j.field "user")
  | "board" => return .putBoard (← j.field "board")
  | "add_card" => return .putCard (← j.field "card")
  | "add_webhook" => return .putWebhook (← j.field "webhook")
  | "new_user" => return .newUser (← j.field "account_id") (← j.optional "name" decode?)
  | "new_board" =>
    return .newBoard (← j.field "account_id") (← j.field "name") (← listArgument "watchers" j)
  | "new_card" =>
    return .newCard (← j.field "account_id") (← j.field "board") (← j.field "by")
      (← j.field "title") (← listArgument "mentions" j)
  | "new_webhook" =>
    return .newWebhook (← j.field "account_id") (← j.field "board_id") (← j.field "name")
      (← j.field "url") (← j.field "actions")
  | "fail_notifications_after" =>
    return .failNotificationsAfter (← j.required "count" (Json.below? (pow2 64)))
  | "transport" => readTransport? j
  | "sent" => return .takeSent
  | _ => none

/-- Reads a command about notifications, webhooks and deliveries. -/
def readDelivery? (name : String) (j : Json) : Option Command := do
  match name with
  | "recipients" => return .recipients (← j.field "event")
  | "ensure_notification" =>
    return .ensureNotification (← j.field "user") (← j.field "event") (← j.field "creator")
  | "mark_read" => return .markRead (← j.field "id")
  | "save_webhook" => return .saveWebhook (← j.field "webhook")
  | "resubscribe" => return .resubscribe (← j.field "id") (← j.field "actions")
  | "deactivate" => return .deactivate (← j.field "id")
  | "ensure_delivery" => return .ensureDelivery (← j.field "webhook") (← j.field "event")
  | "update_delivery" =>
    let delivery ← match j.present? "delivery" with
      | some d => (decode? d).map Sum.inl
      | none => (j.field "id").map Sum.inr
    return .updateDelivery delivery (← DeliveryChange.read? j)
  | "record_outcome" =>
    return .recordOutcome (← j.field "webhook") (← Outcome.read? j) (← j.field "at")
  | _ => none

/-- Reads a command about tasks and workers. -/
def readWork? (name : String) (j : Json) : Option Command := do
  let max := j.required "max" (Json.below? (pow2 64))
  match name with
  | "enqueue" => return .enqueue (← NewTask.read? "subject" j)
  | "claim" => return .claim (← j.field "worker") (← TaskKind.readAll? j) (← max)
  | "complete" => return .complete (← ClaimRef.read? j)
  | "fail" => return .fail (← ClaimRef.read? j) (← j.field "error") (← j.field "delay_ms")
  | "reclaim" => return .reclaim (← j.field "threshold_ms")
  | "run" => return .run (← ClaimRef.read? j)
  | "execute" => return .execute (← ClaimRef.read? j)
  | "job_notify" => return .handle .notify (← j.field "id")
  | "job_dispatch" => return .handle .dispatchWebhooks (← j.field "id")
  | "job_deliver" => return .handle .deliverWebhook (← j.field "id")
  | "drain" => return .drain
  | "poller" =>
    return .startPoller (← j.field "worker") (← TaskKind.readAll? j) (← pollerArgument j)
  | "poll" => return .poll (← max)
  | "wait" => return .awaitPoller
  | "shutdown" => return .shutDownPoller
  | "pool" =>
    return .runPool (← j.field "worker") (← j.required "concurrency" (Json.below? (pow2 64)))
      (← pollerArgument j)
  | "api" =>
    let method := (← j.optional "method" fun m => m.string?.bind Http.Method.read?).getD .get
    return .request method (← Http.Target.read? (← j.field "uri"))
  | _ => none

def read? (j : Json) : Option Command := do
  let name ← j.field "do"
  (Lookup.read? name j).map lookUp <|> readSetup? name j <|> readActivity? name j <|>
    readDelivery? name j <|> readWork? name j

end Command

end BoardActivity
