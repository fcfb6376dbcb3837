import BoardActivity.Store.Transaction

/-!
# Stored webhooks and deliveries

There is at most one delivery for a webhook and an event. Dispatching an event makes sure of a
delivery, and of the task that sends it, for every webhook that the event concerns.
-/

namespace BoardActivity.Store

/-- The active webhooks of a board, by identifier. -/
def activeWebhooks (s : Store) (board : Ident) : List Webhook :=
  (s.webhooks.rows.filter fun w => w.active && w.board == board).mergeSort fun a b =>
    decide (a.id ≤ b.id)

def deactivateWebhook (s : Store) (id : Ident) : Except Error Unit × Store :=
  match s.webhooks.find? id with
  | none => (.error (.notFound "webhook" id), s)
  | some w => (.ok (), s.saveWebhook { w with active := false })

/-- The delivery of an event to a webhook, inserted if there is none. -/
def ensureDelivery (s : Store) (webhook event : Ident) (now : Instant) : Delivery × Store :=
  match s.deliveries.find? (webhook, event) with
  | some d => (d, s)
  | none =>
    let (id, s) := s.mint
    let d := Delivery.create id webhook event now
    (d, { s with deliveries := s.deliveries.put d })

def findDelivery (s : Store) (id : Ident) : Option Delivery :=
  s.deliveries.rows.find? fun d => d.id == id

/-- The deliveries of an event, by webhook. -/
def deliveriesForEvent (s : Store) (event : Ident) : List Delivery :=
  (s.deliveries.rows.filter fun d => d.event == event).mergeSort fun a b =>
    decide (a.webhook ≤ b.webhook)

/-- Replaces the delivery of the same webhook and event. -/
def updateDelivery (s : Store) (d : Delivery) : Except Error Unit × Store :=
  if s.deliveries.contains (d.webhook, d.event) then
    (.ok (), { s with deliveries := s.deliveries.put d })
  else (.error (.notFound "delivery" d.id), s)

def delinquency (s : Store) (webhook : Ident) : DelinquencyTracker :=
  (s.trackers.find? webhook).getD (.fresh webhook)

def recordOutcome (s : Store) (webhook : Ident) (outcome : Outcome) (now : Instant) :
    DelinquencyTracker × Store :=
  let t := (s.delinquency webhook).record outcome now
  (t, { s with trackers := s.trackers.put t })

/-- Makes sure of the deliveries of an event to webhooks, and of their tasks. -/
def deliverToAll (s : Store) (maxAttempts : Nat) (event : Ident) (now : Instant) :
    List Webhook → List Delivery × Store
  | [] => ([], s)
  | w :: rest =>
    let (d, s) := s.ensureDelivery w.id event now
    let (_, s) := s.enqueue ((NewTask.create .deliverWebhook d.id).withMaxAttempts maxAttempts) now
    let (ds, s) := s.deliverToAll maxAttempts event now rest
    (d :: ds, s)

/-- The webhooks that an event concerns, by identifier: the active ones of its board that subscribe
to its action, if the dispatcher permits it. -/
def concernedWebhooks (s : Store) (dispatcher : Dispatcher) (e : Event) : List Webhook :=
  if dispatcher.permits e.action then
    (s.activeWebhooks e.board).filter fun w => dispatcher.concerns w e
  else []

/-- Makes sure of a delivery to each webhook that an event concerns. -/
def dispatch (s : Store) (dispatcher : Dispatcher) (e : Event) (now : Instant) :
    List Delivery × Store :=
  s.deliverToAll dispatcher.maxAttempts e.id now (s.concernedWebhooks dispatcher e)

end BoardActivity.Store
