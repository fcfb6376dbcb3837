import BoardActivity.Store.Deliveries
import BoardActivity.Store.Notifications
import BoardActivity.Worker.Transport

/-!
# Handlers of tasks

What a worker does for a task: notify the recipients of an event, dispatch it to webhooks, or send
one delivery. Each handler can be run again after any failure. Sending is in two halves, before and
after the request, since the request is where other workers can come in between: `beginDelivery`
stores the delivery as under way, `endDelivery` stores its outcome and counts it.

A failed request is an outcome and no error; only trouble in storage is.
-/

namespace BoardActivity

structure Handlers where
  registry : Registry
  dispatcher : Dispatcher
  delinquency : DelinquencyPolicy
deriving Repr, DecidableEq

namespace Handlers

/-- The handlers for settings, with the standard registry. -/
def ofConfig (c : FanoutConfig) : Handlers := ⟨.standard, c.dispatcher, c.delinquency⟩

end Handlers

inductive JobOutcome where
  | notified (recipients : Nat)
  | dispatched (deliveries : Nat)
  | delivered (delivery : Ident) (succeeded : Bool)
  | skipped
deriving Repr, DecidableEq

/-- How a delivery begins: there is nothing to send, or a request is to be made. -/
inductive DeliveryStart where
  | over (result : Except Error JobOutcome)
  | sending (delivery : Delivery) (request : Request)

structure System where
  store : Store
  transport : Transport
deriving Repr, DecidableEq

namespace Handlers

/-- Notifies the recipients of an event, unless it is gone. -/
def notify (h : Handlers) (s : Store) (event : Ident) (now : Instant) :
    Except Error JobOutcome × Store :=
  match s.events.find? event with
  | none => (.ok .skipped, s)
  | some e =>
    match s.notifyRecipients h.registry e now with
    | (.ok ns, s) => (.ok (.notified ns.length), s)
    | (.error err, s) => (.error err, s)

/-- Dispatches an event to webhooks, unless it is gone. -/
def dispatch (h : Handlers) (s : Store) (event : Ident) (now : Instant) :
    Except Error JobOutcome × Store :=
  match s.events.find? event with
  | none => (.ok .skipped, s)
  | some e =>
    let (ds, s) := s.dispatch h.dispatcher e now
    (.ok (.dispatched ds.length), s)

/-- The reason given for a delivery to a webhook that is not active. -/
def inactiveText : String := "webhook is inactive"

/-- The first half of sending: everything up to the request. A delivery that is finished, or whose
webhook or event is gone, is left alone; one to an inactive webhook is skipped. -/
def beginDelivery (s : Store) (delivery : Ident) (now : Instant) : DeliveryStart × Store :=
  match s.findDelivery delivery with
  | none => (.over (.ok .skipped), s)
  | some d =>
    if d.state.isFinished then (.over (.ok .skipped), s)
    else
      match s.webhooks.find? d.webhook with
      | none => (.over (.ok .skipped), s)
      | some w =>
        if w.active then
          match s.events.find? d.event with
          | none => (.over (.ok .skipped), s)
          | some e =>
            let payload :=
              WebhookPayload.ofEvent e (s.boards.find? e.board) (s.users.find? e.creator)
            let d := d.start now
            match s.updateDelivery d with
            | (.ok (), s) => (.sending d ⟨w.id, d.id, d.state, payload⟩, s)
            | (.error err, s) => (.over (.error err), s)
        else
          match s.updateDelivery (d.skip inactiveText now) with
          | (.ok (), s) => (.over (.ok .skipped), s)
          | (.error err, s) => (.over (.error err), s)

/-- Counts the outcome of a delivery, and deactivates the webhook if it is delinquent then. -/
def trackDelinquency (h : Handlers) (s : Store) (webhook : Ident) (outcome : Outcome)
    (now : Instant) : Except Error Unit × Store :=
  let (t, s) := s.recordOutcome webhook outcome now
  if t.isDelinquent h.delinquency now then s.deactivateWebhook webhook else (.ok (), s)

/-- The second half of sending: the outcome of the request is stored and counted. -/
def endDelivery (h : Handlers) (s : Store) (d : Delivery) (outcome : Outcome) (now : Instant) :
    Except Error JobOutcome × Store :=
  match s.updateDelivery (d.finish outcome now) with
  | (.error err, s) => (.error err, s)
  | (.ok (), s) =>
    match h.trackDelinquency s d.webhook outcome now with
    | (.error err, s) => (.error err, s)
    | (.ok (), s) => (.ok (.delivered d.id outcome.isSuccess), s)

/-- Sends a delivery. There is no result while its request hangs. -/
def deliver (h : Handlers) (sys : System) (delivery : Ident) (now : Instant) :
    Option (Except Error JobOutcome) × System :=
  match beginDelivery sys.store delivery now with
  | (.over result, s) => (some result, { sys with store := s })
  | (.sending d request, s) =>
    match sys.transport.send request with
    | none => (none, { sys with store := s })
    | some (outcome, transport) =>
      let (result, s) := h.endDelivery s d outcome now
      (some result, ⟨s, transport⟩)

def run (h : Handlers) (sys : System) (t : Task) (now : Instant) :
    Option (Except Error JobOutcome) × System :=
  match t.kind with
  | .notify =>
    let (result, s) := h.notify sys.store t.subject now
    (some result, { sys with store := s })
  | .dispatchWebhooks =>
    let (result, s) := h.dispatch sys.store t.subject now
    (some result, { sys with store := s })
  | .deliverWebhook => h.deliver sys t.subject now

end Handlers

end BoardActivity
