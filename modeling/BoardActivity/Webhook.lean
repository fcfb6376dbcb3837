import BoardActivity.ActionSet
import BoardActivity.Error
import BoardActivity.Event
import BoardActivity.Text.Blank
import BoardActivity.Url.Basic

/-!
# Webhooks

An endpoint outside that is told of the events of one board, as far as it subscribes to their
actions. A webhook is valid when it has a name, an `http` or `https` address, and subscribes only
to actions that may be sent outside. `Dispatcher` says which events concern a webhook; the
dispatcher may permit fewer actions than a webhook can subscribe to.
-/

namespace BoardActivity

structure Webhook where
  id : Ident
  account : Ident
  board : Ident
  name : String
  url : String
  active : Bool
  subscribed : ActionSet
  createdAt : Instant
deriving Repr, DecidableEq

namespace Webhook

/-- Checks name, address and actions, in this order. -/
def validate (w : Webhook) : Except Error Unit :=
  if Text.isBlank w.name then .error (.validation .blankWebhookName)
  else
    match Url.scheme w.url with
    | .error failure => .error (.validation (.invalidUrl failure))
    | .ok scheme =>
      if scheme ≠ "http" ∧ scheme ≠ "https" then .error (.validation (.unsupportedScheme scheme))
      else
        match w.subscribed.firstOutside? Action.permitted with
        | some action => .error (.validation (.unavailableAction action))
        | none => .ok ()

/-- A new active webhook, if it is valid. -/
def create (id account board : Ident) (name url : String) (actions : List String)
    (now : Instant) : Except Error Webhook :=
  let w : Webhook := ⟨id, account, board, name, url, true, .ofList actions, now⟩
  match w.validate with
  | .ok () => .ok w
  | .error e => .error e

def subscribesTo (w : Webhook) (action : String) : Bool := decide (action ∈ w.subscribed)

/-- Changes the subscriptions in place. The new ones are in force while the webhook is checked, and
the previous ones are put back if it is not valid with them. -/
def changeActions (w : Webhook) (actions : List String) : Except Error Unit × Webhook :=
  let previous := w.subscribed
  let w := { w with subscribed := .ofList actions }
  match w.validate with
  | .ok () => (.ok (), w)
  | .error e => (.error e, { w with subscribed := previous })

/-- The webhook with other subscriptions, if it is valid with them. -/
def resubscribe (w : Webhook) (actions : List String) : Except Error Webhook :=
  match w.changeActions actions with
  | (.ok (), w) => .ok w
  | (.error e, _) => .error e

end Webhook

/-- A board or user in a payload: the identifier, and the name if it is known. -/
structure PayloadParty where
  id : Ident
  name : Option String
deriving Repr, DecidableEq

structure WebhookPayload where
  id : Ident
  action : String
  createdAt : Instant
  particulars : Particulars
  eventable : EventableRef
  board : PayloadParty
  creator : PayloadParty
deriving Repr, DecidableEq

namespace WebhookPayload

def ofEvent (e : Event) (board : Option Board) (creator : Option User) : WebhookPayload where
  id := e.id
  action := e.action
  createdAt := e.createdAt
  particulars := e.particulars
  eventable := e.eventable
  board := ⟨e.board, board.map (·.name)⟩
  creator := ⟨e.creator, creator.map (·.name)⟩

end WebhookPayload

/-- Which events are sent to webhooks, and how often a delivery is attempted. -/
structure Dispatcher where
  permitted : ActionSet
  maxAttempts : Nat
deriving Repr, DecidableEq

namespace Dispatcher

/-- All actions that may be sent outside, each delivery attempted once. -/
def standard : Dispatcher := ⟨.ofList Action.permitted, 1⟩

def permits (d : Dispatcher) (action : String) : Bool := decide (action ∈ d.permitted)

/-- The event is to be sent to the webhook. -/
def concerns (d : Dispatcher) (w : Webhook) (e : Event) : Bool :=
  w.active && w.board == e.board && d.permits e.action && w.subscribesTo e.action

end Dispatcher

end BoardActivity
