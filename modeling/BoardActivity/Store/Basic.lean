import BoardActivity.Card
import BoardActivity.Comment
import BoardActivity.Config
import BoardActivity.Notification
import BoardActivity.Recipients
import BoardActivity.Store.Outbox

/-!
# The store

All records of the program, in tables. A notification is known by its event and user, a delivery by
its webhook and event, a delinquency tracker by its webhook, every other record by its identifier.
The store also holds the supply of identifiers, and a fault that tests arm: the insertion of a new
notification that fails once, after so many that succeed.

This module holds the store itself, what seeds it, and the plain lookups.
-/

namespace BoardActivity

instance : Keyed User Ident := ⟨User.id⟩
instance : Keyed Board Ident := ⟨Board.id⟩
instance : Keyed Card Ident := ⟨Card.id⟩
instance : Keyed Comment Ident := ⟨Comment.id⟩
instance : Keyed Event Ident := ⟨Event.id⟩
instance : Keyed Notification (Ident × Ident) := ⟨fun n => (n.event, n.user)⟩
instance : Keyed Webhook Ident := ⟨Webhook.id⟩
instance : Keyed Delivery (Ident × Ident) := ⟨fun d => (d.webhook, d.event)⟩
instance : Keyed DelinquencyTracker Ident := ⟨DelinquencyTracker.webhook⟩

structure Store where
  users : Table User
  boards : Table Board
  cards : Table Card
  comments : Table Comment
  events : Table Event
  notifications : Table Notification
  webhooks : Table Webhook
  deliveries : Table Delivery
  trackers : Table DelinquencyTracker
  outbox : Outbox
  /-- How many new notifications are still inserted before one fails. -/
  notificationFault : Option Nat
  supply : Supply
deriving Repr, DecidableEq

namespace Store

/-- A store without records, whose identifiers are minted from `first` on. -/
def empty (first : Nat) : Store where
  users := .empty
  boards := .empty
  cards := .empty
  comments := .empty
  events := .empty
  notifications := .empty
  webhooks := .empty
  deliveries := .empty
  trackers := .empty
  outbox := .empty
  notificationFault := none
  supply := ⟨first⟩

def addUser (s : Store) (u : User) : Store := { s with users := s.users.put u }
def addBoard (s : Store) (b : Board) : Store := { s with boards := s.boards.put b }
def addCard (s : Store) (c : Card) : Store := { s with cards := s.cards.put c }
def saveWebhook (s : Store) (w : Webhook) : Store := { s with webhooks := s.webhooks.put w }

/-- Lets the insertion of a notification fail once, after `n` that succeed. -/
def failNotificationsAfter (s : Store) (n : Nat) : Store := { s with notificationFault := some n }

def mint (s : Store) : Ident × Store :=
  let (id, supply) := s.supply.mint
  (id, { s with supply })

/-- The users of a list in its order, repeated as there, without unknown ones. -/
def findUsers (s : Store) (ids : List Ident) : List User := ids.filterMap s.users.find?

def systemUser (s : Store) (account : Ident) : Except Error User :=
  match s.users.rows.find? fun u => u.account == account && u.isSystem with
  | some u => .ok u
  | none => .error (.notFound "system user" account)

/-- The comments on a card, oldest first. -/
def commentsOn (s : Store) (card : Ident) : List Comment :=
  (s.comments.rows.filter fun c => c.card == card).mergeSort fun a b =>
    a.createdAt.before b.createdAt || (a.createdAt == b.createdAt && decide (a.id ≤ b.id))

def eventLog (s : Store) : List Event := Event.sortChronologically s.events.rows

/-- What a listing shows of a card or comment: nothing if it is gone. -/
def summary? (s : Store) (ref : EventableRef) : Option EventableSummary :=
  let card? := match ref.kind with
    | .card => some ref.id
    | .comment => (s.comments.find? ref.id).map Comment.card
  (card?.bind s.cards.find?).map fun c : Card => ⟨ref, c.title⟩

/-- An event with the records to carry. -/
def record (s : Store) (preload : Preload) (e : Event) : EventRecord where
  event := e
  creator := if preload.creator then s.users.find? e.creator else none
  board := if preload.board then s.boards.find? e.board else none
  eventable := if preload.eventable then s.summary? e.eventable else none

/-- The listing that a query asks for. -/
def listEvents (s : Store) (q : EventQuery) : List EventRecord :=
  let events := Event.sortChronologically (s.events.rows.filter q.scope.contains)
  let events := match q.limit with
    | some n => events.take n
    | none => events
  events.map (s.record q.preload)

def audience (s : Store) : Audience where
  boardWatchers id := .ok (((s.boards.find? id).map Board.watchers).getD [])
  cardWatchers id := .ok (((s.cards.find? id).map Card.watchers).getD [])
  cardAssignees id := .ok (((s.cards.find? id).map Card.assignees).getD [])
  mentionees ref := .ok <| match ref.kind with
    | .card => ((s.cards.find? ref.id).map Card.mentionees).getD []
    | .comment => ((s.comments.find? ref.id).map Comment.mentionees).getD []
  commentCard id := .ok ((s.comments.find? id).map Comment.card)
  findUser id := .ok (s.users.find? id)

end Store

end BoardActivity
