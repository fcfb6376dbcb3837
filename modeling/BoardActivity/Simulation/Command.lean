import BoardActivity.Activity.Cards
import BoardActivity.Activity.Comments
import BoardActivity.Http.Method
import BoardActivity.Http.Target
import BoardActivity.Worker.Pool

/-!
# Commands

Everything that can happen to the program, one command at a time: records put in place, operations
of users, work of workers, requests for the feed, and the passing of time. A `Lookup` only reads.
Claims are named by their place in the list of all claims handed out so far.
-/

namespace BoardActivity

inductive Lookup where
  | card (id : Ident)
  | commentsOn (card : Ident)
  | eventLog
  | event (id : Ident)
  | listing (query : EventQuery)
  | boardWatchers (board : Ident)
  | cardWatchers (card : Ident)
  | cardAssignees (card : Ident)
  | mentionees (ref : EventableRef)
  | commentCard (comment : Ident)
  | user (id : Ident)
  | users (ids : List Ident)
  | board (id : Ident)
  | notificationsForEvent (event : Ident)
  | notificationsForUser (user : Ident)
  | webhook (id : Ident)
  | activeWebhooks (board : Ident)
  | delivery (id : Ident)
  | deliveriesForEvent (event : Ident)
  | delinquency (webhook : Ident)
deriving Repr, DecidableEq

/-- A claim in the list of claims, counted from its end if the place is negative; it may be used
with another worker or task than it was handed out with. -/
structure ClaimRef where
  place : Int
  worker : Option String
  task : Option Ident
deriving Repr, DecidableEq

namespace ClaimRef

/-- The claim that is named. -/
def resolve (r : ClaimRef) (claims : List Task) : Option Task :=
  let place := if r.place < 0 then r.place + claims.length else r.place
  if place < 0 then none
  else claims[place.toNat]?.map fun t =>
    { t with claimedBy := r.worker.getD t.claimedBy, id := r.task.getD t.id }

end ClaimRef

inductive DeliveryChange where
  | start
  | skip (reason : String)
  | finish (outcome : Outcome)
  | none
deriving Repr, DecidableEq

namespace DeliveryChange

def apply (change : DeliveryChange) (d : Delivery) (now : Instant) : Delivery :=
  match change with
  | start => d.start now
  | skip reason => d.skip reason now
  | finish outcome => d.finish outcome now
  | none => d

end DeliveryChange

inductive Command where
  | advance (nanoseconds : Int)
  | putUser (user : User)
  | putBoard (board : Board)
  | putCard (card : Card)
  | putWebhook (webhook : Webhook)
  /-- A new user; without a name, the system user. -/
  | newUser (account : Ident) (name : Option String)
  | newBoard (account : Ident) (name : String) (watchers : List Ident)
  | newCard (account board creator : Ident) (title : String) (mentionees : List Ident)
  | newWebhook (account board : Ident) (name url : String) (actions : List String)
  | failNotificationsAfter (count : Nat)
  | setTransport (script : List Outcome) (fallback : Outcome) (hangs : Bool)
  /-- The requests made since they were last asked for. -/
  | takeSent
  | createDraft (board creator : Ident) (title : String)
  | changeCard (card creator : Ident) (operation : CardOperation)
  | destroyCard (card : Ident)
  | comment (card creator : Ident) (body : String) (mentionees : List Ident)
  | lookUp (lookup : Lookup)
  /-- Whom a stored event is told to. -/
  | recipients (event : Ident)
  | ensureNotification (user event creator : Ident)
  | markRead (notification : Ident)
  | saveWebhook (webhook : Webhook)
  | resubscribe (webhook : Ident) (actions : List String)
  | deactivate (webhook : Ident)
  | ensureDelivery (webhook event : Ident)
  /-- Writes a change of the delivery given, or of the stored one of that identifier. -/
  | updateDelivery (delivery : Delivery ⊕ Ident) (change : DeliveryChange)
  | recordOutcome (webhook : Ident) (outcome : Outcome) (time : Instant)
  | enqueue (task : NewTask)
  | claim (worker : String) (kinds : List TaskKind) (max : Nat)
  | complete (claim : ClaimRef)
  | fail (claim : ClaimRef) (error : String) (delay : Span)
  | reclaim (threshold : Span)
  /-- Runs the handler of a claim, and does not settle the claim. -/
  | run (claim : ClaimRef)
  | execute (claim : ClaimRef)
  /-- Runs the handler of a kind of task on a subject. -/
  | handle (kind : TaskKind) (subject : Ident)
  | drain
  | startPoller (worker : String) (kinds : List TaskKind) (config : PollerConfig)
  | poll (max : Nat)
  | awaitPoller
  | shutDownPoller
  | runPool (worker : String) (concurrency : Nat) (poller : PollerConfig)
  | request (method : Http.Method) (target : Http.Target)
deriving Repr, DecidableEq

end BoardActivity
