import BoardActivity.Feed.Routes
import BoardActivity.Simulation.Command
import BoardActivity.Wire.Reports

/-!
# A database out of reach

What a database answers once its pool of connections is closed. Every operation that needs a
connection fails, and the failure names the operation. Some calls are decided before that: a blank
title or body is refused first, no users are found for no identifiers, a claim of nothing takes
nothing, and an action that may not be sent concerns no webhook. `answer?` puts this together for
the commands that reach a database.
-/

namespace BoardActivity.Database

/-- Operations that need a connection. -/
inductive Operation where
  | begin
  | findEvent
  | listEvents
  | preloadCreators
  | boardWatchers
  | cardAudience
  | mentionees
  | commentCard
  | findUser
  | findBoard
  | ensureNotification
  | notificationsForEvent
  | notificationsForUser
  | markRead
  | saveWebhook
  | findWebhook
  | activeWebhooks
  | ensureDelivery
  | findDelivery
  | deliveriesForEvent
  | updateDelivery
  | delinquency
  | recordOutcome
  | deactivateWebhook
  | enqueue
  | claim
  | complete
  | fail
  | reclaim
  | stats
deriving Repr, DecidableEq

namespace Operation

/-- The name that failures carry. -/
def name : Operation → String
  | begin => "begin"
  | findEvent => "find_event"
  | listEvents => "list_events"
  | preloadCreators => "preload_creators"
  | boardWatchers => "board_watchers"
  | cardAudience => "card_audience"
  | mentionees => "mentionees"
  | commentCard => "comment_card_id"
  | findUser => "find_user"
  | findBoard => "find_board"
  | ensureNotification => "ensure_notification"
  | notificationsForEvent => "notifications_for_event"
  | notificationsForUser => "notifications_for_user"
  | markRead => "mark_read"
  | saveWebhook => "save_webhook"
  | findWebhook => "find_webhook"
  | activeWebhooks => "active_webhooks_for_board"
  | ensureDelivery => "ensure_delivery"
  | findDelivery => "find_delivery"
  | deliveriesForEvent => "deliveries_for_event"
  | updateDelivery => "update_delivery"
  | delinquency => "delinquency"
  | recordOutcome => "record_delivery_outcome"
  | deactivateWebhook => "deactivate_webhook"
  | enqueue => "enqueue"
  | claim => "claim"
  | complete => "complete"
  | fail => "fail"
  | reclaim => "reclaim_stale"
  | stats => "stats"

end Operation

namespace Closed

def refuse (operation : Operation) : Except Error α := .error (.store (.poolClosed operation.name))

def findUsers (ids : List Ident) : Except Error (List User) :=
  if ids.isEmpty then .ok [] else refuse .preloadCreators

/-- Whom an event concerns, of whom nobody can be looked up. -/
def audience : Audience where
  boardWatchers _ := refuse .boardWatchers
  cardWatchers _ := refuse .cardAudience
  cardAssignees _ := refuse .cardAudience
  mentionees ref := match ref.kind with
    | .card => refuse .cardAudience
    | .comment => refuse .mentionees
  commentCard _ := refuse .commentCard
  findUser _ := refuse .findUser

def feedSource : FeedSource where
  stats := refuse .stats
  findBoard _ := refuse .findBoard
  listEvents _ := refuse .listEvents
  findUsers := findUsers

def claim (kinds : List TaskKind) (max : Nat) : Except Error (List Task) :=
  if kinds.isEmpty ∨ max = 0 then .ok [] else refuse .claim

/-- A change of cards or comments that begins a transaction at once. -/
def change : Except Error α := refuse .begin

/-- Putting a card with a title on a board, or giving it that title. -/
def changeTitled (title : String) : Except Error Card := do
  let _ ← Card.checkedTitle title
  change

def comment (body : String) : Except Error Comment := do
  let _ ← Comment.checkedBody body
  change

def dispatch (dispatcher : Dispatcher) (e : Event) : Except Error (List Delivery) :=
  if dispatcher.permits e.action then refuse .activeWebhooks else .ok []

/-- Running the handler of a task, which looks up its subject first. -/
def run (t : Task) : Except Error JobOutcome :=
  match t.kind with
  | .notify | .dispatchWebhooks => refuse .findEvent
  | .deliverWebhook => refuse .findDelivery

open Wire Report

def lookUp? : Lookup → Option (Except Error Json)
  | .event _ => some (refuse .findEvent)
  | .listing _ => some (refuse .listEvents)
  | .boardWatchers board => some ((audience.boardWatchers board).map encode)
  | .cardWatchers card => some ((audience.cardWatchers card).map encode)
  | .cardAssignees card => some ((audience.cardAssignees card).map encode)
  | .mentionees ref => some ((audience.mentionees ref).map encode)
  | .commentCard comment => some ((audience.commentCard comment).map encodeOption)
  | .user id => some ((audience.findUser id).map encodeOption)
  | .users ids => some ((findUsers ids).map encode)
  | .board _ => some (refuse .findBoard)
  | .notificationsForEvent _ => some (refuse .notificationsForEvent)
  | .notificationsForUser _ => some (refuse .notificationsForUser)
  | .webhook _ => some (refuse .findWebhook)
  | .activeWebhooks _ => some (refuse .activeWebhooks)
  | .delivery _ => some (refuse .findDelivery)
  | .deliveriesForEvent _ => some (refuse .deliveriesForEvent)
  | .delinquency _ => some (refuse .delinquency)
  | .card _ | .commentsOn _ | .eventLog => none

/-- The answer to a command, if it is one that reaches the database. -/
def answer? : Command → Option (Except Error Json)
  | .lookUp lookup => lookUp? lookup
  | .createDraft _ _ title => some ((changeTitled title).map encode)
  | .changeCard _ _ (.rename title) => some ((changeTitled title).map encode)
  | .changeCard _ _ _ | .destroyCard _ => some change
  | .comment _ _ body _ => some ((comment body).map encode)
  | .ensureNotification _ _ _ => some (refuse .ensureNotification)
  | .markRead _ => some (refuse .markRead)
  | .saveWebhook _ => some (refuse .saveWebhook)
  | .deactivate _ => some (refuse .deactivateWebhook)
  | .ensureDelivery _ _ => some (refuse .ensureDelivery)
  | .recordOutcome _ _ _ => some (refuse .recordOutcome)
  | .enqueue _ => some (refuse .enqueue)
  | .claim _ kinds max => some ((claim kinds max).map report)
  | .reclaim _ => some (refuse .reclaim)
  | .request method target => some (.ok (report (Feed.handle feedSource method target)))
  | _ => none

/-- A poll of a poller: its result, and the poller after it. -/
def poll (p : Poller) (max : Nat) : Except Error (List Task) × Option Poller :=
  let (result, _, p) := p.poll max () fun _ _ kinds n => (claim kinds n, ())
  (result, p)

end Closed

end BoardActivity.Database
