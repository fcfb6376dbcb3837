import BoardActivity.Feed.Routes
import BoardActivity.Simulation.Command
import BoardActivity.Wire.Reports

/-!
# The world that commands act on

The whole program under a clock that only commands move: the records, the world outside, the
settings, the claims handed out, and one poller. `World.step` carries out a command and gives its
reply. A command that fails leaves the records as they are, unless it says otherwise itself.
-/

namespace BoardActivity

inductive Reply where
  | answer (body : Json)
  | refused (error : Error)
  /-- The command names something that is not there. -/
  | unknown
  /-- The program cannot go on: a time beyond the calendar, a delay that is none. -/
  | crashed
deriving Repr, DecidableEq

structure World where
  system : System
  now : Instant
  tracker : Tracker
  handlers : Handlers
  config : FanoutConfig
  /-- All claims handed out, the latest last. -/
  claims : List Task
  poller : Option Poller

namespace World

open Wire Report

def start (firstIdent : Nat) (now : Instant) (config : FanoutConfig) (commenter : Commenter)
    (registry : Registry) : World where
  system := ⟨.empty firstIdent, .standard⟩
  now
  tracker := .ofConfig commenter config
  handlers := { Handlers.ofConfig config with registry }
  config
  claims := []
  poller := none

def store (w : World) : Store := w.system.store

def withStore (w : World) (s : Store) : World := { w with system := { w.system with store := s } }

/-- The reply of an operation on the records. -/
def settle {α : Type} (w : World) (write : α → Json) (r : Except Error α × Store) :
    Reply × World :=
  match r with
  | (.ok a, s) => (.answer (write a), w.withStore s)
  | (.error e, s) => (.refused e, w.withStore s)

def lookUp (s : Store) : Lookup → Json
  | .card id => encodeOption (s.cards.find? id)
  | .commentsOn card => encode (s.commentsOn card)
  | .eventLog => encode s.eventLog
  | .event id => encodeOption (s.events.find? id)
  | .listing q => report (s.listEvents q)
  | .boardWatchers board => result encode (s.audience.boardWatchers board)
  | .cardWatchers card => result encode (s.audience.cardWatchers card)
  | .cardAssignees card => result encode (s.audience.cardAssignees card)
  | .mentionees ref => result encode (s.audience.mentionees ref)
  | .commentCard comment => result encodeOption (s.audience.commentCard comment)
  | .user id => encodeOption (s.users.find? id)
  | .users ids => encode (s.findUsers ids)
  | .board id => encodeOption (s.boards.find? id)
  | .notificationsForEvent event => encode (s.notificationsForEvent event)
  | .notificationsForUser user => encode (s.notificationsForUser user)
  | .webhook id => encodeOption (s.webhooks.find? id)
  | .activeWebhooks board => encode ((s.activeWebhooks board).map Webhook.id)
  | .delivery id => encodeOption (s.findDelivery id)
  | .deliveriesForEvent event => encode (s.deliveriesForEvent event)
  | .delinquency webhook => encode (s.delinquency webhook)

def handOut (w : World) (tasks : List Task) : World := { w with claims := w.claims ++ tasks }

def concluded (w : World) (answer : Json) : Conclusion × System → Reply × World
  | (.settled, system) => (.answer answer, { w with system })
  | (.hanging, system) | (.stranded, system) => (.crashed, { w with system })

def handled (w : World) : Option (Except Error JobOutcome) × System → Reply × World
  | (some (.ok outcome), system) => (.answer (report outcome), { w with system })
  | (some (.error e), system) => (.refused e, { w with system })
  | (none, system) => (.crashed, { w with system })

def withClaim (w : World) (r : ClaimRef) (f : Task → Reply × World) : Reply × World :=
  match r.resolve w.claims with
  | some t => f t
  | none => (.unknown, w)

def poll (w : World) (p : Poller) (max : Nat) : Reply × World :=
  let claim := fun (s : Store) worker kinds n =>
    let (tasks, s) := s.claim worker kinds n w.now
    ((.ok tasks : Except Error (List Task)), s)
  match p.poll max w.store claim with
  | (_, _, none) => (.crashed, w)
  | (.error e, s, some _) => (.refused e, w.withStore s)
  | (.ok tasks, s, some p) =>
    (.answer (.object [("tasks", report tasks), ("interval_ns", report p.interval)]),
      { (w.withStore s).handOut tasks with poller := some p })

/-- The life of a pool: it is shut down before it ever started, started, started again, left
running until it is idle, and shut down. -/
def runPool (w : World) (c : PoolConfig) : Reply × World :=
  let created := (WorkerPool.create c w.system).step .shutdown
  let running := created.step .start
  let again := running.pool.start.1
  let idle := running.runUntilIdle w.handlers .middle w.now
  let joining := idle.run [.shutdown, .wake 0 true, .look 0, .endReclaim]
  let finished := joining.step .join
  let statuses := [created, running, finished].map fun p => Json.string p.pool.status.name
  let failure := match joining.answer .join with
    | some (.error e) => [("shutdown", report e)]
    | _ => []
  (.answer (.object ([("worker", encode c.worker), ("status", .array statuses),
    ("start_again", result report again)] ++ failure)), { w with system := finished.sys })

def step (w : World) (command : Command) : Reply × World :=
  let s := w.store
  let now := w.now
  match command with
  | .advance ns =>
    match now.shift? ns with
    | some now => (.answer .null, { w with now })
    | none => (.crashed, w)
  | .putUser u => (.answer (encode u), w.withStore (s.addUser u))
  | .putBoard b => (.answer (encode b), w.withStore (s.addBoard b))
  | .putCard c => (.answer (encode c), w.withStore (s.addCard c))
  | .putWebhook h => (.answer (encode h), w.withStore (s.saveWebhook h))
  | .newUser account name =>
    let (id, s) := s.mint
    let u := match name with
      | some name => User.newMember id account name
      | none => User.newSystem id account
    (.answer (encode u), w.withStore (s.addUser u))
  | .newBoard account name watchers =>
    let (id, s) := s.mint
    let b : Board := ⟨id, account, name, watchers⟩
    (.answer (encode b), w.withStore (s.addBoard b))
  | .newCard account board creator title mentionees =>
    let (id, s) := s.mint
    let c := { Card.draft id account board creator title now with mentionees }
    (.answer (encode c), w.withStore (s.addCard c))
  | .newWebhook account board name url actions =>
    let (id, s) := s.mint
    match Webhook.create id account board name url actions now with
    | .ok h => (.answer (encode h), w.withStore (s.saveWebhook h))
    | .error e => (.refused e, w)
  | .failNotificationsAfter n => (.answer .null, w.withStore (s.failNotificationsAfter n))
  | .setTransport script fallback hangs =>
    let transport := { w.system.transport with script, fallback, hangs }
    (.answer .null, { w with system := { w.system with transport } })
  | .takeSent =>
    let transport := { w.system.transport with sent := [] }
    (.answer (report w.system.transport.sent), { w with system := { w.system with transport } })
  | .createDraft board creator title => w.settle encode (Cards.createDraft s now board creator title)
  | .changeCard card creator operation =>
    w.settle encode (Cards.perform w.tracker s now card creator operation)
  | .destroyCard card => w.settle report (Cards.destroy s now card)
  | .comment card creator body mentionees =>
    w.settle encode (Comments.create w.tracker s now card creator body mentionees)
  | .lookUp lookup => (.answer (lookUp s lookup), w)
  | .recipients event =>
    match s.events.find? event with
    | some e => w.settle encode (w.handlers.registry.recipients e s.audience, s)
    | none => (.unknown, w)
  | .ensureNotification user event creator =>
    w.settle encode (s.ensureNotification user event creator now)
  | .markRead notification => w.settle encode (s.markRead notification now)
  | .saveWebhook h => (.answer .null, w.withStore (s.saveWebhook h))
  | .resubscribe webhook actions =>
    match s.webhooks.find? webhook with
    | none => (.unknown, w)
    | some h =>
      match Webhook.resubscribe h actions with
      | .ok h => (.answer (encode h), w.withStore (s.saveWebhook h))
      | .error e => (.refused e, w)
  | .deactivate webhook => w.settle report (s.deactivateWebhook webhook)
  | .ensureDelivery webhook event =>
    let (d, s) := s.ensureDelivery webhook event now
    (.answer (encode d), w.withStore s)
  | .updateDelivery delivery change =>
    let found := match delivery with
      | .inl d => some d
      | .inr id => s.findDelivery id
    match found with
    | none => (.unknown, w)
    | some d =>
      let d := change.apply d now
      w.settle (fun () => encode d) (s.updateDelivery d)
  | .recordOutcome webhook outcome time =>
    let (t, s) := s.recordOutcome webhook outcome time
    (.answer (encode t), w.withStore s)
  | .enqueue t =>
    let (inserted, s) := s.enqueue t now
    (.answer (.bool inserted), w.withStore s)
  | .claim worker kinds max =>
    let (tasks, s) := s.claim worker kinds max now
    (.answer (report tasks), (w.withStore s).handOut tasks)
  | .complete r => w.withClaim r fun t => w.settle report (s.complete t)
  | .fail r error delay => w.withClaim r fun t =>
    match s.fail t error delay now with
    | (some result, s) => w.settle report (result, s)
    | (none, s) => (.crashed, w.withStore s)
  | .reclaim threshold =>
    match s.reclaim threshold now with
    | some (n, s) => (.answer (report n), w.withStore s)
    | none => (.crashed, w)
  | .run r => w.withClaim r fun t => w.handled (w.handlers.run w.system t now)
  | .execute r => w.withClaim r fun t =>
    w.concluded .null (w.system.execute w.handlers w.config t .middle now)
  | .handle kind subject =>
    w.handled (w.handlers.run w.system ⟨subject, kind, subject, 1, 1, ""⟩ now)
  | .drain =>
    let (n, rest) := w.system.drain w.handlers w.config "drain" 50 .middle now
    w.concluded (report n) rest
  | .startPoller worker kinds config =>
    let p := Poller.start worker kinds config
    (.answer (report p.interval), { w with poller := some p })
  | .poll max =>
    match w.poller with
    | some p => w.poll p max
    | none => (.unknown, w)
  | .awaitPoller =>
    match w.poller with
    | some p => (.answer (.bool p.shutDown), w)
    | none => (.unknown, w)
  | .shutDownPoller =>
    match w.poller with
    | some p => (.answer (.bool true), { w with poller := some p.shutdown })
    | none => (.unknown, w)
  | .runPool worker concurrency poller =>
    w.runPool { PoolConfig.standard.withConcurrency concurrency with
      worker
      poller
      fanout := w.config }
  | .request method target => (.answer (report (Feed.handle s.feedSource method target)), w)

end World

end BoardActivity
