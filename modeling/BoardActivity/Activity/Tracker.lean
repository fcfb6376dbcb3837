import BoardActivity.Narrative.SystemComment
import BoardActivity.Store.Transaction

/-!
# Recording events

An event is recorded inside the transaction that makes the change, together with the two tasks that
tell of it: to notify users and to find webhooks. What is recorded about is an `Eventable`: a card
or comment, or anything else with an account and a board. It has a gate, which can be closed, and a
reaction to its own event, which runs in the same transaction; if the reaction fails, so does the
change.

A failed step leaves what it staged before in the `Work`; whether that is dropped is up to whoever
runs the transaction.
-/

namespace BoardActivity

/-- A transaction under way, and the identifiers it can still take. -/
structure Work where
  tx : Transaction
  supply : Supply
deriving Repr, DecidableEq

namespace Work

def start (s : Store) : Work := ⟨.start, s.supply⟩

end Work

/-- The result of a step of a transaction with what is staged after it, also if it failed. -/
abbrev Staged (α : Type) := Except Error α × Work

namespace Staged

/-- The result and the work to go on with, or the error alone. -/
def orDrop {α : Type} : Staged α → Except Error (α × Work)
  | (.ok a, w) => .ok (a, w)
  | (.error e, _) => .error e

end Staged

namespace Store

/-- Commits the work if it succeeded; otherwise the store stays as it is. -/
def perform {α : Type} (s : Store) (now : Instant) (work : Except Error (α × Work)) :
    Except Error α × Store :=
  match work with
  | .ok (a, w) => (.ok a, ({ s with supply := w.supply } : Store).commit w.tx now)
  | .error e => (.error e, s)

/-- Checks the users of a list one by one: each must be among the users found, and belong to the
account. -/
def checkMembers (found : List User) (account : Ident) (role : String) :
    List Ident → Except Error Unit
  | [] => .ok ()
  | id :: rest =>
    match found.find? fun u => u.id == id with
    | none => .error (.validation (.missingMember role id))
    | some u =>
      if u.account ≠ account then .error (.validation (.foreignMember role id))
      else checkMembers found account role rest

/-- All users of a list must exist and belong to the account; the first who does not is named. -/
def requireMembers (s : Store) (account : Ident) (role : String) (ids : List Ident) :
    Except Error Unit :=
  checkMembers (s.findUsers ids) account role ids

/-- The board that must exist. -/
def loadBoard (s : Store) (id : Ident) : Except Error Board :=
  match s.boards.find? id with
  | some b => .ok b
  | none => .error (.notFound "board" id)

/-- The user who must exist. -/
def loadUser (s : Store) (id : Ident) : Except Error User :=
  match s.users.find? id with
  | some u => .ok u
  | none => .error (.notFound "user" id)

end Store

namespace Commenter

/-- Posts the system comment of an event on a card, if there is one. Only the users whom the event
refers to are looked up. -/
def post (c : Commenter) (s : Store) (e : Event) (card : Ident) (w : Work) :
    Staged (Option Comment) :=
  if c.handles e.action then
    match s.systemUser e.account with
    | .error err => (.error err, w)
    | .ok author =>
      let names := Names.ofUsers (s.findUsers e.referencedUsers)
      let (id, supply) := w.supply.mint
      match c.commentFor e id card names author with
      | none => (.ok none, w)
      | some comment =>
        match w.tx.insertComment s comment with
        | .error err => (.error err, w)
        | .ok tx => (.ok (some comment), ⟨tx, supply⟩)
  else (.ok none, w)

end Commenter

/-- Something that events can be recorded about. -/
structure Eventable where
  ref : EventableRef
  account : Ident
  board : Ident
  /-- The first part of its actions, before the underscore. -/
  actionHead : String
  /-- The gate: if it is closed, nothing is recorded. -/
  tracked : Bool
  /-- What happens in the transaction of each of its events. -/
  react : Commenter → Store → Event → Work → Staged Unit

namespace Eventable

/-- A reaction that does nothing. -/
def noReaction : Commenter → Store → Event → Work → Staged Unit := fun _ _ _ w => (.ok (), w)

/-- A card posts its system comment and becomes active; drafts are not tracked. -/
def ofCard (c : Card) : Eventable where
  ref := .card c.id
  account := c.account
  board := c.board
  actionHead := EventableKind.card.name
  tracked := !c.isDraft
  react commenter s e w :=
    match commenter.post s e c.id w with
    | (.error err, w) => (.error err, w)
    | (.ok _, w) =>
      match w.tx.saveCard { c with lastActiveAt := e.createdAt } with
      | .error err => (.error err, w)
      | .ok tx => (.ok (), { w with tx })

/-- A comment makes its card active; system comments are not tracked. -/
def ofComment (c : Comment) : Eventable where
  ref := .comment c.id
  account := c.account
  board := c.board
  actionHead := EventableKind.comment.name
  tracked := !c.system
  react _ s e w :=
    match w.tx.loadCard s c.card with
    | .error err => (.error err, w)
    | .ok card =>
      match w.tx.saveCard { card with lastActiveAt := e.createdAt } with
      | .error err => (.error err, w)
      | .ok tx => (.ok (), { w with tx })

end Eventable

/-- How events are recorded: what is told in comments, and how often the tasks are attempted. -/
structure Tracker where
  commenter : Commenter
  notifyAttempts : Nat
  dispatchAttempts : Nat

namespace Tracker

def ofConfig (commenter : Commenter) (c : FanoutConfig) : Tracker :=
  ⟨commenter, c.notifyRetry.maxAttempts, c.dispatchRetry.maxAttempts⟩

def standard : Tracker := ofConfig .standard .standard

/-- An action is more than blanks and does not end with the underscore before a verb. -/
def isAction (action : String) : Bool :=
  !(Text.isBlank action) && action.toList.getLast? != some '_'

/-- Checks action, board and creator of an event to be recorded, in this order. -/
def checkEvent (s : Store) (x : Eventable) (action : String) (creator board : Ident) :
    Except Error Unit := do
  if !isAction action then throw (.validation .blankEventAction)
  let b ← s.loadBoard board
  if b.account ≠ x.account then throw (.validation .foreignEventBoard)
  let u ← s.loadUser creator
  if u.account ≠ x.account then throw (.validation .foreignEventCreator)

/-- An error of a reaction, as the error of the change that caused it. -/
def reactionError : Error → Error
  | .reaction text => .reaction text
  | e => .reaction e.message

def tasksFor (t : Tracker) (event : Ident) : List NewTask :=
  [(NewTask.create .notify event).withMaxAttempts t.notifyAttempts,
   (NewTask.create .dispatchWebhooks event).withMaxAttempts t.dispatchAttempts]

def enqueueAll (s : Store) (tx : Transaction) (tasks : List NewTask) : Transaction :=
  tasks.foldl (fun tx task => (tx.enqueue s task).2) tx

/-- Records an event under a full action, lets its subject react, and stages the tasks that follow.
Nothing is recorded when the gate is closed. -/
def record (t : Tracker) (s : Store) (now : Instant) (x : Eventable) (action : String)
    (particulars : Particulars) (creator board : Ident) (w : Work) : Staged (Option Event) :=
  if x.tracked then
    match checkEvent s x action creator board with
    | .error err => (.error err, w)
    | .ok () =>
      let (id, supply) := w.supply.mint
      let event : Event := ⟨id, x.account, board, creator, x.ref, action, particulars, now⟩
      match w.tx.insertEvent s event with
      | .error err => (.error err, ⟨w.tx, supply⟩)
      | .ok tx =>
        match x.react t.commenter s event ⟨tx, supply⟩ with
        | (.error err, w) => (.error (reactionError err), w)
        | (.ok (), w) => (.ok (some event), { w with tx := enqueueAll s w.tx (t.tasksFor id) })
  else (.ok none, w)

/-- Records an event under the action made of the subject's kind and a verb, on the board given or
else on the subject's. -/
def track (t : Tracker) (s : Store) (now : Instant) (x : Eventable) (verb : String)
    (particulars : Particulars) (creator : Ident) (board : Option Ident) (w : Work) :
    Staged (Option Event) :=
  t.record s now x (x.actionHead ++ "_" ++ verb) particulars creator (board.getD x.board) w

end Tracker

end BoardActivity
