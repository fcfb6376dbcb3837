import BoardActivity.Store.Basic

/-!
# Transactions

What a unit of work is about to write. Cards, comments, events and tasks are staged beside the
committed store, and reads see what is staged first. Nothing of it reaches the store before
`commit`; a transaction that is not committed leaves no trace.

Deleting a card drops what is staged about it at once. On commit it takes along what is committed:
its comments, the events of both, their notifications and deliveries, and the tasks of those events
and deliveries.
-/

namespace BoardActivity

structure Transaction where
  cards : Table Card
  comments : Table Comment
  events : List Event
  tasks : List NewTask
  deleted : List Ident
deriving Repr, DecidableEq

namespace Transaction

def start : Transaction := ⟨.empty, .empty, [], [], []⟩

def insertEvent (s : Store) (tx : Transaction) (e : Event) : Except Error Transaction :=
  if tx.events.any (fun x => x.id == e.id) || s.events.contains e.id then
    .error (.store (.duplicateEvent e.id))
  else .ok { tx with events := tx.events ++ [e] }

/-- Stages a task, unless there is one of its kind and subject, staged or committed. -/
def enqueue (s : Store) (tx : Transaction) (t : NewTask) : Bool × Transaction :=
  if tx.tasks.any (fun x => x.kind == t.kind && x.subject == t.subject) ||
      s.outbox.has t.kind t.subject then (false, tx)
  else (true, { tx with tasks := tx.tasks ++ [t] })

def findCard (s : Store) (tx : Transaction) (id : Ident) : Option Card :=
  if id ∈ tx.deleted then none else (tx.cards.find? id).or (s.cards.find? id)

/-- The card that must exist. -/
def loadCard (s : Store) (tx : Transaction) (id : Ident) : Except Error Card :=
  match tx.findCard s id with
  | some c => .ok c
  | none => .error (.notFound "card" id)

def saveCard (tx : Transaction) (c : Card) : Except Error Transaction :=
  if c.id ∈ tx.deleted then .error (.store (.deletedCard c.id))
  else .ok { tx with cards := tx.cards.put c }

def insertComment (s : Store) (tx : Transaction) (c : Comment) : Except Error Transaction :=
  if (tx.findCard s c.card).isSome then .ok { tx with comments := tx.comments.put c }
  else .error (.notFound "card" c.card)

def findComment (s : Store) (tx : Transaction) (id : Ident) : Option Comment :=
  ((tx.comments.find? id).or (s.comments.find? id)).filter fun c => c.card ∉ tx.deleted

/-- The event is about one of the cards or one of the comments. -/
def isAbout (cards comments : List Ident) (e : Event) : Bool :=
  match e.eventable.kind with
  | .card => decide (e.eventable.id ∈ cards)
  | .comment => decide (e.eventable.id ∈ comments)

/-- Deletes a card if it exists, and tells whether it did. -/
def deleteCard (s : Store) (tx : Transaction) (id : Ident) : Bool × Transaction :=
  if (tx.findCard s id).isSome then
    let comments := (tx.comments.rows.filter fun c => c.card == id).map (·.id)
    let doomed := isAbout [id] comments
    let events := (tx.events.filter doomed).map (·.id)
    (true,
      { cards := tx.cards.keep fun c => c.id != id
        comments := tx.comments.keep fun c => c.card != id
        events := tx.events.filter fun e => !doomed e
        tasks := tx.tasks.filter fun t => t.subject ∉ events
        deleted := id :: tx.deleted })
  else (false, tx)

end Transaction

namespace Store

/-- Inserts a task, unless there is one of its kind and subject, and tells whether it did. -/
def enqueue (s : Store) (t : NewTask) (now : Instant) : Bool × Store :=
  if s.outbox.has t.kind t.subject then (false, s)
  else
    let (id, s) := s.mint
    (true, { s with outbox := s.outbox.insert t id now })

def enqueueAll (s : Store) (tasks : List NewTask) (now : Instant) : Store :=
  tasks.foldl (fun s t => (s.enqueue t now).2) s

/-- Removes cards and all that belongs to them. -/
def removeCards (s : Store) (cards : List Ident) : Store :=
  let comments := (s.comments.rows.filter fun c => c.card ∈ cards).map (·.id)
  let doomed := Transaction.isAbout cards comments
  let events := (s.events.rows.filter doomed).map (·.id)
  let deliveries := (s.deliveries.rows.filter fun d => d.event ∈ events).map (·.id)
  { s with
    cards := s.cards.keep fun c => c.id ∉ cards
    comments := s.comments.keep fun c => c.card ∉ cards
    events := s.events.keep fun e => !doomed e
    notifications := s.notifications.keep fun n => n.event ∉ events
    deliveries := s.deliveries.keep fun d => d.event ∉ events
    outbox := s.outbox.removeSubjects (events ++ deliveries) }

/-- Writes what a transaction staged. -/
def commit (s : Store) (tx : Transaction) (now : Instant) : Store :=
  let s := { s with
    cards := s.cards.putAll tx.cards.rows
    comments := s.comments.putAll tx.comments.rows
    events := s.events.putAll tx.events }
  let s := s.enqueueAll tx.tasks now
  if tx.deleted.isEmpty then s else s.removeCards tx.deleted

end Store

end BoardActivity
