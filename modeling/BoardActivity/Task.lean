import BoardActivity.Error
import BoardActivity.Time.Instant

/-!
# Outbox tasks

Work that follows from an event and is written down together with it: notifying users, finding the
webhooks concerned, sending one delivery. A task is known by its kind and its subject; a claim of
it carries the number of the attempt and the worker who holds it.
-/

namespace BoardActivity

/-- The kinds of work that follow from events. -/
inductive TaskKind where
  | notify
  | dispatchWebhooks
  | deliverWebhook
deriving Repr, DecidableEq

namespace TaskKind

def all : List TaskKind := [notify, dispatchWebhooks, deliverWebhook]

def name : TaskKind → String
  | notify => "notify"
  | dispatchWebhooks => "dispatch_webhooks"
  | deliverWebhook => "deliver_webhook"

def ofName? : String → Option TaskKind
  | "notify" => some notify
  | "dispatch_webhooks" => some dispatchWebhooks
  | "deliver_webhook" => some deliverWebhook
  | _ => none

def ofStored (s : String) : Except Error TaskKind :=
  match ofName? s with
  | some kind => .ok kind
  | none => .error (.validation (.unknownTaskKind s))

end TaskKind

inductive TaskStatus where
  | pending
  | claimed
  | completed
  /-- No attempt is left. -/
  | dead
deriving Repr, DecidableEq

namespace TaskStatus

def name : TaskStatus → String
  | pending => "pending"
  | claimed => "claimed"
  | completed => "completed"
  | dead => "dead"

def ofName? : String → Option TaskStatus
  | "pending" => some pending
  | "claimed" => some claimed
  | "completed" => some completed
  | "dead" => some dead
  | _ => none

def ofStored (s : String) : Except Error TaskStatus :=
  match ofName? s with
  | some status => .ok status
  | none => .error (.store (.unknownTaskStatus s))

end TaskStatus

/-- A task to be written to the outbox. -/
structure NewTask where
  kind : TaskKind
  subject : Ident
  maxAttempts : Nat
deriving Repr, DecidableEq

namespace NewTask

/-- A task of five attempts. -/
def create (kind : TaskKind) (subject : Ident) : NewTask := ⟨kind, subject, 5⟩

/-- The task with another number of attempts, at least one. -/
def withMaxAttempts (t : NewTask) (n : Nat) : NewTask := { t with maxAttempts := max n 1 }

end NewTask

/-- A claim of a task, as handed out to a worker. -/
structure Task where
  id : Ident
  kind : TaskKind
  subject : Ident
  /-- The number of the present attempt, counted from one. -/
  attempt : Nat
  maxAttempts : Nat
  claimedBy : String
deriving Repr, DecidableEq

/-- What becomes of a task whose run failed. -/
inductive FailureOutcome where
  | willRetry (nextAttempt : Nat) (delay : Span)
  | dead
deriving Repr, DecidableEq

structure QueueStats where
  pending : Nat
  claimed : Nat
  completed : Nat
  dead : Nat
deriving Repr, DecidableEq

end BoardActivity
