import BoardActivity.Error
import BoardActivity.Time.Instant

/-!
# Deliveries

The sending of one event to one webhook, and the count of a webhook's failures. A delivery is sent
at most once; its outcome is an answer with a status, or an error in place of an answer. A webhook
is delinquent when its latest outcomes were all failures, enough of them, over a long enough time.
-/

namespace BoardActivity

inductive DeliveryState where
  | pending
  | inProgress
  | succeeded
  | failed
  | errored
  | skipped
deriving Repr, DecidableEq

namespace DeliveryState

def name : DeliveryState → String
  | pending => "pending"
  | inProgress => "in_progress"
  | succeeded => "succeeded"
  | failed => "failed"
  | errored => "errored"
  | skipped => "skipped"

def ofName? : String → Option DeliveryState
  | "pending" => some pending
  | "in_progress" => some inProgress
  | "succeeded" => some succeeded
  | "failed" => some failed
  | "errored" => some errored
  | "skipped" => some skipped
  | _ => none

def ofStored (s : String) : Except Error DeliveryState :=
  match ofName? s with
  | some state => .ok state
  | none => .error (.store (.unknownDeliveryState s))

/-- Nothing more happens to the delivery. -/
def isFinished : DeliveryState → Bool
  | pending | inProgress => false
  | succeeded | failed | errored | skipped => true

end DeliveryState

inductive Outcome where
  | responded (status : Nat)
  | errored (text : String)
deriving Repr, DecidableEq

namespace Outcome

def isSuccess : Outcome → Bool
  | responded status => 200 ≤ status && status < 300
  | errored _ => false

end Outcome

structure Delivery where
  id : Ident
  webhook : Ident
  event : Ident
  state : DeliveryState
  responseCode : Option Nat
  error : Option String
  createdAt : Instant
  updatedAt : Instant
deriving Repr, DecidableEq

namespace Delivery

/-- A delivery not yet begun. -/
def create (id webhook event : Ident) (now : Instant) : Delivery :=
  ⟨id, webhook, event, .pending, none, none, now, now⟩

/-- The delivery with its request under way. -/
def start (d : Delivery) (now : Instant) : Delivery :=
  { d with state := .inProgress, updatedAt := now }

/-- The delivery with the outcome of its request. -/
def finish (d : Delivery) (outcome : Outcome) (now : Instant) : Delivery :=
  match outcome with
  | .responded status =>
    { d with
      state := if outcome.isSuccess then .succeeded else .failed
      responseCode := some status
      error := none
      updatedAt := now }
  | .errored text =>
    { d with state := .errored, responseCode := none, error := some text, updatedAt := now }

/-- The delivery closed without a request. -/
def skip (d : Delivery) (reason : String) (now : Instant) : Delivery :=
  { d with state := .skipped, responseCode := none, error := some reason, updatedAt := now }

end Delivery

/-- When a failing webhook is given up: after so many failures in a row, over at least this time. -/
structure DelinquencyPolicy where
  threshold : Nat
  window : Span
deriving Repr, DecidableEq

namespace DelinquencyPolicy

def standard : DelinquencyPolicy := ⟨10, .ofSeconds 3600⟩

end DelinquencyPolicy

/-- The failures of a webhook since its last success. The count is a 32-bit word. -/
structure DelinquencyTracker where
  webhook : Ident
  failures : Nat
  firstFailureAt : Option Instant
deriving Repr, DecidableEq

namespace DelinquencyTracker

def fresh (webhook : Ident) : DelinquencyTracker := ⟨webhook, 0, none⟩

/-- Counts one outcome; a success starts afresh. -/
def record (t : DelinquencyTracker) (outcome : Outcome) (now : Instant) : DelinquencyTracker :=
  if outcome.isSuccess then { t with failures := 0, firstFailureAt := none }
  else
    { t with
      failures := (t.failures + 1) % pow2 32
      firstFailureAt := some (t.firstFailureAt.getD now) }

/-- Enough failures in a row, the first of them long enough ago. -/
def isDelinquent (t : DelinquencyTracker) (policy : DelinquencyPolicy) (now : Instant) : Bool :=
  match t.firstFailureAt with
  | some first =>
    policy.threshold ≤ t.failures && decide (policy.window.toOffset ≤ now.since first)
  | none => false

end DelinquencyTracker

end BoardActivity
