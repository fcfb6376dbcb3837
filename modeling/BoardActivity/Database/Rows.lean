import BoardActivity.Card
import BoardActivity.Delivery
import BoardActivity.Event
import BoardActivity.Task
import BoardActivity.Webhook

/-!
# Rows of the database

Records as the columns of a database hold them: constants as texts, counts as signed 32-bit
integers, particulars as any JSON, sets as lists. Reading a row restores the record. An unknown
constant is an error, except that an unknown role is a member's; a count that is out of range is
brought back into it; particulars that are no object are empty. Of several rows the first that
cannot be read decides.

Boards, comments and notifications have no columns of this sort and need no rows of their own.
-/

namespace BoardActivity.Database

/-- A count as the column holds it: the low 32 bits, signed. -/
def storedCount (n : Nat) : Int := (n : Int).bmod (pow2 32)

structure UserRow where
  id : Ident
  account : Ident
  name : String
  role : String
deriving Repr, DecidableEq

def UserRow.read (r : UserRow) : User := ⟨r.id, r.account, r.name, .ofStored r.role⟩

structure CardRow where
  id : Ident
  account : Ident
  board : Ident
  title : String
  status : String
  creator : Ident
  assignees : List Ident
  watchers : List Ident
  mentionees : List Ident
  lastActiveAt : Instant
  createdAt : Instant
deriving Repr, DecidableEq

def CardRow.read (r : CardRow) : Except Error Card := do
  let status ← CardStatus.ofStored r.status
  return ⟨r.id, r.account, r.board, r.title, status, r.creator, r.assignees, r.watchers,
    r.mentionees, r.lastActiveAt, r.createdAt⟩

structure EventRow where
  id : Ident
  account : Ident
  board : Ident
  creator : Ident
  eventableKind : String
  eventableId : Ident
  action : String
  particulars : Json
  createdAt : Instant
deriving Repr, DecidableEq

def EventRow.read (r : EventRow) : Except Error Event := do
  let kind ← EventableKind.ofStored r.eventableKind
  return ⟨r.id, r.account, r.board, r.creator, ⟨kind, r.eventableId⟩, r.action,
    r.particulars.object?.getD [], r.createdAt⟩

structure WebhookRow where
  id : Ident
  account : Ident
  board : Ident
  name : String
  url : String
  active : Bool
  subscribed : List String
  createdAt : Instant
deriving Repr, DecidableEq

def WebhookRow.read (r : WebhookRow) : Webhook :=
  ⟨r.id, r.account, r.board, r.name, r.url, r.active, .ofList r.subscribed, r.createdAt⟩

structure DeliveryRow where
  id : Ident
  webhook : Ident
  event : Ident
  state : String
  responseCode : Option Int
  error : Option String
  createdAt : Instant
  updatedAt : Instant
deriving Repr, DecidableEq

/-- A stored response code; one that is no 16-bit number is dropped. -/
def responseCode? (code : Int) : Option Nat :=
  if 0 ≤ code ∧ code < pow2 16 then some code.toNat else none

def DeliveryRow.read (r : DeliveryRow) : Except Error Delivery := do
  let state ← DeliveryState.ofStored r.state
  return ⟨r.id, r.webhook, r.event, state, r.responseCode.bind responseCode?, r.error, r.createdAt,
    r.updatedAt⟩

structure TrackerRow where
  webhook : Ident
  failures : Int
  firstFailureAt : Option Instant
deriving Repr, DecidableEq

def TrackerRow.read (r : TrackerRow) : DelinquencyTracker :=
  ⟨r.webhook, r.failures.toNat, r.firstFailureAt⟩

structure ClaimRow where
  id : Ident
  kind : String
  subject : Ident
  attempt : Int
  maxAttempts : Int
  claimedBy : String
deriving Repr, DecidableEq

namespace ClaimRow

/-- The claim that a row holds; its budget is at least one attempt. -/
def read (r : ClaimRow) : Except Error Task := do
  let kind ← TaskKind.ofStored r.kind
  return ⟨r.id, kind, r.subject, r.attempt.toNat, (max r.maxAttempts 1).toNat, r.claimedBy⟩

/-- The row that a claim is stored as. -/
def ofTask (t : Task) : ClaimRow :=
  ⟨t.id, t.kind.name, t.subject, storedCount t.attempt, storedCount t.maxAttempts, t.claimedBy⟩

end ClaimRow

/-- Reads rows one by one, up to the first that cannot be read. -/
def readAll (read : ρ → Except Error α) (rows : List ρ) : Except Error (List α) := rows.mapM read

end BoardActivity.Database
