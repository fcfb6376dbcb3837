import BoardActivity.Database.Rows
import BoardActivity.Store.Outbox

/-!
# The outbox of the database

One row of the table of tasks under the statements that insert it, claim it, settle its claim, and
take it back from a lost worker. The counts of attempts are columns: a claim is held if the number
of its attempt, stored once more, is the one of the row.

When a row is visible and how long it has been claimed decides which rows the statements reach, not
what becomes of them, and has no columns here.
-/

namespace BoardActivity.Database

structure OutboxRow where
  id : Ident
  kind : String
  subject : Ident
  status : String
  attempt : Int
  maxAttempts : Int
  claimedBy : Option String
  lastError : Option String
deriving Repr, DecidableEq

namespace OutboxRow

def ofNew (t : NewTask) (id : Ident) : OutboxRow :=
  ⟨id, t.kind.name, t.subject, TaskStatus.pending.name, 0, storedCount t.maxAttempts, none, none⟩

def claim (r : OutboxRow) (worker : String) : OutboxRow :=
  { r with
    status := TaskStatus.claimed.name
    attempt := r.attempt + 1
    claimedBy := some worker }

/-- What is returned to the worker who claims the row. -/
def toClaim (r : OutboxRow) (worker : String) : ClaimRow :=
  ⟨r.id, r.kind, r.subject, r.attempt, r.maxAttempts, worker⟩

/-- Claims the row, if it waits. -/
def claim? (r : OutboxRow) (worker : String) : Option (ClaimRow × OutboxRow) :=
  if r.status = TaskStatus.pending.name then
    some ((r.claim worker).toClaim worker, r.claim worker)
  else none

/-- The claim is the one that the row is held by. -/
def isHeldBy (r : OutboxRow) (t : Task) : Bool :=
  r.id == t.id && r.status == TaskStatus.claimed.name && r.claimedBy == some t.claimedBy &&
    r.attempt == storedCount t.attempt

/-- The row as waiting for its next attempt. -/
def postpone (r : OutboxRow) : OutboxRow :=
  { r with status := TaskStatus.pending.name, claimedBy := none }

def bury (r : OutboxRow) (error : String) : OutboxRow :=
  { r with status := TaskStatus.dead.name, claimedBy := none, lastError := some error }

def complete (r : OutboxRow) (t : Task) : Except Error OutboxRow :=
  if r.isHeldBy t then .ok { r with status := TaskStatus.completed.name, claimedBy := none }
  else .error (.claimLost t.id)

def fail (r : OutboxRow) (t : Task) (error : String) (delay : Span) :
    Except Error (FailureOutcome × OutboxRow) :=
  if r.isHeldBy t then
    if r.attempt < r.maxAttempts then
      .ok (.willRetry (r.attempt + 1).toNat delay, { r.postpone with lastError := some error })
    else .ok (.dead, r.bury error)
  else .error (.claimLost t.id)

/-- The row as taken back from its worker. -/
def release (r : OutboxRow) : OutboxRow :=
  if r.maxAttempts ≤ r.attempt then r.bury TaskRow.lostText else r.postpone

end OutboxRow

end BoardActivity.Database
