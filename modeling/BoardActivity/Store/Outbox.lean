import BoardActivity.Store.Table
import BoardActivity.Task

/-!
# The outbox

The table of tasks that follow from events. A task is inserted once for its kind and subject, waits
until it is visible, is claimed by one worker, and is then completed, or fails and waits again, or
is dead once its attempts are used up. A claim is settled only by who still holds it: status,
attempt and worker of the row must be those of the claim (`TaskRow.isHeldBy`). A claim held too
long is taken back.

Rows are claimed in the order of insertion, `seq`. The index finds the row of a kind and subject.
-/

namespace BoardActivity

structure TaskRow where
  id : Ident
  kind : TaskKind
  subject : Ident
  status : TaskStatus
  attempt : Nat
  maxAttempts : Nat
  seq : Nat
  visibleAt : Instant
  claimedBy : Option String
  claimedAt : Option Instant
  lastError : Option String
deriving Repr, DecidableEq

instance : Keyed TaskRow Ident := ⟨TaskRow.id⟩

namespace TaskRow

/-- A row for a task not yet tried. -/
def ofNew (t : NewTask) (id : Ident) (seq : Nat) (now : Instant) : TaskRow :=
  ⟨id, t.kind, t.subject, .pending, 0, t.maxAttempts, seq, now, none, none, none⟩

/-- The claim is the one that the row is held by. -/
def isHeldBy (r : TaskRow) (t : Task) : Bool :=
  r.status == .claimed && r.attempt == t.attempt && r.claimedBy == some t.claimedBy

def isClaimable (r : TaskRow) (kinds : List TaskKind) (now : Instant) : Bool :=
  r.status == .pending && decide (r.visibleAt ≤ now) && decide (r.kind ∈ kinds)

def claim (r : TaskRow) (worker : String) (now : Instant) : TaskRow :=
  { r with
    status := .claimed
    attempt := r.attempt + 1
    claimedBy := some worker
    claimedAt := some now }

/-- What is handed out to the worker who claims the row. -/
def toTask (r : TaskRow) (worker : String) : Task :=
  ⟨r.id, r.kind, r.subject, r.attempt, r.maxAttempts, worker⟩

/-- The row as done; the time of the claim stays. -/
def complete (r : TaskRow) : TaskRow := { r with status := .completed, claimedBy := none }

/-- The row as waiting for its next attempt. -/
def postpone (r : TaskRow) (error : String) (visibleAt : Instant) : TaskRow :=
  { r with
    status := .pending
    visibleAt
    claimedBy := none
    claimedAt := none
    lastError := some error }

def bury (r : TaskRow) (error : String) : TaskRow :=
  { r with status := .dead, claimedBy := none, claimedAt := none, lastError := some error }

/-- The row is claimed, and was so before the cutoff. -/
def isStale (r : TaskRow) (cutoff : Instant) : Bool :=
  r.status == .claimed && r.claimedAt.any fun t => t.before cutoff

/-- The error of a task whose worker was lost in the last attempt. -/
def lostText : String := "worker lost while running final attempt"

/-- The row as taken back from its worker. -/
def release (r : TaskRow) (now : Instant) : TaskRow :=
  if r.maxAttempts ≤ r.attempt then r.bury lostText
  else { r with status := .pending, visibleAt := now, claimedBy := none, claimedAt := none }

end TaskRow

/-- An entry of the index: the row of a kind and subject. -/
structure TaskEntry where
  kind : TaskKind
  subject : Ident
  task : Ident
deriving Repr, DecidableEq

instance : Keyed TaskEntry (TaskKind × Ident) := ⟨fun e => (e.kind, e.subject)⟩

/-- The tasks, their index, and the number of tasks ever inserted. -/
structure Outbox where
  rows : Table TaskRow
  index : Table TaskEntry
  seq : Nat
deriving Repr, DecidableEq

namespace Outbox

def empty : Outbox := ⟨.empty, .empty, 0⟩

/-- There is a task of the kind for the subject. -/
def has (o : Outbox) (kind : TaskKind) (subject : Ident) : Bool := o.index.contains (kind, subject)

/-- Inserts a task; the caller has made sure that there is none of its kind and subject. -/
def insert (o : Outbox) (t : NewTask) (id : Ident) (now : Instant) : Outbox where
  rows := o.rows.put (.ofNew t id (o.seq + 1) now)
  index := o.index.put ⟨t.kind, t.subject, id⟩
  seq := o.seq + 1

/-- Removes all tasks about the subjects. -/
def removeSubjects (o : Outbox) (subjects : List Ident) : Outbox :=
  { o with
    rows := o.rows.keep fun r => r.subject ∉ subjects
    index := o.index.keep fun e => e.subject ∉ subjects }

def putRow (o : Outbox) (r : TaskRow) : Outbox := { o with rows := o.rows.put r }

/-- The rows that a claim would take, in order. -/
def claimable (o : Outbox) (kinds : List TaskKind) (now : Instant) (max : Nat) : List TaskRow :=
  ((o.rows.rows.filter fun r => r.isClaimable kinds now).mergeSort fun a b =>
    decide (a.seq ≤ b.seq)).take max

/-- Claims visible tasks of the kinds, the earliest inserted first, at most `max` of them. -/
def claim (o : Outbox) (worker : String) (kinds : List TaskKind) (max : Nat) (now : Instant) :
    List Task × Outbox :=
  let claimed := (o.claimable kinds now max).map fun r => r.claim worker now
  (claimed.map fun r => r.toTask worker, { o with rows := o.rows.putAll claimed })

def held (o : Outbox) (t : Task) : Except Error TaskRow :=
  match o.rows.find? t.id with
  | none => .error (.notFound "task" t.id)
  | some r => if r.isHeldBy t then .ok r else .error (.claimLost t.id)

def complete (o : Outbox) (t : Task) : Except Error Unit × Outbox :=
  match o.held t with
  | .error e => (.error e, o)
  | .ok r => (.ok (), o.putRow r.complete)

/-- Settles a claim as failed: the task waits for the delay, or is dead after its last attempt.
There is no result if the time of the next attempt lies beyond the calendar; the claim is given up
all the same, and the task can be claimed again at once. -/
def fail (o : Outbox) (t : Task) (error : String) (delay : Span) (now : Instant) :
    Option (Except Error FailureOutcome) × Outbox :=
  match o.held t with
  | .error e => (some (.error e), o)
  | .ok r =>
    if r.attempt < r.maxAttempts then
      match now.shift? delay.toOffset with
      | some visibleAt =>
        (some (.ok (.willRetry (r.attempt + 1) delay)), o.putRow (r.postpone error visibleAt))
      | none => (none, o.putRow (r.postpone error r.visibleAt))
    else (some (.ok .dead), o.putRow (r.bury error))

/-- Takes back the claims older than the threshold, and tells how many tasks wait again. There is no
result if the threshold reaches back beyond the calendar. -/
def reclaim (o : Outbox) (threshold : Span) (now : Instant) : Option (Nat × Outbox) :=
  (now.shift? (-threshold.toOffset)).map fun cutoff =>
    let revived := o.rows.rows.filter fun r => r.isStale cutoff && r.attempt < r.maxAttempts
    let rows := o.rows.mapRows (fun r => if r.isStale cutoff then r.release now else r) fun r => by
      simp only [TaskRow.release, TaskRow.bury]
      split <;> (try split) <;> rfl
    (revived.length, { o with rows })

/-- How many attempts the tasks have left altogether. -/
def attemptsLeft (o : Outbox) : Nat :=
  o.rows.rows.foldr (fun r n => (r.maxAttempts - r.attempt) + n) 0

/-- How many tasks there are of a status. -/
def count (o : Outbox) (status : TaskStatus) : Nat :=
  (o.rows.rows.filter fun r => r.status == status).length

def stats (o : Outbox) : QueueStats :=
  ⟨o.count .pending, o.count .claimed, o.count .completed, o.count .dead⟩

end Outbox

end BoardActivity
