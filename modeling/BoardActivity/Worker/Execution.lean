import BoardActivity.Worker.Handlers

/-!
# Running tasks to the end

A claimed task is executed by running its handler and then settling the claim: completed, or failed
with the delay of its retry policy. A claim that was lost meanwhile is not settled. An execution
may also break off: the request hangs (`hanging`), or the policy makes no delay, and the claim stays
in place; or the delay leads beyond the calendar, and the task can be claimed again (`stranded`).

Draining claims and executes tasks until none can be claimed. Each execution uses up an attempt of
a task or settles it, so the attempts left, of the tasks there are and of those that dispatching can
add, bound the number of rounds (`drainBound`).
-/

namespace BoardActivity

inductive Conclusion where
  | settled
  | hanging
  | stranded
deriving Repr, DecidableEq

namespace Store

/-- Claims visible tasks of the kinds, at most `max` of them. -/
def claim (s : Store) (worker : String) (kinds : List TaskKind) (max : Nat) (now : Instant) :
    List Task × Store :=
  let (tasks, outbox) := s.outbox.claim worker kinds max now
  (tasks, { s with outbox })

def complete (s : Store) (t : Task) : Except Error Unit × Store :=
  let (result, outbox) := s.outbox.complete t
  (result, { s with outbox })

def fail (s : Store) (t : Task) (error : String) (delay : Span) (now : Instant) :
    Option (Except Error FailureOutcome) × Store :=
  let (result, outbox) := s.outbox.fail t error delay now
  (result, { s with outbox })

/-- Takes back the claims older than the threshold. -/
def reclaim (s : Store) (threshold : Span) (now : Instant) : Option (Nat × Store) :=
  (s.outbox.reclaim threshold now).map fun (n, outbox) => (n, { s with outbox })

end Store

namespace System

/-- Settles a claim after a handler's error. The number of the next attempt has no bound here; a
32-bit count overflows at attempt `2 ^ 32 - 1`, which is not modelled. -/
def settleFailure (sys : System) (config : FanoutConfig) (t : Task) (error : Error)
    (draw : Draw) (now : Instant) : Conclusion × System :=
  match (config.retryPolicy t.kind).delay? (t.attempt + 1) draw with
  | none => (.stranded, sys)
  | some delay =>
    match sys.store.fail t error.message delay now with
    | (none, s) => (.stranded, { sys with store := s })
    | (some _, s) => (.settled, { sys with store := s })

/-- Runs a task and settles its claim. -/
def execute (sys : System) (h : Handlers) (config : FanoutConfig) (t : Task) (draw : Draw)
    (now : Instant) : Conclusion × System :=
  match h.run sys t now with
  | (none, sys) => (.hanging, sys)
  | (some (.ok _), sys) => (.settled, { sys with store := (sys.store.complete t).2 })
  | (some (.error e), sys) => sys.settleFailure config t e draw now

/-- Runs tasks one after the other, up to one that does not settle its claim. -/
def executeAll (h : Handlers) (config : FanoutConfig) (draw : Draw) (now : Instant) :
    System → List Task → Conclusion × System
  | sys, [] => (.settled, sys)
  | sys, t :: rest =>
    match sys.execute h config t draw now with
    | (.settled, sys) => executeAll h config draw now sys rest
    | (conclusion, sys) => (conclusion, sys)

/-- Rounds that draining can take: the attempts left of all tasks, and those of the deliveries that
can be added for each event and webhook. -/
def drainBound (sys : System) (h : Handlers) : Nat :=
  sys.store.outbox.attemptsLeft +
    sys.store.events.size * sys.store.webhooks.size * max h.dispatcher.maxAttempts 1

/-- Claims tasks of all kinds in batches and runs them, for so many rounds or until none can be
claimed. The count is of tasks run. -/
def drainRounds (h : Handlers) (config : FanoutConfig) (worker : String) (batch : Nat)
    (draw : Draw) (now : Instant) : Nat → System → Nat × Conclusion × System
  | 0, sys => (0, .settled, sys)
  | rounds + 1, sys =>
    match sys.store.claim worker TaskKind.all batch now with
    | ([], s) => (0, .settled, { sys with store := s })
    | (tasks, s) =>
      match executeAll h config draw now { sys with store := s } tasks with
      | (.settled, sys) =>
        let (n, conclusion, sys) := drainRounds h config worker batch draw now rounds sys
        (tasks.length + n, conclusion, sys)
      | (conclusion, sys) => (tasks.length, conclusion, sys)

/-- Claims and runs tasks until none can be claimed. -/
def drain (sys : System) (h : Handlers) (config : FanoutConfig) (worker : String) (batch : Nat)
    (draw : Draw) (now : Instant) : Nat × Conclusion × System :=
  drainRounds h config worker batch draw now (sys.drainBound h + 1) sys

end System

end BoardActivity
