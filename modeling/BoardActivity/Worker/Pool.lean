import BoardActivity.Worker.Execution
import BoardActivity.Worker.Poller

/-!
# Worker pools

A pool runs two loops, one that polls for tasks and starts them, as many at once as it has permits,
and one that takes back stale claims. `Pool` is the life of a pool as its owner sees it: starting,
shutting down, and the signal that the loops watch. `WorkerPool` is the pool with its loops and the
system that it works on. A shutdown waits for the loops before it waits for the tasks in flight, and
meanwhile loops and tasks go on; `WorkerPool.step` is what can happen next.

`WorkerPool.runUntilIdle` is what a running pool does when the clock stands still and its loops take
turns with the tasks. A request that hangs keeps its permit and its claim.
-/

namespace BoardActivity

inductive PoolStatus where
  | running
  /-- Finishing what is in flight, claiming nothing more. -/
  | draining
  | stopped
deriving Repr, DecidableEq

namespace PoolStatus

def name : PoolStatus → String
  | running => "Running"
  | draining => "Draining"
  | stopped => "Stopped"

end PoolStatus

/-- Why a pool refuses or does not end. -/
inductive PoolError where
  | alreadyRunning
  | shutdownTimeout
deriving Repr, DecidableEq

namespace PoolError

def message : PoolError → String
  | alreadyRunning => "worker pool is already running"
  | shutdownTimeout => "graceful shutdown timed out"

/-- The name of the kind of error. -/
def kind : PoolError → String
  | alreadyRunning => "AlreadyRunning"
  | shutdownTimeout => "ShutdownTimeout"

end PoolError

/-- A pool: its status, the signal that tells the loops to end, and how many tasks are in flight,
each with a permit. -/
structure Pool where
  status : PoolStatus
  signal : Bool
  inFlight : Nat
deriving Repr, DecidableEq

namespace Pool

def create : Pool := ⟨.stopped, false, 0⟩

/-- Starts the loops. The signal stays as the last shutdown left it. -/
def start (p : Pool) : Except PoolError Unit × Pool :=
  if p.status = .running then (.error .alreadyRunning, p)
  else (.ok (), { p with status := .running })

/-- Tells the loops to end, unless the pool is stopped. -/
def beginShutdown (p : Pool) : Pool :=
  if p.status = .stopped then p else { p with status := .draining, signal := true }

/-- What comes of a shutdown when the loops have ended and it waits no longer for the tasks. -/
def endShutdown (p : Pool) : Except PoolError Unit × Pool :=
  if p.inFlight = 0 then (.ok (), { p with status := .stopped })
  else (.error .shutdownTimeout, p)

/-- Ends the loops and waits for the tasks in flight, of which so many never end. -/
def shutdown (p : Pool) (hanging : Nat) : Except PoolError Unit × Pool :=
  if p.status = .stopped then (.ok (), p)
  else { p.beginShutdown with inFlight := hanging }.endShutdown

end Pool

structure PoolConfig where
  worker : String
  kinds : List TaskKind
  concurrency : Nat
  poller : PollerConfig
  reclaimInterval : Span
  staleThreshold : Span
  shutdownTimeout : Span
  fanout : FanoutConfig
deriving Repr, DecidableEq

namespace PoolConfig

def standard : PoolConfig where
  worker := "worker"
  kinds := TaskKind.all
  concurrency := 10
  poller := .standard
  reclaimInterval := .ofSeconds 30
  staleThreshold := .ofSeconds 300
  shutdownTimeout := .ofSeconds 30
  fanout := .standard

/-- At least one task runs at a time. -/
def withConcurrency (c : PoolConfig) (n : Nat) : PoolConfig := { c with concurrency := max n 1 }

end PoolConfig

inductive PollStage where
  /-- About to look at the signal and at the permits. -/
  | looking
  /-- Asking the queue for tasks, with so many permits free. -/
  | claiming (permits : Nat)
  /-- Waiting for its interval, for work or for the signal. -/
  | waiting
  /-- Over, on the signal. -/
  | ended
  /-- Over, on an interval that is no span. -/
  | broken
deriving Repr, DecidableEq

namespace PollStage

def isOver : PollStage → Bool
  | ended | broken => true
  | looking | claiming _ | waiting => false

end PollStage

structure PollLoop where
  poller : Poller
  stage : PollStage
deriving Repr, DecidableEq

namespace PollLoop

def start (c : PoolConfig) : PollLoop := ⟨.start c.worker c.kinds c.poller, .looking⟩

/-- Looks at the signal, and if it is not set at the permits. -/
def look (l : PollLoop) (signal : Bool) (free : Nat) : PollLoop :=
  if l.stage = .looking then
    { l with stage := if signal then .ended else if free = 0 then .waiting else .claiming free }
  else l

/-- The loop after a claim that gave so many tasks: it polls again at once if there were any. -/
def afterClaim (l : PollLoop) (claimed : Nat) : PollLoop :=
  match l.poller.afterClaim claimed with
  | none => { l with stage := .broken }
  | some poller => ⟨poller, if claimed = 0 then .waiting else .looking⟩

def miss (l : PollLoop) : PollLoop :=
  match l.stage with
  | .claiming _ => { l with stage := .waiting }
  | _ => l

/-- The wait is over, because of the signal or not. -/
def wake (l : PollLoop) (signal : Bool) : PollLoop :=
  if l.stage = .waiting then { l with stage := if signal then .ended else .looking } else l

end PollLoop

/-- A pool with its loops, and what it works on. -/
structure WorkerPool where
  config : PoolConfig
  pool : Pool
  /-- The poll loops that no shutdown has waited for. -/
  loops : List PollLoop
  /-- How many loops take back stale claims. -/
  reclaimers : Nat
  /-- A call to shut down has not returned. -/
  closing : Bool
  sys : System
deriving Repr, DecidableEq

/-- What can happen to a pool and to the system that it works on. Loops are named by their place. -/
inductive PoolMove where
  | start
  | shutdown
  /-- A call to shut down finds that the loops have ended, and no longer waits for the tasks. -/
  | join
  | look (loop : Nat)
  | claim (loop : Nat) (now : Instant)
  | miss (loop : Nat)
  | wake (loop : Nat) (signalled : Bool)
  | reclaim (now : Instant)
  | endReclaim
  /-- A task in flight ends. -/
  | release
  /-- Whatever tasks and others do to the system. -/
  | alter (sys : System)
deriving Repr, DecidableEq

namespace WorkerPool

def create (c : PoolConfig) (sys : System) : WorkerPool := ⟨c, .create, [], 0, false, sys⟩

def free (p : WorkerPool) : Nat := p.config.concurrency - p.pool.inFlight

def isJoined (p : WorkerPool) : Bool :=
  (p.loops.all fun l => l.stage.isOver) && p.reclaimers == 0

/-- A loop that takes back stale claims needs an interval to tick. -/
def newReclaimers (p : WorkerPool) : Nat := if p.config.reclaimInterval = .zero then 0 else 1

/-- What the owner is told if the move makes a call return. There is one call at a time. -/
def answer (p : WorkerPool) : PoolMove → Option (Except PoolError Unit)
  | .start => if p.closing then none else some p.pool.start.1
  | .shutdown =>
    if p.closing then none else if p.pool.status = .stopped then some (.ok ()) else none
  | .join => if p.closing && p.isJoined then some p.pool.endShutdown.1 else none
  | _ => none

/-- What a claim of a loop would give, and the store after it. -/
def claimOf (p : WorkerPool) (loop : Nat) (now : Instant) : Option (List Task × Store) :=
  match p.loops[loop]? with
  | some ⟨poller, .claiming permits⟩ =>
    some (p.sys.store.claim poller.worker poller.kinds (poller.batchFor permits) now)
  | _ => none

def claims (p : WorkerPool) : PoolMove → List Task
  | .claim loop now => ((p.claimOf loop now).map Prod.fst).getD []
  | _ => []

/-- The pool after a move; one that is not possible changes nothing. -/
def step (p : WorkerPool) : PoolMove → WorkerPool
  | .start =>
    if p.closing then p
    else
      match p.pool.start with
      | (.error _, _) => p
      | (.ok (), pool) =>
        { p with
          pool
          loops := p.loops ++ [.start p.config]
          reclaimers := p.reclaimers + p.newReclaimers }
  | .shutdown =>
    if p.closing || p.pool.status = .stopped then p
    else { p with pool := p.pool.beginShutdown, closing := true }
  | .join =>
    if p.closing && p.isJoined then
      { p with pool := p.pool.endShutdown.2, loops := [], closing := false }
    else p
  | .look loop => { p with loops := p.loops.modify loop fun l => l.look p.pool.signal p.free }
  | .claim loop now =>
    match p.claimOf loop now with
    | none => p
    | some (tasks, store) =>
      { p with
        pool := { p.pool with inFlight := p.pool.inFlight + tasks.length }
        loops := p.loops.modify loop fun l => l.afterClaim tasks.length
        sys := { p.sys with store } }
  | .miss loop => { p with loops := p.loops.modify loop PollLoop.miss }
  | .wake loop signalled =>
    { p with loops := p.loops.modify loop fun l => l.wake (p.pool.signal && signalled) }
  | .reclaim now =>
    if p.reclaimers = 0 then p
    else
      match p.sys.store.reclaim p.config.staleThreshold now with
      | some (_, store) => { p with sys := { p.sys with store } }
      | none => { p with reclaimers := p.reclaimers - 1 }
  | .endReclaim => if p.pool.signal then { p with reclaimers := p.reclaimers - 1 } else p
  | .release => { p with pool := { p.pool with inFlight := p.pool.inFlight - 1 } }
  | .alter sys => { p with sys }

def run (p : WorkerPool) (moves : List PoolMove) : WorkerPool := moves.foldl step p

/-- The first loop polls until it claims nothing, at most so many times. The tasks are in the order
in which it claimed them. -/
def pollOut (now : Instant) : Nat → WorkerPool → List Task × WorkerPool
  | 0, p => ([], p)
  | polls + 1, p =>
    let p := p.step (.look 0)
    match p.claims (.claim 0 now) with
    | [] => ([], p.step (.claim 0 now))
    | tasks =>
      let (more, p) := pollOut now polls (p.step (.claim 0 now))
      (tasks ++ more, p)

/-- Runs tasks in flight one after the other. Those whose request hangs stay in flight. -/
def executeEach (h : Handlers) (draw : Draw) (now : Instant) : WorkerPool → List Task → WorkerPool
  | p, [] => p
  | p, t :: rest =>
    let (conclusion, sys) := p.sys.execute h p.config.fanout t draw now
    let p := p.step (.alter sys)
    executeEach h draw now (if conclusion = .hanging then p else p.step .release) rest

/-- Polls and runs what is claimed, for so many rounds or until nothing is claimed. -/
def rounds (h : Handlers) (draw : Draw) (now : Instant) : Nat → WorkerPool → WorkerPool
  | 0, p => p
  | n + 1, p =>
    match pollOut now (p.config.concurrency + 1) (p.step (.wake 0 false)) with
    | ([], p) => p
    | (tasks, p) => rounds h draw now n (executeEach h draw now p tasks)

/-- Polls, takes back stale claims, runs what was claimed, and goes on to poll and run tasks until
nothing is claimed. -/
def runUntilIdle (p : WorkerPool) (h : Handlers) (draw : Draw) (now : Instant) : WorkerPool :=
  let (tasks, p) := pollOut now (p.config.concurrency + 1) p
  let p := executeEach h draw now (p.step (.reclaim now)) tasks
  rounds h draw now (p.sys.drainBound h + 1) p

end WorkerPool

end BoardActivity
