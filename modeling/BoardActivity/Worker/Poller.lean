import BoardActivity.Binary64.Basic
import BoardActivity.Task

/-!
# Polling for tasks

A poller claims tasks in batches and waits between polls, longer each time that it finds none: the
interval is multiplied, up to a cap, and falls back to the least one when there is work. A poll that
fails leaves the interval as it is, and so does one after shutdown, which claims nothing.
-/

namespace BoardActivity

structure PollerConfig where
  minInterval : Span
  maxInterval : Span
  multiplier : Binary64
  batch : Nat
deriving Repr, DecidableEq

namespace PollerConfig

/-- Between 50 milliseconds and two seconds, growing by half, 20 tasks at once. -/
def standard : PollerConfig :=
  ⟨.ofMillis 50, .ofSeconds 2, .ofDecimal false 15 (-1), 20⟩

def withMinInterval (c : PollerConfig) (d : Span) : PollerConfig := { c with minInterval := d }

/-- The longest interval is at least the least one of the moment. -/
def withMaxInterval (c : PollerConfig) (d : Span) : PollerConfig :=
  { c with maxInterval := d.max c.minInterval }

/-- A multiplier below one counts as one. -/
def withMultiplier (c : PollerConfig) (x : Binary64) : PollerConfig :=
  { c with multiplier := x.max .one }

/-- A batch has at least one task. -/
def withBatch (c : PollerConfig) (n : Nat) : PollerConfig := { c with batch := max n 1 }

end PollerConfig

structure Poller where
  worker : String
  kinds : List TaskKind
  config : PollerConfig
  interval : Span
  shutDown : Bool
deriving Repr, DecidableEq

namespace Poller

def start (worker : String) (kinds : List TaskKind) (config : PollerConfig) : Poller :=
  ⟨worker, kinds, config, config.minInterval, false⟩

def batchFor (p : Poller) (max : Nat) : Nat := min max p.config.batch

/-- The interval after a poll that found nothing; none if the product is no span. -/
def longerInterval? (p : Poller) : Option Span :=
  (p.interval.toSeconds.mul p.config.multiplier).toSpan?.map fun d => d.min p.config.maxInterval

/-- The poller after a poll that claimed so many tasks. -/
def afterClaim (p : Poller) (claimed : Nat) : Option Poller :=
  if claimed = 0 then p.longerInterval?.map fun d => { p with interval := d }
  else some { p with interval := p.config.minInterval }

/-- Polls a queue with the claim given. There is no poller after it if the interval would be too
long for a span; a claim that fails leaves the poller as it is. -/
def poll {ε σ : Type} (p : Poller) (max : Nat) (queue : σ)
    (claim : σ → String → List TaskKind → Nat → Except ε (List Task) × σ) :
    Except ε (List Task) × σ × Option Poller :=
  if p.shutDown then (.ok [], queue, some p)
  else
    match claim queue p.worker p.kinds (p.batchFor max) with
    | (.error e, queue) => (.error e, queue, some p)
    | (.ok tasks, queue) => (.ok tasks, queue, p.afterClaim tasks.length)

def shutdown (p : Poller) : Poller := { p with shutDown := true }

end Poller

end BoardActivity
