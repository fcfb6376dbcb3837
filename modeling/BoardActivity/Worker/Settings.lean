import BoardActivity.Net.SocketAddress
import BoardActivity.Text.Blank
import BoardActivity.Worker.Pool

/-!
# Settings of a worker

What a worker reads from its environment. Every variable has a default; a number may have blanks
around it. Of several faults the first in the order of `Settings.read` is reported: the threshold
of delinquency with the check of the fanout settings, the address of the feed, then the remaining
numbers.
-/

namespace BoardActivity

/-- Why an environment cannot be used. -/
inductive SettingsFault where
  | invalidValue (key raw : String)
  | notAnAddress (raw : String)
  | fanout (error : Error)
deriving Repr, DecidableEq

namespace SettingsFault

def message : SettingsFault → String
  | invalidValue key raw => "configuration error: " ++ key ++ " has an invalid value: " ++ raw
  | notAnAddress raw => "configuration error: API_ADDR is not a socket address: " ++ raw
  | fanout e => e.message

/-- The name of the kind of error. -/
def kind : SettingsFault → String
  | invalidValue _ _ | notAnAddress _ => "WorkerConfig"
  | fanout e => e.kind

end SettingsFault

/-- The variables of an environment. -/
abbrev Environment := String → Option String

structure Settings where
  /-- The database to use; without one, records are kept in memory. -/
  databaseUrl : Option String
  /-- The name of the worker, if it was given one. -/
  worker : Option String
  maxTasks : Nat
  pollInterval : Span
  staleThreshold : Span
  webhookTimeout : Span
  feedAddress : SocketAddress
  fanout : FanoutConfig
deriving Repr, DecidableEq

namespace Settings

/-- The feed is served to the machine itself where nothing else is said. -/
def standardAddress : SocketAddress := ⟨.v4 127 0 0 1, 9400⟩

/-- A number below `bound`, if the variable is set. -/
def readNumber (env : Environment) (key : String) (bound : Nat) :
    Except SettingsFault (Option Nat) :=
  match env key with
  | none => .ok none
  | some raw =>
    match Text.readUnsigned? bound (Text.trim raw) with
    | some n => .ok (some n)
    | none => .error (.invalidValue key raw)

/-- The settings of the fanout, with the threshold of delinquency from the environment. -/
def readFanout (env : Environment) : Except SettingsFault FanoutConfig := do
  let standard := FanoutConfig.standard
  let threshold ← readNumber env "WEBHOOK_DELINQUENCY_THRESHOLD" (pow2 32)
  let fanout := match threshold with
    | some n => { standard with delinquency := { standard.delinquency with threshold := n } }
    | none => standard
  match fanout.validate with
  | .ok () => return fanout
  | .error e => throw (.fanout e)

def readAddress (env : Environment) : Except SettingsFault SocketAddress :=
  match env "API_ADDR" with
  | none => .ok standardAddress
  | some raw =>
    match SocketAddress.read? raw with
    | some address => .ok address
    | none => .error (.notAnAddress raw)

def read (env : Environment) : Except SettingsFault Settings := do
  let fanout ← readFanout env
  let feedAddress ← readAddress env
  let maxTasks ← readNumber env "MAX_CONCURRENT_TASKS" (pow2 64)
  let pollMillis ← readNumber env "POLL_INTERVAL_MS" (pow2 64)
  let staleSeconds ← readNumber env "STALE_THRESHOLD_SECS" (pow2 64)
  let timeoutSeconds ← readNumber env "WEBHOOK_TIMEOUT_SECS" (pow2 64)
  return {
    databaseUrl := (env "DATABASE_URL").filter fun url => !(Text.isBlank url)
    worker := env "WORKER_ID"
    maxTasks := max (maxTasks.getD 10) 1
    pollInterval := .ofMillis (pollMillis.getD 500)
    staleThreshold := .ofSeconds (staleSeconds.getD 300)
    webhookTimeout := .ofSeconds (timeoutSeconds.getD 7)
    feedAddress
    fanout }

/-- The name of the worker; without a given one, made from a fresh identifier. -/
def workerName (s : Settings) (fresh : Ident) : String := s.worker.getD ("worker-" ++ fresh.text)

def pool (s : Settings) (fresh : Ident) : PoolConfig :=
  { PoolConfig.standard with
    worker := s.workerName fresh
    concurrency := s.maxTasks
    poller := PollerConfig.standard.withMaxInterval s.pollInterval
    staleThreshold := s.staleThreshold
    fanout := s.fanout }

end Settings

end BoardActivity
