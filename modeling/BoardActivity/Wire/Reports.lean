import BoardActivity.Binary64.Decimal
import BoardActivity.Feed.Routes
import BoardActivity.Wire.Settings
import BoardActivity.Worker.Settings

/-!
# Reports

What is told of settings, tasks, results and errors, as JSON that is written only. Spans are
nanoseconds, and they, doubles and counts without a bound are texts.
-/

namespace BoardActivity

open Wire

/-- Values that are reported. -/
class Report (α : Type) where
  report : α → Json

namespace Report

instance : Report Span := ⟨fun d => .string (toString d.nanoseconds)⟩
instance : Report Binary64 := ⟨fun x => .string x.text⟩
instance : Report Nat := ⟨Json.ofNat⟩
instance : Report Unit := ⟨fun _ => .null⟩
instance [Report α] : Report (List α) := ⟨fun as => .array (as.map report)⟩

/-- An error: its kind and its message. -/
def errorJson (kind message : String) : Json :=
  .object [("error", .string kind), ("message", .string message)]

instance : Report Error := ⟨fun e => errorJson e.kind e.message⟩
instance : Report PoolError := ⟨fun e => errorJson e.kind e.message⟩
instance : Report SettingsFault := ⟨fun e => errorJson e.kind e.message⟩

/-- A result as `write` puts it, or the error. -/
def result [Report ε] (write : α → Json) : Except ε α → Json
  | .ok a => write a
  | .error e => report e

instance : Report RetryPolicy where
  report p := .object
    [("max_attempts", report p.maxAttempts), ("initial_interval_ns", report p.initialInterval),
     ("max_interval_ns", report p.maxInterval), ("backoff_coefficient", report p.coefficient),
     ("jitter", report p.jitter)]

instance : Report FanoutConfig where
  report c := .object
    [("notify_retry", report c.notifyRetry), ("dispatch_retry", report c.dispatchRetry),
     ("delivery_retry", report c.deliveryRetry), ("threshold", report c.delinquency.threshold),
     ("window_ns", report c.delinquency.window),
     ("permitted_actions", encode c.permittedActions)]

instance : Report PollerConfig where
  report c := .object
    [("min_ns", report c.minInterval), ("max_ns", report c.maxInterval),
     ("multiplier", report c.multiplier), ("batch", report c.batch)]

/-- A name, which was made up if none was given. -/
def workerName (name : Option String) : Json :=
  (name.map Json.string).getD (.object [("generated", .bool true)])

instance : Report Settings where
  report s := .object
    [("database_url", encodeOption s.databaseUrl), ("worker_id", workerName s.worker),
     ("max_concurrent_tasks", .string (toString s.maxTasks)),
     ("poll_interval_ns", report s.pollInterval),
     ("stale_threshold_ns", report s.staleThreshold),
     ("webhook_timeout_ns", report s.webhookTimeout),
     ("api_addr", .string s.feedAddress.text),
     ("threshold", report s.fanout.delinquency.threshold)]

instance : Report PoolConfig where
  report c := .object
    [("worker_id", .string c.worker), ("kinds", encode c.kinds),
     ("max_concurrency", report c.concurrency), ("poller", report c.poller),
     ("stale_threshold_ns", report c.staleThreshold),
     ("stale_reclaim_ns", report c.reclaimInterval),
     ("shutdown_timeout_ns", report c.shutdownTimeout), ("fanout", report c.fanout)]

instance : Report Task where
  report t := .object
    [("id", encode t.id), ("kind", encode t.kind), ("subject_id", encode t.subject),
     ("attempt", report t.attempt), ("max_attempts", report t.maxAttempts),
     ("claimed_by", encode t.claimedBy)]

instance : Report FailureOutcome where
  report
    | .willRetry n d => .object [("next_attempt", report n), ("delay_ns", report d)]
    | .dead => .string "dead"

instance : Report JobOutcome where
  report
    | .notified n => .object [("notified", report n)]
    | .dispatched n => .object [("dispatched", report n)]
    | .delivered id succeeded => .object [("delivered", encode id), ("succeeded", .bool succeeded)]
    | .skipped => .string "skipped"

instance : Report Request where
  report r := .object
    [("webhook", encode r.webhook), ("delivery", encode r.delivery), ("state", encode r.state),
     ("payload", encode r.payload)]

instance : Report EventRecord where
  report r := .object
    [("event", encode r.event), ("creator", encodeOption r.creator),
     ("board", encodeOption r.board), ("eventable", encodeOption r.eventable)]

instance : Report Response where
  report r := .object [("status", report r.status), ("body", r.body.getD .null)]

end Report

end BoardActivity
