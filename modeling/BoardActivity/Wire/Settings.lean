import BoardActivity.Config
import BoardActivity.Recipients
import BoardActivity.Wire.Deliveries
import BoardActivity.Worker.Poller

/-!
# Wire forms of settings

Retry policies and fanout settings as JSON. Settings may leave out any of their members and have
the standard ones then; a policy is complete. Nothing is clamped on reading, so what is read need
not be a policy that makes delays.

The settings of pollers and of registries are read only: as the changes to make, in order, of the
standard ones.
-/

namespace BoardActivity

open Wire

instance : Wire TaskKind := ⟨fun k => .string k.name, fun j => j.constant?.bind TaskKind.ofName?⟩

instance : Wire TaskStatus :=
  ⟨fun s => .string s.name, fun j => j.constant?.bind TaskStatus.ofName?⟩

instance : Wire RetryPolicy where
  encode p := .object
    [("max_attempts", .ofNat p.maxAttempts), ("initial_interval", encode p.initialInterval),
     ("max_interval", encode p.maxInterval), ("backoff_coefficient", .real p.coefficient),
     ("jitter", .real p.jitter)]
  decode? j := do
    let j ← j.record? ["max_attempts", "initial_interval", "max_interval", "backoff_coefficient",
      "jitter"] 5
    return {
      maxAttempts := ← j.required "max_attempts" (Json.below? (pow2 32))
      initialInterval := ← j.field "initial_interval"
      maxInterval := ← j.field "max_interval"
      coefficient := ← j.required "backoff_coefficient" Json.real?
      jitter := ← j.required "jitter" Json.real? }

instance : Wire FanoutConfig where
  encode c := .object
    [("notify_retry", encode c.notifyRetry), ("dispatch_retry", encode c.dispatchRetry),
     ("delivery_retry", encode c.deliveryRetry), ("delinquency", encode c.delinquency),
     ("permitted_actions", encode c.permittedActions)]
  decode? j := do
    let j ← j.record? ["notify_retry", "dispatch_retry", "delivery_retry", "delinquency",
      "permitted_actions"] 0
    let standard := FanoutConfig.standard
    return {
      notifyRetry := ← j.withDefault "notify_retry" standard.notifyRetry decode?
      dispatchRetry := ← j.withDefault "dispatch_retry" standard.dispatchRetry decode?
      deliveryRetry := ← j.withDefault "delivery_retry" standard.deliveryRetry decode?
      delinquency := ← j.withDefault "delinquency" standard.delinquency decode?
      permittedActions :=
        ← j.withDefault "permitted_actions" standard.permittedActions decode? }

/-- Reads a task to be enqueued; its subject stands under the name given. -/
def NewTask.read? (subject : String) (j : Json) : Option NewTask := do
  let t := NewTask.create (← j.field "kind") (← j.field subject)
  match ← j.optional "max_attempts" (Json.below? (pow2 32)) with
  | some n => return t.withMaxAttempts n
  | none => return t

namespace PollerConfig

/-- The settings after one item of changes. -/
def change? (c : PollerConfig) (j : Json) : Option PollerConfig := do
  let c := match ← j.optional "min_ms" decode? with
    | some d => c.withMinInterval d
    | none => c
  let c := match ← j.optional "max_ms" decode? with
    | some d => c.withMaxInterval d
    | none => c
  let c := match ← j.optional "multiplier" Json.real? with
    | some x => c.withMultiplier x
    | none => c
  match ← j.optional "batch" (Json.below? (pow2 64)) with
  | some n => return c.withBatch n
  | none => return c

/-- Reads settings from a list of changes. -/
def read? (j : Json) : Option PollerConfig := do (← j.array?).foldlM change? .standard

end PollerConfig

namespace Registry

/-- The registry with one more action: kind, action and strategy. -/
def addAction? (r : Registry) (j : Json) : Option Registry := do
  match ← j.array? with
  | [kind, action, strategy] =>
    return r.registerAction (← decode? kind) (← action.string?)
      (← strategy.string?.bind Strategy.ofName?)
  | _ => none

/-- The registry with one more kind: kind and strategy. -/
def addKind? (r : Registry) (j : Json) : Option Registry := do
  match ← j.array? with
  | [kind, strategy] =>
    return r.registerKind (← decode? kind) (← strategy.string?.bind Strategy.ofName?)
  | _ => none

/-- Reads a registry: a fallback to start with, else the standard registry, then actions, then
kinds. -/
def read? (j : Json) : Option Registry := do
  let _ ← j.object?
  let start := match ← j.optional "fallback" fun s => s.string?.bind Strategy.ofName? with
    | some s => withFallback s
    | none => .standard
  let actions := (← j.optional "actions" Json.array?).getD []
  let kinds := (← j.optional "kinds" Json.array?).getD []
  kinds.foldlM addKind? (← actions.foldlM addAction? start)

end Registry

end BoardActivity
