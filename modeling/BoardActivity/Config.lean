import BoardActivity.Delivery
import BoardActivity.Retry
import BoardActivity.Task
import BoardActivity.Webhook

/-!
# Fanout settings

How often each kind of work is retried, when a failing webhook is given up, and which actions may
be sent outside. The list of permitted actions can only be narrower than `Action.permitted`.
-/

namespace BoardActivity

structure FanoutConfig where
  notifyRetry : RetryPolicy
  dispatchRetry : RetryPolicy
  deliveryRetry : RetryPolicy
  delinquency : DelinquencyPolicy
  permittedActions : List String
deriving Repr, DecidableEq

namespace FanoutConfig

/-- The settings where nothing else is said; deliveries are attempted three times. -/
def standard : FanoutConfig where
  notifyRetry := .exponential
  dispatchRetry := .exponential
  deliveryRetry := RetryPolicy.exponential.withMaxAttempts 3
  delinquency := .standard
  permittedActions := Action.permitted

def retryPolicy (c : FanoutConfig) : TaskKind → RetryPolicy
  | .notify => c.notifyRetry
  | .dispatchWebhooks => c.dispatchRetry
  | .deliverWebhook => c.deliveryRetry

/-- Checks the permitted actions, then the threshold. -/
def validate (c : FanoutConfig) : Except Error Unit :=
  match c.permittedActions.find? fun a => a ∉ Action.permitted with
  | some action => .error (.configuration (.unpermittedAction action))
  | none =>
    if c.delinquency.threshold = 0 then .error (.configuration .zeroThreshold) else .ok ()

def dispatcher (c : FanoutConfig) : Dispatcher :=
  ⟨.ofList c.permittedActions, max c.deliveryRetry.maxAttempts 1⟩

end FanoutConfig

end BoardActivity
