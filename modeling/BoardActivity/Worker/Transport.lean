import BoardActivity.Webhook
import BoardActivity.Delivery

/-!
# Transport

The world outside, as far as deliveries meet it: requests and their outcomes. The outcomes to come
are given in advance, a script and an outcome for all requests after it. A transport that hangs
answers no request at all.
-/

namespace BoardActivity

structure Request where
  webhook : Ident
  delivery : Ident
  /-- The state of the delivery when the request was made. -/
  state : DeliveryState
  payload : WebhookPayload
deriving Repr, DecidableEq

/-- The outcomes of requests to come, and the requests made so far, the latest last. -/
structure Transport where
  script : List Outcome
  fallback : Outcome
  hangs : Bool
  sent : List Request
deriving Repr, DecidableEq

namespace Transport

/-- Every request succeeds. -/
def standard : Transport := ⟨[], .responded 200, false, []⟩

/-- Makes a request, which ends unless the transport hangs. -/
def send (t : Transport) (r : Request) : Option (Outcome × Transport) :=
  if t.hangs then none
  else
    match t.script with
    | o :: rest => some (o, { t with script := rest, sent := t.sent ++ [r] })
    | [] => some (t.fallback, { t with sent := t.sent ++ [r] })

end Transport

end BoardActivity
