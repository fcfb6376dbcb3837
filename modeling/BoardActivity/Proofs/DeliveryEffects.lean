import BoardActivity.Proofs.FailureStreaks
import BoardActivity.Proofs.SequentialDeliveries

/-!
# What sending a delivery does

Sending looks at the delivery, its webhook and its event, in this order, and the first thing that
stands in the way decides. What then comes of it is said in full: the result, the requests made,
and every row of the store after (`System.deliver_effects`).

Of the store it is supposed only that no two deliveries have one identifier. Webhooks and events
may be missing, trackers may count anything, and the endpoint may answer anything or hang.
-/

namespace BoardActivity

namespace Delivery

def answered (d : Delivery) (outcome : Outcome) (now : Instant) : Delivery :=
  match outcome with
  | .responded status =>
    { d with
      state := if 200 ≤ status ∧ status < 300 then .succeeded else .failed
      responseCode := some status
      error := none
      updatedAt := now }
  | .errored text =>
    { d with state := .errored, responseCode := none, error := some text, updatedAt := now }

theorem finish_eq_answered (d : Delivery) (outcome : Outcome) (now : Instant) :
    d.finish outcome now = d.answered outcome now := by
  cases outcome with
  | responded status => simp only [finish, answered, Outcome.isSuccess, Bool.and_eq_true,
      decide_eq_true_eq]
  | errored text => rfl

/-- Whether a delivery was begun before does not show once it is finished. -/
theorem finish_start (d : Delivery) (outcome : Outcome) (now later : Instant) :
    (d.start now).finish outcome later = d.finish outcome later := by
  cases outcome with
  | responded status => rfl
  | errored text => rfl

end Delivery

namespace DeliveryState

variable {x : DeliveryState}

theorem isFinished_eq_false_iff : x.isFinished = false ↔ x = .pending ∨ x = .inProgress := by
  cases x <;> decide

theorem isFinished_iff : x.isFinished = true ↔ x ≠ .pending ∧ x ≠ .inProgress := by
  cases x <;> decide

end DeliveryState

theorem Outcome.isSuccess_iff {outcome : Outcome} : outcome.isSuccess = true ↔
    ∃ status, outcome = .responded status ∧ 200 ≤ status ∧ status < 300 := by
  cases outcome with
  | responded status => simp [isSuccess]
  | errored text => simp [isSuccess]

theorem Transport.sent_of_send {t t' : Transport} {r : Request} {outcome : Outcome}
    (h : t.send r = some (outcome, t')) : t'.sent = t.sent ++ [r] := by
  unfold send at h
  split at h
  · cases h
  · split at h
    · cases h
      rfl
    · cases h
      rfl

/-- A row put in place of another one, as a change of that row. -/
theorem Table.rows_put_of_change {α κ : Type} [Keyed α κ] [DecidableEq κ] {t : Table α} {r : α}
    (hr : r ∈ t.rows) {f : α → α} (hf : Keyed.key (f r) = Keyed.key r) :
    (t.put (f r)).rows = t.rows.map fun x => if Keyed.key x = Keyed.key r then f x else x := by
  have hfound : t.find? (Keyed.key (f r)) = some r := hf ▸ mem_rows_iff.1 hr
  rw [rows_put_of_present hfound, hf]
  refine List.map_congr_left fun x hx => ?_
  split_ifs with hx'
  · rw [eq_of_key_eq hx hr hx']
  · rfl

namespace Store

variable {s : Store} {d : Delivery} {w : Webhook}

/-- Where deliveries are told apart by identifiers, changing one leaves all others alone. -/
theorem rows_put_delivery (hids : (s.deliveries.rows.map Delivery.id).Nodup)
    (hd : d ∈ s.deliveries.rows) {f : Delivery → Delivery} (hf : (f d).route = d.route) :
    (s.deliveries.put (f d)).rows =
      s.deliveries.rows.map fun x => if x.id = d.id then f x else x := by
  rw [Table.rows_put_of_change hd (congrArg Prod.snd hf)]
  refine List.map_congr_left fun x hx => if_congr ⟨fun hk => ?_, fun hid => ?_⟩ rfl rfl
  · rw [Table.eq_of_key_eq hx hd hk]
  · rw [List.inj_on_of_nodup_map hids hx hd hid]

/-- What is left of the webhooks when one of them is given up, or is not. -/
theorem rows_put_webhook (hw : w ∈ s.webhooks.rows) (hactive : w.active = true) (due : Bool) :
    (if due then s.webhooks.put { w with active := false } else s.webhooks).rows =
      s.webhooks.rows.map fun x => if x.id = w.id then { x with active := !due } else x := by
  cases due with
  | true =>
      exact Table.rows_put_of_change (f := fun x : Webhook => { x with active := false }) hw rfl
  | false =>
      have hsame : s.webhooks.rows.map (fun x => if x.id = w.id then { x with active := true }
          else x) = s.webhooks.rows.map id := by
        refine List.map_congr_left fun x hx => ?_
        split_ifs with hid
        · rw [Table.eq_of_key_eq hx hw hid, ← hactive, id_eq]
        · rfl
      exact (hsame.trans (List.map_id _)).symm

end Store

/-- The second half of sending, while the webhook is there: the outcome is stored and counted, and
the webhook is given up if it is delinquent then. -/
theorem Handlers.endDelivery_of_webhook (h : Handlers) {s : Store} {d : Delivery} {w : Webhook}
    (hd : s.deliveries.contains (d.webhook, d.event) = true)
    (hw : s.webhooks.find? d.webhook = some w) (outcome : Outcome) (now : Instant) :
    let t := (s.delinquency d.webhook).record outcome now
    h.endDelivery s d outcome now = (.ok (.delivered d.id outcome.isSuccess), { s with
      deliveries := s.deliveries.put (d.finish outcome now)
      trackers := s.trackers.put t
      webhooks := if t.isDelinquent h.delinquency now then s.webhooks.put { w with active := false }
        else s.webhooks }) := by
  intro t
  have hstored : s.updateDelivery (d.finish outcome now) =
      (.ok (), { s with deliveries := s.deliveries.put (d.finish outcome now) }) := by
    obtain ⟨-, hkey⟩ := Prod.mk.inj (d.route_finish outcome now)
    rw [Store.updateDelivery, hkey, if_pos hd]
  let s' : Store := { s with
    deliveries := s.deliveries.put (d.finish outcome now), trackers := s.trackers.put t }
  have hcounted : h.trackDelinquency { s with
      deliveries := s.deliveries.put (d.finish outcome now) } d.webhook outcome now =
      if t.isDelinquent h.delinquency now then s'.deactivateWebhook d.webhook else (.ok (), s') :=
    rfl
  have hgivenUp : s'.deactivateWebhook d.webhook =
      (.ok (), s'.saveWebhook { w with active := false }) := by
    simp only [Store.deactivateWebhook, s', hw]
  simp only [endDelivery, hstored, hcounted, hgivenUp]
  cases t.isDelinquent h.delinquency now with
  | true => rfl
  | false => rfl

namespace Store

/-- There is nothing to send: the delivery is not known or finished, or there is no webhook to send
it to, or no event to tell an active one of. -/
inductive NothingToSend (s : Store) (delivery : Ident) : Prop
  | unknown : s.findDelivery delivery = none → NothingToSend s delivery
  | finished {d : Delivery} : s.findDelivery delivery = some d → d.state ≠ .pending →
      d.state ≠ .inProgress → NothingToSend s delivery
  | webhookGone {d : Delivery} : s.findDelivery delivery = some d →
      s.webhooks.find? d.webhook = none → NothingToSend s delivery
  | eventGone {d : Delivery} {w : Webhook} : s.findDelivery delivery = some d →
      s.webhooks.find? d.webhook = some w → w.active = true → s.events.find? d.event = none →
      NothingToSend s delivery

structure Awaits (s : Store) (delivery : Ident) (d : Delivery) (w : Webhook) : Prop where
  found : s.findDelivery delivery = some d
  unfinished : d.state = .pending ∨ d.state = .inProgress
  webhook : s.webhooks.find? d.webhook = some w

theorem Awaits.isFinished {s : Store} {delivery : Ident} {d : Delivery} {w : Webhook}
    (h : s.Awaits delivery d w) : d.state.isFinished = false :=
  DeliveryState.isFinished_eq_false_iff.2 h.unfinished

/-- The failures of a webhook with one more outcome: a success starts afresh, and the first of
several failures keeps its time. -/
def failuresAfter (s : Store) (webhook : Ident) (succeeded : Bool) (now : Instant) :
    DelinquencyTracker :=
  if succeeded then ⟨webhook, 0, none⟩
  else
    match s.trackers.find? webhook with
    | none => ⟨webhook, 1, some now⟩
    | some t => ⟨webhook, (t.failures + 1) % pow2 32, some (t.firstFailureAt.getD now)⟩

theorem record_eq_failuresAfter (s : Store) (webhook : Ident) (outcome : Outcome) (now : Instant) :
    (s.delinquency webhook).record outcome now =
      s.failuresAfter webhook outcome.isSuccess now := by
  have hwebhook := s.webhook_delinquency webhook
  unfold failuresAfter DelinquencyTracker.record
  split_ifs with hsuccess
  · rw [hwebhook]
  · unfold delinquency at hwebhook ⊢
    cases hf : s.trackers.find? webhook with
    | none => rfl
    | some t =>
        rw [hf, Option.getD_some] at hwebhook
        rw [← hwebhook]
        rfl

/-- The store after a request for a delivery: its outcome is on the delivery and among the failures
of the webhook, which stays active unless these are enough, over a long enough time. -/
structure Concludes (s : Store) (policy : DelinquencyPolicy) (d : Delivery) (outcome : Outcome)
    (succeeded : Bool) (now : Instant) (s' : Store) : Prop where
  deliveries : s'.deliveries.rows =
    s.deliveries.rows.map fun x => if x.id = d.id then x.answered outcome now else x
  trackers : ∀ webhook, s'.trackers.find? webhook =
    if webhook = d.webhook then some (s.failuresAfter d.webhook succeeded now)
    else s.trackers.find? webhook
  webhooks : ∃ active : Bool,
    (active = false ↔ ∃ first,
      (s.failuresAfter d.webhook succeeded now).firstFailureAt = some first ∧
      policy.threshold ≤ (s.failuresAfter d.webhook succeeded now).failures ∧
      policy.window.toOffset ≤ now.since first) ∧
    s'.webhooks.rows =
      s.webhooks.rows.map fun x => if x.id = d.webhook then { x with active } else x
  frame : ∃ deliveries trackers webhooks, s' = { s with deliveries, trackers, webhooks }

variable {s : Store} {d : Delivery} {w : Webhook}

theorem concludes_outcome (policy : DelinquencyPolicy)
    (hids : (s.deliveries.rows.map Delivery.id).Nodup) (hd : d ∈ s.deliveries.rows)
    (hw : s.webhooks.find? d.webhook = some w) (hactive : w.active = true) (outcome : Outcome)
    (now : Instant) :
    let t := (s.delinquency d.webhook).record outcome now
    s.Concludes policy d outcome outcome.isSuccess now { s with
      deliveries := s.deliveries.put (d.finish outcome now)
      trackers := s.trackers.put t
      webhooks := if t.isDelinquent policy now then s.webhooks.put { w with active := false }
        else s.webhooks } := by
  intro t
  have ht : t = s.failuresAfter d.webhook outcome.isSuccess now :=
    s.record_eq_failuresAfter d.webhook outcome now
  obtain ⟨hrow, hid⟩ := Table.find?_eq_some_iff.1 hw
  refine ⟨?_, fun webhook => ?_, ⟨!t.isDelinquent policy now, ?_, ?_⟩, _, _, _, rfl⟩
  · simp only [← Delivery.finish_eq_answered]
    exact rows_put_delivery hids hd (f := fun x => x.finish outcome now)
      (d.route_finish outcome now)
  · have hwebhook : t.webhook = d.webhook :=
      (DelinquencyTracker.webhook_record _ _ _).trans (s.webhook_delinquency d.webhook)
    rw [← ht]
    refine (Table.find?_put _ _ _).trans ?_
    exact if_congr ((congrArg (· = webhook) hwebhook).to_iff.trans eq_comm) rfl rfl
  · rw [Bool.not_eq_false', ← ht]
    exact DelinquencyTracker.isDelinquent_iff
  · rw [← hid]
    exact rows_put_webhook hrow hactive _

end Store

namespace System

/-- What sending a delivery does, by what stands in its way. -/
structure DeliverEffects (h : Handlers) (sys : System) (delivery : Ident) (now : Instant) :
    Prop where
  nothing : sys.store.NothingToSend delivery →
    h.deliver sys delivery now = (some (.ok .skipped), sys)
  /-- To an inactive webhook nothing is sent, whether the event is there or not. -/
  inactive : ∀ d w, sys.store.Awaits delivery d w → w.active = false →
    ∃ deliveries, h.deliver sys delivery now =
        (some (.ok .skipped), ⟨{ sys.store with deliveries }, sys.transport⟩) ∧
      deliveries.rows = sys.store.deliveries.rows.map fun x =>
        if x.id = delivery then
          { x with
            state := .skipped
            responseCode := none
            error := some "webhook is inactive"
            updatedAt := now }
        else x
  /-- One request is made, with the event and the names as they are stored. -/
  sent : ∀ d w e outcome transport, sys.store.Awaits delivery d w → w.active = true →
    sys.store.events.find? d.event = some e →
    sys.transport.send (sys.store.requestFor d w e) = some (outcome, transport) →
    transport.sent = sys.transport.sent ++ [sys.store.requestFor d w e] ∧
      ∃ succeeded s', (succeeded = true ↔
          ∃ status, outcome = .responded status ∧ 200 ≤ status ∧ status < 300) ∧
        h.deliver sys delivery now =
          (some (.ok (.delivered delivery succeeded)), ⟨s', transport⟩) ∧
        sys.store.Concludes h.delinquency d outcome succeeded now s'
  /-- There are no other cases. -/
  all : sys.store.NothingToSend delivery ∨ ∃ d w, sys.store.Awaits delivery d w ∧
    (w.active = false ∨ w.active = true ∧ ∃ e, sys.store.events.find? d.event = some e)
  noError : ∀ err, (h.deliver sys delivery now).1 ≠ some (.error err)

variable {sys : System} {delivery : Ident} {d : Delivery} {w : Webhook} {e : Event}

theorem nothingToSend_or (s : Store) (delivery : Ident) :
    s.NothingToSend delivery ∨ ∃ d w, s.Awaits delivery d w ∧
      (w.active = false ∨ w.active = true ∧ ∃ e, s.events.find? d.event = some e) := by
  cases hf : s.findDelivery delivery with
  | none => exact .inl (.unknown hf)
  | some d =>
      cases hfinished : d.state.isFinished with
      | true =>
          obtain ⟨hpending, hprogress⟩ := DeliveryState.isFinished_iff.1 hfinished
          exact .inl (.finished hf hpending hprogress)
      | false =>
          have hopen := DeliveryState.isFinished_eq_false_iff.1 hfinished
          cases hw : s.webhooks.find? d.webhook with
          | none => exact .inl (.webhookGone hf hw)
          | some w =>
              cases hactive : w.active with
              | false => exact .inr ⟨d, w, ⟨hf, hopen, hw⟩, .inl hactive⟩
              | true =>
                  cases he : s.events.find? d.event with
                  | none => exact .inl (.eventGone hf hw hactive he)
                  | some e => exact .inr ⟨d, w, ⟨hf, hopen, hw⟩, .inr ⟨hactive, e, he⟩⟩

theorem deliver_nothing (h : Handlers) (now : Instant) (hn : sys.store.NothingToSend delivery) :
    h.deliver sys delivery now = (some (.ok .skipped), sys) := by
  have horphan : ∀ d, sys.store.findDelivery delivery = some d →
      (sys.store.webhooks.find? d.webhook = none ∨
        ∃ w, sys.store.webhooks.find? d.webhook = some w ∧ w.active = true ∧
          sys.store.events.find? d.event = none) →
      h.deliver sys delivery now = (some (.ok .skipped), sys) := by
    intro d hf hgone
    cases hfinished : d.state.isFinished with
    | true => exact deliver_of_finished hf hfinished
    | false => exact deliver_of_orphan hf hfinished hgone
  cases hn with
  | unknown hf => exact deliver_of_unknown hf
  | finished hf hpending hprogress =>
      exact deliver_of_finished hf (DeliveryState.isFinished_iff.2 ⟨hpending, hprogress⟩)
  | webhookGone hf hw => exact horphan _ hf (.inl hw)
  | eventGone hf hw hactive he => exact horphan _ hf (.inr ⟨_, hw, hactive, he⟩)

theorem deliver_sent (h : Handlers) (ha : sys.store.Awaits delivery d w)
    (hactive : w.active = true) (he : sys.store.events.find? d.event = some e) {outcome : Outcome}
    {transport : Transport}
    (hsend : sys.transport.send (sys.store.requestFor d w e) = some (outcome, transport))
    (now : Instant) :
    let t := (sys.store.delinquency d.webhook).record outcome now
    h.deliver sys delivery now = (some (.ok (.delivered delivery outcome.isSuccess)),
      ⟨{ sys.store with
        deliveries := sys.store.deliveries.put (d.finish outcome now)
        trackers := sys.store.trackers.put t
        webhooks := if t.isDelinquent h.delinquency now
          then sys.store.webhooks.put { w with active := false } else sys.store.webhooks },
        transport⟩) := by
  intro t
  have hid : d.id = delivery := by simpa using List.find?_some ha.found
  have hthere : (sys.store.begun d now).deliveries.contains
      ((d.start now).webhook, (d.start now).event) = true :=
    Table.contains_iff.2 ⟨d.start now, Table.find?_put_self _ _⟩
  have hend := h.endDelivery_of_webhook hthere (w := w) ha.webhook outcome now
  have hput : (sys.store.deliveries.put (d.start now)).put ((d.start now).finish outcome now) =
      sys.store.deliveries.put (d.finish outcome now) := by
    rw [Table.put_put _ (congrArg Prod.snd ((d.start now).route_finish outcome now)),
      d.finish_start]
  rw [deliver_of_active ha.found ha.isFinished ha.webhook he hactive hsend, hend]
  simp only [Store.begun, hput]
  rw [← hid]
  rfl

/-- Sending a delivery that is unknown or finished, or whose webhook is gone, or whose event is gone
while its webhook is active, does nothing; one to an inactive webhook is closed as skipped, without
a request; for any other one request is made, and its outcome is stored and counted. No other rows
change, and it never fails. -/
theorem deliver_effects (h : Handlers) (hids : (sys.store.deliveries.rows.map Delivery.id).Nodup)
    (delivery : Ident) (now : Instant) : sys.DeliverEffects h delivery now := by
  have hidOf : ∀ d w, sys.store.Awaits delivery d w → d ∈ sys.store.deliveries.rows ∧
      d.id = delivery := fun d w ha =>
    ⟨List.mem_of_find?_eq_some ha.found, by simpa using List.find?_some ha.found⟩
  refine ⟨deliver_nothing h now, fun d w ha hactive => ?_,
    fun d w e outcome transport ha hactive he hsend => ?_, nothingToSend_or sys.store delivery,
    fun err => ?_⟩
  · obtain ⟨hd, hid⟩ := hidOf d w ha
    refine ⟨_, deliver_of_inactive ha.found ha.isFinished ha.webhook hactive, ?_⟩
    rw [← hid]
    exact Store.rows_put_delivery hids hd (f := fun x => x.skip Handlers.inactiveText now) rfl
  · obtain ⟨hd, -⟩ := hidOf d w ha
    exact ⟨Transport.sent_of_send hsend, _, _, Outcome.isSuccess_iff,
      deliver_sent h ha hactive he hsend now,
      Store.concludes_outcome h.delinquency hids hd ha.webhook hactive outcome now⟩
  · rcases nothingToSend_or sys.store delivery with hn | ⟨d, w, ha, hactive | ⟨hactive, e, he⟩⟩
    · rw [deliver_nothing h now hn]
      simp
    · rw [deliver_of_inactive ha.found ha.isFinished ha.webhook hactive]
      simp
    · cases hsend : sys.transport.send (sys.store.requestFor d w e) with
      | none =>
          -- Without an answer there is no result.
          simp only [Handlers.deliver,
            begin_of_active ha.found ha.isFinished ha.webhook he hactive, hsend]
          simp
      | some answer =>
          rw [deliver_sent h ha hactive he hsend now]
          simp

/-- The tenth failure in a row, an hour after the first, gives the webhook up; another delivery to
it is skipped from then on. The creator of the event is not known. -/
theorem deliver_effects_delinquent :
    let start : Instant := ⟨0, 0⟩
    let now : Instant := ⟨3600, 0⟩
    let webhook : Webhook := ⟨⟨5⟩, ⟨9⟩, ⟨2⟩, "hook", "https://example.com", true,
      .ofList ["card_published"], start⟩
    let s : Store := { Store.empty 12 with
      boards := .ofList [⟨⟨2⟩, ⟨9⟩, "Roadmap", []⟩]
      webhooks := .ofList [webhook]
      events := .ofList [⟨⟨3⟩, ⟨9⟩, ⟨2⟩, ⟨1⟩, ⟨.card, ⟨6⟩⟩, "card_published", [], start⟩]
      deliveries := .ofList [.create ⟨10⟩ ⟨5⟩ ⟨3⟩ start, .create ⟨11⟩ ⟨5⟩ ⟨4⟩ start]
      trackers := .ofList [⟨⟨5⟩, 9, some start⟩] }
    let sys : System := ⟨s, ⟨[], .responded 500, false, []⟩⟩
    let h : Handlers := ⟨.standard, .standard, .standard⟩
    let failed := h.deliver sys ⟨10⟩ now
    let skipped := h.deliver failed.2 ⟨11⟩ now
    (sys.store.deliveries.rows.map Delivery.id).Nodup ∧ sys.DeliverEffects h ⟨10⟩ now ∧
      failed.1 = some (.ok (.delivered ⟨10⟩ false)) ∧
      failed.2.store.webhooks.rows = [{ webhook with active := false }] ∧
      failed.2.store.trackers.rows = [⟨⟨5⟩, 10, some start⟩] ∧
      failed.2.transport.sent = [⟨⟨5⟩, ⟨10⟩, .inProgress, ⟨⟨3⟩, "card_published", start, [],
        ⟨.card, ⟨6⟩⟩, ⟨⟨2⟩, some "Roadmap"⟩, ⟨⟨1⟩, none⟩⟩⟩] ∧
      skipped.1 = some (.ok .skipped) ∧
      skipped.2.store.deliveries.rows =
        [⟨⟨10⟩, ⟨5⟩, ⟨3⟩, .failed, some 500, none, start, now⟩,
          ⟨⟨11⟩, ⟨5⟩, ⟨4⟩, .skipped, none, some "webhook is inactive", start, now⟩] ∧
      skipped.2.transport = failed.2.transport := by
  intro start now webhook s sys h failed skipped
  have hids : (sys.store.deliveries.rows.map Delivery.id).Nodup := by decide
  exact ⟨hids, deliver_effects h hids ⟨10⟩ now, by decide +kernel, by decide +kernel,
    by decide +kernel, by decide +kernel, by decide +kernel, by decide +kernel,
    by decide +kernel⟩

end System

end BoardActivity
