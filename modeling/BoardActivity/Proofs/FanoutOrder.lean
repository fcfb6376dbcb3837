import BoardActivity.Proofs.SequentialDeliveries

/-!
# Fanout in any order

Workers run the tasks of an outbox, and those that dispatching adds to it, one at a time, in any
order and as often as they like, and nobody else changes anything meanwhile. Who is told of what
does not depend on the order; and as long as requests succeed, neither does what is sent to which
webhook and how that ends. For a handler writes nothing that recipients, or the webhooks of an
event, are read from, and what it inserts is inserted once for its key.

Nothing is compared step by step: where a fanout leads is read off the store that it starts from
(`Completes.mem_notificationKeys`, `Completes.state_eq`).

A task that is claimed, completed or dead at the start is nobody's business here, and is left alone
in every order.
-/

namespace BoardActivity

namespace SystemCall

/-- The kind and subject of the task whose handler a call runs. -/
def handles? : SystemCall → Option (TaskKind × Ident)
  | .notify event => some (.notify, event)
  | .dispatch event => some (.dispatchWebhooks, event)
  | .deliver delivery => some (.deliverWebhook, delivery)
  | .execute t _ => some (t.kind, t.subject)
  | .createDraft .. | .changeCard .. | .destroyCard _ | .comment .. | .saveWebhook _
  | .resubscribe .. | .deactivate _ | .markRead _ | .failNotificationsAfter _ | .claim ..
  | .complete _ | .fail .. | .reclaim _ => none

/-- The call is one of a worker's: it runs a handler, or claims, settles or takes back tasks. -/
def isWork : SystemCall → Bool
  | .claim .. | .complete _ | .fail .. | .reclaim _ | .notify _ | .dispatch _ | .deliver _
  | .execute .. => true
  | .createDraft .. | .changeCard .. | .destroyCard _ | .comment .. | .saveWebhook _
  | .resubscribe .. | .deactivate _ | .markRead _ | .failNotificationsAfter _ => false

end SystemCall

def Handled (calls : List (Instant × SystemCall)) (task : TaskKind × Ident) : Prop :=
  ∃ x ∈ calls, x.2.handles? = some task

instance (calls : List (Instant × SystemCall)) (task : TaskKind × Ident) :
    Decidable (Handled calls task) :=
  inferInstanceAs (Decidable (∃ x ∈ calls, x.2.handles? = some task))

theorem not_handled_nil {task : TaskKind × Ident} : ¬Handled [] task := by
  rintro ⟨x, hx, -⟩
  cases hx

theorem handled_cons {now : Instant} {c : SystemCall} {calls : List (Instant × SystemCall)}
    {task : TaskKind × Ident} :
    Handled ((now, c) :: calls) task ↔ c.handles? = some task ∨ Handled calls task :=
  List.exists_mem_cons_iff (fun x : Instant × SystemCall => x.2.handles? = some task) _ _

structure Transport.Succeeds (t : Transport) : Prop where
  answering : t.hangs = false
  fallback : t.fallback.isSuccess = true
  script : ∀ outcome ∈ t.script, outcome.isSuccess = true

theorem Transport.Succeeds.send {t : Transport} (h : t.Succeeds) (r : Request) :
    ∃ outcome t', t.send r = some (outcome, t') ∧ outcome.isSuccess = true ∧ t'.Succeeds := by
  have hscript := h.script
  unfold Transport.send
  rw [h.answering]
  cases hs : t.script with
  | nil => exact ⟨t.fallback, _, rfl, h.fallback, rfl, h.fallback,
      fun o ho => (List.not_mem_nil ho).elim⟩
  | cons outcome rest =>
      rw [hs] at hscript
      exact ⟨outcome, _, rfl, hscript outcome List.mem_cons_self, rfl, h.fallback,
        fun o ho => hscript o (List.mem_cons_of_mem outcome ho)⟩

/-- A success never makes a webhook delinquent. -/
theorem DelinquencyTracker.isDelinquent_record {outcome : Outcome}
    (h : outcome.isSuccess = true) (t : DelinquencyTracker) (policy : DelinquencyPolicy)
    (now : Instant) : (t.record outcome now).isDelinquent policy now = false := by
  simp only [record, h, if_true, isDelinquent]

namespace Store

def awaits (s : Store) (task : TaskKind × Ident) : Bool :=
  s.outbox.rows.rows.any fun r => (r.kind, r.subject) == task && r.status == .pending

/-- The task is pending, or is not there yet. -/
def isOpen (s : Store) (task : TaskKind × Ident) : Bool :=
  s.awaits task || !s.outbox.has task.1 task.2

def IsRecipient (s : Store) (r : Registry) (k : Ident × Ident) : Prop :=
  ∃ e users, s.events.find? k.1 = some e ∧ r.recipients e s.audience = .ok users ∧ k.2 ∈ users

def isAddressed (s : Store) (dispatcher : Dispatcher) (k : Ident × Ident) : Bool :=
  match s.webhooks.find? k.1, s.events.find? k.2 with
  | some w, some e => dispatcher.concerns w e
  | _, _ => false

/-- The state that a delivery is in once it is sent with success. -/
def sentState (s : Store) (d : Delivery) : DeliveryState :=
  if d.state.isFinished then d.state
  else if (s.webhooks.find? d.webhook).any Webhook.active then .succeeded
  else .skipped

/-- The state in which a fanout leaves the delivery of a webhook and an event, if requests succeed
and there is one in the end. -/
def destined (s : Store) (dispatcher : Dispatcher) (k : Ident × Ident) : Option DeliveryState :=
  match s.deliveries.find? k with
  | some d => some (if s.awaits (.deliverWebhook, d.id) then s.sentState d else d.state)
  | none =>
    if s.awaits (.dispatchWebhooks, k.2) && s.isAddressed dispatcher k then some .succeeded
    else none

variable {s s' : Store} {g : Setup}

theorem IsRecipient.congr (hevents : s'.events = s.events)
    (haudience : s'.audience = s.audience) {r : Registry} {k : Ident × Ident} :
    s'.IsRecipient r k ↔ s.IsRecipient r k := by
  rw [IsRecipient, IsRecipient, hevents, haudience]

theorem isAddressed_iff {dispatcher : Dispatcher} {k : Ident × Ident} :
    s.isAddressed dispatcher k = true ↔ ∃ w e, s.webhooks.find? k.1 = some w ∧
      s.events.find? k.2 = some e ∧ dispatcher.concerns w e = true := by
  unfold isAddressed
  cases s.webhooks.find? k.1 with
  | none => simp
  | some w =>
      cases s.events.find? k.2 with
      | none => simp
      | some e => simp

/-- Sending is over after once. -/
theorem sentState_of_sent {d d' : Delivery} (hd : d'.state = s.sentState d) :
    s'.sentState d' = s.sentState d := by
  have hfinished : d'.state.isFinished = true := by
    rw [hd, sentState]
    split_ifs with h
    · exact h
    · rfl
    · rfl
  rw [sentState, if_pos hfinished, hd]

theorem sentState_congr {d d' : Delivery} (hw : s'.webhooks = s.webhooks)
    (hwebhook : d'.webhook = d.webhook) (hd : d'.state = d.state) :
    s'.sentState d' = s.sentState d := by
  simp only [sentState, hw, hwebhook, hd]

/-- A delivery that was just created for a webhook succeeds. -/
theorem sentState_of_addressed {dispatcher : Dispatcher} {d : Delivery}
    (h : s.isAddressed dispatcher (d.webhook, d.event) = true) (hd : d.state = .pending) :
    s.sentState d = .succeeded := by
  obtain ⟨w, e, hw, -, hconcerns⟩ := isAddressed_iff.1 h
  simp only [Dispatcher.concerns, Bool.and_eq_true] at hconcerns
  have hactive : w.active = true := hconcerns.1.1.1
  simp only [sentState, hd, DeliveryState.isFinished, hw, Option.any_some, hactive,
    Bool.false_eq_true, if_false, if_true]

/-! ### Handlers -/

/-- Without a fault, all recipients of an event are told, and nobody else. -/
theorem notificationKeys_notify (h : Handlers) (s : Store) (event : Ident) (now : Instant)
    (hf : s.notificationFault = none) :
    (h.notify s event now).2.notificationFault = none ∧
      ∀ k, k ∈ (h.notify s event now).2.notificationKeys ↔
        k ∈ s.notificationKeys ∨ event = k.1 ∧ s.IsRecipient h.registry k := by
  rcases h.notify_unarmed s event now hf with ⟨he, hrun⟩ | ⟨e, users, he, hr, hnodup, hrun⟩
  · rw [hrun]
    refine ⟨hf, fun k => ⟨.inl, ?_⟩⟩
    rintro (hk | ⟨rfl, e, users, he', -⟩)
    · exact hk
    · cases he.symm.trans he'
  · have hid : e.id = event := (Table.find?_eq_some_iff.1 he).2
    have hmissing : ∀ u ∈ s.missing e.id users, (e.id, u) ∉ s.notificationKeys :=
      fun u hu => (mem_missing.1 hu).2
    have hadded : (s.missing e.id users).Nodup := hnodup.sublist List.filter_sublist
    rw [hrun]
    refine ⟨rfl, fun k => ?_⟩
    simp only [notificationKeys_noticed hadded hmissing, List.mem_append]
    constructor
    · rintro (hk | hk)
      · exact .inl hk
      · obtain ⟨u, hu, rfl⟩ := List.mem_map.1 hk
        exact .inr ⟨hid.symm, e, users, hid ▸ he, hr, (mem_missing.1 hu).1⟩
    · rintro (hk | ⟨rfl, e', users', he', hr', hu⟩)
      · exact .inl hk
      · cases he.symm.trans he'
        cases hr.symm.trans hr'
        by_cases hk : k ∈ s.notificationKeys
        · exact .inl hk
        · refine .inr (List.mem_map.2 ⟨k.2, mem_missing.2 ⟨hu, ?_⟩, ?_⟩)
          · rw [hid]
            exact hk
          · rw [hid]

/-- Making sure of the delivery to one webhook leaves the deliveries that are there. -/
theorem find?_deliverToOne (s : Store) (maxAttempts : Nat) (event : Ident) (now : Instant)
    (w : Webhook) :
    let s' := (s.deliverToAll maxAttempts event now [w]).2
    (∀ k d, s.deliveries.find? k = some d → s'.deliveries.find? k = some d) ∧
      ∃ d, s'.deliveries.find? (w.id, event) = some d := by
  intro s'
  obtain ⟨outbox, supply, htask⟩ := (s.ensureDelivery w.id event now).2.enqueue_frame
    (deliveryTask (s.ensureDelivery w.id event now).1.id maxAttempts) now
  have hdeliveries : s'.deliveries = (s.ensureDelivery w.id event now).2.deliveries :=
    (congrArg Store.deliveries htask :)
  obtain ⟨hthere, hkeeps⟩ := s.find?_ensureDelivery w.id event now
  rw [hdeliveries]
  exact ⟨hkeeps, _, hthere⟩

/-- Deliveries that are there stay as they are while others are inserted. -/
theorem deliverToAll_keeps {k : Ident × Ident} {d : Delivery}
    (hd : s.deliveries.find? k = some d) (maxAttempts : Nat) (event : Ident) (now : Instant)
    (webhooks : List Webhook) :
    (s.deliverToAll maxAttempts event now webhooks).2.deliveries.find? k = some d := by
  induction webhooks generalizing s with
  | nil => exact hd
  | cons w webhooks ih =>
      exact ih (s := (s.deliverToAll maxAttempts event now [w]).2)
        ((s.find?_deliverToOne maxAttempts event now w).1 k d hd)

theorem deliverToAll_covers (s : Store) (maxAttempts : Nat) (event : Ident) (now : Instant)
    {webhooks : List Webhook} {w : Webhook} (hw : w ∈ webhooks) :
    ∃ d, (s.deliverToAll maxAttempts event now webhooks).2.deliveries.find? (w.id, event) =
      some d := by
  induction webhooks generalizing s with
  | nil => cases hw
  | cons x webhooks ih =>
      rcases List.mem_cons.1 hw with rfl | hw
      · obtain ⟨d, hd⟩ := (s.find?_deliverToOne maxAttempts event now w).2
        exact ⟨d, deliverToAll_keeps hd maxAttempts event now webhooks⟩
      · exact ih (s.deliverToAll maxAttempts event now [x]).2 hw

/-- Dispatching an event leaves the deliveries that are there, and adds those that are missing. -/
theorem find?_dispatch (hl : s.Linked) (event : Ident) (now : Instant) (k : Ident × Ident) :
    let s' := (g.handlers.dispatch s event now).2
    (∀ d, s.deliveries.find? k = some d → s'.deliveries.find? k = some d) ∧
      (s.deliveries.find? k = none →
        (event = k.2 ∧ s.isAddressed g.handlers.dispatcher k = true ∧
          ∃ d, s'.deliveries.find? k = some d ∧ s.supply.next ≤ d.id.value ∧ d.state = .pending) ∨
        ¬(event = k.2 ∧ s.isAddressed g.handlers.dispatcher k = true) ∧
          s'.deliveries.find? k = none) := by
  intro s'
  obtain ⟨added, tasks, hrows, -, hadded⟩ := dispatch_grows (g := g) hl event now
  have hrows' : s'.deliveries.rows = s.deliveries.rows ++ added := hrows
  refine ⟨fun d hd => ?_, fun hnone => ?_⟩
  · obtain ⟨hrow, hk⟩ := Table.find?_eq_some_iff.1 hd
    exact Table.find?_eq_some_iff.2 ⟨hrows' ▸ List.mem_append_left _ hrow, hk⟩
  · -- A delivery that is there afterwards was added, to a webhook that the event concerns.
    have hnew : ∀ d, s'.deliveries.find? k = some d → d ∈ added ∧ (d.webhook, d.event) = k := by
      intro d hd
      obtain ⟨hrow, hk⟩ := Table.find?_eq_some_iff.1 hd
      rcases List.mem_append.1 (hrows' ▸ hrow) with hold | hnew
      · exact (Table.find?_eq_none_iff.1 hnone d hold hk).elim
      · exact ⟨hnew, hk⟩
    by_cases haddressed : event = k.2 ∧ s.isAddressed g.handlers.dispatcher k = true
    · obtain ⟨rfl, haddressed⟩ := haddressed
      refine .inl ⟨rfl, haddressed, ?_⟩
      obtain ⟨w, e, hw, he, hconcerns⟩ := isAddressed_iff.1 haddressed
      obtain ⟨hrow, hwebhook⟩ := Table.find?_eq_some_iff.1 hw
      have hevent : e.id = k.2 := (Table.find?_eq_some_iff.1 he).2
      obtain ⟨d, hd⟩ : ∃ d, s'.deliveries.find? k = some d := by
        have hcovers := s.deliverToAll_covers g.handlers.dispatcher.maxAttempts e.id now
          (mem_concernedWebhooks.2 ⟨hrow, hconcerns⟩)
        have hk : (w.id, e.id) = k := Prod.ext hwebhook hevent
        rw [hk] at hcovers
        have hs' : s' = (s.dispatch g.handlers.dispatcher e now).2 := by
          simp only [s', Handlers.dispatch, he]
        rw [hs']
        exact hcovers
      obtain ⟨hfresh, hpending, -⟩ := hadded d (hnew d hd).1
      exact ⟨d, hd, hfresh, congrArg Prod.fst hpending⟩
    · refine .inr ⟨haddressed, ?_⟩
      cases hd : s'.deliveries.find? k with
      | none => rfl
      | some d =>
          obtain ⟨hin, rfl⟩ := hnew d hd
          obtain ⟨-, -, e, w, he, heid, hevent, hw, hconcerns⟩ := hadded d hin
          refine (haddressed ⟨hevent.symm, isAddressed_iff.2 ⟨w, e, hw, ?_, hconcerns⟩⟩).elim
          rw [hevent, ← heid]
          exact he

/-- What a call of a worker does to deliveries as long as requests succeed, by the task that it
handles: a delivery that is sent ends, an event that is dispatched gets the deliveries that are
missing, and all else stays. -/
structure Progress (g : Setup) (task : Option (TaskKind × Ident)) (s s' : Store) : Prop where
  webhooks : s'.webhooks = s.webhooks
  stored : ∀ k d, s.deliveries.find? k = some d → ∃ d', s'.deliveries.find? k = some d' ∧
    d'.id = d.id ∧
    d'.state = if task = some (.deliverWebhook, d.id) then s.sentState d else d.state
  missing : ∀ k, s.deliveries.find? k = none →
    (task = some (.dispatchWebhooks, k.2) ∧ s.isAddressed g.handlers.dispatcher k = true ∧
      ∃ d, s'.deliveries.find? k = some d ∧ s.supply.next ≤ d.id.value ∧ d.state = .pending) ∨
    ¬(task = some (.dispatchWebhooks, k.2) ∧ s.isAddressed g.handlers.dispatcher k = true) ∧
      s'.deliveries.find? k = none

/-- A delivery is replaced by what it is once it is sent. -/
theorem Progress.ofPut (hl : s.Linked) {d₀ d₁ : Delivery} (hd₀ : d₀ ∈ s.deliveries.rows)
    (hroute : d₁.route = d₀.route) (hstate : d₁.state = s.sentState d₀)
    (hput : s'.deliveries = s.deliveries.put d₁) (hw : s'.webhooks = s.webhooks) :
    Progress g (some (.deliverWebhook, d₀.id)) s s' := by
  obtain ⟨hid, hkey⟩ := Prod.mk.inj hroute
  have hfound : s.deliveries.find? (d₁.webhook, d₁.event) = some d₀ := by
    rw [hkey]
    exact Table.mem_rows_iff.1 hd₀
  have hfind : ∀ k, s'.deliveries.find? k =
      if (d₁.webhook, d₁.event) = k then some d₁ else s.deliveries.find? k := by
    intro k
    rw [hput]
    exact Table.find?_put _ _ _
  refine ⟨hw, fun k d hd => ?_, fun k hnone => .inr ⟨by simp, ?_⟩⟩
  · rw [hfind]
    split_ifs with hk htask htask
    · subst hk
      cases hfound.symm.trans hd
      exact ⟨d₁, rfl, hid, hstate⟩
    · subst hk
      cases hfound.symm.trans hd
      exact (htask rfl).elim
    · cases hl.eq_of_delivery_id hd₀ (Table.find?_eq_some_iff.1 hd).1
        (Prod.mk.inj (Option.some.inj htask)).2
      exact (hk (hkey.trans (Table.find?_eq_some_iff.1 hd).2)).elim
    · exact ⟨d, hd, rfl, rfl⟩
  · rw [hfind, if_neg, hnone]
    rintro rfl
    cases hfound.symm.trans hnone

/-- Nothing is sent that was not over, and nothing is dispatched. -/
theorem Progress.ofSame {task : Option (TaskKind × Ident)}
    (hdeliveries : s'.deliveries = s.deliveries) (hw : s'.webhooks = s.webhooks)
    (hsent : ∀ d ∈ s.deliveries.rows, task = some (.deliverWebhook, d.id) →
      d.state = s.sentState d)
    (hdispatch : ∀ event, task ≠ some (.dispatchWebhooks, event)) : Progress g task s s' := by
  refine ⟨hw, fun k d hd => ⟨d, hdeliveries ▸ hd, rfl, ?_⟩, fun k hnone =>
    .inr ⟨fun h => hdispatch _ h.1, hdeliveries ▸ hnone⟩⟩
  split_ifs with htask
  · exact hsent d (Table.find?_eq_some_iff.1 hd).1 htask
  · rfl

theorem Progress.ofDispatch (hl : s.Linked) (event : Ident) (now : Instant) :
    Progress g (some (.dispatchWebhooks, event)) s (g.handlers.dispatch s event now).2 := by
  obtain ⟨deliveries, outbox, supply, hframe⟩ := s.dispatch_frame g.handlers event now
  refine ⟨(congrArg Store.webhooks hframe :), fun k d hd => ?_, fun k hnone => ?_⟩
  · exact ⟨d, (find?_dispatch hl event now k).1 d hd, rfl, (if_neg (by simp)).symm⟩
  · have htask : some (TaskKind.dispatchWebhooks, event) = some (.dispatchWebhooks, k.2) ↔
        event = k.2 := by simp
    rw [htask]
    exact (find?_dispatch hl event now k).2 hnone

end Store

namespace System

variable {sys sys' : System} {g : Setup}

/-- What a call of a worker does: what the handler of its task does, if there is one, and to the
outbox something or other. -/
inductive Works (sys : System) (g : Setup) (now : Instant) (c : SystemCall) : System → Prop
  | queue (outbox : Outbox) : c.handles? = none →
      Works sys g now c ⟨{ sys.store with outbox }, sys.transport⟩
  | notifies (event : Ident) (outbox : Outbox) : c.handles? = some (.notify, event) →
      Works sys g now c
        ⟨{ (g.handlers.notify sys.store event now).2 with outbox }, sys.transport⟩
  | dispatches (event : Ident) (outbox : Outbox) : c.handles? = some (.dispatchWebhooks, event) →
      Works sys g now c
        ⟨{ (g.handlers.dispatch sys.store event now).2 with outbox }, sys.transport⟩
  | sends (delivery : Ident) (outbox : Outbox) : c.handles? = some (.deliverWebhook, delivery) →
      Works sys g now c ⟨{ (g.handlers.deliver sys delivery now).2.store with outbox },
        (g.handlers.deliver sys delivery now).2.transport⟩

theorem works_call (sys : System) (g : Setup) (now : Instant) {c : SystemCall}
    (hc : c.isWork = true) : sys.Works g now c (sys.call g now c) := by
  cases c with
  | claim | complete | fail => exact .queue _ rfl
  | reclaim threshold =>
      simp only [call, Store.answer]
      split
      · next hr =>
          obtain ⟨outbox, rfl⟩ := Store.reclaim_frame hr
          exact .queue outbox rfl
      · exact .queue sys.store.outbox rfl
  | notify event => exact .notifies event (g.handlers.notify sys.store event now).2.outbox rfl
  | dispatch event => exact .dispatches event (g.handlers.dispatch sys.store event now).2.outbox rfl
  | deliver delivery =>
      exact .sends delivery (g.handlers.deliver sys delivery now).2.store.outbox rfl
  | execute t draw =>
      obtain ⟨outbox, heq⟩ := sys.execute_eq g.handlers g.config t draw now
      have hcall : sys.call g now (.execute t draw) = _ := heq
      rw [hcall]
      obtain ⟨id, kind, subject, attempt, maxAttempts, worker⟩ := t
      cases kind with
      | notify => exact .notifies subject outbox rfl
      | dispatchWebhooks => exact .dispatches subject outbox rfl
      | deliverWebhook => exact .sends subject outbox rfl
  | _ => cases hc

variable {now : Instant} {c : SystemCall} {calls : List (Instant × SystemCall)}

/-- No handler writes what recipients are read from. -/
theorem Works.ground (h : sys.Works g now c sys') :
    sys'.store.events = sys.store.events ∧ sys'.store.audience = sys.store.audience := by
  cases h with
  | queue => exact ⟨rfl, rfl⟩
  | notifies event =>
      obtain ⟨notifications, fault, supply, hframe⟩ :=
        Store.notify_frame g.handlers sys.store event now
      rw [hframe]
      exact ⟨rfl, rfl⟩
  | dispatches event =>
      obtain ⟨deliveries, outbox, supply, hframe⟩ :=
        Store.dispatch_frame g.handlers sys.store event now
      rw [hframe]
      exact ⟨rfl, rfl⟩
  | sends delivery =>
      obtain ⟨deliveries, webhooks, trackers, hframe⟩ := sys.deliver_frame g.handlers delivery now
      rw [hframe]
      exact ⟨rfl, rfl⟩

/-- Notifications are added by handlers that notify, for all recipients of the event. -/
theorem Works.notificationKeys (h : sys.Works g now c sys')
    (hf : sys.store.notificationFault = none) :
    sys'.store.notificationFault = none ∧ ∀ k, k ∈ sys'.store.notificationKeys ↔
      k ∈ sys.store.notificationKeys ∨
        c.handles? = some (.notify, k.1) ∧ sys.store.IsRecipient g.handlers.registry k := by
  cases h with
  | queue outbox hc =>
      refine ⟨hf, fun k => ?_⟩
      simp only [hc, reduceCtorEq, false_and, or_false]
      rfl
  | notifies event outbox hc =>
      obtain ⟨hf', hkeys⟩ := sys.store.notificationKeys_notify g.handlers event now hf
      refine ⟨hf', fun k => ?_⟩
      simp only [hc, Option.some.injEq, Prod.mk.injEq, true_and]
      exact hkeys k
  | dispatches event outbox hc =>
      obtain ⟨deliveries, outbox', supply, hframe⟩ :=
        Store.dispatch_frame g.handlers sys.store event now
      rw [hframe]
      refine ⟨hf, fun k => ?_⟩
      simp only [hc, Option.some.injEq, Prod.mk.injEq, reduceCtorEq, false_and, or_false]
      rfl
  | sends delivery outbox hc =>
      obtain ⟨deliveries, webhooks, trackers, hframe⟩ := sys.deliver_frame g.handlers delivery now
      rw [hframe]
      refine ⟨hf, fun k => ?_⟩
      simp only [hc, Option.some.injEq, Prod.mk.injEq, reduceCtorEq, false_and, or_false]
      rfl

/-- A delivery to an active webhook ends with success, which cannot deactivate the webhook. -/
theorem deliver_progress_of_active (hl : sys.store.Linked) (ht : sys.transport.Succeeds)
    (g : Setup) (now : Instant) {d : Delivery} {w : Webhook} {e : Event}
    (hf : sys.store.findDelivery d.id = some d) (hopen : d.state.isFinished = false)
    (hw : sys.store.webhooks.find? d.webhook = some w)
    (he : sys.store.events.find? d.event = some e) (hactive : w.active = true) :
    (g.handlers.deliver sys d.id now).2.transport.Succeeds ∧
      Store.Progress g (some (.deliverWebhook, d.id)) sys.store
        (g.handlers.deliver sys d.id now).2.store := by
  have hd : d ∈ sys.store.deliveries.rows := List.mem_of_find?_eq_some hf
  have hstate : sys.store.sentState d = .succeeded := by
    simp only [Store.sentState, hopen, hw, Option.any_some, hactive, Bool.false_eq_true, if_false,
      if_true]
  obtain ⟨outcome, t, hsend, hsuccess, ht'⟩ := ht.send (sys.store.requestFor d w e)
  have hrow : (sys.store.begun d now).deliveries.contains
      ((d.start now).webhook, (d.start now).event) = true :=
    Table.contains_iff.2 ⟨_, Table.find?_put_self _ _⟩
  have hend := Store.endDelivery_of_present g.handlers hrow outcome now
  have hroute := (d.start now).route_finish outcome now
  have hsucceeded : ((d.start now).finish outcome now).state = .succeeded := by
    cases outcome with
    | responded status => simp only [Delivery.finish, hsuccess, if_true]
    | errored text => cases hsuccess
  rw [DelinquencyTracker.isDelinquent_record hsuccess] at hend
  rw [deliver_of_active hf hopen hw he hactive hsend, hend]
  simp only [Store.carryOut, Bool.false_eq_true, if_false]
  exact ⟨ht', .ofPut hl hd hroute (hsucceeded.trans hstate.symm)
    (Table.put_put _ (congrArg Prod.snd hroute)) rfl⟩

/-- A delivery that is sent with success, or found to be over, is left in its final state. -/
theorem deliver_progress (hl : sys.store.Linked) (ht : sys.transport.Succeeds) (g : Setup)
    (delivery : Ident) (now : Instant) :
    (g.handlers.deliver sys delivery now).2.transport.Succeeds ∧
      Store.Progress g (some (.deliverWebhook, delivery)) sys.store
        (g.handlers.deliver sys delivery now).2.store := by
  cases hf : sys.store.findDelivery delivery with
  | none =>
      rw [deliver_of_unknown hf]
      refine ⟨ht, .ofSame rfl rfl (fun d hd htask => ?_) (by simp)⟩
      cases htask
      cases hf.symm.trans (hl.findDelivery_of_mem hd)
  | some d =>
      have hd : d ∈ sys.store.deliveries.rows := List.mem_of_find?_eq_some hf
      have hid : d.id = delivery := by simpa using List.find?_some hf
      obtain ⟨w, e, hw, he⟩ := hl.ends_of_delivery hd
      cases hopen : d.state.isFinished with
      | true =>
          rw [deliver_of_finished hf hopen]
          refine ⟨ht, .ofSame rfl rfl (fun d' hd' htask => ?_) (by simp)⟩
          have hid' : delivery = d'.id := (Prod.mk.inj (Option.some.inj htask)).2
          cases hl.eq_of_delivery_id hd' hd (hid'.symm.trans hid.symm)
          rw [Store.sentState, if_pos hopen]
      | false =>
          subst hid
          cases hactive : w.active with
          | false =>
              have hstate : sys.store.sentState d = .skipped := by
                simp only [Store.sentState, hopen, hw, Option.any_some, hactive,
                  Bool.false_eq_true, if_false]
              have hroute : (d.skip Handlers.inactiveText now).route = d.route := rfl
              rw [deliver_of_inactive hf hopen hw hactive]
              exact ⟨ht, .ofPut hl hd hroute hstate.symm rfl rfl⟩
          | true => exact deliver_progress_of_active hl ht g now hf hopen hw he hactive

theorem Works.progress (h : sys.Works g now c sys') (hl : sys.store.Linked)
    (ht : sys.transport.Succeeds) :
    sys'.transport.Succeeds ∧ sys.store.Progress g c.handles? sys'.store := by
  cases h with
  | queue outbox hc =>
      rw [hc]
      exact ⟨ht, .ofSame rfl rfl (by simp) (by simp)⟩
  | notifies event outbox hc =>
      obtain ⟨notifications, fault, supply, hframe⟩ :=
        Store.notify_frame g.handlers sys.store event now
      rw [hc, hframe]
      exact ⟨ht, .ofSame rfl rfl (by simp) (by simp)⟩
  | dispatches event outbox hc =>
      have hp : Store.Progress g _ sys.store (g.handlers.dispatch sys.store event now).2 :=
        .ofDispatch hl event now
      rw [hc]
      exact ⟨ht, hp.webhooks, hp.stored, hp.missing⟩
  | sends delivery outbox hc =>
      obtain ⟨ht', hp⟩ := deliver_progress hl ht g delivery now
      rw [hc]
      exact ⟨ht', hp.webhooks, hp.stored, hp.missing⟩

/-! ### Runs -/

theorem works_run (sys : System) (hwork : ∀ x ∈ calls, x.2.isWork = true) :
    (sys.run g calls).store.events = sys.store.events ∧
      (sys.run g calls).store.audience = sys.store.audience := by
  induction calls generalizing sys with
  | nil => exact ⟨rfl, rfl⟩
  | cons x calls ih =>
      obtain ⟨now, c⟩ := x
      obtain ⟨hc, hwork⟩ := List.forall_mem_cons.1 hwork
      have hw := sys.works_call g now hc
      obtain ⟨hevents, haudience⟩ := ih (sys.call g now c) hwork
      exact ⟨hevents.trans hw.ground.1, haudience.trans hw.ground.2⟩

/-- Over a run of workers, the recipients of those events are told for which that is a call's
task. -/
theorem mem_notificationKeys_run (sys : System)
    (hf : sys.store.notificationFault = none)
    (hwork : ∀ x ∈ calls, x.2.isWork = true) (k : Ident × Ident) :
    k ∈ (sys.run g calls).store.notificationKeys ↔ k ∈ sys.store.notificationKeys ∨
      Handled calls (.notify, k.1) ∧ sys.store.IsRecipient g.handlers.registry k := by
  induction calls generalizing sys with
  | nil => exact ⟨.inl, fun h => h.resolve_right fun h => not_handled_nil h.1⟩
  | cons x calls ih =>
      obtain ⟨now, c⟩ := x
      obtain ⟨hc, hwork⟩ := List.forall_mem_cons.1 hwork
      have hw := sys.works_call g now hc
      obtain ⟨hf', hkeys⟩ := hw.notificationKeys hf
      have hrest := ih (sys.call g now c) hf' hwork
      rw [Store.IsRecipient.congr hw.ground.1 hw.ground.2, hkeys] at hrest
      rw [handled_cons]
      refine hrest.trans ?_
      rw [or_assoc, ← or_and_right]

/-- Over a run of workers with every request a success, a delivery stays as it is until its task is
handled, and then is in its final state. -/
theorem stored_of_run (sys : System) (hl : sys.store.Linked) (ht : sys.transport.Succeeds)
    (hwork : ∀ x ∈ calls, x.2.isWork = true) {k : Ident × Ident} {d : Delivery}
    (hd : sys.store.deliveries.find? k = some d) :
    ∃ d', (sys.run g calls).store.deliveries.find? k = some d' ∧ d'.id = d.id ∧
      d'.state =
        if Handled calls (.deliverWebhook, d.id) then sys.store.sentState d else d.state := by
  induction calls generalizing sys d with
  | nil => exact ⟨d, hd, rfl, (if_neg not_handled_nil).symm⟩
  | cons x calls ih =>
      obtain ⟨now, c⟩ := x
      obtain ⟨hc, hwork⟩ := List.forall_mem_cons.1 hwork
      obtain ⟨ht', hp⟩ := (sys.works_call g now hc).progress hl ht
      obtain ⟨d₁, hd₁, hid₁, hstate₁⟩ := hp.stored k d hd
      obtain ⟨d', hd', hid', hstate'⟩ := ih _ (linked_call hl g now c) ht' hwork hd₁
      refine ⟨d', hd', hid'.trans hid₁, ?_⟩
      rw [hid₁] at hstate'
      by_cases hsent : c.handles? = some (.deliverWebhook, d.id)
      · rw [if_pos hsent] at hstate₁
        rw [if_pos (handled_cons.2 (.inl hsent)), hstate', Store.sentState_of_sent hstate₁,
          hstate₁, ite_self]
      · rw [if_neg hsent] at hstate₁
        have hwebhook : d₁.webhook = d.webhook := congrArg Prod.fst
          ((Table.find?_eq_some_iff.1 hd₁).2.trans (Table.find?_eq_some_iff.1 hd).2.symm)
        rw [hstate', Store.sentState_congr hp.webhooks hwebhook hstate₁, hstate₁]
        simp only [handled_cons, hsent, false_or]

/-- Every call is one of a worker's, and runs handlers of tasks only that are there and, if they
were there in the beginning, were pending then. -/
def runsOpen (g : Setup) (s : Store) : System → List (Instant × SystemCall) → Bool
  | _, [] => true
  | sys, (now, c) :: calls =>
    c.isWork &&
      c.handles?.all (fun task => sys.store.outbox.has task.1 task.2 && s.isOpen task) &&
      runsOpen g s (sys.call g now c) calls

theorem runsOpen_cons {s : Store} :
    runsOpen g s sys ((now, c) :: calls) = true ↔ c.isWork = true ∧
      (∀ task, c.handles? = some task →
        sys.store.outbox.has task.1 task.2 = true ∧ s.isOpen task = true) ∧
      runsOpen g s (sys.call g now c) calls = true := by
  simp only [runsOpen, Bool.and_eq_true, Option.all_eq_true, and_assoc]

theorem runsOpen_work {s : Store} (h : runsOpen g s sys calls = true) :
    ∀ x ∈ calls, x.2.isWork = true ∧ ∀ task, x.2.handles? = some task → s.isOpen task = true := by
  induction calls generalizing sys with
  | nil => exact fun x hx => (List.not_mem_nil hx).elim
  | cons x calls ih =>
      obtain ⟨now, c⟩ := x
      obtain ⟨hc, hopen, hrest⟩ := runsOpen_cons.1 h
      exact List.forall_mem_cons.2 ⟨⟨hc, fun task ht => (hopen task ht).2⟩, ih hrest⟩

/-- Over a run of workers with every request a success, a delivery comes about where an event that
concerns a webhook is dispatched, and waits until its task is handled. -/
theorem missing_of_run (sys : System) {s : Store} (hl : sys.store.Linked)
    (ht : sys.transport.Succeeds) (hopen : runsOpen g s sys calls = true) {k : Ident × Ident}
    (hk : sys.store.deliveries.find? k = none) :
    (Handled calls (.dispatchWebhooks, k.2) ∧
        sys.store.isAddressed g.handlers.dispatcher k = true ∧
        ∃ d, (sys.run g calls).store.deliveries.find? k = some d ∧
          sys.store.supply.next ≤ d.id.value ∧
          d.state = if Handled calls (.deliverWebhook, d.id) then .succeeded else .pending) ∨
      ¬(Handled calls (.dispatchWebhooks, k.2) ∧
          sys.store.isAddressed g.handlers.dispatcher k = true) ∧
        (sys.run g calls).store.deliveries.find? k = none := by
  induction calls generalizing sys with
  | nil => exact .inr ⟨fun h => not_handled_nil h.1, hk⟩
  | cons x calls ih =>
      obtain ⟨now, c⟩ := x
      obtain ⟨hc, htask, hrest⟩ := runsOpen_cons.1 hopen
      have hw := sys.works_call g now hc
      have hl' := linked_call hl g now c
      obtain ⟨ht', hp⟩ := hw.progress hl ht
      have haddressed : (sys.call g now c).store.isAddressed g.handlers.dispatcher k =
          sys.store.isAddressed g.handlers.dispatcher k := by
        simp only [Store.isAddressed, hp.webhooks, hw.ground.1]
      rcases hp.missing k hk with ⟨hdispatch, haddr, d, hd, hfresh, hpending⟩ | ⟨hno, hk'⟩
      · -- The delivery is created by this call, and sent by a later one or not at all.
        obtain ⟨d', hd', hid, hstate⟩ :=
          stored_of_run _ hl' ht' (fun x hx => (runsOpen_work hrest x hx).1) hd
        refine .inl ⟨handled_cons.2 (.inl hdispatch), haddr, d', hd', hid ▸ hfresh, ?_⟩
        have hkey : (d.webhook, d.event) = k := (Table.find?_eq_some_iff.1 hd).2
        have hsent : (sys.call g now c).store.sentState d = .succeeded := by
          have haddr' : (sys.call g now c).store.isAddressed g.handlers.dispatcher
              (d.webhook, d.event) = true := by rw [hkey, haddressed, haddr]
          exact Store.sentState_of_addressed haddr' hpending
        have hother : c.handles? ≠ some (.deliverWebhook, d.id) := by
          simp [hdispatch]
        simp only [hstate, hid, hsent, hpending, handled_cons, hother, false_or]
      · rcases ih (sys.call g now c) hl' ht' hrest hk' with
          ⟨hdispatch, haddr, d, hd, hfresh, hstate⟩ | ⟨hno', hk''⟩
        · -- The delivery is created later, so this call does not send it.
          have hle : sys.store.supply.next ≤ (sys.call g now c).store.supply.next :=
            (eventIds_call hl g now c).1
          have hother : c.handles? ≠ some (.deliverWebhook, d.id) := by
            intro hc'
            have hin : d.id ∈ sys.store.deliveryIds := (hl.scheduled _ _).1 (htask _ hc').1
            have hlt : d.id.value < sys.store.supply.next :=
              hl.counted.below_of_mem (.inr (.inr (.inr (.inr (.inl hin)))))
            omega
          refine .inl ⟨handled_cons.2 (.inr hdispatch), haddressed ▸ haddr, d, hd,
            hle.trans hfresh, ?_⟩
          simp only [hstate, handled_cons, hother, false_or]
        · refine .inr ⟨?_, hk''⟩
          rw [haddressed] at hno'
          rintro ⟨hdispatch, haddr⟩
          rcases handled_cons.1 hdispatch with hdispatch | hdispatch
          · exact hno ⟨hdispatch, haddr⟩
          · exact hno' ⟨hdispatch, haddr⟩

/-- Workers carry out the fanout of a store: they handle pending tasks and those that come of them,
and leave none of them out. -/
structure Completes (g : Setup) (s : Store) (t : Transport) (calls : List (Instant × SystemCall)) :
    Prop where
  only : runsOpen g s ⟨s, t⟩ calls = true
  all : ∀ r ∈ ((⟨s, t⟩ : System).run g calls).store.outbox.rows.rows,
    s.isOpen (r.kind, r.subject) = true → Handled calls (r.kind, r.subject)

namespace Completes

variable {s : Store} {t : Transport}

theorem work (h : Completes g s t calls) : ∀ x ∈ calls, x.2.isWork = true :=
  fun x hx => (runsOpen_work h.only x hx).1

/-- Of the tasks that are there in the beginning and in the end, those are handled that were
pending. -/
theorem handled_iff (hl : s.Linked) (h : Completes g s t calls) (kind : TaskKind)
    (subject : Ident) (hs : s.Owes kind subject)
    (he : ((⟨s, t⟩ : System).run g calls).store.Owes kind subject) :
    Handled calls (kind, subject) ↔ s.awaits (kind, subject) = true := by
  have hhas : s.outbox.has kind subject = true := (hl.scheduled kind subject).2 hs
  have hopen : s.isOpen (kind, subject) = s.awaits (kind, subject) := by
    simp only [Store.isOpen, hhas, Bool.not_true, Bool.or_false]
  constructor
  · rintro ⟨x, hx, hc⟩
    exact hopen ▸ (runsOpen_work h.only x hx).2 _ hc
  · intro hawaits
    have hl' : ((⟨s, t⟩ : System).run g calls).store.Linked := run_linked hl g calls
    obtain ⟨r, hr, rfl, rfl⟩ :=
      (hl'.sound.exists_row_iff kind subject).2 ((hl'.scheduled kind subject).2 he)
    exact h.all r hr (hopen.trans hawaits)

theorem handled_iff_of_event (hl : s.Linked) (h : Completes g s t calls) {event : Ident} {e : Event}
    (he : s.events.find? event = some e) (kind : TaskKind) (hk : kind ≠ .deliverWebhook) :
    Handled calls (kind, event) ↔ s.awaits (kind, event) = true := by
  have hs : event ∈ s.eventIds := (Table.find?_eq_some_iff.1 he).2 ▸
    List.mem_map_of_mem (Table.find?_eq_some_iff.1 he).1
  have hend : event ∈ ((⟨s, t⟩ : System).run g calls).store.eventIds := by
    rw [Store.eventIds, (works_run _ h.work).1]
    exact hs
  cases kind with
  | deliverWebhook => exact (hk rfl).elim
  | notify | dispatchWebhooks => exact h.handled_iff hl _ event hs hend

/-- Whom a fanout tells of what. -/
theorem mem_notificationKeys (hl : s.Linked) (hf : s.notificationFault = none)
    (h : Completes g s t calls) (k : Ident × Ident) :
    k ∈ ((⟨s, t⟩ : System).run g calls).store.notificationKeys ↔ k ∈ s.notificationKeys ∨
      s.awaits (.notify, k.1) = true ∧ s.IsRecipient g.handlers.registry k := by
  refine (mem_notificationKeys_run ⟨s, t⟩ hf h.work k).trans (or_congr_right ?_)
  refine and_congr_left fun ⟨e, users, he, _⟩ => ?_
  exact h.handled_iff_of_event hl he .notify (by decide)

/-- Where a fanout leaves deliveries, if every request is a success. -/
theorem state_eq (hl : s.Linked) (ht : t.Succeeds) (h : Completes g s t calls)
    (k : Ident × Ident) :
    (((⟨s, t⟩ : System).run g calls).store.deliveries.find? k).map Delivery.state =
      s.destined g.handlers.dispatcher k := by
  have hl' : ((⟨s, t⟩ : System).run g calls).store.Linked := run_linked hl g calls
  unfold Store.destined
  cases hk : s.deliveries.find? k with
  | some d =>
      obtain ⟨d', hd', hid, hstate⟩ := stored_of_run ⟨s, t⟩ hl ht h.work hk
      have hs : d.id ∈ s.deliveryIds := List.mem_map_of_mem (Table.find?_eq_some_iff.1 hk).1
      have hend : d.id ∈ ((⟨s, t⟩ : System).run g calls).store.deliveryIds :=
        hid ▸ List.mem_map_of_mem (Table.find?_eq_some_iff.1 hd').1
      simp only [hd', Option.map_some, hstate, h.handled_iff hl .deliverWebhook d.id hs hend]
  | none =>
      rcases missing_of_run ⟨s, t⟩ hl ht h.only hk with
        ⟨hdispatch, haddr, d, hd, hfresh, hstate⟩ | ⟨hno, hnone⟩
      · obtain ⟨w, e, -, he, -⟩ := Store.isAddressed_iff.1 haddr
        have hawaits := (h.handled_iff_of_event hl he .dispatchWebhooks (by decide)).1 hdispatch
        -- The delivery was not there in the beginning, so its task is handled.
        have hopen : s.isOpen (.deliverWebhook, d.id) = true := by
          have hnot : s.outbox.has .deliverWebhook d.id = false := hl.fresh.has_eq_false _ hfresh
          simp only [Store.isOpen, hnot, Bool.not_false, Bool.or_true]
        have hin : d.id ∈ ((⟨s, t⟩ : System).run g calls).store.deliveryIds :=
          List.mem_map_of_mem (Table.find?_eq_some_iff.1 hd).1
        obtain ⟨r, hr, hkind, hsubject⟩ :=
          (hl'.sound.exists_row_iff _ _).2 ((hl'.scheduled .deliverWebhook d.id).2 hin)
        have hhandled := h.all r hr
        rw [hkind, hsubject] at hhandled
        rw [if_pos (hhandled hopen)] at hstate
        simp only [hd, Option.map_some, hstate, hawaits, haddr, Bool.and_self, if_true]
      · rw [hnone, Option.map_none, if_neg]
        rw [Bool.and_eq_true]
        rintro ⟨hawaits, haddr⟩
        obtain ⟨w, e, -, he, -⟩ := Store.isAddressed_iff.1 haddr
        exact hno ⟨(h.handled_iff_of_event hl he .dispatchWebhooks (by decide)).2 hawaits, haddr⟩

end Completes

/-- From every store that the program can come to, with no fault armed: whatever two orders the
pending tasks and those that come of them are handled in, with whatever repetitions, claims and
settlements in between, the same users are told of the same events; and if all requests succeed, the
same deliveries are there in the end, in the same states. -/
theorem fanout_in_any_order {sys : System} (h : sys.store.Seeded) (g : Setup)
    (calls : List (Instant × SystemCall)) {t₁ t₂ : Transport}
    {calls₁ calls₂ : List (Instant × SystemCall)}
    (hf : (sys.run g calls).store.notificationFault = none)
    (h₁ : Completes g (sys.run g calls).store t₁ calls₁)
    (h₂ : Completes g (sys.run g calls).store t₂ calls₂) :
    let s₁ := ((⟨(sys.run g calls).store, t₁⟩ : System).run g calls₁).store
    let s₂ := ((⟨(sys.run g calls).store, t₂⟩ : System).run g calls₂).store
    (∀ k, k ∈ s₁.notificationKeys ↔ k ∈ s₂.notificationKeys) ∧
      (t₁.Succeeds → t₂.Succeeds → ∀ k,
        (s₁.deliveries.find? k).map Delivery.state =
          (s₂.deliveries.find? k).map Delivery.state) := by
  have hl : (sys.run g calls).store.Linked := linked_run h g calls
  refine ⟨fun k => ?_, fun ht₁ ht₂ k => ?_⟩
  · exact (h₁.mem_notificationKeys hl hf k).trans (h₂.mem_notificationKeys hl hf k).symm
  · exact (h₁.state_eq hl ht₁ k).trans (h₂.state_eq hl ht₂ k).symm

/-- One worker notifies first. Another claims and executes the dispatch first, and does it and the
delivery once more: the delivery has another identifier, and all else is the same. -/
theorem fanout_in_two_orders :
    let now : Instant := ⟨0, 0⟩
    let webhook : Webhook := ⟨⟨4⟩, ⟨9⟩, ⟨3⟩, "hook", "https://example.com", true,
      .ofList ["card_published"], now⟩
    let seed := (((Store.empty 10).addUser ⟨⟨1⟩, ⟨9⟩, "ada", .member⟩).addUser
      ⟨⟨2⟩, ⟨9⟩, "bob", .member⟩).addBoard ⟨⟨3⟩, ⟨9⟩, "ops", [⟨2⟩]⟩
    let sys : System := ⟨seed.saveWebhook webhook, .standard⟩
    let g : Setup := ⟨.standard, .ofConfig .standard, .standard⟩
    let calls : List (Instant × SystemCall) :=
      [(now, .createDraft ⟨3⟩ ⟨1⟩ "plan"), (now, .changeCard ⟨10⟩ ⟨1⟩ .publish)]
    let calls₁ : List (Instant × SystemCall) :=
      [(now, .notify ⟨11⟩), (now, .dispatch ⟨11⟩), (now, .deliver ⟨15⟩)]
    let calls₂ : List (Instant × SystemCall) :=
      [(now, .claim "worker" [.dispatchWebhooks] 1),
       (now, .execute ⟨⟨13⟩, .dispatchWebhooks, ⟨11⟩, 1, 5, "worker"⟩ .middle),
       (now, .deliver ⟨14⟩), (now, .notify ⟨11⟩), (now, .dispatch ⟨11⟩), (now, .deliver ⟨14⟩)]
    let s₁ := ((⟨(sys.run g calls).store, .standard⟩ : System).run g calls₁).store
    let s₂ := ((⟨(sys.run g calls).store, .standard⟩ : System).run g calls₂).store
    s₁.deliveryIds = [⟨15⟩] ∧ s₂.deliveryIds = [⟨14⟩] ∧ s₁.notificationKeys = [(⟨11⟩, ⟨2⟩)] ∧
      (s₁.deliveries.find? (⟨4⟩, ⟨11⟩)).map Delivery.state = some .succeeded ∧
      (∀ k, k ∈ s₁.notificationKeys ↔ k ∈ s₂.notificationKeys) ∧
      ∀ k, (s₁.deliveries.find? k).map Delivery.state =
        (s₂.deliveries.find? k).map Delivery.state := by
  intro now webhook seed sys g calls calls₁ calls₂ s₁ s₂
  have hseed : sys.store.Seeded := ⟨rfl, rfl, rfl, rfl, rfl, rfl⟩
  have hf : (sys.run g calls).store.notificationFault = none := by decide +kernel
  have h₁ : Completes g (sys.run g calls).store .standard calls₁ :=
    ⟨by decide +kernel, by decide +kernel⟩
  have h₂ : Completes g (sys.run g calls).store .standard calls₂ :=
    ⟨by decide +kernel, by decide +kernel⟩
  have ht : Transport.standard.Succeeds := ⟨rfl, rfl, fun o ho => (List.not_mem_nil ho).elim⟩
  obtain ⟨hkeys, hstates⟩ := fanout_in_any_order hseed g calls hf h₁ h₂
  exact ⟨by decide +kernel, by decide +kernel, by decide +kernel, by decide +kernel, hkeys,
    hstates ht ht⟩

end System

end BoardActivity
