import BoardActivity.Proofs.NotificationFanout
import BoardActivity.Proofs.OverlappingDeliveries

/-!
# What calls leave alone

Most calls have nothing to do with most tables. Here is said once which parts of the store each step
may replace, for any store, and from it what a call that sends no delivery leaves alone: the
requests made so far, what is counted of webhooks, and the webhooks themselves unless the call is
about one of them. Cards, comments and events are left alone by every call but the operations on
them.

An execution is its handler's run, after which only the outbox changes.
-/

namespace BoardActivity

/-- The delivery that a call is to send. -/
def SystemCall.delivers? : SystemCall → Option Ident
  | .deliver delivery => some delivery
  | .execute t _ => if t.kind = .deliverWebhook then some t.subject else none
  | .createDraft .. | .changeCard .. | .destroyCard _ | .comment .. | .saveWebhook _
  | .resubscribe .. | .deactivate _ | .markRead _ | .failNotificationsAfter _ | .claim ..
  | .complete _ | .fail .. | .reclaim _ | .notify _ | .dispatch _ => none

def SystemCall.changesWebhook : SystemCall → Bool
  | .saveWebhook _ | .resubscribe .. | .deactivate _ => true
  | .createDraft .. | .changeCard .. | .destroyCard _ | .comment .. | .markRead _
  | .failNotificationsAfter _ | .claim .. | .complete _ | .fail .. | .reclaim _ | .notify _
  | .dispatch _ | .deliver _ | .execute .. => false

def SystemCall.isOperation : SystemCall → Bool
  | .createDraft .. | .changeCard .. | .destroyCard _ | .comment .. => true
  | .saveWebhook _ | .resubscribe .. | .deactivate _ | .markRead _ | .failNotificationsAfter _
  | .claim .. | .complete _ | .fail .. | .reclaim _ | .notify _ | .dispatch _ | .deliver _
  | .execute .. => false

namespace Store

/-! ### Single steps -/

theorem resubscribe_eq (s : Store) (webhook : Ident) (actions : List String) :
    ∃ webhooks, s.resubscribe webhook actions = { s with webhooks := webhooks } := by
  unfold resubscribe
  split
  · exact ⟨s.webhooks, rfl⟩
  · split
    · exact ⟨_, rfl⟩
    · exact ⟨s.webhooks, rfl⟩

theorem notifyAll_frame (s : Store) (event creator : Ident) (now : Instant) (users : List Ident) :
    ∃ notifications fault supply, (s.notifyAll event creator now users).2 =
      { s with notifications, notificationFault := fault, supply } := by
  induction users generalizing s with
  | nil => exact ⟨s.notifications, s.notificationFault, s.supply, rfl⟩
  | cons user users ih =>
      obtain ⟨notifications, fault, supply, hone⟩ :=
        s.ensureNotification_frame user event creator now
      unfold notifyAll
      split
      · next hr =>
          rw [hr] at hone
          exact ⟨notifications, fault, supply, hone⟩
      · next s₁ hr =>
          rw [hr] at hone
          have hs₁ : s₁ = { s with notifications, notificationFault := fault, supply } := hone
          obtain ⟨notifications', fault', supply', hrest⟩ := ih s₁
          rw [hs₁] at hrest
          split
          all_goals
            next hr' =>
              rw [hs₁] at hr'
              rw [hr'] at hrest
              exact ⟨notifications', fault', supply', hrest⟩

theorem notify_frame (h : Handlers) (s : Store) (event : Ident) (now : Instant) :
    ∃ notifications fault supply, (h.notify s event now).2 =
      { s with notifications, notificationFault := fault, supply } := by
  unfold Handlers.notify
  split
  · exact ⟨s.notifications, s.notificationFault, s.supply, rfl⟩
  · next e _ =>
      have hall : ∃ notifications fault supply, (s.notifyRecipients h.registry e now).2 =
          { s with notifications, notificationFault := fault, supply } := by
        unfold notifyRecipients
        split
        · exact ⟨s.notifications, s.notificationFault, s.supply, rfl⟩
        · exact s.notifyAll_frame _ _ _ _
      split
      all_goals
        next hr =>
          rw [hr] at hall
          exact hall

theorem enqueue_frame (s : Store) (t : NewTask) (now : Instant) :
    ∃ outbox supply, (s.enqueue t now).2 = { s with outbox, supply } := by
  cases hhas : s.outbox.has t.kind t.subject with
  | true => exact ⟨s.outbox, s.supply, by rw [enqueue_of_has hhas]⟩
  | false => exact ⟨_, _, by rw [enqueue_of_new hhas]⟩

theorem enqueueAll_frame (s : Store) (tasks : List NewTask) (now : Instant) :
    ∃ outbox supply, s.enqueueAll tasks now = { s with outbox, supply } := by
  induction tasks generalizing s with
  | nil => exact ⟨s.outbox, s.supply, rfl⟩
  | cons t tasks ih =>
      obtain ⟨outbox, supply, hone⟩ := s.enqueue_frame t now
      obtain ⟨outbox', supply', hrest⟩ := ih (s.enqueue t now).2
      rw [enqueueAll_cons, hrest, hone]
      exact ⟨outbox', supply', rfl⟩

/-- The delivery made sure of is there then, and those that were there are as they were. -/
theorem find?_ensureDelivery (s : Store) (webhook event : Ident) (now : Instant) :
    (s.ensureDelivery webhook event now).2.deliveries.find? (webhook, event) =
        some (s.ensureDelivery webhook event now).1 ∧
      ∀ k d, s.deliveries.find? k = some d →
        (s.ensureDelivery webhook event now).2.deliveries.find? k = some d := by
  unfold ensureDelivery
  cases hf : s.deliveries.find? (webhook, event) with
  | some d => exact ⟨hf, fun _ _ hd => hd⟩
  | none =>
      refine ⟨Table.find?_put_self _ _, fun k d hd => (Table.find?_put _ _ _).trans ?_⟩
      rw [if_neg]
      · exact hd
      · rintro rfl
        cases hf.symm.trans hd

theorem deliverToAll_frame (s : Store) (maxAttempts : Nat) (event : Ident) (now : Instant)
    (webhooks : List Webhook) :
    ∃ deliveries outbox supply, (s.deliverToAll maxAttempts event now webhooks).2 =
      { s with deliveries, outbox, supply } := by
  induction webhooks generalizing s with
  | nil => exact ⟨s.deliveries, s.outbox, s.supply, rfl⟩
  | cons w webhooks ih =>
      have hensure : ∃ deliveries supply, (s.ensureDelivery w.id event now).2 =
          { s with deliveries, supply } := by
        unfold ensureDelivery
        split
        · exact ⟨s.deliveries, s.supply, rfl⟩
        · exact ⟨_, _, rfl⟩
      obtain ⟨deliveries, supply, hdelivery⟩ := hensure
      let task := deliveryTask (s.ensureDelivery w.id event now).1.id maxAttempts
      obtain ⟨outbox, supply', htask⟩ :=
        (s.ensureDelivery w.id event now).2.enqueue_frame task now
      let s₁ := ((s.ensureDelivery w.id event now).2.enqueue task now).2
      have hone : s₁ = { s with deliveries, outbox, supply := supply' } := by
        refine htask.trans ?_
        rw [hdelivery]
      obtain ⟨deliveries', outbox', supply'', hrest⟩ := ih s₁
      refine ⟨deliveries', outbox', supply'', hrest.trans ?_⟩
      rw [hone]

theorem dispatch_frame (h : Handlers) (s : Store) (event : Ident) (now : Instant) :
    ∃ deliveries outbox supply, (h.dispatch s event now).2 =
      { s with deliveries, outbox, supply } := by
  unfold Handlers.dispatch
  split
  · exact ⟨s.deliveries, s.outbox, s.supply, rfl⟩
  · exact s.deliverToAll_frame _ _ _ _

theorem reclaim_frame {s s' : Store} {threshold : Span} {now : Instant} {n : Nat}
    (h : s.reclaim threshold now = some (n, s')) : ∃ outbox, s' = { s with outbox } := by
  obtain ⟨⟨k, o⟩, -, he⟩ := Option.map_eq_some_iff.1 h
  cases he
  exact ⟨o, rfl⟩

/-! ### Columns of the store -/

def activity (s : Store) : Table Card × Table Comment × Table Event :=
  (s.cards, s.comments, s.events)

/-- The webhooks, and what is counted of them. -/
def endpoints (s : Store) : Table Webhook × Table DelinquencyTracker := (s.webhooks, s.trackers)

theorem commit_endpoints (s : Store) (tx : Transaction) (now : Instant) :
    (s.commit tx now).endpoints = s.endpoints := by
  obtain ⟨outbox, supply, hwritten⟩ := (s.write tx).enqueueAll_frame tx.tasks now
  rw [commit_eq, hwritten]
  split_ifs
  · rfl
  · rfl

/-- Whatever is committed as a unit of work, webhooks have no part in it. -/
theorem perform_endpoints {α : Type} (s : Store) (now : Instant)
    (work : Except Error (α × Work)) : (s.perform now work).2.endpoints = s.endpoints := by
  unfold perform
  split
  · exact commit_endpoints _ _ _
  · rfl

theorem performCard_endpoints (s : Store) (t : Tracker) (now : Instant) (card creator : Ident)
    (o : CardOperation) : (Cards.perform t s now card creator o).2.endpoints = s.endpoints := by
  cases o with
  | rename title =>
      simp only [Cards.perform, Cards.rename]
      split
      · rfl
      · exact s.perform_endpoints now _
  | _ => exact s.perform_endpoints now _

theorem notify_columns (h : Handlers) (s : Store) (event : Ident) (now : Instant) :
    (h.notify s event now).2.activity = s.activity ∧
      (h.notify s event now).2.endpoints = s.endpoints := by
  obtain ⟨notifications, fault, supply, heq⟩ := notify_frame h s event now
  exact ⟨(congrArg activity heq :), (congrArg endpoints heq :)⟩

theorem dispatch_columns (h : Handlers) (s : Store) (event : Ident) (now : Instant) :
    (h.dispatch s event now).2.activity = s.activity ∧
      (h.dispatch s event now).2.endpoints = s.endpoints := by
  obtain ⟨deliveries, outbox, supply, heq⟩ := dispatch_frame h s event now
  exact ⟨(congrArg activity heq :), (congrArg endpoints heq :)⟩

theorem markRead_columns (s : Store) (notification : Ident) (now : Instant) :
    (s.markRead notification now).2.activity = s.activity ∧
      (s.markRead notification now).2.endpoints = s.endpoints := by
  obtain ⟨notifications, heq, -⟩ := s.markRead_frame notification now
  exact ⟨(congrArg activity heq :), (congrArg endpoints heq :)⟩

end Store

namespace System

variable {sys : System}

/-- After the run of its handler, an execution settles claims of the outbox at most. -/
theorem execute_settled (sys : System) (h : Handlers) (config : FanoutConfig) (t : Task)
    (draw : Draw) (now : Instant) :
    ∃ outbox, (h.run sys t now).2.store.outbox.Settled outbox ∧
      (sys.execute h config t draw now).2 =
        ⟨{ (h.run sys t now).2.store with outbox }, (h.run sys t now).2.transport⟩ := by
  unfold execute settleFailure
  split
  · next sys' hr =>
      rw [hr]
      exact ⟨sys'.store.outbox, .refl _, rfl⟩
  · next sys' hr =>
      rw [hr]
      exact ⟨_, sys'.store.outbox.complete_settled t, rfl⟩
  · next e sys' hr =>
      rw [hr]
      split
      · exact ⟨sys'.store.outbox, .refl _, rfl⟩
      · next delay _ =>
          split
          all_goals
            next hf =>
              exact ⟨_, sys'.store.outbox.fail_settled t e.message delay now,
                congrArg (fun r : _ × Store => (⟨r.2, sys'.transport⟩ : System)) hf.symm⟩

theorem execute_eq (sys : System) (h : Handlers) (config : FanoutConfig) (t : Task) (draw : Draw)
    (now : Instant) :
    ∃ outbox, (sys.execute h config t draw now).2 =
      ⟨{ (h.run sys t now).2.store with outbox }, (h.run sys t now).2.transport⟩ := by
  obtain ⟨outbox, -, heq⟩ := sys.execute_settled h config t draw now
  exact ⟨outbox, heq⟩

theorem deliver_frame (sys : System) (h : Handlers) (delivery : Ident) (now : Instant) :
    ∃ deliveries webhooks trackers, (h.deliver sys delivery now).2.store =
      { sys.store with deliveries, webhooks, trackers } := by
  unfold Handlers.deliver
  rcases sys.store.beginDelivery_cases delivery now with
    ⟨result, he⟩ | ⟨d, -, -, he | ⟨request, he⟩⟩
  · rw [he]
    exact ⟨sys.store.deliveries, sys.store.webhooks, sys.store.trackers, rfl⟩
  · rw [he]
    exact ⟨_, sys.store.webhooks, sys.store.trackers, rfl⟩
  · rw [he]
    simp only
    split
    · exact ⟨_, sys.store.webhooks, sys.store.trackers, rfl⟩
    · next outcome transport _ =>
        have hd : d.start now ∈ (sys.store.deliveries.put (d.start now)).rows :=
          Table.mem_rows_put.2 (.inl rfl)
        obtain ⟨webhooks, hend⟩ := Store.endDelivery_eq (s := { sys.store with
          deliveries := sys.store.deliveries.put (d.start now) }) h hd rfl outcome now
        exact ⟨_, webhooks, _, hend⟩

theorem deliver_activity (sys : System) (h : Handlers) (delivery : Ident) (now : Instant) :
    (h.deliver sys delivery now).2.store.activity = sys.store.activity := by
  obtain ⟨deliveries, webhooks, trackers, heq⟩ := sys.deliver_frame h delivery now
  exact (congrArg Store.activity heq :)

theorem run_activity (sys : System) (h : Handlers) (t : Task) (now : Instant) :
    (h.run sys t now).2.store.activity = sys.store.activity := by
  unfold Handlers.run
  split
  · exact (Store.notify_columns h sys.store t.subject now).1
  · exact (Store.dispatch_columns h sys.store t.subject now).1
  · exact sys.deliver_activity h t.subject now

/-- Only the tasks that send deliveries have to do with webhooks. -/
theorem run_of_silent (sys : System) (h : Handlers) {t : Task} (hk : t.kind ≠ .deliverWebhook)
    (now : Instant) : (h.run sys t now).2.transport = sys.transport ∧
      (h.run sys t now).2.store.endpoints = sys.store.endpoints := by
  unfold Handlers.run
  split
  · exact ⟨rfl, (Store.notify_columns h sys.store t.subject now).2⟩
  · exact ⟨rfl, (Store.dispatch_columns h sys.store t.subject now).2⟩
  · next hdeliver => exact (hk hdeliver).elim

theorem call_reclaim (sys : System) (g : Setup) (now : Instant) (threshold : Span) :
    ∃ outbox, sys.call g now (.reclaim threshold) = ⟨{ sys.store with outbox }, sys.transport⟩ := by
  simp only [call, Store.answer]
  split
  · next hr =>
      obtain ⟨outbox, rfl⟩ := Store.reclaim_frame hr
      exact ⟨outbox, rfl⟩
  · exact ⟨sys.store.outbox, rfl⟩

/-- A call that sends no delivery makes no request and counts nothing, and changes no webhook unless
it is about one. -/
theorem call_of_silent (sys : System) (g : Setup) (now : Instant) {c : SystemCall}
    (hc : c.delivers? = none) :
    (sys.call g now c).transport = sys.transport ∧
      (sys.call g now c).store.trackers = sys.store.trackers ∧
      (c.changesWebhook = false → (sys.call g now c).store.webhooks = sys.store.webhooks) := by
  have hboth : ∀ s' : Store, s'.endpoints = sys.store.endpoints →
      s'.trackers = sys.store.trackers ∧
        (c.changesWebhook = false → s'.webhooks = sys.store.webhooks) := by
    intro s' heq
    obtain ⟨hwebhooks, htrackers⟩ := Prod.mk.inj heq
    exact ⟨htrackers, fun _ => hwebhooks⟩
  cases c with
  | createDraft | destroyCard | comment =>
      simp only [call, Store.answer, Cards.createDraft, Cards.destroy, Comments.create, true_and]
      exact hboth _ (sys.store.perform_endpoints now _)
  | changeCard card creator o =>
      exact ⟨rfl, hboth _ (sys.store.performCard_endpoints _ now card creator o)⟩
  | saveWebhook w =>
      refine ⟨rfl, rfl, fun hw => ?_⟩
      cases hw
  | resubscribe webhook actions =>
      obtain ⟨webhooks, heq⟩ := sys.store.resubscribe_eq webhook actions
      refine ⟨rfl, (congrArg Store.trackers heq :), fun hw => ?_⟩
      cases hw
  | deactivate webhook =>
      obtain ⟨webhooks, heq⟩ := sys.store.deactivateWebhook_eq webhook
      refine ⟨rfl, (congrArg Store.trackers heq :), fun hw => ?_⟩
      cases hw
  | markRead notification =>
      exact ⟨rfl, hboth _ (sys.store.markRead_columns notification now).2⟩
  | failNotificationsAfter | claim | complete | fail => exact ⟨rfl, rfl, fun _ => rfl⟩
  | reclaim threshold =>
      obtain ⟨outbox, heq⟩ := sys.call_reclaim g now threshold
      rw [heq]
      exact ⟨rfl, rfl, fun _ => rfl⟩
  | notify event => exact ⟨rfl, hboth _ (Store.notify_columns g.handlers sys.store event now).2⟩
  | dispatch event => exact ⟨rfl, hboth _ (Store.dispatch_columns g.handlers sys.store event now).2⟩
  | deliver delivery => cases hc
  | execute t draw =>
      have hk : t.kind ≠ .deliverWebhook := by
        intro hdeliver
        simp only [SystemCall.delivers?, hdeliver, if_true] at hc
        cases hc
      obtain ⟨outbox, heq⟩ := sys.execute_eq g.handlers g.config t draw now
      obtain ⟨htransport, hendpoints⟩ := sys.run_of_silent g.handlers hk now
      have hcall : sys.call g now (.execute t draw) = _ := heq
      rw [hcall]
      exact ⟨htransport, hboth _ hendpoints⟩

/-- A call that sends a delivery does what sending it does, and changes the outbox at most. -/
theorem call_of_sending (sys : System) (g : Setup) (now : Instant) {c : SystemCall}
    {delivery : Ident} (hc : c.delivers? = some delivery) :
    ∃ outbox, sys.call g now c = ⟨{ (g.handlers.deliver sys delivery now).2.store with outbox },
      (g.handlers.deliver sys delivery now).2.transport⟩ := by
  cases c with
  | deliver delivery' =>
      cases hc
      exact ⟨_, rfl⟩
  | execute t draw =>
      simp only [SystemCall.delivers?] at hc
      split_ifs at hc with hk
      cases hc
      obtain ⟨outbox, heq⟩ := sys.execute_eq g.handlers g.config t draw now
      simp only [Handlers.run, hk] at heq
      exact ⟨outbox, heq⟩
  | _ => cases hc

/-- Cards, comments and events come and go by operations alone. -/
theorem call_activity (sys : System) (g : Setup) (now : Instant) {c : SystemCall}
    (hc : c.isOperation = false) :
    (sys.call g now c).store.activity = sys.store.activity := by
  cases c with
  | createDraft | changeCard | destroyCard | comment => cases hc
  | saveWebhook | failNotificationsAfter | claim | complete | fail => rfl
  | resubscribe webhook actions =>
      obtain ⟨webhooks, heq⟩ := sys.store.resubscribe_eq webhook actions
      exact (congrArg Store.activity heq :)
  | deactivate webhook =>
      obtain ⟨webhooks, heq⟩ := sys.store.deactivateWebhook_eq webhook
      exact (congrArg Store.activity heq :)
  | markRead notification => exact (sys.store.markRead_columns notification now).1
  | reclaim threshold =>
      obtain ⟨outbox, heq⟩ := sys.call_reclaim g now threshold
      rw [heq]
      rfl
  | notify event => exact (Store.notify_columns g.handlers sys.store event now).1
  | dispatch event => exact (Store.dispatch_columns g.handlers sys.store event now).1
  | deliver delivery => exact sys.deliver_activity g.handlers delivery now
  | execute t draw =>
      obtain ⟨outbox, heq⟩ := sys.execute_eq g.handlers g.config t draw now
      have hcall : sys.call g now (.execute t draw) = _ := heq
      rw [hcall]
      exact sys.run_activity g.handlers t now

end System

end BoardActivity
