import BoardActivity.Proofs.CallFrames
import BoardActivity.Proofs.ReferenceRuns
import Mathlib.Data.List.Induction

/-!
# Where deliveries come from

A delivery is created by dispatching its event, to a webhook that is then active, on the board of
the event and subscribed to its action; and the action is one that the settings permit, which can
only be one of `Action.permitted`. Whatever becomes of the webhook later, the delivery stays, under
its identifier and with its one task, until its card is destroyed.

Webhooks are saved from outside without any check: nothing is assumed of them here.
-/

namespace BoardActivity

def SystemCall.dispatches? : SystemCall → Option Ident
  | .dispatch event => some event
  | .execute t _ => if t.kind = .dispatchWebhooks then some t.subject else none
  | .createDraft .. | .changeCard .. | .destroyCard _ | .comment .. | .saveWebhook _
  | .resubscribe .. | .deactivate _ | .markRead _ | .failNotificationsAfter _ | .claim ..
  | .complete _ | .fail .. | .reclaim _ | .notify _ | .deliver _ => none

theorem FanoutConfig.permitted_of_validate {c : FanoutConfig} (h : c.validate = .ok ())
    {action : String} (ha : action ∈ c.permittedActions) : action ∈ Action.permitted := by
  unfold validate at h
  split at h
  · cases h
  · next hnone =>
      have hin := List.find?_eq_none.1 hnone action ha
      simpa using hin

namespace Store

/-- The deliveries without what changes of them. -/
def routes (s : Store) : List (Ident × Ident × Ident) := s.deliveries.rows.map Delivery.route

/-- An event is to be sent to a webhook: the webhook is there and active, on the event's board and
subscribed to the event's action, which is permitted by the settings and can be sent outside. -/
structure Concerns (s : Store) (c : FanoutConfig) (webhook : Ident) (e : Event) : Prop where
  found : s.events.find? e.id = some e
  webhook : ∃ w, s.webhooks.find? webhook = some w ∧ w.active = true ∧ w.board = e.board ∧
    e.action ∈ w.subscribed
  configured : e.action ∈ c.permittedActions
  permitted : e.action ∈ Action.permitted

variable {s s' : Store}

theorem route_mem_routes {d : Delivery} (h : d ∈ s.deliveries.rows) : d.route ∈ s.routes :=
  List.mem_map_of_mem h

/-! ### Calls that dispatch nothing -/

theorem routes_put {d d' : Delivery} (hd : d ∈ s.deliveries.rows) (hroute : d'.route = d.route) :
    ({ s with deliveries := s.deliveries.put d' } : Store).routes = s.routes := by
  have hkey : (d'.webhook, d'.event) = (d.webhook, d.event) := (Prod.mk.inj hroute).2
  have hf : s.deliveries.find? (d'.webhook, d'.event) = some d := by
    rw [hkey]
    exact Table.mem_rows_iff.1 hd
  exact Table.map_put_of_present Delivery.route hf hroute

theorem perform_deliveries (h : s.Fresh) (t : Tracker) (now : Instant) (card creator : Ident)
    (o : CardOperation) : (Cards.perform t s now card creator o).2.deliveries = s.deliveries := by
  rcases error_or_ok (Cards.perform t s now card creator o) Cards.perform_error with
    ⟨e, hr⟩ | ⟨r, s', hr⟩
  · rw [hr]
  · rw [hr]
    obtain ⟨c, -, ⟨-, -, rfl⟩ | ⟨p, -, -, rfl⟩ | ⟨c', p, e, -, -, -, -, -, -, rfl⟩⟩ :=
      Cards.perform_ok h hr
    all_goals rfl

theorem comment_deliveries (h : s.Fresh) (t : Tracker) (now : Instant) (card creator : Ident)
    (body : String) (mentionees : List Ident) :
    (Comments.create t s now card creator body mentionees).2.deliveries = s.deliveries := by
  rcases error_or_ok (Comments.create t s now card creator body mentionees)
    Comments.create_error with ⟨e, hr⟩ | ⟨r, s', hr⟩
  · rw [hr]
  · rw [hr]
    obtain ⟨c, u, -, -, -, ⟨-, rfl⟩ | ⟨-, e, -, -, rfl⟩⟩ := Comments.create_ok h hr
    all_goals rfl

theorem createDraft_deliveries (s : Store) (now : Instant) (board creator : Ident)
    (title : String) :
    (Cards.createDraft s now board creator title).2.deliveries = s.deliveries := by
  rcases error_or_ok (Cards.createDraft s now board creator title) Cards.createDraft_error with
    ⟨e, hr⟩ | ⟨r, s', hr⟩
  · rw [hr]
  · rw [hr]
    obtain ⟨b, -, -, rfl⟩ := Cards.createDraft_ok hr
    rfl

end Store

namespace System

variable {sys : System}

open Store (routes)

theorem deliver_routes (h : Handlers) (sys : System) (delivery : Ident) (now : Instant) :
    (h.deliver sys delivery now).2.store.routes = sys.store.routes := by
  unfold Handlers.deliver
  rcases sys.store.beginDelivery_cases delivery now with
    ⟨result, he⟩ | ⟨d, hf, -, he | ⟨request, he⟩⟩
  · rw [he]
  all_goals
    have hd : d ∈ sys.store.deliveries.rows := List.mem_of_find?_eq_some hf
    rw [he]
  · exact Store.routes_put hd rfl
  · have hbegun : ({ sys.store with deliveries := sys.store.deliveries.put (d.start now) } :
        Store).routes = sys.store.routes := Store.routes_put hd rfl
    simp only
    split
    · exact hbegun
    · next outcome transport _ =>
        have hd' : d.start now ∈ (sys.store.deliveries.put (d.start now)).rows :=
          Table.mem_rows_put.2 (.inl rfl)
        obtain ⟨webhooks, hend⟩ := Store.endDelivery_eq (s := { sys.store with
          deliveries := sys.store.deliveries.put (d.start now) }) h hd' rfl outcome now
        rw [hend]
        refine Eq.trans ?_ hbegun
        exact Store.routes_put (s := { sys.store with
          deliveries := sys.store.deliveries.put (d.start now) }) hd' (Delivery.route_finish _ _ _)

theorem execute_deliveries (sys : System) (h : Handlers) (config : FanoutConfig) (t : Task)
    (draw : Draw) (now : Instant) :
    (sys.execute h config t draw now).2.store.deliveries =
      (h.run sys t now).2.store.deliveries := by
  obtain ⟨outbox, heq⟩ := sys.execute_eq h config t draw now
  rw [heq]

/-- A call that neither dispatches, sends nor destroys leaves the deliveries as they are. -/
theorem deliveries_call (h : sys.store.Linked) (g : Setup) (now : Instant) {c : SystemCall}
    (hdispatch : c.dispatches? = none) (hdeliver : c.delivers? = none)
    (hdestroy : ∀ card, c ≠ .destroyCard card) :
    (sys.call g now c).store.deliveries = sys.store.deliveries := by
  cases c with
  | createDraft board creator title =>
      simp only [call, Store.answer]
      exact sys.store.createDraft_deliveries now board creator title
  | changeCard card creator o => exact Store.perform_deliveries h.fresh g.tracker now card creator o
  | destroyCard card => exact (hdestroy card rfl).elim
  | comment card creator body mentionees =>
      simp only [call, Store.answer]
      exact Store.comment_deliveries h.fresh g.tracker now card creator body mentionees
  | resubscribe webhook actions =>
      obtain ⟨webhooks, heq⟩ := sys.store.resubscribe_eq webhook actions
      exact (congrArg Store.deliveries heq :)
  | deactivate webhook =>
      obtain ⟨webhooks, heq⟩ := sys.store.deactivateWebhook_eq webhook
      exact (congrArg Store.deliveries heq :)
  | markRead notification =>
      obtain ⟨notifications, heq, -⟩ := sys.store.markRead_frame notification now
      exact (congrArg Store.deliveries heq :)
  | saveWebhook | failNotificationsAfter | claim | complete | fail => rfl
  | reclaim threshold =>
      simp only [call, Store.answer]
      split
      · next hr =>
          obtain ⟨outbox, rfl⟩ := Store.reclaim_frame hr
          rfl
      · rfl
  | notify event =>
      obtain ⟨notifications, fault, supply, heq⟩ :=
        Store.notify_frame g.handlers sys.store event now
      exact (congrArg Store.deliveries heq :)
  | dispatch event => cases hdispatch
  | deliver delivery => cases hdeliver
  | execute t draw =>
      refine (execute_deliveries sys g.handlers g.config t draw now).trans ?_
      unfold Handlers.run
      split
      · obtain ⟨notifications, fault, supply, heq⟩ :=
          Store.notify_frame g.handlers sys.store t.subject now
        exact (congrArg Store.deliveries heq :)
      · next hk =>
          simp only [SystemCall.dispatches?, hk, if_true] at hdispatch
          cases hdispatch
      · next hk =>
          simp only [SystemCall.delivers?, hk, if_true] at hdeliver
          cases hdeliver

/-- Only dispatching adds deliveries, and only destroying a card removes any. -/
theorem routes_call (h : sys.store.Linked) (g : Setup) (now : Instant) {c : SystemCall}
    (hdispatch : c.dispatches? = none) (hdestroy : ∀ card, c ≠ .destroyCard card) :
    (sys.call g now c).store.routes = sys.store.routes := by
  cases hdeliver : c.delivers? with
  | none =>
      rw [routes, deliveries_call h g now hdispatch hdeliver hdestroy]
      rfl
  | some delivery =>
      obtain ⟨outbox, heq⟩ := sys.call_of_sending g now hdeliver
      rw [heq]
      exact deliver_routes g.handlers sys delivery now

theorem routes_destroy (sys : System) (g : Setup) (now : Instant) (card : Ident) :
    (sys.call g now (.destroyCard card)).store.routes.Sublist sys.store.routes := by
  simp only [call, Store.answer, Store.destroy_eq]
  split_ifs
  · exact List.filter_sublist.map Delivery.route
  · exact List.Sublist.refl _

end System

namespace Store

variable {s : Store} {g : Setup}

/-! ### Dispatching -/

/-- One webhook adds a delivery under the next identifier and its task, or nothing. -/
theorem deliverToOne_grows (h : s.Linked) (maxAttempts : Nat) (event : Ident) (w : Webhook)
    (now : Instant) :
    let s' := (s.deliverToAll maxAttempts event now [w]).2
    s.supply.next ≤ s'.supply.next ∧
      ∃ added tasks, s'.deliveries.rows = s.deliveries.rows ++ added ∧
        s'.outbox.rows.rows = s.outbox.rows.rows ++ tasks ∧
        ∀ d ∈ added, d.event = event ∧ s.supply.next ≤ d.id.value ∧
          d.verdict = (.pending, none, none) ∧ w.id = d.webhook := by
  rcases deliverToOne_cases h maxAttempts event w now with heq | ⟨hnone, heq⟩
  · rw [heq]
    exact ⟨le_rfl, [], [], (List.append_nil _).symm, (List.append_nil _).symm, by simp⟩
  · have habsent : s.outbox.rows.find? ⟨s.supply.next + 1⟩ = none :=
      h.fresh.tasks.find?_eq_none (Nat.le_succ _)
    rw [heq]
    refine ⟨Nat.le_add_right _ 2, _, _, Table.rows_put_of_absent hnone,
      Outbox.insert_rows habsent _ _, fun d hd => ?_⟩
    cases List.mem_singleton.1 hd
    exact ⟨rfl, le_rfl, rfl, rfl⟩

/-- Deliveries and tasks come at the end, the deliveries under new identifiers, each waiting to be
sent to one of the webhooks. -/
theorem deliverToAll_grows (h : s.Linked) (maxAttempts : Nat) {e : Event} (now : Instant)
    (he : s.events.find? e.id = some e) {webhooks : List Webhook}
    (hw : ∀ w ∈ webhooks, w ∈ s.webhooks.rows ∧ g.handlers.dispatcher.concerns w e = true) :
    let s' := (s.deliverToAll maxAttempts e.id now webhooks).2
    ∃ added tasks, s'.deliveries.rows = s.deliveries.rows ++ added ∧
      s'.outbox.rows.rows = s.outbox.rows.rows ++ tasks ∧
      ∀ d ∈ added, d.event = e.id ∧ s.supply.next ≤ d.id.value ∧
        d.verdict = (.pending, none, none) ∧ ∃ w ∈ webhooks, w.id = d.webhook := by
  induction webhooks generalizing s with
  | nil => exact ⟨[], [], (List.append_nil _).symm, (List.append_nil _).symm, by simp⟩
  | cons w webhooks ih =>
      obtain ⟨hrow, hconcerns⟩ := hw w List.mem_cons_self
      let s₁ := (s.deliverToAll maxAttempts e.id now [w]).2
      have hfrom : Writes g (fun _ => True) s s₁ ∧ s₁.events = s.events ∧
          s₁.webhooks = s.webhooks := deliverToOne_writes h maxAttempts now he hrow hconcerns
      obtain ⟨hone, hevents, hwebhooks⟩ := hfrom
      have hrest : ∀ x ∈ webhooks, x ∈ s₁.webhooks.rows ∧
          g.handlers.dispatcher.concerns x e = true := by
        intro x hx
        rw [hwebhooks]
        exact hw x (List.mem_cons_of_mem w hx)
      obtain ⟨added, tasks, hadded, htasks, hnew⟩ :=
        ih (s := s₁) (h.writes hone) (hevents ▸ he) hrest
      obtain ⟨hle, added₁, tasks₁, hadded₁, htasks₁, hnew₁⟩ :=
        deliverToOne_grows h maxAttempts e.id w now
      refine ⟨added₁ ++ added, tasks₁ ++ tasks, ?_, ?_, fun d hd => ?_⟩
      · rw [← List.append_assoc, ← hadded₁]
        exact hadded
      · rw [← List.append_assoc, ← htasks₁]
        exact htasks
      · rcases List.mem_append.1 hd with hd | hd
        · obtain ⟨hevent, hid, hpending, hwebhook⟩ := hnew₁ d hd
          exact ⟨hevent, hid, hpending, w, List.mem_cons_self, hwebhook⟩
        · obtain ⟨hevent, hid, hpending, x, hx, hwebhook⟩ := hnew d hd
          exact ⟨hevent, hle.trans hid, hpending, x, List.mem_cons_of_mem w hx, hwebhook⟩

theorem dispatch_grows (h : s.Linked) (event : Ident) (now : Instant) :
    let s' := (g.handlers.dispatch s event now).2
    ∃ added tasks, s'.deliveries.rows = s.deliveries.rows ++ added ∧
      s'.outbox.rows.rows = s.outbox.rows.rows ++ tasks ∧
      ∀ d ∈ added, s.supply.next ≤ d.id.value ∧ d.verdict = (.pending, none, none) ∧
        ∃ e w, s.events.find? e.id = some e ∧
        e.id = event ∧ d.event = event ∧ s.webhooks.find? d.webhook = some w ∧
        g.handlers.dispatcher.concerns w e = true := by
  unfold Handlers.dispatch
  split
  · exact ⟨[], [], (List.append_nil _).symm, (List.append_nil _).symm, by simp⟩
  · next e hf =>
      cases (Table.find?_eq_some_iff.1 hf).2
      obtain ⟨added, tasks, hadded, htasks, hnew⟩ :=
        deliverToAll_grows h g.handlers.dispatcher.maxAttempts now hf
          fun w hw => mem_concernedWebhooks.1 hw
      refine ⟨added, tasks, hadded, htasks, fun d hd => ?_⟩
      obtain ⟨hevent, hid, hpending, w, hw, hwebhook⟩ := hnew d hd
      obtain ⟨hrow, hconcerns⟩ := mem_concernedWebhooks.1 hw
      exact ⟨hid, hpending, e, w, hf, rfl, hevent, hwebhook ▸ Table.mem_rows_iff.1 hrow, hconcerns⟩

theorem concerns_of_dispatcher {c : FanoutConfig} (hv : c.validate = .ok ()) {e : Event}
    {w : Webhook} {webhook : Ident} (he : s.events.find? e.id = some e)
    (hw : s.webhooks.find? webhook = some w) (hconcerns : c.dispatcher.concerns w e = true) :
    s.Concerns c webhook e := by
  simp only [Dispatcher.concerns, Bool.and_eq_true, beq_iff_eq, Dispatcher.permits,
    Webhook.subscribesTo, decide_eq_true_eq] at hconcerns
  obtain ⟨⟨⟨hactive, hboard⟩, hpermits⟩, hsubscribed⟩ := hconcerns
  have hconfigured : e.action ∈ c.permittedActions := ActionSet.mem_ofList.1 hpermits
  exact ⟨he, ⟨w, hw, hactive, hboard, hsubscribed⟩, hconfigured,
    FanoutConfig.permitted_of_validate hv hconfigured⟩

/-- An event is there as it was, or gone, and its identifier is not used again. -/
def Remembers (e : Event) (s : Store) : Prop :=
  e.id.value < s.supply.next ∧ (s.events.find? e.id = some e ∨ e.id ∉ s.eventIds)

theorem Remembers.frame {e : Event} {s' : Store} (h : Remembers e s)
    (hevents : s'.events = s.events) (hle : s.supply.next ≤ s'.supply.next) : Remembers e s' := by
  refine ⟨h.1.trans_le hle, ?_⟩
  rw [eventIds, hevents]
  exact h.2

theorem Remembers.put {e e' : Event} {s' : Store} (h : Remembers e s)
    (hevents : s'.events = s.events.put e') (hnew : s.supply.next ≤ e'.id.value)
    (hle : s.supply.next ≤ s'.supply.next) : Remembers e s' := by
  have hne : e'.id ≠ e.id := by
    intro he
    have hlt := h.1
    rw [he] at hnew
    omega
  refine ⟨h.1.trans_le hle, ?_⟩
  rw [eventIds, hevents]
  rcases h.2 with hf | hno
  · refine .inl ((Table.find?_put s.events e' e.id).trans ?_)
    rw [if_neg (show Keyed.key e' ≠ e.id from hne), hf]
  · right
    intro hm
    obtain ⟨x, hx, hid⟩ := List.mem_map.1 hm
    rcases Table.mem_rows_put.1 hx with rfl | ⟨hx, -⟩
    · exact hne hid
    · exact hno (hid ▸ List.mem_map_of_mem hx)

theorem Remembers.removeCards {e : Event} (h : Remembers e s) (cards : List Ident) :
    Remembers e (s.removeCards cards) := by
  refine ⟨h.1, ?_⟩
  rcases h.2 with hf | hno
  · cases hf' : (s.removeCards cards).events.find? e.id with
    | some x =>
        obtain ⟨hx, hid⟩ := Table.find?_eq_some_iff.1 hf'
        have hsame : s.events.find? e.id = some x :=
          Table.find?_eq_some_iff.2 ⟨(List.mem_filter.1 hx).1, hid⟩
        exact .inl (hsame.symm.trans hf)
    | none =>
        right
        intro hm
        obtain ⟨x, hx, hid⟩ := List.mem_map.1 hm
        exact Table.find?_eq_none_iff.1 hf' x hx hid
  · exact .inr fun hm => hno ((List.filter_sublist.map Event.id).subset hm)

theorem Remembers.write {e : Event} {saved : Webhook → Prop} {s' : Store} (h : Remembers e s)
    (hw : s.Write g saved s') : Remembers e s' := by
  have hle := hw.next_le
  cases hw with
  | @change o c c' p creator now e' ha _ he =>
      have hid : e'.id = ⟨s.supply.next⟩ := congrArg Event.id he
      exact h.put rfl (hid ▸ le_rfl) hle
  | @comment c x now e' hr he =>
      have hid : e'.id = ⟨s.supply.next + 1⟩ := congrArg Event.id he
      exact h.put rfl (hid ▸ Nat.le_succ _) hle
  | removal cards => exact h.removeCards cards
  | draft | remark | notice | delivery | edit | saving | subscription | reading | arming | sending
    | counting | settlement | claim => exact h.frame rfl hle

end Store

namespace System

variable {sys : System} {g : Setup}

/-- An event that is there once is there as long as anything refers to it, and does not change. -/
theorem find?_event_of_run (h : sys.store.Linked) {e : Event}
    (he : sys.store.events.find? e.id = some e) (calls : List (Instant × SystemCall))
    (hm : e.id ∈ (sys.run g calls).store.eventIds) :
    (sys.run g calls).store.events.find? e.id = some e := by
  have hbelow : e.id.value < sys.store.supply.next :=
    h.fresh.events e (Table.find?_eq_some_iff.1 he).1
  obtain ⟨-, -, hkept⟩ := run_keeps (g := g) (fun _ => True) (P := Store.Remembers e)
    (fun _ _ _ hw hp => hp.write hw) h ⟨hbelow, .inl he⟩ calls fun _ _ _ _ => trivial
  exact hkept.resolve_right (not_not_intro hm)

structure Creates (sys : System) (g : Setup) (now : Instant) (c : SystemCall) (e : Event)
    (d : Delivery) : Prop where
  dispatches : c.dispatches? = some e.id
  event : d.event = e.id
  concerns : sys.store.Concerns g.config d.webhook e
  absent : ∀ x ∈ sys.store.deliveries.rows,
    x.id ≠ d.id ∧ (x.webhook, x.event) ≠ (d.webhook, d.event)
  present : d.route ∈ (sys.call g now c).store.routes

theorem Creates.of_route {now : Instant} {c : SystemCall} {e : Event} {d d' : Delivery}
    (h : sys.Creates g now c e d) (hroute : d.route = d'.route) : sys.Creates g now c e d' := by
  obtain ⟨hid, hkey⟩ := Prod.mk.inj hroute
  obtain ⟨hwebhook, hevent⟩ := Prod.mk.inj hkey
  refine ⟨h.dispatches, hevent ▸ h.event, hwebhook ▸ h.concerns, fun x hx => ?_,
    hroute ▸ h.present⟩
  rw [← hid, ← hkey]
  exact h.absent x hx

/-- A call that dispatches an event does to the deliveries what dispatching it does. -/
theorem deliveries_dispatching (sys : System) (g : Setup) (now : Instant) {c : SystemCall}
    {event : Ident} (hc : c.dispatches? = some event) :
    (sys.call g now c).store.deliveries =
      (g.handlers.dispatch sys.store event now).2.deliveries := by
  cases c with
  | dispatch event' =>
      cases hc
      rfl
  | execute t draw =>
      simp only [SystemCall.dispatches?] at hc
      split_ifs at hc with hk
      cases hc
      refine (execute_deliveries sys g.handlers g.config t draw now).trans ?_
      simp only [Handlers.run, hk]
  | _ => cases hc

/-- The deliveries after a dispatch are those before and those that it creates. -/
theorem creates_of_dispatch (h : sys.store.Linked) (hv : g.config.validate = .ok ())
    (hd : g.handlers.dispatcher = g.config.dispatcher) (now : Instant) {c : SystemCall}
    {event : Ident} (hc : c.dispatches? = some event) :
    ∃ added, (sys.call g now c).store.deliveries.rows = sys.store.deliveries.rows ++ added ∧
      ∀ d ∈ added, ∃ e, sys.Creates g now c e d := by
  have hrows := deliveries_dispatching sys g now hc
  obtain ⟨added, tasks, hadded, -, hnew⟩ := Store.dispatch_grows (g := g) h event now
  rw [← hrows] at hadded
  refine ⟨added, hadded, fun d hm => ?_⟩
  obtain ⟨hid, -, e, w, he, hevent, hevent', hw, hconcerns⟩ := hnew d hm
  rw [hd] at hconcerns
  have hkeys := (sys.call g now c).store.deliveries.distinct
  rw [hadded, List.map_append] at hkeys
  refine ⟨e, hevent ▸ hc, hevent'.trans hevent.symm,
    Store.concerns_of_dispatcher hv he hw hconcerns, fun x hx => ⟨fun hsame => ?_, fun hsame => ?_⟩,
    Store.route_mem_routes (hadded ▸ List.mem_append_right _ hm)⟩
  · have hlt : x.id.value < sys.store.supply.next :=
      h.counted.below_of_mem (.inr (.inr (.inr (.inr (.inl (List.mem_map_of_mem hx))))))
    rw [hsame] at hlt
    omega
  · have hkey : Keyed.key x = Keyed.key d := hsame
    have hin : Keyed.key x ∈ added.map Keyed.key := hkey ▸ List.mem_map_of_mem hm
    exact List.disjoint_of_nodup_append hkeys (List.mem_map_of_mem hx) hin

/-- Every delivery of a run was created by one of its calls. -/
theorem created_of_run (h : sys.store.Seeded) (hv : g.config.validate = .ok ())
    (hd : g.handlers.dispatcher = g.config.dispatcher) (calls : List (Instant × SystemCall)) :
    ∀ d ∈ (sys.run g calls).store.deliveries.rows, ∃ e before now c after,
      calls = before ++ (now, c) :: after ∧ (sys.run g before).Creates g now c e d := by
  induction calls using List.reverseRecOn with
  | nil =>
      intro d hm
      change d ∈ sys.store.deliveries.rows at hm
      rw [h.deliveries] at hm
      cases hm
  | append_singleton calls call ih =>
      obtain ⟨now, c⟩ := call
      intro d hm
      rw [run_append] at hm
      change d ∈ ((sys.run g calls).call g now c).store.deliveries.rows at hm
      have hlinked := linked_run h g calls
      -- What was there before the last call may have another state since, but not another route.
      have hold : d.route ∈ (sys.run g calls).store.routes → ∃ e before now' c' after,
          calls ++ [(now, c)] = before ++ (now', c') :: after ∧
            (sys.run g before).Creates g now' c' e d := by
        intro hroute
        obtain ⟨d', hm', hsame⟩ := List.mem_map.1 hroute
        obtain ⟨e, before, now', c', after, hcalls, hcreates⟩ := ih d' hm'
        refine ⟨e, before, now', c', after ++ [(now, c)], ?_, hcreates.of_route hsame⟩
        rw [hcalls, List.append_assoc]
        rfl
      cases hc : c.dispatches? with
      | some event =>
          obtain ⟨added, hrows, hadded⟩ := creates_of_dispatch hlinked hv hd now hc
          rcases List.mem_append.1 (hrows ▸ hm) with hm | hm
          · exact hold (Store.route_mem_routes hm)
          · obtain ⟨e, hcreates⟩ := hadded d hm
            exact ⟨e, calls, now, c, [], rfl, hcreates⟩
      | none =>
          have hroute := Store.route_mem_routes hm
          by_cases hdestroy : ∃ card, c = .destroyCard card
          · obtain ⟨card, rfl⟩ := hdestroy
            exact hold ((routes_destroy _ g now card).subset hroute)
          · rw [routes_call hlinked g now hc fun card he => hdestroy ⟨card, he⟩] at hroute
            exact hold hroute

/-- The one task of a delivery. -/
theorem task_of_delivery {s : Store} (h : s.Linked) {d : Delivery} (hd : d ∈ s.deliveries.rows) :
    ∃ r ∈ s.outbox.rows.rows, r.kind = .deliverWebhook ∧ r.subject = d.id ∧
      ∀ r' ∈ s.outbox.rows.rows, r'.subject = d.id → r' = r := by
  have hid : d.id ∈ s.deliveryIds := List.mem_map_of_mem hd
  have hhas : s.outbox.has .deliverWebhook d.id = true := (h.scheduled .deliverWebhook d.id).2 hid
  obtain ⟨r, hr, hkind, hsubject⟩ := (h.sound.exists_row_iff .deliverWebhook d.id).2 hhas
  refine ⟨r, hr, hkind, hsubject, fun r' hr' hsubject' => ?_⟩
  have hkind' : r'.kind = .deliverWebhook := by
    have howes := (h.scheduled r'.kind d.id).1
      ((h.sound.exists_row_iff r'.kind d.id).1 ⟨r', hr', rfl, hsubject'⟩)
    cases hk : r'.kind with
    | deliverWebhook => rfl
    | notify | dispatchWebhooks =>
        rw [hk] at howes
        exact (h.counted.event_ne_delivery howes hid).elim
  have hinj := List.inj_on_of_nodup_map h.sound.nodup_tasks
  exact hinj hr' hr (by rw [hkind, hkind', hsubject, hsubject'])

structure SoundDeliveries (sys : System) (g : Setup) (calls : List (Instant × SystemCall)) :
    Prop where
  /-- Each was created by a call of the run, and its event has not changed since. -/
  created : ∀ d ∈ (sys.run g calls).store.deliveries.rows, ∃ e before now c after,
    calls = before ++ (now, c) :: after ∧ (sys.run g before).Creates g now c e d ∧
      (sys.run g calls).store.events.find? e.id = some e
  unique : ((sys.run g calls).store.deliveries.rows.map fun d => (d.webhook, d.event)).Nodup
  scheduled : ∀ d ∈ (sys.run g calls).store.deliveries.rows,
    ∃ r ∈ (sys.run g calls).store.outbox.rows.rows, r.kind = .deliverWebhook ∧ r.subject = d.id ∧
      ∀ r' ∈ (sys.run g calls).store.outbox.rows.rows, r'.subject = d.id → r' = r
  /-- Only destroying a card removes any, or changes which they are. -/
  kept : ∀ now c, (∀ card, c ≠ .destroyCard card) →
    (sys.run g calls).store.routes <+: ((sys.run g calls).call g now c).store.routes
  /-- Changing a webhook leaves deliveries and tasks alone. -/
  unchanged : ∀ now c, c.changesWebhook = true →
    ((sys.run g calls).call g now c).store.deliveries = (sys.run g calls).store.deliveries ∧
      ((sys.run g calls).call g now c).store.outbox = (sys.run g calls).store.outbox
  /-- Dispatching an event only adds deliveries and tasks. -/
  added : ∀ now event,
    (sys.run g calls).store.deliveries.rows <+:
        ((sys.run g calls).call g now (.dispatch event)).store.deliveries.rows ∧
      (sys.run g calls).store.outbox.rows.rows <+:
        ((sys.run g calls).call g now (.dispatch event)).store.outbox.rows.rows

/-- Over every run from users, boards and webhooks, with webhooks saved and changed at will: each
delivery was created by a call that dispatched its event, at a time when its webhook was active, on
the event's board and subscribed to the event's action, which the settings permit and which can be
sent outside. There is one delivery at most for a webhook and an event, and it has exactly one task;
and no change of a webhook and no further dispatch takes any of that away. -/
theorem deliveries_of_run {sys : System} (h : sys.store.Seeded) {g : Setup}
    (hv : g.config.validate = .ok ()) (hd : g.handlers.dispatcher = g.config.dispatcher)
    (calls : List (Instant × SystemCall)) : sys.SoundDeliveries g calls := by
  have hlinked : (sys.run g calls).store.Linked := linked_run h g calls
  refine ⟨fun d hm => ?_, Table.distinct _, fun d hm => task_of_delivery hlinked hm,
    fun now c hdestroy => ?_, fun now c hc => ?_, fun now event => ?_⟩
  · obtain ⟨e, before, now, c, after, hcalls, hcreates⟩ := created_of_run h hv hd calls d hm
    have hrun : sys.run g calls = (sys.run g before).run g ((now, c) :: after) := by
      rw [hcalls, run_append]
    have hin : e.id ∈ (sys.run g calls).store.eventIds :=
      hcreates.event ▸ (hlinked.delivered d hm).1
    refine ⟨e, before, now, c, after, hcalls, hcreates, ?_⟩
    rw [hrun] at hin ⊢
    exact find?_event_of_run (linked_run h g before) hcreates.concerns.found _ hin
  · cases hc : c.dispatches? with
    | some event =>
        obtain ⟨added, hrows, -⟩ := creates_of_dispatch hlinked hv hd now hc
        simp only [Store.routes, hrows, List.map_append]
        exact List.prefix_append _ _
    | none =>
        have hsame := routes_call hlinked g now hc hdestroy
        exact hsame ▸ List.prefix_rfl
  · generalize sys.run g calls = sys
    cases c with
    | saveWebhook w => exact ⟨rfl, rfl⟩
    | resubscribe webhook actions =>
        obtain ⟨webhooks, heq⟩ := sys.store.resubscribe_eq webhook actions
        have hs : (sys.call g now (.resubscribe webhook actions)).store = _ := heq
        rw [hs]
        exact ⟨rfl, rfl⟩
    | deactivate webhook =>
        obtain ⟨webhooks, heq⟩ := sys.store.deactivateWebhook_eq webhook
        have hs : (sys.call g now (.deactivate webhook)).store = _ := heq
        rw [hs]
        exact ⟨rfl, rfl⟩
    | _ => cases hc
  · obtain ⟨added, tasks, hadded, htasks, -⟩ := Store.dispatch_grows (g := g) hlinked event now
    exact ⟨⟨added, hadded.symm⟩, ⟨tasks, htasks.symm⟩⟩

/-- A webhook without name and address takes part all the same. It is sent a publication, and keeps
the delivery when it subscribes to nothing any more and the event is dispatched again. -/
theorem deliveries_of_changed_webhook :
    let now : Instant := ⟨0, 0⟩
    let webhook : Webhook :=
      ⟨⟨3⟩, ⟨9⟩, ⟨2⟩, "", "", true, .ofList ["card_published", "card_title_changed"], now⟩
    let seed := ((Store.empty 10).addUser ⟨⟨1⟩, ⟨9⟩, "ada", .member⟩).addBoard
      ⟨⟨2⟩, ⟨9⟩, "ops", []⟩
    let sys : System := ⟨seed.saveWebhook webhook, .standard⟩
    let g : Setup := ⟨.standard, .ofConfig .standard, .standard⟩
    let calls : List (Instant × SystemCall) :=
      [(now, .createDraft ⟨2⟩ ⟨1⟩ "plan"), (now, .changeCard ⟨10⟩ ⟨1⟩ .publish),
       (now, .dispatch ⟨11⟩), (now, .saveWebhook { webhook with subscribed := .empty }),
       (now, .dispatch ⟨11⟩)]
    g.config.validate = .ok () ∧ g.handlers.dispatcher = g.config.dispatcher ∧
      (sys.run g calls).store.routes = [(⟨14⟩, ⟨3⟩, ⟨11⟩)] ∧ sys.SoundDeliveries g calls := by
  intro now webhook seed sys g calls
  have hseed : sys.store.Seeded := ⟨rfl, rfl, rfl, rfl, rfl, rfl⟩
  have hv : g.config.validate = .ok () := by decide +kernel
  exact ⟨hv, rfl, by decide +kernel, deliveries_of_run hseed hv rfl calls⟩

end System

end BoardActivity
