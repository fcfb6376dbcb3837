import BoardActivity.Proofs.DeliveryOrigins
import BoardActivity.Proofs.SharedQueue
import Mathlib.Data.List.Count
import Mathlib.Data.List.ProdSigma

/-!
# How many tasks dispatches can add

Handlers add tasks to the outbox only where an event is dispatched to a webhook, and only if the
delivery of the one to the other has no task yet. So each task that is added leaves one pair less of
a webhook and an event without a delivery and its task (`Store.unserved`); and no handler makes the
number of such pairs any larger. Only the order of the outbox is assumed here (`Store.Queued`).
-/

namespace BoardActivity

namespace Store

variable {s s' s'' : Store}

/-- There is a delivery to the webhook of the event, and it has its task. -/
def serves (s : Store) (k : Ident × Ident) : Bool :=
  (s.deliveries.find? k).any fun d => s.outbox.has .deliverWebhook d.id

/-- How many pairs of a webhook and an event there are without a delivery and its task. -/
def unserved (s : Store) : Nat := (s.webhookIds ×ˢ s.eventIds).countP fun k => !s.serves k

theorem serves_iff {k : Ident × Ident} : s.serves k = true ↔
    ∃ d, s.deliveries.find? k = some d ∧ s.outbox.has .deliverWebhook d.id = true :=
  Option.any_eq_true _ _

theorem unserved_le_size (s : Store) : s.unserved ≤ s.events.size * s.webhooks.size := by
  have hle : s.unserved ≤ (s.webhookIds ×ˢ s.eventIds).length := List.countP_le_length
  rw [List.length_product, webhookIds, eventIds, List.length_map, List.length_map] at hle
  rw [Nat.mul_comm]
  exact hle

structure Upholds (s s' : Store) : Prop where
  webhooks : s'.webhookIds = s.webhookIds
  events : s'.eventIds = s.eventIds
  serves : ∀ k, s.serves k = true → s'.serves k = true

namespace Upholds

theorem of_deliveries (hwebhooks : s'.webhookIds = s.webhookIds)
    (hevents : s'.eventIds = s.eventIds)
    (hdeliveries : ∀ k d, s.deliveries.find? k = some d →
      ∃ d', s'.deliveries.find? k = some d' ∧ d'.id = d.id)
    (hhas : ∀ id, s.outbox.has .deliverWebhook id = true →
      s'.outbox.has .deliverWebhook id = true) : s.Upholds s' := by
  refine ⟨hwebhooks, hevents, fun k hk => ?_⟩
  obtain ⟨d, hd, hd'⟩ := serves_iff.1 hk
  obtain ⟨d', hf, hid⟩ := hdeliveries k d hd
  exact serves_iff.2 ⟨d', hf, hid ▸ hhas d.id hd'⟩

/-- The outbox and what does not concern deliveries may change. -/
theorem of_index (hwebhooks : s'.webhooks = s.webhooks) (hevents : s'.events = s.events)
    (hdeliveries : s'.deliveries = s.deliveries) (hindex : s'.outbox.index = s.outbox.index) :
    s.Upholds s' := by
  refine of_deliveries (by rw [webhookIds, hwebhooks]; rfl) (by rw [eventIds, hevents]; rfl)
    (fun k d hd => ⟨d, hdeliveries ▸ hd, rfl⟩) fun id hid => ?_
  rw [Outbox.has, hindex]
  exact hid

theorem unserved_le (h : s.Upholds s') : s'.unserved ≤ s.unserved := by
  unfold unserved
  rw [h.webhooks, h.events]
  refine List.countP_mono_left fun k _ hk => ?_
  cases hs : s.serves k with
  | false => rfl
  | true =>
      rw [h.serves k hs] at hk
      exact hk

/-- A pair less is left when one of them is served only after. -/
theorem unserved_lt (h : s.Upholds s') {k : Ident × Ident} (hwebhook : k.1 ∈ s.webhookIds)
    (hevent : k.2 ∈ s.eventIds) (hbefore : s.serves k = false) (hafter : s'.serves k = true) :
    s'.unserved + 1 ≤ s.unserved := by
  have hin : k ∈ (s.webhookIds ×ˢ s.eventIds).filter fun k => !s.serves k :=
    List.mem_filter.2 ⟨List.mem_product.2 ⟨hwebhook, hevent⟩, by simp [hbefore]⟩
  -- What is not served after was not served before.
  have hsame : ((s.webhookIds ×ˢ s.eventIds).filter fun k => !s.serves k).countP
      (fun k => !s'.serves k) = s'.unserved := by
    rw [List.countP_filter, unserved, h.webhooks, h.events]
    refine List.countP_congr fun k _ => ?_
    cases hs : s.serves k with
    | false => simp
    | true => simp [h.serves k hs]
  have hlt : ((s.webhookIds ×ˢ s.eventIds).filter fun k => !s.serves k).countP
      (fun k => !s'.serves k) < ((s.webhookIds ×ˢ s.eventIds).filter fun k => !s.serves k).length :=
    List.countP_lt_length_iff.2 ⟨k, hin, by simp [hafter]⟩
  rw [hsame, ← List.countP_eq_length_filter] at hlt
  exact hlt

end Upholds

def IsDeliveryRow (maxAttempts : Nat) (r : TaskRow) : Prop :=
  ∃ id delivery seq now, r = .ofNew (deliveryTask delivery maxAttempts) id seq now

structure Dispatches (maxAttempts : Nat) (s s' : Store) (created : List TaskRow) : Prop where
  rows : s'.outbox.rows.rows = s.outbox.rows.rows ++ created
  new : ∀ r ∈ created, IsDeliveryRow maxAttempts r
  unserved : s'.unserved + created.length ≤ s.unserved

theorem Upholds.dispatches (h : s.Upholds s') (hrows : s'.outbox.rows.rows = s.outbox.rows.rows)
    (maxAttempts : Nat) : s.Dispatches maxAttempts s' [] :=
  ⟨hrows.trans (List.append_nil _).symm, fun _ hr => (List.not_mem_nil hr).elim, h.unserved_le⟩

theorem Dispatches.trans {maxAttempts : Nat} {created created' : List TaskRow}
    (h : s.Dispatches maxAttempts s' created) (h' : s'.Dispatches maxAttempts s'' created') :
    s.Dispatches maxAttempts s'' (created ++ created') := by
  refine ⟨?_, fun r hr => (List.mem_append.1 hr).elim (h.new r) (h'.new r), ?_⟩
  · rw [h'.rows, h.rows, List.append_assoc]
  · have hle := h.unserved
    have hle' := h'.unserved
    rw [List.length_append]
    omega

/-- Making sure of one delivery and its task. -/
theorem dispatches_deliverToOne (h : s.Queued) (maxAttempts : Nat) {event : Ident} (now : Instant)
    (hevent : event ∈ s.eventIds) {w : Webhook} (hw : w.id ∈ s.webhookIds) :
    ∃ created, s.Dispatches maxAttempts (s.deliverToAll maxAttempts event now [w]).2 created := by
  let d := (s.ensureDelivery w.id event now).1
  let s₁ := (s.ensureDelivery w.id event now).2
  let t := deliveryTask d.id maxAttempts
  have hensured : s₁.webhooks = s.webhooks ∧ s₁.events = s.events ∧ s₁.outbox = s.outbox := by
    simp only [s₁, ensureDelivery]
    split
    · exact ⟨rfl, rfl, rfl⟩
    · exact ⟨rfl, rfl, rfl⟩
  obtain ⟨hwebhooks, hevents, houtbox⟩ := hensured
  obtain ⟨hthere, hkeeps⟩ := s.find?_ensureDelivery w.id event now
  have hupholds : s.Upholds s₁ := by
    refine .of_deliveries (by rw [webhookIds, hwebhooks]; rfl) (by rw [eventIds, hevents]; rfl)
      (fun k x hx => ⟨x, hkeeps k x hx, rfl⟩) fun id hid => ?_
    rw [houtbox]
    exact hid
  change ∃ created, s.Dispatches maxAttempts (s₁.enqueue t now).2 created
  cases hhas : s₁.outbox.has t.kind t.subject with
  | true =>
      rw [enqueue_of_has hhas]
      exact ⟨[], hupholds.dispatches (by rw [houtbox]) maxAttempts⟩
  | false =>
      have hqueued : s₁.Queued := h.movesTo (movesBy_ensureDelivery w.id event now).movesTo
      have habsent : s₁.outbox.rows.find? ⟨s₁.supply.next⟩ = none :=
        hqueued.below.find?_eq_none le_rfl
      have hrows := Outbox.insert_rows habsent t now
      rw [enqueue_of_new hhas]
      refine ⟨[.ofNew t ⟨s₁.supply.next⟩ (s₁.outbox.seq + 1) now], ?_,
        fun r hr => ⟨_, _, _, _, List.mem_singleton.1 hr⟩, ?_⟩
      · rw [← houtbox]
        exact hrows
      · refine Upholds.unserved_lt (k := (w.id, event)) ⟨?_, ?_, fun k hk => ?_⟩ hw hevent ?_ ?_
        · exact hupholds.webhooks
        · exact hupholds.events
        · obtain ⟨x, hx, hx'⟩ := serves_iff.1 (hupholds.serves k hk)
          exact serves_iff.2 ⟨x, hx, (Outbox.has_insert _ _ _ _ _ _).2 (.inr hx')⟩
        · -- Before, the delivery had no task, if there was one.
          cases hserves : s.serves (w.id, event) with
          | false => rfl
          | true =>
              obtain ⟨x, hx, hx'⟩ := serves_iff.1 hserves
              cases (hkeeps _ x hx).symm.trans hthere
              rw [houtbox] at hhas
              cases hhas.symm.trans hx'
        · exact serves_iff.2 ⟨d, hthere, (Outbox.has_insert _ _ _ _ _ _).2 (.inl ⟨rfl, rfl⟩)⟩

theorem dispatches_deliverToAll (h : s.Queued) (maxAttempts : Nat) {event : Ident} (now : Instant)
    (hevent : event ∈ s.eventIds) {webhooks : List Webhook}
    (hw : ∀ w ∈ webhooks, w.id ∈ s.webhookIds) :
    ∃ created,
      s.Dispatches maxAttempts (s.deliverToAll maxAttempts event now webhooks).2 created := by
  induction webhooks generalizing s with
  | nil => exact ⟨[], Upholds.dispatches (.of_index rfl rfl rfl rfl) rfl maxAttempts⟩
  | cons w webhooks ih =>
      let s₁ := (s.deliverToAll maxAttempts event now [w]).2
      obtain ⟨created, hone⟩ :=
        dispatches_deliverToOne h maxAttempts now hevent (hw w List.mem_cons_self)
      obtain ⟨deliveries, outbox, supply, hframe⟩ :=
        s.deliverToAll_frame maxAttempts event now [w]
      have hs₁ : s₁ = { s with deliveries, outbox, supply } := hframe
      have hevent₁ : event ∈ s₁.eventIds := by
        rw [hs₁]
        exact hevent
      have hw₁ : ∀ x ∈ webhooks, x.id ∈ s₁.webhookIds := by
        intro x hx
        rw [hs₁]
        exact hw x (List.mem_cons_of_mem w hx)
      obtain ⟨created', hrest⟩ :=
        ih (h.movesTo (movesBy_deliverToAll maxAttempts event now [w]).movesTo) hevent₁ hw₁
      exact ⟨created ++ created', hone.trans hrest⟩

theorem dispatches_dispatch (h : s.Queued) (handlers : Handlers) (event : Ident) (now : Instant) :
    ∃ created, s.Dispatches handlers.dispatcher.maxAttempts
      (handlers.dispatch s event now).2 created := by
  unfold Handlers.dispatch
  split
  · exact ⟨[], Upholds.dispatches (.of_index rfl rfl rfl rfl) rfl _⟩
  · next e hf =>
      obtain ⟨hrow, rfl⟩ := Table.find?_eq_some_iff.1 hf
      exact dispatches_deliverToAll h _ now (List.mem_map_of_mem hrow) fun w hw =>
        List.mem_map_of_mem (mem_concernedWebhooks.1 hw).1

/-- Without webhooks saved from outside, which webhooks there are does not change. -/
theorem Write.webhookIds {g : Setup} (hw : s.Write g (fun _ => False) s') :
    s'.webhookIds = s.webhookIds := by
  cases hw with
  | saving h => exact h.elim
  | subscription hf _ _ =>
      exact Table.map_put_of_present Webhook.id hf (Table.find?_eq_some_iff.1 hf).2.symm
  | draft | edit | change | remark | comment | removal | notice | reading | arming | delivery
    | sending | counting | settlement | claim => rfl

theorem Writes.webhookIds {g : Setup} (hw : Writes g (fun _ => False) s s') :
    s'.webhookIds = s.webhookIds := by
  induction hw with
  | refl => rfl
  | tail _ hw ih => exact hw.webhookIds.trans ih

end Store

/-- Sending a delivery changes neither where deliveries go nor which webhooks there are. -/
theorem System.upholds_deliver (h : Handlers) (sys : System) (delivery : Ident) (now : Instant) :
    sys.store.Upholds (h.deliver sys delivery now).2.store := by
  have hw : Store.Writes ⟨.standard, h, .standard⟩ (fun _ => False) sys.store
      (h.deliver sys delivery now).2.store := deliver_writes delivery now
  have hroutes := deliver_routes h sys delivery now
  obtain ⟨deliveries, webhooks, trackers, hframe⟩ := sys.deliver_frame h delivery now
  refine .of_deliveries hw.webhookIds (congrArg Store.eventIds hframe :) (fun k d hd => ?_)
    fun id hid => ?_
  · obtain ⟨hrow, rfl⟩ := Table.find?_eq_some_iff.1 hd
    have hroute : d.route ∈ (h.deliver sys delivery now).2.store.routes :=
      hroutes ▸ Store.route_mem_routes hrow
    obtain ⟨d', hrow', hsame⟩ := List.mem_map.1 hroute
    obtain ⟨hid, hkey⟩ := Prod.mk.inj hsame
    exact ⟨d', Table.find?_eq_some_iff.2 ⟨hrow', hkey⟩, hid⟩
  · rw [hframe]
    exact hid

end BoardActivity
