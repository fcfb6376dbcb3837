import BoardActivity.Proofs.CardRemoval
import BoardActivity.Proofs.FanoutErrands
import BoardActivity.Proofs.ReferenceRuns

/-!
# A card that goes while its events are fanned out

A handler goes on with the event that it has found, also when the card has been destroyed in the
meantime; the store inserts what it is given, without asking for the event. So destroying a card
leaves nothing of the event at that moment, but what the handler writes afterwards stays: the
notifications and deliveries that it comes to, their tasks, and the task of a delivery that was
destroyed before it was scheduled. `System.removal_during_fanout` says exactly what is there in the
end, and that it is nothing only if the handler had nothing more to write.
-/

namespace BoardActivity

namespace Store

def deliveryIdsOf (s : Store) (event : Ident) : List Ident :=
  (s.deliveries.rows.filter fun d => d.event = event).map Delivery.id

structure Forgets (s : Store) (event : Ident) (sent : List Ident) : Prop where
  notifications : ∀ n ∈ s.notifications.rows, n.event ≠ event
  deliveries : ∀ d ∈ s.deliveries.rows, d.event ≠ event
  tasks : ∀ r ∈ s.outbox.rows.rows, r.subject ≠ event ∧ r.subject ∉ sent

variable {s s' : Store} {user event webhook creator : Ident} {now : Instant}

theorem mem_deliveryIdsOf {id : Ident} :
    id ∈ s.deliveryIdsOf event ↔ ∃ d ∈ s.deliveries.rows, d.event = event ∧ d.id = id := by
  simp [deliveryIdsOf, and_assoc]

theorem ensureNotification_ok {n : Notification}
    (h : s.ensureNotification user event creator now = (.ok n, s')) :
    ∃ notifications fault supply, s' = { s with
        notifications, notificationFault := fault, supply } ∧ s.supply.next ≤ supply.next ∧
      ∀ k, notifications.contains k = true ↔
        s.notifications.contains k = true ∨ (event, user) = k := by
  cases hn : s.notifications.find? (event, user) with
  | some m =>
      rw [ensureNotification_of_some creator now hn] at h
      cases h
      refine ⟨s.notifications, s.notificationFault, s.supply, rfl, le_rfl, fun k => ?_⟩
      have hkey : (event, user) = k → s.notifications.contains k = true := by
        rintro rfl
        exact Table.contains_iff.2 ⟨n, hn⟩
      exact (or_iff_left_of_imp hkey).symm
  | none =>
      by_cases hf : s.notificationFault = some 0
      · rw [ensureNotification_of_fault creator now hn hf] at h
        cases h
      · rw [ensureNotification_of_none creator now hn hf] at h
        cases h
        exact ⟨_, _, _, rfl, Nat.le_succ _, fun k => Table.contains_put _ _ k⟩

theorem ensureNotification_failed {err : Error}
    (h : s.ensureNotification user event creator now = (.error err, s')) :
    s' = { s with notificationFault := none } := by
  cases hn : s.notifications.find? (event, user) with
  | some m =>
      rw [ensureNotification_of_some creator now hn] at h
      cases h
  | none =>
      by_cases hf : s.notificationFault = some 0
      · rw [ensureNotification_of_fault creator now hn hf] at h
        cases h
        rfl
      · rw [ensureNotification_of_none creator now hn hf] at h
        cases h

theorem ensureDelivery_ok {d : Delivery} (h : s.ensureDelivery webhook event now = (d, s')) :
    ∃ deliveries supply, s' = { s with deliveries, supply } ∧ s.supply.next ≤ supply.next ∧
      (∀ k, deliveries.contains k = true ↔
        s.deliveries.contains k = true ∨ (webhook, event) = k) ∧
      d.id ∈ s'.deliveryIdsOf event ∧
      ∀ id ∈ s.deliveryIdsOf event, id ∈ s'.deliveryIdsOf event := by
  unfold ensureDelivery at h
  cases hn : s.deliveries.find? (webhook, event) with
  | some x =>
      rw [hn] at h
      cases h
      obtain ⟨hrow, hkey⟩ := Table.find?_eq_some_iff.1 hn
      refine ⟨s.deliveries, s.supply, rfl, le_rfl, fun k => ?_, ?_, fun _ hm => hm⟩
      · have hin : (webhook, event) = k → s.deliveries.contains k = true := by
          rintro rfl
          exact Table.contains_iff.2 ⟨d, hn⟩
        exact (or_iff_left_of_imp hin).symm
      · exact mem_deliveryIdsOf.2 ⟨d, hrow, congrArg Prod.snd hkey, rfl⟩
  | none =>
      rw [hn] at h
      cases h
      let d := Delivery.create ⟨s.supply.next⟩ webhook event now
      have hrows : (s.deliveries.put d).rows = s.deliveries.rows ++ [d] :=
        Table.rows_put_of_absent hn
      refine ⟨_, _, rfl, Nat.le_succ _, fun k => Table.contains_put _ _ k, ?_, fun id hm => ?_⟩
      · exact mem_deliveryIdsOf.2 ⟨_, Table.mem_rows_put.2 (.inl rfl), rfl, rfl⟩
      · obtain ⟨x, hx, hevent, hid⟩ := mem_deliveryIdsOf.1 hm
        refine mem_deliveryIdsOf.2 ⟨x, ?_, hevent, hid⟩
        exact hrows ▸ List.mem_append_left _ hx

theorem enqueue_sound (hs : s.outbox.Sound) (hb : s.outbox.Below s.supply.next) {t : NewTask}
    (hmax : 1 ≤ t.maxAttempts) (now : Instant) (h : (s.enqueue t now).2 = s') :
    ∃ outbox supply, s' = { s with outbox, supply } ∧ outbox.Sound ∧ outbox.Below supply.next ∧
      ∀ kind subject, outbox.has kind subject = true ↔
        s.outbox.has kind subject = true ∨ t.kind = kind ∧ t.subject = subject := by
  subst h
  have hmoves : Outbox.Moves (fun _ => True) s.outbox s.supply.next [] (s.enqueue t now).2.outbox
      (s.enqueue t now).2.supply.next := s.enqueue_moves trivial now
  have hbelow := hmoves.rows_below hb
  have hhas := s.has_enqueue t now
  cases hnew : s.outbox.has t.kind t.subject with
  | true =>
      rw [enqueue_of_has hnew] at hhas ⊢
      exact ⟨s.outbox, s.supply, rfl, hs, hb, hhas⟩
  | false =>
      rw [enqueue_of_new hnew] at hbelow hhas ⊢
      have habsent : s.outbox.rows.find? ⟨s.supply.next⟩ = none := hb.find?_eq_none le_rfl
      exact ⟨_, _, rfl, hs.insert hmax hnew habsent now, hbelow, hhas⟩

/-- An event of a store is on a card of the store. -/
theorem Linked.mem_cardIds_of_isOn (h : s.Linked) {e : Event} {card : Ident}
    (he : e ∈ s.events.rows) (hcard : s.IsOn card e) : card ∈ s.cardIds := by
  rcases hcard with hc | ⟨c, hc, rfl, -⟩
  · have heventable := h.eventables e he
    rw [hc] at heventable
    exact heventable
  · exact h.commented c hc

/-- Nothing is left of an event whose card is removed. -/
theorem forgets_removeCards {e : Event} {card : Ident} (he : e ∈ s.events.rows)
    (hcard : s.IsOn card e) : (s.removeCards [card]).Forgets e.id (s.deliveryIdsOf e.id) := by
  have hcascade := s.removeCards_cascade card
  have hevent : s.HasEventOn card e.id := ⟨e, he, hcard, rfl⟩
  refine ⟨fun n hn hne => ?_, fun d hd hde => ?_, fun r hr => ⟨fun hre => ?_, fun hrd => ?_⟩⟩
  · rw [hcascade.notifications] at hn
    have hkept := of_decide_eq_true (List.mem_filter.1 hn).2
    exact hkept (hne ▸ hevent)
  · rw [hcascade.deliveries] at hd
    have hkept := of_decide_eq_true (List.mem_filter.1 hd).2
    exact hkept (hde ▸ hevent)
  · rw [hcascade.tasks] at hr
    have hkept := of_decide_eq_true (List.mem_filter.1 hr).2
    exact hkept (.inl (hre ▸ hevent))
  · rw [hcascade.tasks] at hr
    have hkept := of_decide_eq_true (List.mem_filter.1 hr).2
    obtain ⟨d, hd, hde, hid⟩ := mem_deliveryIdsOf.1 hrd
    exact hkept (.inr ⟨d, hd, hde ▸ hevent, hid⟩)

end Store

namespace Chores

/-- A delivery that is to be scheduled next is one of certain deliveries. -/
def SchedulesOnly (p : Ident → Prop) : Chores → Prop
  | .schedule delivery _ => p delivery
  | .tell _ | .send _ => True

theorem SchedulesOnly.imp {p q : Ident → Prop} (hpq : ∀ d, p d → q d) {chores : Chores}
    (h : chores.SchedulesOnly p) : chores.SchedulesOnly q := by
  cases chores with
  | tell | send => trivial
  | schedule delivery webhooks => exact hpq delivery h

end Chores

namespace Course

/-- What an errand for an event has done to a store: it has added what it has listed, and nothing
else. It schedules no deliveries but those of the event, of the store or of an older list. -/
structure Adds (e : Event) (older : List Ident) (s : Store) (c : Course) : Prop where
  cards : c.store.cards = s.cards
  comments : c.store.comments = s.comments
  events : c.store.events = s.events
  told : ∀ k, c.store.notifications.contains k = true ↔
    s.notifications.contains k = true ∨ ∃ user ∈ c.told, (e.id, user) = k
  sent : ∀ k, c.store.deliveries.contains k = true ↔
    s.deliveries.contains k = true ∨ ∃ webhook ∈ c.sent, (webhook, e.id) = k
  scheduled : ∀ kind subject, c.store.outbox.has kind subject = true ↔
    s.outbox.has kind subject = true ∨ .deliverWebhook = kind ∧ subject ∈ c.scheduled
  sound : c.store.outbox.Sound
  below : c.store.outbox.Below c.store.supply.next
  known : ∀ d ∈ c.scheduled, d ∈ older ∨ d ∈ c.store.deliveryIdsOf e.id
  next : c.errand.All (Chores.SchedulesOnly fun d => d ∈ older ∨ d ∈ c.store.deliveryIdsOf e.id)

/-- The webhooks are still to be sent to, perhaps after a delivery that is to be scheduled. -/
def HasToSend (c : Course) (webhooks : List Ident) : Prop :=
  c.errand = .answer (.send webhooks) ∨ ∃ d, c.errand = .answer (.schedule d webhooks)

/-- What is left behind by an errand for an event. The errand was in the first course when the card
of the event was destroyed, which left the store `s`, and is in the last course by now. -/
structure Leaves (e : Event) (c : Course) (s : Store) (last : Course) : Prop where
  clean : s.Forgets e.id (c.store.deliveryIdsOf e.id)
  told : ∀ user, (∃ n ∈ last.store.notifications.rows, (n.event, n.user) = (e.id, user)) ↔
    user ∈ last.told
  sent : ∀ webhook, (∃ d ∈ last.store.deliveries.rows, (d.webhook, d.event) = (webhook, e.id)) ↔
    webhook ∈ last.sent
  scheduled : ∀ kind subject,
    (∃ r ∈ last.store.outbox.rows.rows, r.kind = kind ∧ r.subject = subject) ↔
      (∃ r ∈ s.outbox.rows.rows, r.kind = kind ∧ r.subject = subject) ∨
        .deliverWebhook = kind ∧ subject ∈ last.scheduled
  known : ∀ d ∈ last.scheduled,
    d ∈ c.store.deliveryIdsOf e.id ∨ d ∈ last.store.deliveryIdsOf e.id
  forgets_iff : last.store.Forgets e.id (c.store.deliveryIdsOf e.id) ↔
    last.told = [] ∧ last.sent = [] ∧ last.scheduled = []
  all_told : last.isOver = true → s.notificationFault = none →
    ∀ users, c.errand = .answer (.tell users) → last.told = users
  all_sent : last.isOver = true → ∀ webhooks, c.HasToSend webhooks → last.sent = webhooks
  pending : last.isOver = true →
    ∀ d webhooks, c.errand = .answer (.schedule d webhooks) → d ∈ last.scheduled

variable {e : Event} {older : List Ident} {s : Store} {maxAttempts : Nat}

theorem Adds.of_start {q : Errand} (hs : s.outbox.Sound) (hb : s.outbox.Below s.supply.next)
    (hq : q.All (Chores.SchedulesOnly fun d => d ∈ older ∨ d ∈ s.deliveryIdsOf e.id)) :
    Adds e older s (start q s) where
  cards := rfl
  comments := rfl
  events := rfl
  told := by simp [start]
  sent := by simp [start]
  scheduled := by simp [start]
  sound := hs
  below := hb
  known := by simp [start]
  next := hq

section OneCall

variable {store : Store} {told sent scheduled : List Ident}

theorem Adds.tell {user : Ident} {users : List Ident}
    (h : Adds e older s ⟨.answer (.tell (user :: users)), store, told, sent, scheduled⟩)
    (now : Instant) :
    Adds e older s (Course.step e maxAttempts
      ⟨.answer (.tell (user :: users)), store, told, sent, scheduled⟩ now) := by
  simp only [Course.step]
  split
  · next n s' hn =>
      obtain ⟨notifications, fault, supply, rfl, hle, htold⟩ := Store.ensureNotification_ok hn
      refine { h with told := fun k => ?_, below := ?_, next := trivial }
      · rw [htold, h.told]
        simp [or_and_right, exists_or, or_assoc]
      · exact fun r hr => (h.below r hr).trans_le hle
  · next err s' hn =>
      rw [Store.ensureNotification_failed hn]
      exact { h with next := trivial }

theorem Adds.send {webhook : Ident} {webhooks : List Ident}
    (h : Adds e older s ⟨.answer (.send (webhook :: webhooks)), store, told, sent, scheduled⟩)
    (now : Instant) :
    Adds e older s (Course.step e maxAttempts
      ⟨.answer (.send (webhook :: webhooks)), store, told, sent, scheduled⟩ now) := by
  cases hd : store.ensureDelivery webhook e.id now with
  | mk d s' =>
      obtain ⟨deliveries, supply, rfl, hle, hsent, hid, hmono⟩ := Store.ensureDelivery_ok hd
      simp only [Course.step, hd]
      refine { h with sent := fun k => ?_, below := ?_, known := ?_, next := .inr hid }
      · rw [hsent, h.sent]
        simp [or_and_right, exists_or, or_assoc]
      · exact fun r hr => (h.below r hr).trans_le hle
      · exact fun x hx => (h.known x hx).imp_right (hmono x)

theorem Adds.schedule {delivery : Ident} {webhooks : List Ident}
    (h : Adds e older s ⟨.answer (.schedule delivery webhooks), store, told, sent, scheduled⟩)
    (now : Instant) :
    Adds e older s (Course.step e maxAttempts
      ⟨.answer (.schedule delivery webhooks), store, told, sent, scheduled⟩ now) := by
  let t := (NewTask.create .deliverWebhook delivery).withMaxAttempts maxAttempts
  have hmax : 1 ≤ t.maxAttempts := Nat.le_max_right maxAttempts 1
  obtain ⟨outbox, supply, hs', hsound, hbelow, hhas⟩ :=
    Store.enqueue_sound h.sound h.below hmax now rfl
  simp only [Course.step, t] at hs' ⊢
  rw [hs']
  refine { h with
    scheduled := fun kind subject => ?_, sound := hsound, below := hbelow
    known := ?_, next := trivial }
  · rw [hhas, h.scheduled, or_assoc, List.mem_append, List.mem_singleton, and_or_left]
    simp only [t, NewTask.create, NewTask.withMaxAttempts, eq_comm (a := delivery)]
  · intro x hx
    rcases List.mem_append.1 hx with hx | hx
    · exact h.known x hx
    · cases List.mem_singleton.1 hx
      exact h.next

end OneCall

theorem Adds.step {c : Course} (h : Adds e older s c) (now : Instant) :
    Adds e older s (c.step e maxAttempts now) := by
  obtain ⟨q, store, told, sent, scheduled⟩ := c
  cases q with
  | look next => exact { h with next := h.next store }
  | answer chores =>
      match chores with
      | .tell [] => exact h
      | .tell (user :: users) => exact h.tell now
      | .send [] => exact h
      | .send (webhook :: webhooks) => exact h.send now
      | .schedule delivery webhooks => exact h.schedule now

theorem Adds.run {c : Course} (h : Adds e older s c) (times : List Instant) :
    Adds e older s (c.run e maxAttempts times) := by
  induction times generalizing c with
  | nil => exact h
  | cons now times ih => exact ih (h.step now)

variable {c : Course}

/-- Where nothing referred to the event, there is in the end what the errand has listed. -/
theorem Adds.rows (h : Adds e older s c) (hs : s.outbox.Sound) (hf : s.Forgets e.id older) :
    (∀ user, (∃ n ∈ c.store.notifications.rows, (n.event, n.user) = (e.id, user)) ↔
      user ∈ c.told) ∧
    (∀ webhook, (∃ d ∈ c.store.deliveries.rows, (d.webhook, d.event) = (webhook, e.id)) ↔
      webhook ∈ c.sent) ∧
    ∀ kind subject, (∃ r ∈ c.store.outbox.rows.rows, r.kind = kind ∧ r.subject = subject) ↔
      (∃ r ∈ s.outbox.rows.rows, r.kind = kind ∧ r.subject = subject) ∨
        .deliverWebhook = kind ∧ subject ∈ c.scheduled := by
  refine ⟨fun user => ?_, fun webhook => ?_, fun kind subject => ?_⟩
  · have hnone : ¬ s.notifications.contains (e.id, user) = true := by
      rw [Table.contains_iff_mem]
      rintro ⟨n, hn, hk⟩
      exact hf.notifications n hn (congrArg Prod.fst hk)
    have htold := h.told (e.id, user)
    rw [Table.contains_iff_mem, or_iff_right hnone] at htold
    exact htold.trans (by simp)
  · have hnone : ¬ s.deliveries.contains (webhook, e.id) = true := by
      rw [Table.contains_iff_mem]
      rintro ⟨d, hd, hk⟩
      exact hf.deliveries d hd (congrArg Prod.snd hk)
    have hsent := h.sent (webhook, e.id)
    rw [Table.contains_iff_mem, or_iff_right hnone] at hsent
    exact hsent.trans (by simp)
  · rw [h.sound.exists_row_iff, h.scheduled, hs.exists_row_iff]

/-- Nothing refers to the event in the end if and only if nothing has been written. -/
theorem Adds.forgets_iff (h : Adds e older s c) (hs : s.outbox.Sound) (hf : s.Forgets e.id older) :
    c.store.Forgets e.id older ↔ c.told = [] ∧ c.sent = [] ∧ c.scheduled = [] := by
  obtain ⟨htold, hsent, htasks⟩ := h.rows hs hf
  constructor
  · intro hlast
    refine ⟨?_, ?_, ?_⟩ <;> apply List.eq_nil_iff_forall_not_mem.2
    · intro user hm
      obtain ⟨n, hn, hk⟩ := (htold user).2 hm
      exact hlast.notifications n hn (congrArg Prod.fst hk)
    · intro webhook hm
      obtain ⟨d, hd, hk⟩ := (hsent webhook).2 hm
      exact hlast.deliveries d hd (congrArg Prod.snd hk)
    · intro d hm
      obtain ⟨r, hr, -, hsubject⟩ := (htasks .deliverWebhook d).2 (.inr ⟨rfl, hm⟩)
      rcases h.known d hm with hold | hnew
      · exact (hlast.tasks r hr).2 (hsubject ▸ hold)
      · obtain ⟨x, hx, hevent, -⟩ := Store.mem_deliveryIdsOf.1 hnew
        exact hlast.deliveries x hx hevent
  · rintro ⟨hnone, hnone', hnone''⟩
    rw [hnone] at htold
    rw [hnone'] at hsent
    rw [hnone''] at htasks
    refine ⟨fun n hn he => ?_, fun d hd he => ?_, fun r hr => ?_⟩
    · exact List.not_mem_nil ((htold n.user).1 ⟨n, hn, by rw [he]⟩)
    · exact List.not_mem_nil ((hsent d.webhook).1 ⟨d, hd, by rw [he]⟩)
    · rcases (htasks r.kind r.subject).1 ⟨r, hr, rfl, rfl⟩ with ⟨r', hr', -, hsubject⟩ | ⟨-, hm⟩
      · exact hsubject ▸ hf.tasks r' hr'
      · exact (List.not_mem_nil hm).elim

/-- Where no fault is armed, the next user is told. -/
theorem step_tell (e : Event) (maxAttempts : Nat) {user : Ident} {users : List Ident}
    (h : c.errand = .answer (.tell (user :: users))) (hf : c.store.notificationFault = none)
    (now : Instant) : ∃ s, s.notificationFault = none ∧ c.step e maxAttempts now =
      { c with errand := .answer (.tell users), store := s, told := c.told ++ [user] } := by
  cases hn : c.store.notifications.find? (e.id, user) with
  | some n =>
      refine ⟨c.store, hf, ?_⟩
      simp only [step, h, Store.ensureNotification_of_some e.creator now hn]
  | none =>
      have hzero : c.store.notificationFault ≠ some 0 := by simp [hf]
      have hnone := Store.ensureNotification_of_none e.creator now hn hzero
      refine ⟨(c.store.ensureNotification user e.id e.creator now).2, ?_, ?_⟩
      · rw [hnone, hf]
        rfl
      · simp only [step, h, hnone]

/-- Where no fault is armed, the users are told in turn. -/
theorem run_tell (e : Event) (maxAttempts : Nat) {users : List Ident}
    (h : c.errand = .answer (.tell users)) (hf : c.store.notificationFault = none)
    (times : List Instant) :
    ∃ rest, (c.run e maxAttempts times).errand = .answer (.tell rest) ∧
      (c.run e maxAttempts times).told ++ rest = c.told ++ users := by
  induction times generalizing c users with
  | nil => exact ⟨users, h, rfl⟩
  | cons now times ih =>
      cases users with
      | nil =>
          have hover : c.isOver = true := by rw [isOver, h]
          rw [run_of_over hover]
          exact ⟨[], h, rfl⟩
      | cons user users =>
          obtain ⟨s, hs, hstep⟩ := step_tell e maxAttempts h hf now
          obtain ⟨rest, hrest, htold⟩ := ih (congrArg Course.errand hstep) (hstep ▸ hs)
          refine ⟨rest, hrest, htold.trans ?_⟩
          rw [hstep, List.append_assoc]
          rfl

/-- The webhooks are sent to in turn. -/
theorem run_send (e : Event) (maxAttempts : Nat) {webhooks : List Ident}
    (h : c.HasToSend webhooks) (times : List Instant) :
    ∃ rest, (c.run e maxAttempts times).HasToSend rest ∧
      (c.run e maxAttempts times).sent ++ rest = c.sent ++ webhooks := by
  induction times generalizing c webhooks with
  | nil => exact ⟨webhooks, h, rfl⟩
  | cons now times ih =>
      have hnext : ∃ rest, (c.step e maxAttempts now).HasToSend rest ∧
          (c.step e maxAttempts now).sent ++ rest = c.sent ++ webhooks := by
        rcases h with h | ⟨d, h⟩
        · cases webhooks with
          | nil =>
              refine ⟨[], .inl ?_, ?_⟩ <;> simp only [step, h]
          | cons webhook webhooks =>
              let d := (c.store.ensureDelivery webhook e.id now).1
              refine ⟨webhooks, .inr ⟨d.id, ?_⟩, ?_⟩
              · simp only [step, h, d]
              · simp only [step, h, List.append_assoc, List.singleton_append]
        · refine ⟨webhooks, .inl ?_, ?_⟩ <;> simp only [step, h]
      obtain ⟨rest, hrest, hsent⟩ := hnext
      obtain ⟨last, hlast, hall⟩ := ih hrest
      exact ⟨last, hlast, hall.trans hsent⟩

theorem scheduled_step (c : Course) (now : Instant) :
    c.scheduled <+: (c.step e maxAttempts now).scheduled := by
  unfold step
  split
  case h_6 => exact List.prefix_append _ _
  case h_4 => split <;> exact List.prefix_rfl
  all_goals exact List.prefix_rfl

theorem scheduled_run (c : Course) (times : List Instant) :
    c.scheduled <+: (c.run e maxAttempts times).scheduled := by
  induction times generalizing c with
  | nil => exact List.prefix_rfl
  | cons now times ih => exact (c.scheduled_step now).trans (ih _)

/-- An errand that gets to its end has written to all that it had left. -/
theorem made_of_over {times : List Instant}
    (hover : (c.run e maxAttempts times).isOver = true) :
    (∀ users, c.errand = .answer (.tell users) → c.store.notificationFault = none →
      (c.run e maxAttempts times).told = c.told ++ users) ∧
    (∀ webhooks, c.HasToSend webhooks →
      (c.run e maxAttempts times).sent = c.sent ++ webhooks) ∧
    ∀ d webhooks, c.errand = .answer (.schedule d webhooks) →
      d ∈ (c.run e maxAttempts times).scheduled := by
  refine ⟨fun users h hf => ?_, fun webhooks h => ?_, fun d webhooks h => ?_⟩
  · obtain ⟨rest, hrest, htold⟩ := run_tell e maxAttempts h hf times
    rw [isOver, hrest] at hover
    cases rest with
    | nil => rw [← htold, List.append_nil]
    | cons user rest => cases hover
  · obtain ⟨rest, hrest, hsent⟩ := run_send e maxAttempts h times
    rcases hrest with hrest | ⟨d, hrest⟩ <;> rw [isOver, hrest] at hover
    · cases rest with
      | nil => rw [← hsent, List.append_nil]
      | cons webhook rest => cases hover
    · cases hover
  · cases times with
    | nil =>
        change c.isOver = true at hover
        rw [isOver, h] at hover
        cases hover
    | cons now times =>
        apply (scheduled_run (c.step e maxAttempts now) times).subset
        simp only [step, h]
        exact List.mem_append_right _ (List.mem_singleton_self d)

end Course

namespace Handlers

/-- A handler starts with telling or sending; what it schedules, it has made sure of before. -/
theorem all_errand (h : Handlers) (e : Event) (f : Fanout) (p : Ident → Prop) :
    (h.errand e f).All (Chores.SchedulesOnly p) := by
  cases f with
  | notify =>
      apply Inquiry.All.bind
      intro users
      split
      · trivial
      · trivial
  | dispatch =>
      unfold errand
      split_ifs
      · exact fun s => trivial
      · trivial

end Handlers

namespace System

open Course (start)

/-- A card is destroyed after a handler has found an event on it and has made any of its calls. This
succeeds, and leaves nothing that refers to the event or to its deliveries. The handler gets to its
end all the same, and what it writes from then on stays: at any time there are the notifications and
deliveries of the event and the further tasks that it has written since, so nothing refers to the
event if and only if it has written nothing. At its end it has written to all that it had left. -/
theorem removal_during_fanout {sys : System} (h : sys.store.Seeded) (g : Setup)
    (calls : List (Instant × SystemCall)) {e : Event} {card : Ident}
    (he : (sys.run g calls).store.events.find? e.id = some e)
    (hcard : (sys.run g calls).store.IsOn card e) (f : Fanout) (before after : List Instant)
    (now : Instant) :
    let run := Course.run e g.handlers.dispatcher.maxAttempts
    let c := run (start (g.handlers.errand e f) (sys.run g calls).store) before
    let s := (Cards.destroy c.store now card).2
    (Cards.destroy c.store now card).1 = .ok () ∧ c.Leaves e s (run (start c.errand s) after) ∧
      ∃ n, ∀ later : List Instant, n ≤ later.length →
        (run (start c.errand s) later).isOver = true := by
  intro run c s
  let older := c.store.deliveryIdsOf e.id
  let last := run (start c.errand s) after
  have hlinked := linked_run h g calls
  have hc : Course.Adds e [] (sys.run g calls).store c := by
    refine (Course.Adds.of_start hlinked.sound hlinked.fresh.tasks ?_).run before
    exact g.handlers.all_errand e f _
  -- The event and its card are still there after the calls before.
  have hrow : e ∈ (sys.run g calls).store.events.rows := (Table.find?_eq_some_iff.1 he).1
  have hrow' : e ∈ c.store.events.rows := hc.events ▸ hrow
  have hcard' : c.store.IsOn card e := by
    unfold Store.IsOn
    rw [hc.comments]
    exact hcard
  have hthere : c.store.cards.contains card = true := by
    rw [hc.cards, Table.contains_iff_mem]
    exact List.mem_map.1 (hlinked.mem_cardIds_of_isOn hrow hcard)
  have heq : Cards.destroy c.store now card = (.ok (), c.store.removeCards [card]) := by
    rw [Store.destroy_eq, if_pos hthere]
  have hs : s = c.store.removeCards [card] := congrArg Prod.snd heq
  have hforgets : s.Forgets e.id older := hs ▸ Store.forgets_removeCards hrow' hcard'
  have hsound : s.outbox.Sound := hs ▸ hc.sound.remove _
  have hbelow : s.outbox.Below s.supply.next := by
    rw [hs]
    exact fun r hr => hc.below r (List.mem_filter.1 hr).1
  have hlast : Course.Adds e older s last := by
    refine (Course.Adds.of_start hsound hbelow ?_).run after
    refine hc.next.imp fun chores => Chores.SchedulesOnly.imp fun d hd => ?_
    exact .inl (hd.resolve_left List.not_mem_nil)
  obtain ⟨htold, hsent, htasks⟩ := hlast.rows hsound hforgets
  have hleaves : c.Leaves e s last := {
    clean := hforgets
    told := htold
    sent := hsent
    scheduled := htasks
    known := hlast.known
    forgets_iff := hlast.forgets_iff hsound hforgets
    all_told := fun hover hf users h => (Course.made_of_over hover).1 users h hf
    all_sent := fun hover => (Course.made_of_over hover).2.1
    pending := fun hover => (Course.made_of_over hover).2.2 }
  exact ⟨congrArg Prod.fst heq, hleaves, Course.exists_overWithin _⟩

/-- A card is published on a board that one user watches, and destroyed once the handler knows whom
to tell: the user is told of an event that is gone. -/
theorem removal_before_notification :
    let now : Instant := ⟨0, 0⟩
    let seed := ((Store.empty 10).addUser ⟨⟨1⟩, ⟨9⟩, "ada", .member⟩).addUser
      ⟨⟨3⟩, ⟨9⟩, "bob", .member⟩
    let sys : System := ⟨seed.addBoard ⟨⟨2⟩, ⟨9⟩, "ops", [⟨3⟩]⟩, .standard⟩
    let g : Setup := ⟨.standard, .ofConfig .standard, .standard⟩
    let calls : List (Instant × SystemCall) :=
      [(now, .createDraft ⟨2⟩ ⟨1⟩ "plan"), (now, .changeCard ⟨10⟩ ⟨1⟩ .publish)]
    let e : Event := ⟨⟨11⟩, ⟨9⟩, ⟨2⟩, ⟨1⟩, .card ⟨10⟩, Action.cardPublished, [], now⟩
    let run := Course.run e g.handlers.dispatcher.maxAttempts
    let c := run (start (g.handlers.errand e .notify) (sys.run g calls).store) [now, now, now, now]
    let s := (Cards.destroy c.store now ⟨10⟩).2
    let last := run (start c.errand s) [now]
    (sys.run g calls).store.events.find? e.id = some e ∧
      (Cards.destroy c.store now ⟨10⟩).1 = .ok () ∧ s.Forgets e.id (c.store.deliveryIdsOf e.id) ∧
      last.isOver = true ∧ last.store.events.find? e.id = none ∧
      (∃ n ∈ last.store.notifications.rows, (n.event, n.user) = (e.id, ⟨3⟩)) ∧
      ¬ last.store.Forgets e.id (c.store.deliveryIdsOf e.id) := by
  intro now seed sys g calls e run c s last
  have hseed : sys.store.Seeded := ⟨rfl, rfl, rfl, rfl, rfl, rfl⟩
  have he : (sys.run g calls).store.events.find? e.id = some e := by decide +kernel
  have hcard : (sys.run g calls).store.IsOn ⟨10⟩ e := .inl rfl
  have htold : last.told = [⟨3⟩] := by decide +kernel
  obtain ⟨hok, hleaves, -⟩ :=
    removal_during_fanout hseed g calls he hcard .notify [now, now, now, now] [now] now
  have hlast : c.Leaves e s last := hleaves
  have huser : ∃ n ∈ last.store.notifications.rows, (n.event, n.user) = (e.id, ⟨3⟩) := by
    rw [hlast.told, htold]
    exact List.mem_singleton_self _
  refine ⟨he, hok, hlast.clean, by decide +kernel, by decide +kernel, huser, ?_⟩
  rw [hlast.forgets_iff, htold]
  exact fun hnone => nomatch hnone.1

end System

end BoardActivity
