import BoardActivity.Proofs.CardRemoval
import BoardActivity.Proofs.OperationEffects
import BoardActivity.Proofs.SystemRuns

/-!
# References between records

Notifications and deliveries belong to events, events to cards and comments, comments to cards,
tasks to events and deliveries. None of these references ever points nowhere, and no task is
missing: the outbox has exactly the two tasks of each event and the one task of each delivery.

That removing a card takes along the right tasks rests on identifiers being distinct across tables,
since tasks are removed by their subject alone, whether it is an event or a delivery. So all
identifiers taken from the supply are kept account of together (`Store.minted`).
-/

namespace BoardActivity

namespace Store

def cardIds (s : Store) : List Ident := s.cards.rows.map Card.id
def commentIds (s : Store) : List Ident := s.comments.rows.map Comment.id
def eventIds (s : Store) : List Ident := s.events.rows.map Event.id
def notificationIds (s : Store) : List Ident := s.notifications.rows.map Notification.id
def deliveryIds (s : Store) : List Ident := s.deliveries.rows.map Delivery.id
def taskIds (s : Store) : List Ident := s.outbox.rows.rows.map TaskRow.id
def webhookIds (s : Store) : List Ident := s.webhooks.rows.map Webhook.id

/-- The identifiers of all rows that have theirs from the supply. -/
def minted (s : Store) : List Ident :=
  s.cardIds ++ s.commentIds ++ s.eventIds ++ s.notificationIds ++ s.deliveryIds ++ s.taskIds

structure Counted (s : Store) : Prop where
  distinct : s.minted.Nodup
  below : ∀ id ∈ s.minted, id.value < s.supply.next

/-- What an event is about is there. -/
def HasEventable (s : Store) (ref : EventableRef) : Prop :=
  match ref.kind with
  | .card => ref.id ∈ s.cardIds
  | .comment => ref.id ∈ s.commentIds

/-- There is to be a task of the kind for the subject. -/
def Owes (s : Store) (kind : TaskKind) (subject : Ident) : Prop :=
  match kind with
  | .notify | .dispatchWebhooks => subject ∈ s.eventIds
  | .deliverWebhook => subject ∈ s.deliveryIds

/-- No reference points nowhere, and the outbox has exactly the tasks that are owed. -/
structure Linked (s : Store) : Prop where
  counted : s.Counted
  sound : s.outbox.Sound
  notified : ∀ n ∈ s.notifications.rows, n.event ∈ s.eventIds
  delivered : ∀ d ∈ s.deliveries.rows, d.event ∈ s.eventIds ∧ d.webhook ∈ s.webhookIds
  eventables : ∀ e ∈ s.events.rows, s.HasEventable e.eventable
  commented : ∀ c ∈ s.comments.rows, c.card ∈ s.cardIds
  scheduled : ∀ kind subject, s.outbox.has kind subject = true ↔ s.Owes kind subject

variable {s s' : Store}

/-- The two identifiers that come next. -/
theorem range_of_pair {n : Nat} {id : Ident} (h : id ∈ [(⟨n⟩ : Ident), ⟨n + 1⟩]) :
    n ≤ id.value ∧ id.value < n + 2 := by
  rcases List.mem_pair.1 h with rfl | rfl
  · exact ⟨le_rfl, Nat.lt_add_of_pos_right Nat.two_pos⟩
  · exact ⟨Nat.le_succ n, Nat.lt_succ_self (n + 1)⟩

theorem count_minted (s : Store) (id : Ident) : s.minted.count id =
    s.cardIds.count id + s.commentIds.count id + s.eventIds.count id + s.notificationIds.count id +
      s.deliveryIds.count id + s.taskIds.count id := by
  simp only [minted, List.count_append]

/-- Identifiers stay distinct when rows go, and when rows come under new identifiers. -/
theorem Counted.of_added (h : s.Counted) {added : List Ident} (hd : added.Nodup)
    (hrange : ∀ id ∈ added, s.supply.next ≤ id.value ∧ id.value < s'.supply.next)
    (hle : s.supply.next ≤ s'.supply.next)
    (hcount : ∀ id, s'.minted.count id ≤ s.minted.count id + added.count id) : s'.Counted := by
  refine ⟨?_, ?_⟩
  · apply List.nodup_iff_count_le_one.2
    intro id
    have hold := List.nodup_iff_count_le_one.1 h.distinct id
    have hnew := List.nodup_iff_count_le_one.1 hd id
    have hboth := hcount id
    by_cases ha : id ∈ added
    · have hfresh : s.minted.count id = 0 := by
        apply List.count_eq_zero.2
        intro hm
        have hlt := h.below id hm
        have hge := (hrange id ha).1
        omega
      omega
    · have hzero : added.count id = 0 := List.count_eq_zero.2 ha
      omega
  · intro id hm
    have hpos := List.count_pos_iff.2 hm
    have hboth := hcount id
    by_cases ha : id ∈ added
    · exact (hrange id ha).2
    · have hzero : added.count id = 0 := List.count_eq_zero.2 ha
      have hin : id ∈ s.minted := List.count_pos_iff.1 (by omega)
      exact (h.below id hin).trans_le hle

/-- Rows that go free their identifiers only. -/
theorem Counted.of_count_le (h : s.Counted) (hle : s.supply.next ≤ s'.supply.next)
    (hcount : ∀ id, s'.minted.count id ≤ s.minted.count id) : s'.Counted :=
  h.of_added List.nodup_nil (fun _ hm => (List.not_mem_nil hm).elim) hle
    fun id => (hcount id).trans (Nat.le_add_right _ _)

/-- A row comes under the next identifier. -/
theorem Counted.of_next (h : s.Counted) (hnext : s'.supply.next = s.supply.next + 1)
    (hcount : ∀ id, s'.minted.count id ≤
      s.minted.count id + [(⟨s.supply.next⟩ : Ident)].count id) : s'.Counted := by
  refine h.of_added (List.nodup_singleton _) (fun id hm => ?_) (hnext ▸ Nat.le_succ _) hcount
  rw [List.mem_singleton.1 hm, hnext]
  exact ⟨le_rfl, Nat.lt_succ_self _⟩

theorem Counted.below_of_mem (h : s.Counted) {id : Ident}
    (hid : id ∈ s.cardIds ∨ id ∈ s.commentIds ∨ id ∈ s.eventIds ∨ id ∈ s.notificationIds ∨
      id ∈ s.deliveryIds ∨ id ∈ s.taskIds) : id.value < s.supply.next := by
  apply h.below
  simp only [minted, List.mem_append]
  tauto

/-- Events and deliveries have different identifiers. -/
theorem Counted.event_ne_delivery (h : s.Counted) {id : Ident} (he : id ∈ s.eventIds) :
    id ∉ s.deliveryIds := by
  intro hd
  have hone := List.nodup_iff_count_le_one.1 h.distinct id
  rw [count_minted] at hone
  have hepos := List.count_pos_iff.2 he
  have hdpos := List.count_pos_iff.2 hd
  omega

/-- Cards and comments have different identifiers. -/
theorem Counted.card_ne_comment (h : s.Counted) {id : Ident} (hc : id ∈ s.cardIds) :
    id ∉ s.commentIds := by
  intro hx
  have hone := List.nodup_iff_count_le_one.1 h.distinct id
  rw [count_minted] at hone
  have hcpos := List.count_pos_iff.2 hc
  have hxpos := List.count_pos_iff.2 hx
  omega

theorem Counted.delivery_nodup (h : s.Counted) : s.deliveryIds.Nodup := by
  apply List.nodup_iff_count_le_one.2
  intro id
  have hone := List.nodup_iff_count_le_one.1 h.distinct id
  rw [count_minted] at hone
  omega

theorem Linked.fresh (h : s.Linked) : s.Fresh := by
  have hb := h.counted
  refine ⟨?_, ?_, ?_, ?_, ?_⟩
  · exact fun c hc => hb.below_of_mem (.inl (List.mem_map_of_mem hc))
  · exact fun c hc => hb.below_of_mem (.inr (.inl (List.mem_map_of_mem hc)))
  · exact fun e he => hb.below_of_mem (.inr (.inr (.inl (List.mem_map_of_mem he))))
  · exact fun r hr =>
      hb.below_of_mem (.inr (.inr (.inr (.inr (.inr (List.mem_map_of_mem hr))))))
  · intro e he
    have hf : s.outbox.index.find? (e.kind, e.subject) = some e := Table.mem_rows_iff.1 he
    have howes := (h.scheduled e.kind e.subject).1 (Outbox.has_iff.2 ⟨e, hf⟩)
    cases hk : e.kind with
    | notify | dispatchWebhooks =>
        rw [hk] at howes
        exact hb.below_of_mem (.inr (.inr (.inl howes)))
    | deliverWebhook =>
        rw [hk] at howes
        exact hb.below_of_mem (.inr (.inr (.inr (.inr (.inl howes)))))

theorem HasEventable.mono {ref : EventableRef} (h : s.HasEventable ref)
    (hcards : ∀ id ∈ s.cardIds, id ∈ s'.cardIds)
    (hcomments : ∀ id ∈ s.commentIds, id ∈ s'.commentIds) : s'.HasEventable ref := by
  unfold HasEventable at h ⊢
  split at h
  · exact hcards _ h
  · exact hcomments _ h

/-- What matters to references is where they lead from and to. -/
theorem Linked.frame (h : s.Linked) (hcards : s'.cards = s.cards)
    (hcomments : s'.comments = s.comments) (hevents : s'.events = s.events)
    (hnotifications : s'.notifications = s.notifications)
    (hdeliveries : s'.deliveries = s.deliveries) (houtbox : s'.outbox = s.outbox)
    (hwebhooks : ∀ id ∈ s.webhookIds, id ∈ s'.webhookIds) (hle : s.supply.next ≤ s'.supply.next) :
    s'.Linked := by
  have hcounted : s'.Counted := by
    refine h.counted.of_count_le hle fun id => ?_
    simp only [count_minted, cardIds, commentIds, eventIds, notificationIds, deliveryIds, taskIds,
      hcards, hcomments, hevents, hnotifications, hdeliveries, houtbox, le_refl]
  obtain ⟨-, hsound, hn, hd, he, hc, ho⟩ := h
  simp only [HasEventable, Owes, eventIds, cardIds, commentIds, deliveryIds] at hn hd he hc ho
  refine ⟨hcounted, ?_, ?_, ?_, ?_, ?_, ?_⟩ <;>
    simp only [HasEventable, Owes, eventIds, cardIds, commentIds, deliveryIds, hcards, hcomments,
      hevents, hnotifications, hdeliveries, houtbox]
  · exact hsound
  · exact hn
  · exact fun d hm => ⟨(hd d hm).1, hwebhooks _ (hd d hm).2⟩
  · exact he
  · exact hc
  · exact ho

theorem Linked.saveWebhook (h : s.Linked) (w : Webhook) : (s.saveWebhook w).Linked :=
  h.frame rfl rfl rfl rfl rfl rfl (fun _ hm => Table.key_mem_putRow.2 (.inr hm)) le_rfl

/-- A card is written anew in its place. -/
theorem Linked.putCard (h : s.Linked) {c c' : Card} (hf : s.cards.find? c'.id = some c) :
    ({ s with cards := s.cards.put c' } : Store).Linked := by
  have hids : ({ s with cards := s.cards.put c' } : Store).cardIds = s.cardIds :=
    Table.map_put_of_present Card.id hf (Table.find?_eq_some_iff.1 hf).2.symm
  obtain ⟨hcounted, hsound, hn, hd, he, hc, ho⟩ := h
  refine ⟨?_, hsound, hn, hd, ?_, ?_, ho⟩
  · refine hcounted.of_count_le le_rfl fun id => ?_
    rw [count_minted, count_minted, hids]
    exact le_rfl
  · exact fun e hm => (he e hm).mono (fun id hi => hids ▸ hi) fun _ hi => hi
  · intro c hm
    rw [hids]
    exact hc c hm

/-- A card is added under the next identifier. -/
theorem Linked.addCard (h : s.Linked) {c : Card} (hid : c.id = ⟨s.supply.next⟩) :
    ({ s with cards := s.cards.put c, supply := ⟨s.supply.next + 1⟩ } : Store).Linked := by
  have hnone : s.cards.find? c.id = none := h.fresh.find?_card (hid ▸ le_rfl)
  have hids : ({ s with cards := s.cards.put c, supply := ⟨s.supply.next + 1⟩ } : Store).cardIds =
      s.cardIds ++ [c.id] := by
    simp only [cardIds, Table.rows_put_of_absent hnone, List.map_append, List.map_singleton]
  obtain ⟨hcounted, hsound, hn, hd, he, hc, ho⟩ := h
  refine ⟨?_, hsound, hn, hd, ?_, ?_, ho⟩
  · refine hcounted.of_next rfl fun id => ?_
    rw [count_minted, count_minted, hids, List.count_append, hid]
    simp only [commentIds, eventIds, notificationIds, deliveryIds, taskIds]
    omega
  · exact fun e hm => (he e hm).mono (fun id hi => hids ▸ List.mem_append_left _ hi) fun _ hi => hi
  · intro x hm
    rw [hids]
    exact List.mem_append_left _ (hc x hm)

/-- A comment on a card is added under the next identifier. -/
theorem Linked.addComment (h : s.Linked) {c : Comment} (hid : c.id = ⟨s.supply.next⟩)
    (hcard : c.card ∈ s.cardIds) :
    ({ s with comments := s.comments.put c, supply := ⟨s.supply.next + 1⟩ } : Store).Linked := by
  have hnone : s.comments.find? c.id = none := h.fresh.find?_comment (hid ▸ le_rfl)
  have hrows : (s.comments.put c).rows = s.comments.rows ++ [c] := Table.rows_put_of_absent hnone
  have hids :
      ({ s with comments := s.comments.put c, supply := ⟨s.supply.next + 1⟩ } : Store).commentIds =
        s.commentIds ++ [c.id] := by
    simp only [commentIds, hrows, List.map_append, List.map_singleton]
  obtain ⟨hcounted, hsound, hn, hd, he, hc, ho⟩ := h
  refine ⟨?_, hsound, hn, hd, ?_, ?_, ho⟩
  · refine hcounted.of_next rfl fun id => ?_
    rw [count_minted, count_minted, hids, List.count_append, hid]
    simp only [cardIds, eventIds, notificationIds, deliveryIds, taskIds]
    omega
  · exact fun e hm => (he e hm).mono (fun _ hi => hi) fun id hi => hids ▸ List.mem_append_left _ hi
  · intro x hm
    rcases List.mem_append.1 (hrows ▸ hm) with hx | hx
    · exact hc x hx
    · cases List.mem_singleton.1 hx
      exact hcard

/-- The rows of the outbox change in place. -/
theorem Linked.changeTasks (h : s.Linked) {o : Outbox}
    (hids : o.rows.rows.map TaskRow.id = s.outbox.rows.rows.map TaskRow.id)
    (hindex : o.index = s.outbox.index) (hsound : o.Sound) :
    ({ s with outbox := o } : Store).Linked := by
  obtain ⟨hcounted, -, hn, hd, he, hc, ho⟩ := h
  refine ⟨?_, hsound, hn, hd, he, hc, ?_⟩
  · refine hcounted.of_count_le le_rfl fun id => ?_
    simp only [count_minted, cardIds, commentIds, eventIds, notificationIds, deliveryIds, taskIds,
      hids, le_refl]
  · intro kind subject
    rw [Outbox.has, hindex]
    exact ho kind subject

theorem Linked.settle (h : s.Linked) {o : Outbox} (hs : s.outbox.Settled o) :
    ({ s with outbox := o } : Store).Linked := by
  refine h.changeTasks ?_ ?_ (h.sound.settle hs)
  · obtain ⟨f, hf, -, rfl⟩ := hs
    exact List.map_map.trans (List.map_congr_left fun r _ => hf r)
  · obtain ⟨f, hf, -, rfl⟩ := hs
    rfl

theorem Linked.claim (h : s.Linked) (worker : String) (kinds : List TaskKind) (max : Nat)
    (now : Instant) : (s.claim worker kinds max now).2.Linked := by
  have heq := s.outbox.claim_eq_update worker kinds max now
  have hids : (s.outbox.claim worker kinds max now).2.rows.rows.map TaskRow.id =
      s.outbox.rows.rows.map TaskRow.id := by
    rw [heq]
    refine List.map_map.trans (List.map_congr_left fun r _ => ?_)
    exact TaskRow.id_of_face_eq (s.outbox.face_claimed worker kinds max now r)
  exact h.changeTasks hids rfl (h.sound.claim worker kinds max now)

/-- A notification about an event is added under the next identifier. -/
theorem Linked.addNotification (h : s.Linked) {n : Notification} {fault : Option Nat}
    (hid : n.id = ⟨s.supply.next⟩) (hnone : s.notifications.find? (n.event, n.user) = none)
    (hevent : n.event ∈ s.eventIds) :
    ({ s with
      notifications := s.notifications.put n
      notificationFault := fault
      supply := ⟨s.supply.next + 1⟩ } : Store).Linked := by
  have hrows : (s.notifications.put n).rows = s.notifications.rows ++ [n] :=
    Table.rows_put_of_absent hnone
  obtain ⟨hcounted, hsound, hn, hd, he, hc, ho⟩ := h
  refine ⟨?_, hsound, ?_, hd, he, hc, ho⟩
  · refine hcounted.of_next rfl fun id => ?_
    simp only [count_minted, cardIds, commentIds, eventIds, notificationIds, deliveryIds, taskIds,
      hrows, hid, List.map_append, List.map_singleton, List.count_append]
    omega
  · intro x hm
    rcases List.mem_append.1 (hrows ▸ hm) with hx | hx
    · exact hn x hx
    · cases List.mem_singleton.1 hx
      exact hevent

/-- A notification is written anew in its place. -/
theorem Linked.putNotification (h : s.Linked) {n n' : Notification}
    (hf : s.notifications.find? (n'.event, n'.user) = some n) (hid : n'.id = n.id) :
    ({ s with notifications := s.notifications.put n' } : Store).Linked := by
  have hids : (s.notifications.put n').rows.map Notification.id =
      s.notifications.rows.map Notification.id := Table.map_put_of_present Notification.id hf hid
  obtain ⟨hm, hk⟩ := Table.find?_eq_some_iff.1 hf
  obtain ⟨hcounted, hsound, hn, hd, he, hc, ho⟩ := h
  refine ⟨?_, hsound, ?_, hd, he, hc, ho⟩
  · refine hcounted.of_count_le le_rfl fun id => ?_
    simp only [count_minted, cardIds, commentIds, eventIds, notificationIds, deliveryIds, taskIds,
      hids, le_refl]
  · intro x hx
    rcases Table.mem_rows_put.1 hx with rfl | ⟨hx, -⟩
    · have hevent : n.event = x.event := congrArg Prod.fst hk
      exact hevent ▸ hn n hm
    · exact hn x hx

/-- A delivery is written anew in its place. -/
theorem Linked.putDelivery (h : s.Linked) {d d' : Delivery}
    (hf : s.deliveries.find? (d'.webhook, d'.event) = some d) (hid : d'.id = d.id) :
    ({ s with deliveries := s.deliveries.put d' } : Store).Linked := by
  have hids : (s.deliveries.put d').rows.map Delivery.id = s.deliveries.rows.map Delivery.id :=
    Table.map_put_of_present Delivery.id hf hid
  obtain ⟨hm, hk⟩ := Table.find?_eq_some_iff.1 hf
  obtain ⟨hwebhook, hevent⟩ := Prod.mk.inj hk
  obtain ⟨hcounted, hsound, hn, hd, he, hc, ho⟩ := h
  refine ⟨?_, hsound, hn, ?_, he, hc, ?_⟩
  · refine hcounted.of_count_le le_rfl fun id => ?_
    simp only [count_minted, cardIds, commentIds, eventIds, notificationIds, deliveryIds, taskIds,
      hids, le_refl]
  · intro x hx
    rcases Table.mem_rows_put.1 hx with rfl | ⟨hx, -⟩
    · rw [← hwebhook, ← hevent]
      exact hd d hm
    · exact hd x hx
  · intro kind subject
    refine (ho kind subject).trans ?_
    unfold Owes
    simp only [deliveryIds, hids]
    rfl

/-- A delivery of an event to a webhook is added under the next identifier, together with its
task. -/
theorem Linked.addDelivery (h : s.Linked) {d : Delivery} {t : NewTask} (now : Instant)
    (hid : d.id = ⟨s.supply.next⟩) (hnone : s.deliveries.find? (d.webhook, d.event) = none)
    (hevent : d.event ∈ s.eventIds) (hwebhook : d.webhook ∈ s.webhookIds)
    (hkind : t.kind = .deliverWebhook) (hsubject : t.subject = d.id) (hmax : 1 ≤ t.maxAttempts) :
    ({ s with
      deliveries := s.deliveries.put d
      outbox := s.outbox.insert t ⟨s.supply.next + 1⟩ now
      supply := ⟨s.supply.next + 2⟩ } : Store).Linked := by
  have hfresh := h.fresh
  have hrows : (s.deliveries.put d).rows = s.deliveries.rows ++ [d] :=
    Table.rows_put_of_absent hnone
  have htask : s.outbox.rows.find? ⟨s.supply.next + 1⟩ = none :=
    hfresh.tasks.find?_eq_none (Nat.le_succ _)
  have hhas : s.outbox.has t.kind t.subject = false :=
    hfresh.has_eq_false t.kind (by rw [hsubject, hid])
  have htasks := Outbox.insert_rows htask t now
  obtain ⟨hcounted, hsound, hn, hd, he, hc, ho⟩ := h
  refine ⟨?_, hsound.insert hmax hhas htask now, hn, ?_, he, hc, ?_⟩
  · have hnew : [(⟨s.supply.next⟩ : Ident), ⟨s.supply.next + 1⟩].Nodup := by simp
    refine hcounted.of_added hnew ?_ (Nat.le_add_right _ 2) fun id => ?_
    · exact fun id hm => range_of_pair hm
    · simp only [count_minted, cardIds, commentIds, eventIds, notificationIds, deliveryIds, taskIds,
        hrows, htasks, hid, List.map_append, List.map_singleton, List.count_append, TaskRow.ofNew]
      simp only [List.count_cons, List.count_nil]
      omega
  · intro x hm
    rcases List.mem_append.1 (hrows ▸ hm) with hx | hx
    · exact hd x hx
    · cases List.mem_singleton.1 hx
      exact ⟨hevent, hwebhook⟩
  · intro kind subject
    rw [Outbox.has_insert, ho kind subject, hkind, hsubject]
    unfold Owes
    cases kind with
    | notify | dispatchWebhooks => simp [eventIds]
    | deliverWebhook => simp [deliveryIds, hrows, or_comm, eq_comm]

/-! ### Events recorded -/

section Recorded

variable {t : Tracker} {now : Instant} {e : Event} {card c : Card} {comments : List Comment}

theorem eventIds_recorded (h : s.Fresh) (hnew : s.supply.next ≤ e.id.value) :
    (s.recorded t now e card comments).eventIds = s.eventIds ++ [e.id] := by
  have hrows : (s.events.put e).rows = s.events.rows ++ [e] :=
    Table.rows_put_of_absent (h.find?_event hnew)
  simp only [eventIds, Store.recorded, hrows, List.map_append, List.map_singleton]

theorem cardIds_recorded (hcard : s.cards.find? card.id = some c) :
    (s.recorded t now e card comments).cardIds = s.cardIds :=
  Table.map_put_of_present Card.id hcard (Table.find?_eq_some_iff.1 hcard).2.symm

theorem comments_recorded (h : s.Fresh) (hnodup : (comments.map Comment.id).Nodup)
    (hnew : ∀ x ∈ comments, s.supply.next ≤ x.id.value) :
    (s.recorded t now e card comments).comments.rows = s.comments.rows ++ comments :=
  Table.rows_putAll_of_absent (fun x hx => h.find?_comment (hnew x hx)) hnodup

/-- The identifiers of an event, of its comments and of its tasks follow one another. -/
theorem Linked.counted_recorded (h : s.Linked) (hcard : s.cards.find? card.id = some c)
    (hnodup : (e.id :: comments.map Comment.id).Nodup)
    (hrange : ∀ id ∈ e.id :: comments.map Comment.id,
      s.supply.next ≤ id.value ∧ id.value < s.supply.next + 1 + comments.length) :
    (s.recorded t now e card comments).Counted := by
  have hnew : s.supply.next ≤ e.id.value := (hrange e.id List.mem_cons_self).1
  have hle : s.supply.next ≤ s.supply.next + 1 + comments.length := by omega
  have hrows : (s.recorded t now e card comments).comments.rows = s.comments.rows ++ comments :=
    comments_recorded h.fresh (List.nodup_cons.1 hnodup).2 fun x hx =>
      (hrange x.id (List.mem_cons_of_mem _ (List.mem_map_of_mem hx))).1
  have htasks := (recorded_tasks h.fresh hnew t now card comments).1
  generalize hlast : s.supply.next + 1 + comments.length = n at hrange hle htasks
  have hsupply : (s.recorded t now e card comments).supply.next = n + 2 := by
    simp only [Store.recorded, hlast]
  have hpair : [(⟨n⟩ : Ident), ⟨n + 1⟩].Nodup := by simp
  have hdisjoint : ∀ id ∈ e.id :: comments.map Comment.id, id ∉ [(⟨n⟩ : Ident), ⟨n + 1⟩] := by
    intro id hm hp
    have hlt : id.value < n := (hrange id hm).2
    have hge : n ≤ id.value := (range_of_pair hp).1
    omega
  refine h.counted.of_added (List.nodup_append'.2 ⟨hnodup, hpair, hdisjoint⟩) (fun id hm => ?_)
    (hsupply ▸ hle.trans (Nat.le_add_right _ 2)) fun id => ?_
  · rw [hsupply]
    rcases List.mem_append.1 hm with hm | hm
    · exact ⟨(hrange id hm).1, (hrange id hm).2.trans (Nat.lt_add_of_pos_right Nat.two_pos)⟩
    · exact ⟨hle.trans (range_of_pair hm).1, (range_of_pair hm).2⟩
  · rw [count_minted, count_minted, eventIds_recorded h.fresh hnew, cardIds_recorded hcard]
    simp only [commentIds, notificationIds, deliveryIds, taskIds, hrows, htasks]
    simp only [Store.recorded, List.map_append, List.map_cons, List.map_nil, List.count_append,
      List.count_cons, List.count_nil, TaskRow.ofNew]
    omega

theorem has_recorded (t : Tracker) (now : Instant) (e : Event) (card : Card)
    (comments : List Comment) (kind : TaskKind) (subject : Ident) :
    (s.recorded t now e card comments).outbox.has kind subject = true ↔
      s.outbox.has kind subject = true ∨ kind ≠ .deliverWebhook ∧ subject = e.id := by
  simp only [Store.recorded, Outbox.has_insert, NewTask.create, NewTask.withMaxAttempts]
  cases kind with
  | notify | dispatchWebhooks => simp [@eq_comm _ e.id, or_comm]
  | deliverWebhook => simp

/-- An event is recorded, with comments on cards that are there. -/
theorem Linked.recorded (h : s.Linked) (hcard : s.cards.find? card.id = some c)
    (hnodup : (e.id :: comments.map Comment.id).Nodup)
    (hrange : ∀ id ∈ e.id :: comments.map Comment.id,
      s.supply.next ≤ id.value ∧ id.value < s.supply.next + 1 + comments.length)
    (hcomments : ∀ x ∈ comments, x.card ∈ s.cardIds)
    (heventable : e.eventable = .card card.id ∨ ∃ x ∈ comments, e.eventable = .comment x.id) :
    (s.recorded t now e card comments).Linked := by
  have hnew : s.supply.next ≤ e.id.value := (hrange e.id List.mem_cons_self).1
  have hle : s.supply.next ≤ s.supply.next + 1 + comments.length := by omega
  have hkind : ((NewTask.create .notify e.id).withMaxAttempts t.notifyAttempts).kind = .notify :=
    rfl
  obtain ⟨hnotify, hfirst, hdispatch, hsecond⟩ := h.fresh.tasks_absent hnew hle hkind now
  have hevents : (s.recorded t now e card comments).eventIds = s.eventIds ++ [e.id] :=
    eventIds_recorded h.fresh hnew
  have hcards : (s.recorded t now e card comments).cardIds = s.cardIds := cardIds_recorded hcard
  have hrows : (s.recorded t now e card comments).comments.rows = s.comments.rows ++ comments :=
    comments_recorded h.fresh (List.nodup_cons.1 hnodup).2 fun x hx =>
      (hrange x.id (List.mem_cons_of_mem _ (List.mem_map_of_mem hx))).1
  refine ⟨h.counted_recorded hcard hnodup hrange, ?_, fun n hm => ?_, fun d hm => ?_, fun x hm => ?_,
    fun x hm => ?_, fun kind subject => ?_⟩
  · exact (h.sound.insert (Nat.le_max_right _ 1) hfirst hnotify now).insert (Nat.le_max_right _ 1)
      hsecond hdispatch now
  · exact hevents ▸ List.mem_append_left _ (h.notified n hm)
  · exact ⟨hevents ▸ List.mem_append_left _ (h.delivered d hm).1, (h.delivered d hm).2⟩
  · have hcommentIds : (s.recorded t now e card comments).commentIds =
        s.commentIds ++ comments.map Comment.id := by
      simp only [commentIds, hrows, List.map_append]
    rcases Table.mem_rows_put.1 hm with rfl | ⟨hx, -⟩
    · rcases heventable with hr | ⟨y, hy, hr⟩
      · rw [hr]
        exact Table.key_mem_putRow.2 (.inl rfl)
      · rw [hr, HasEventable, hcommentIds]
        exact List.mem_append_right _ (List.mem_map_of_mem hy)
    · exact (h.eventables x hx).mono (fun id hi => hcards ▸ hi)
        fun id hi => hcommentIds ▸ List.mem_append_left _ hi
  · rw [hcards]
    rcases List.mem_append.1 (hrows ▸ hm) with hx | hx
    · exact h.commented x hx
    · exact hcomments x hx
  · rw [has_recorded, h.scheduled]
    unfold Owes
    cases kind with
    | notify | dispatchWebhooks => simp [hevents]
    | deliverWebhook => simp [deliveryIds, Store.recorded]

end Recorded

/-! ### Cards removed -/

/-- If the column tells rows apart, what is kept and what is dropped have no value in common. -/
theorem mem_map_filter_not {α β : Type} {rows : List α} {f : α → β} (hd : (rows.map f).Nodup)
    (p : α → Bool) (x : β) :
    x ∈ (rows.filter fun r => !p r).map f ↔ x ∈ rows.map f ∧ x ∉ (rows.filter p).map f := by
  have hinj := List.inj_on_of_nodup_map hd
  constructor
  · intro hx
    obtain ⟨r, hr, rfl⟩ := List.mem_map.1 hx
    obtain ⟨hr, hp⟩ := List.mem_filter.1 hr
    refine ⟨List.mem_map_of_mem hr, fun hdrop => ?_⟩
    obtain ⟨r', hr', he⟩ := List.mem_map.1 hdrop
    obtain ⟨hr', hp'⟩ := List.mem_filter.1 hr'
    cases hinj hr' hr he
    simp [hp'] at hp
  · rintro ⟨hx, hn⟩
    obtain ⟨r, hr, rfl⟩ := List.mem_map.1 hx
    cases hp : p r with
    | true => exact (hn (List.mem_map_of_mem (List.mem_filter.2 ⟨hr, hp⟩))).elim
    | false => exact List.mem_map_of_mem (List.mem_filter.2 ⟨hr, by simp [hp]⟩)

section Removed

variable {cards : List Ident} {id : Ident}

theorem mem_cardIds_removeCards :
    id ∈ (s.removeCards cards).cardIds ↔ id ∈ s.cardIds ∧ id ∉ cards := by
  simp only [cardIds, Store.removeCards, Table.keep, List.mem_map, List.mem_filter,
    decide_eq_true_eq]
  constructor
  · rintro ⟨c, ⟨hm, hk⟩, rfl⟩
    exact ⟨⟨c, hm, rfl⟩, hk⟩
  · rintro ⟨⟨c, hm, rfl⟩, hk⟩
    exact ⟨c, ⟨hm, hk⟩, rfl⟩

theorem mem_commentIds_removeCards : id ∈ (s.removeCards cards).commentIds ↔
    id ∈ s.commentIds ∧
      id ∉ (s.comments.rows.filter fun c => c.card ∈ cards).map Comment.id := by
  have hkept := mem_map_filter_not s.comments.distinct (fun c => decide (c.card ∈ cards)) id
  simp only [← decide_not] at hkept
  exact hkept

theorem mem_eventIds_removeCards : id ∈ (s.removeCards cards).eventIds ↔
    id ∈ s.eventIds ∧ id ∉ s.eventIdsOn cards :=
  mem_map_filter_not s.events.distinct _ id

theorem Counted.mem_deliveryIds_removeCards (h : s.Counted) :
    id ∈ (s.removeCards cards).deliveryIds ↔ id ∈ s.deliveryIds ∧ id ∉ s.deliveryIdsOn cards := by
  have hkept := mem_map_filter_not h.delivery_nodup
    (fun d => decide (d.event ∈ s.eventIdsOn cards)) id
  simp only [← decide_not] at hkept
  exact hkept

theorem Counted.removeCards (h : s.Counted) (cards : List Ident) :
    (s.removeCards cards).Counted := by
  have hle : ∀ {α : Type} (id : Ident) (rows : List α) (p : α → Bool) (f : α → Ident),
      ((rows.filter p).map f).count id ≤ (rows.map f).count id :=
    fun id rows p f => (List.filter_sublist.map f).count_le id
  refine h.of_count_le le_rfl fun id => ?_
  rw [count_minted, count_minted]
  exact Nat.add_le_add (Nat.add_le_add (Nat.add_le_add (Nat.add_le_add (Nat.add_le_add
    (hle id _ _ _) (hle id _ _ _)) (hle id _ _ _)) (hle id _ _ _)) (hle id _ _ _)) (hle id _ _ _)

/-- What an event that stays is about stays too. -/
theorem HasEventable.removeCards {e : Event} (h : s.HasEventable e.eventable)
    (hkeep : e ∈ (s.removeCards cards).events.rows) :
    (s.removeCards cards).HasEventable e.eventable := by
  have hstays := (List.mem_filter.1 hkeep).2
  unfold HasEventable at h ⊢
  simp only [Transaction.isAbout] at hstays
  cases hk : e.eventable.kind with
  | card =>
      simp only [hk] at h hstays ⊢
      exact mem_cardIds_removeCards.2 ⟨h, by simpa using hstays⟩
  | comment =>
      simp only [hk] at h hstays ⊢
      exact mem_commentIds_removeCards.2 ⟨h, by simpa using hstays⟩

/-- The tasks that go with the cards are those whose events or deliveries go: an event and a delivery
do not share an identifier. -/
theorem Counted.owes_removeCards (h : s.Counted) {kind : TaskKind} {subject : Ident} :
    (s.removeCards cards).Owes kind subject ↔
      s.Owes kind subject ∧ subject ∉ s.eventIdsOn cards ++ s.deliveryIdsOn cards := by
  have hevents : ∀ id ∈ s.eventIdsOn cards, id ∈ s.eventIds :=
    fun id hm => (List.filter_sublist.map Event.id).subset hm
  have hdeliveries : ∀ id ∈ s.deliveryIdsOn cards, id ∈ s.deliveryIds :=
    fun id hm => (List.filter_sublist.map Delivery.id).subset hm
  rw [List.mem_append, not_or]
  unfold Owes
  cases kind with
  | notify | dispatchWebhooks =>
      rw [mem_eventIds_removeCards]
      exact and_congr_right fun hs => (and_iff_left fun hm =>
        h.event_ne_delivery hs (hdeliveries _ hm)).symm
  | deliverWebhook =>
      rw [h.mem_deliveryIds_removeCards]
      exact and_congr_right fun hs => (and_iff_right fun hm =>
        h.event_ne_delivery (hevents _ hm) hs).symm

/-- Removing cards with all that belongs to them leaves no reference behind. -/
theorem Linked.removeCards (h : s.Linked) (cards : List Ident) : (s.removeCards cards).Linked where
  counted := h.counted.removeCards cards
  sound := h.sound.remove _
  notified := fun n hm => by
    obtain ⟨hm, hkeep⟩ := List.mem_filter.1 hm
    exact mem_eventIds_removeCards.2 ⟨h.notified n hm, of_decide_eq_true hkeep⟩
  delivered := fun d hm => by
    obtain ⟨hm, hkeep⟩ := List.mem_filter.1 hm
    obtain ⟨hevent, hwebhook⟩ := h.delivered d hm
    exact ⟨mem_eventIds_removeCards.2 ⟨hevent, of_decide_eq_true hkeep⟩, hwebhook⟩
  eventables := fun e hm => (h.eventables e (List.mem_filter.1 hm).1).removeCards hm
  commented := fun c hm => by
    obtain ⟨hm, hkeep⟩ := List.mem_filter.1 hm
    exact mem_cardIds_removeCards.2 ⟨h.commented c hm, of_decide_eq_true hkeep⟩
  scheduled := fun kind subject => by
    rw [h.counted.owes_removeCards, ← h.scheduled]
    exact s.outbox.has_removeSubjects _ kind subject

end Removed

theorem mem_cardIds {id : Ident} {c : Card} (h : s.cards.find? id = some c) : id ∈ s.cardIds := by
  obtain ⟨hm, hk⟩ := Table.find?_eq_some_iff.1 h
  exact hk ▸ List.mem_map_of_mem hm

end Store

end BoardActivity
