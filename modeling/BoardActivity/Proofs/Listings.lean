import BoardActivity.Proofs.FeedDescriptions
import BoardActivity.Proofs.SharedQueue

/-!
# Listings

A table lists its rows in whatever order they came; a listing does not show it. Each listing has the
rows that it is about once each, in an order that is strict on them and looks at nothing but their
contents (`Lists`), so there is one such list however the tables are listed.

For events, deliveries, and the notifications about an event the order is strict because tables are
keyed. The notifications of a user are told apart by their identifiers, which are taken from the
supply one by one; that these differ is kept by every call (`Store.Noted`).
-/

namespace BoardActivity

/-- A list of the rows that pass a test, each of them once, in a strict order. -/
structure Lists {α : Type} (rows : List α) (p : α → Bool) (before : α → α → Prop)
    (listing : List α) : Prop where
  perm : listing.Perm (rows.filter p)
  ordered : listing.Pairwise before

namespace Lists

variable {α : Type} {rows rows' listing listing' : List α} {p : α → Bool}
  {before : α → α → Prop} {le : α → α → Bool}

/-- However the rows are listed, there is only one such list of them. -/
theorem eq_of_perm (hasymm : ∀ a b, before a b → ¬before b a) (h : Lists rows p before listing)
    (h' : Lists rows' p before listing') (hperm : rows'.Perm rows) : listing' = listing := by
  refine List.Perm.eq_of_pairwise (fun a b _ _ hab hba => ?_) h'.ordered h.ordered ?_
  · exact (hasymm a b hab hba).elim
  · exact h'.perm.trans ((hperm.filter p).trans h.perm.symm)

/-- Rows are listed by sorting them, if the comparison tells any two of them apart. -/
theorem of_mergeSort (htrans : ∀ a b c, le a b = true → le b c = true → le a c = true)
    (htotal : ∀ a b, (le a b || le b a) = true) (hd : rows.Nodup)
    (hstrict : ∀ a ∈ rows, ∀ b ∈ rows, p a = true → p b = true → a ≠ b → le a b = true →
      before a b) :
    Lists rows p before ((rows.filter p).mergeSort le) := by
  have hperm := List.mergeSort_perm (rows.filter p) le
  have hne : ((rows.filter p).mergeSort le).Pairwise (· ≠ ·) :=
    hperm.nodup_iff.2 (hd.filter p)
  refine ⟨hperm, ((List.pairwise_mergeSort htrans htotal _).and hne).imp_of_mem ?_⟩
  intro a b ha hb hboth
  obtain ⟨harow, hpa⟩ := List.mem_filter.1 (hperm.mem_iff.1 ha)
  obtain ⟨hbrow, hpb⟩ := List.mem_filter.1 (hperm.mem_iff.1 hb)
  exact hstrict a harow b hbrow hpa hpb hboth.2 hboth.1

end Lists

namespace Table

variable {α κ : Type} [Keyed α κ] [DecidableEq κ] {t t' : Table α}

omit [DecidableEq κ] in
theorem nodup_rows (t : Table α) : t.rows.Nodup := t.distinct.of_map Keyed.key

/-- A lookup does not depend on the order of the rows. -/
theorem find?_of_perm (h : t'.rows.Perm t.rows) (k : κ) : t'.find? k = t.find? k := by
  refine Option.ext fun r => ?_
  rw [find?_eq_some_iff, find?_eq_some_iff, h.mem_iff]

end Table

/-! ### Orders -/

namespace Ident

variable {a b : Ident}

theorem lt_of_le_of_ne (h : a ≤ b) (hne : a ≠ b) : a < b :=
  Nat.lt_of_le_of_ne h fun heq => hne (by rw [mk.injEq]; exact heq)

theorem lt_asymm (h : a < b) : ¬b < a := Nat.lt_asymm h

theorem decide_le_trans (a b c : Ident) (hab : decide (a ≤ b) = true)
    (hbc : decide (b ≤ c) = true) : decide (a ≤ c) = true :=
  decide_eq_true (Nat.le_trans (of_decide_eq_true hab) (of_decide_eq_true hbc))

theorem decide_le_total (a b : Ident) : (decide (a ≤ b) || decide (b ≤ a)) = true := by
  rw [Bool.or_eq_true, decide_eq_true_eq, decide_eq_true_eq]
  exact Nat.le_total a.value b.value

end Ident

theorem Event.Before.asymm {a b : Event} (h : a.Before b) : ¬b.Before a := by
  unfold Event.Before at *
  rw [Instant.lt_iff, Instant.eq_iff] at *
  change _ ∨ _ ∧ b.id.value < a.id.value at h
  change ¬(_ ∨ _ ∧ a.id.value < b.id.value)
  omega

namespace Event

/-- A list of events that are told apart by their identifiers is sorted in one way only. -/
theorem sortChronologically_of_perm {events events' : List Event} (h : events'.Perm events)
    (hd : (events.map Event.id).Nodup) :
    sortChronologically events' = sortChronologically events := by
  have hd' : (events'.map Event.id).Nodup := (h.map Event.id).nodup_iff.2 hd
  refine List.Perm.eq_of_pairwise (fun a b _ _ hab hba => (hab.asymm hba).elim)
    (pairwise_sortChronologically hd') (pairwise_sortChronologically hd) ?_
  exact (List.mergeSort_perm events' _).trans (h.trans (List.mergeSort_perm events _).symm)

end Event

namespace Notification

/-- The notification comes before the other in a user's list: it is later, or made at the same time
under a greater identifier. -/
def Before (a b : Notification) : Prop :=
  b.createdAt < a.createdAt ∨ a.createdAt = b.createdAt ∧ b.id < a.id

variable {a b c : Notification}

theorem Before.asymm (h : a.Before b) : ¬b.Before a := by
  unfold Before at *
  rw [Instant.lt_iff, Instant.eq_iff] at *
  change _ ∨ _ ∧ b.id.value < a.id.value at h
  change ¬(_ ∨ _ ∧ a.id.value < b.id.value)
  omega

/-- The comparison that a user's notifications are sorted by. -/
def isNoEarlier (a b : Notification) : Bool :=
  b.createdAt.before a.createdAt || (a.createdAt == b.createdAt && decide (b.id ≤ a.id))

theorem isNoEarlier_iff : a.isNoEarlier b = true ↔ (b.createdAt.seconds < a.createdAt.seconds ∨
    b.createdAt.seconds = a.createdAt.seconds ∧ b.createdAt.nanos < a.createdAt.nanos) ∨
    (a.createdAt.seconds = b.createdAt.seconds ∧ a.createdAt.nanos = b.createdAt.nanos) ∧
      b.id.value ≤ a.id.value := by
  rw [isNoEarlier, Bool.or_eq_true, Bool.and_eq_true, beq_iff_eq, decide_eq_true_eq,
    Instant.before_iff, Instant.eq_iff]
  rfl

theorem isNoEarlier_trans (a b c : Notification) (hab : a.isNoEarlier b = true)
    (hbc : b.isNoEarlier c = true) : a.isNoEarlier c = true := by
  rw [isNoEarlier_iff] at *
  omega

theorem isNoEarlier_total (a b : Notification) : (a.isNoEarlier b || b.isNoEarlier a) = true := by
  rw [Bool.or_eq_true, isNoEarlier_iff, isNoEarlier_iff]
  omega

theorem before_of_isNoEarlier (h : a.isNoEarlier b = true) (hne : a.id ≠ b.id) : a.Before b := by
  rw [isNoEarlier, Bool.or_eq_true, Bool.and_eq_true, beq_iff_eq, decide_eq_true_eq] at h
  exact h.imp_right fun ⟨hat, hle⟩ => ⟨hat, Ident.lt_of_le_of_ne hle hne.symm⟩

end Notification

namespace Store

variable {s s' : Store}

/-! ### Listings of events -/

/-- The same records in the tables that listings are made from, in whatever order. -/
structure Relists (s s' : Store) : Prop where
  users : s'.users.rows.Perm s.users.rows
  boards : s'.boards.rows.Perm s.boards.rows
  cards : s'.cards.rows.Perm s.cards.rows
  comments : s'.comments.rows.Perm s.comments.rows
  events : s'.events.rows.Perm s.events.rows
  notifications : s'.notifications.rows.Perm s.notifications.rows
  deliveries : s'.deliveries.rows.Perm s.deliveries.rows

/-- The title of the card, or of the card that the comment is on, as it is now. -/
def Titles (s : Store) (ref : EventableRef) (title : String) : Prop :=
  match ref.kind with
  | .card => ∃ c ∈ s.cards.rows, c.id = ref.id ∧ c.title = title
  | .comment => ∃ x ∈ s.comments.rows, x.id = ref.id ∧
      ∃ c ∈ s.cards.rows, c.id = x.card ∧ c.title = title

theorem summary?_eq_some_iff {ref : EventableRef} {x : EventableSummary} :
    s.summary? ref = some x ↔ x.eventable = ref ∧ s.Titles ref x.title := by
  obtain ⟨kind, id⟩ := ref
  obtain ⟨ref', title⟩ := x
  cases kind with
  | card =>
      simp only [summary?, Titles, Option.bind_some, Option.map_eq_some_iff, Table.find?_eq_some_iff,
        EventableSummary.mk.injEq]
      constructor
      · rintro ⟨c, ⟨hc, hid⟩, rfl, htitle⟩
        exact ⟨rfl, c, hc, hid, htitle⟩
      · rintro ⟨rfl, c, hc, hid, htitle⟩
        exact ⟨c, ⟨hc, hid⟩, rfl, htitle⟩
  | comment =>
      simp only [summary?, Titles, Option.map_eq_some_iff, Option.bind_eq_some_iff,
        Table.find?_eq_some_iff, EventableSummary.mk.injEq]
      constructor
      · rintro ⟨c, ⟨_, ⟨y, ⟨hy, hyid⟩, rfl⟩, hc, hid⟩, rfl, htitle⟩
        exact ⟨rfl, y, hy, hyid, c, hc, hid, htitle⟩
      · rintro ⟨rfl, y, hy, hyid, c, hc, hid, htitle⟩
        exact ⟨c, ⟨_, ⟨y, ⟨hy, hyid⟩, rfl⟩, hc, hid⟩, rfl, htitle⟩

theorem Relists.record (h : s.Relists s') (preload : Preload) (e : Event) :
    s'.record preload e = s.record preload e := by
  unfold Store.record summary?
  rw [Table.find?_of_perm h.users, Table.find?_of_perm h.boards, Table.find?_of_perm h.comments,
    funext (Table.find?_of_perm h.cards)]

structure ListsEvents (s : Store) (q : EventQuery) : Prop where
  events : Lists s.events.rows q.scope.contains Event.Before
    ((s.listEvents { q with limit := none }).map EventRecord.event)
  limited : ∀ n, s.listEvents { q with limit := some n } =
    (s.listEvents { q with limit := none }).take n
  creators : ∀ r ∈ s.listEvents q, ∀ u, r.creator = some u ↔
    q.preload.creator = true ∧ u ∈ s.users.rows ∧ u.id = r.event.creator
  boards : ∀ r ∈ s.listEvents q, ∀ b, r.board = some b ↔
    q.preload.board = true ∧ b ∈ s.boards.rows ∧ b.id = r.event.board
  eventables : ∀ r ∈ s.listEvents q, ∀ x, r.eventable = some x ↔
    q.preload.eventable = true ∧ x.eventable = r.event.eventable ∧
      s.Titles r.event.eventable x.title
  relisted : ∀ s', s.Relists s' → s'.listEvents q = s.listEvents q

/-- The events that a query is about, in order. -/
def inScope (s : Store) (q : EventQuery) : List Event :=
  Event.sortChronologically (s.events.rows.filter q.scope.contains)

theorem listEvents_none (s : Store) (q : EventQuery) :
    s.listEvents { q with limit := none } = (s.inScope q).map (s.record q.preload) :=
  rfl

theorem listEvents_some (s : Store) (q : EventQuery) (n : Nat) :
    s.listEvents { q with limit := some n } = ((s.inScope q).take n).map (s.record q.preload) :=
  rfl

theorem mem_listEvents {q : EventQuery} {r : EventRecord} (h : r ∈ s.listEvents q) :
    ∃ e, r = s.record q.preload e := by
  obtain ⟨e, -, rfl⟩ := List.mem_map.1 h
  exact ⟨e, rfl⟩

theorem nodup_inScope (s : Store) (q : EventQuery) :
    ((s.events.rows.filter q.scope.contains).map Event.id).Nodup :=
  (List.filter_sublist.map Event.id).nodup s.events.distinct

theorem Relists.inScope (h : s.Relists s') (q : EventQuery) : s'.inScope q = s.inScope q :=
  Event.sortChronologically_of_perm (h.events.filter q.scope.contains) (s.nodup_inScope q)

theorem Relists.listEvents (h : s.Relists s') (q : EventQuery) :
    s'.listEvents q = s.listEvents q := by
  have hrecord : s'.record q.preload = s.record q.preload := funext (h.record q.preload)
  obtain ⟨scope, preload, limit⟩ := q
  cases limit with
  | none => exact congrArg₂ List.map hrecord (h.inScope ⟨scope, preload, none⟩)
  | some n =>
      exact congrArg₂ List.map hrecord
        (congrArg (List.take n) (h.inScope ⟨scope, preload, some n⟩))

theorem carried_iff {α : Type} {asked : Bool} {found : Option α} {a : α} :
    (if asked then found else none) = some a ↔ asked = true ∧ found = some a := by
  cases asked with
  | true => simp
  | false => simp

theorem listsEvents (s : Store) (q : EventQuery) : s.ListsEvents q where
  events := by
    have hevents : (s.listEvents { q with limit := none }).map EventRecord.event = s.inScope q := by
      rw [listEvents_none, List.map_map]
      exact List.map_id _
    rw [hevents]
    exact ⟨List.mergeSort_perm _ _, Event.pairwise_sortChronologically (s.nodup_inScope q)⟩
  limited n := by rw [listEvents_some, listEvents_none, List.map_take]
  creators r hr u := by
    obtain ⟨e, rfl⟩ := mem_listEvents hr
    exact carried_iff.trans (and_congr_right fun _ => Table.find?_eq_some_iff)
  boards r hr b := by
    obtain ⟨e, rfl⟩ := mem_listEvents hr
    exact carried_iff.trans (and_congr_right fun _ => Table.find?_eq_some_iff)
  eventables r hr x := by
    obtain ⟨e, rfl⟩ := mem_listEvents hr
    exact carried_iff.trans (and_congr_right fun _ => summary?_eq_some_iff)
  relisted _ h := h.listEvents q

/-! ### Listings of notifications and deliveries -/

structure ListsNotices (s : Store) : Prop where
  ofEvent : ∀ event, Lists s.notifications.rows (fun n => n.event == event)
    (fun a b => a.user < b.user) (s.notificationsForEvent event)
  ofUser : ∀ user, Lists s.notifications.rows (fun n => n.user == user) Notification.Before
    (s.notificationsForUser user)
  deliveries : ∀ event, Lists s.deliveries.rows (fun d => d.event == event)
    (fun a b => a.webhook < b.webhook) (s.deliveriesForEvent event)
  relisted : ∀ s', s.Relists s' →
    (∀ event, s'.notificationsForEvent event = s.notificationsForEvent event) ∧
      (∀ user, s'.notificationsForUser user = s.notificationsForUser user) ∧
      ∀ event, s'.deliveriesForEvent event = s.deliveriesForEvent event

theorem lists_notificationsForEvent (s : Store) (event : Ident) :
    Lists s.notifications.rows (fun n => n.event == event) (fun a b => a.user < b.user)
      (s.notificationsForEvent event) := by
  refine Lists.of_mergeSort (fun a b c => Ident.decide_le_trans a.user b.user c.user)
    (fun a b => Ident.decide_le_total a.user b.user) s.notifications.nodup_rows ?_
  intro a ha b hb hea heb hne hle
  refine Ident.lt_of_le_of_ne (of_decide_eq_true hle) fun huser => hne ?_
  refine Table.eq_of_key_eq ha hb (Prod.ext ?_ huser)
  exact (beq_iff_eq.1 hea).trans (beq_iff_eq.1 heb).symm

theorem lists_deliveriesForEvent (s : Store) (event : Ident) :
    Lists s.deliveries.rows (fun d => d.event == event) (fun a b => a.webhook < b.webhook)
      (s.deliveriesForEvent event) := by
  refine Lists.of_mergeSort (fun a b c => Ident.decide_le_trans a.webhook b.webhook c.webhook)
    (fun a b => Ident.decide_le_total a.webhook b.webhook) s.deliveries.nodup_rows ?_
  intro a ha b hb hea heb hne hle
  refine Ident.lt_of_le_of_ne (of_decide_eq_true hle) fun hwebhook => hne ?_
  refine Table.eq_of_key_eq ha hb (Prod.ext hwebhook ?_)
  exact (beq_iff_eq.1 hea).trans (beq_iff_eq.1 heb).symm

theorem lists_notificationsForUser (hd : (s.notifications.rows.map Notification.id).Nodup)
    (user : Ident) : Lists s.notifications.rows (fun n => n.user == user) Notification.Before
      (s.notificationsForUser user) := by
  refine Lists.of_mergeSort Notification.isNoEarlier_trans Notification.isNoEarlier_total
    s.notifications.nodup_rows ?_
  intro a ha b hb _ _ hne hle
  exact Notification.before_of_isNoEarlier hle
    fun hid => hne (List.inj_on_of_nodup_map hd ha hb hid)

theorem listsNotices (hd : (s.notifications.rows.map Notification.id).Nodup) :
    s.ListsNotices where
  ofEvent := s.lists_notificationsForEvent
  ofUser := lists_notificationsForUser hd
  deliveries := s.lists_deliveriesForEvent
  relisted s' hr := by
    have hd' := ((hr.notifications.map Notification.id).nodup_iff).2 hd
    refine ⟨fun event => ?_, fun user => ?_, fun event => ?_⟩
    · exact (s.lists_notificationsForEvent event).eq_of_perm (fun _ _ => Ident.lt_asymm)
        (s'.lists_notificationsForEvent event) hr.notifications
    · exact (lists_notificationsForUser hd user).eq_of_perm (fun _ _ => Notification.Before.asymm)
        (lists_notificationsForUser hd' user) hr.notifications
    · exact (s.lists_deliveriesForEvent event).eq_of_perm (fun _ _ => Ident.lt_asymm)
        (s'.lists_deliveriesForEvent event) hr.deliveries

/-! ### Identifiers of notifications -/

structure Noted (s : Store) : Prop where
  distinct : (s.notifications.rows.map Notification.id).Nodup
  below : ∀ n ∈ s.notifications.rows, n.id.value < s.supply.next

theorem noted_of_empty (h : s.notifications = .empty) : s.Noted := by
  refine ⟨h ▸ List.nodup_nil, fun n hn => ?_⟩
  rw [h] at hn
  cases hn

/-- No notification comes. -/
theorem Noted.sublist (h : s.Noted)
    (hrows : s'.notifications.rows.Sublist s.notifications.rows)
    (hle : s.supply.next ≤ s'.supply.next) : s'.Noted :=
  ⟨(hrows.map Notification.id).nodup h.distinct,
    fun n hn => (h.below n (hrows.subset hn)).trans_le hle⟩

theorem Noted.ensureNotification (h : s.Noted) (user event creator : Ident) (now : Instant) :
    (s.ensureNotification user event creator now).2.Noted := by
  cases hn : s.notifications.find? (event, user) with
  | some n =>
      rw [ensureNotification_of_some creator now hn]
      exact h
  | none =>
      by_cases hf : s.notificationFault = some 0
      · rw [ensureNotification_of_fault creator now hn hf]
        exact ⟨h.distinct, h.below⟩
      · rw [ensureNotification_of_none creator now hn hf]
        let n : Notification := ⟨⟨s.supply.next⟩, user, event, creator, now, none⟩
        have hrows : (s.notifications.put n).rows = s.notifications.rows ++ [n] :=
          Table.rows_put_of_absent hn
        refine ⟨?_, fun x hx => ?_⟩
        · change ((s.notifications.put n).rows.map Notification.id).Nodup
          rw [hrows, List.map_append, List.map_singleton, List.nodup_append]
          refine ⟨h.distinct, List.nodup_singleton _, fun a ha b hb hab => ?_⟩
          obtain ⟨x, hx, rfl⟩ := List.mem_map.1 ha
          have hlt := h.below x hx
          rw [hab, List.mem_singleton.1 hb] at hlt
          exact lt_irrefl _ hlt
        · change x ∈ (s.notifications.put n).rows at hx
          rw [hrows, List.mem_append, List.mem_singleton] at hx
          rcases hx with hx | rfl
          · exact (h.below x hx).trans (Nat.lt_succ_self _)
          · exact Nat.lt_succ_self _

theorem Noted.notifyAll (h : s.Noted) (event creator : Ident) (now : Instant)
    (users : List Ident) : (s.notifyAll event creator now users).2.Noted := by
  induction users generalizing s with
  | nil => exact h
  | cons user users ih =>
      have hone := h.ensureNotification user event creator now
      unfold Store.notifyAll
      split
      · next hr =>
          rw [hr] at hone
          exact hone
      · next s₁ hr =>
          rw [hr] at hone
          have hrest := ih hone
          split
          all_goals
            next hr' =>
              rw [hr'] at hrest
              exact hrest

theorem Noted.notify (h : s.Noted) (handlers : Handlers) (event : Ident) (now : Instant) :
    (handlers.notify s event now).2.Noted := by
  unfold Handlers.notify
  split
  · exact h
  · next e _ =>
      have hall : (s.notifyRecipients handlers.registry e now).2.Noted := by
        unfold notifyRecipients
        split
        · exact h
        · exact h.notifyAll _ _ _ _
      split
      all_goals
        next hr =>
          rw [hr] at hall
          exact hall

theorem Noted.dispatch (h : s.Noted) (handlers : Handlers) (event : Ident) (now : Instant) :
    (handlers.dispatch s event now).2.Noted := by
  have hle : s.supply.next ≤ (handlers.dispatch s event now).2.supply.next :=
    (movesBy_dispatch handlers event now).next_le
  obtain ⟨deliveries, outbox, supply, heq⟩ := s.dispatch_frame handlers event now
  rw [heq] at hle ⊢
  exact h.sublist (.refl _) hle

theorem Noted.markRead (h : s.Noted) (id : Ident) (now : Instant) : (s.markRead id now).2.Noted := by
  unfold Store.markRead
  split
  · exact h
  · next n hf =>
      have hmem := List.mem_of_find?_eq_some hf
      have hrow : s.notifications.find? ((n.read now).event, (n.read now).user) = some n :=
        Table.mem_rows_iff.1 hmem
      have hids : ((s.notifications.put (n.read now)).rows.map Notification.id) =
          s.notifications.rows.map Notification.id :=
        Table.map_put_of_present Notification.id hrow rfl
      refine ⟨hids ▸ h.distinct, fun x hx => ?_⟩
      have hid : x.id ∈ s.notifications.rows.map Notification.id := by
        rw [← hids]
        exact List.mem_map_of_mem hx
      obtain ⟨y, hy, heq⟩ := List.mem_map.1 hid
      exact heq ▸ h.below y hy

/-- What a transaction writes adds no notification. -/
theorem commit_notifications (s : Store) (tx : Transaction) (now : Instant) :
    (s.commit tx now).notifications.rows.Sublist s.notifications.rows := by
  obtain ⟨outbox, supply, hwritten⟩ := (s.write tx).enqueueAll_frame tx.tasks now
  rw [commit_eq, hwritten]
  split_ifs
  · exact .refl _
  · exact List.filter_sublist

theorem perform_notifications {α : Type} (s : Store) (now : Instant)
    (work : Except Error (α × Work)) :
    (s.perform now work).2.notifications.rows.Sublist s.notifications.rows := by
  unfold perform
  split
  · exact commit_notifications _ _ _
  · exact .refl _

theorem performCard_notifications (s : Store) (t : Tracker) (now : Instant) (card creator : Ident)
    (o : CardOperation) :
    (Cards.perform t s now card creator o).2.notifications.rows.Sublist s.notifications.rows := by
  cases o with
  | rename title =>
      simp only [Cards.perform, Cards.rename]
      split
      · exact .refl _
      · exact s.perform_notifications now _
  | _ => exact s.perform_notifications now _

end Store

namespace System

variable {sys : System}

theorem noted_deliver (h : sys.store.Noted) (handlers : Handlers) (delivery : Ident)
    (now : Instant) : (handlers.deliver sys delivery now).2.store.Noted := by
  obtain ⟨deliveries, webhooks, trackers, heq⟩ := sys.deliver_frame handlers delivery now
  rw [heq]
  exact ⟨h.distinct, h.below⟩

theorem noted_execute (h : sys.store.Noted) (handlers : Handlers) (config : FanoutConfig)
    (t : Task) (draw : Draw) (now : Instant) :
    (sys.execute handlers config t draw now).2.store.Noted := by
  have hrun : (handlers.run sys t now).2.store.Noted := by
    unfold Handlers.run
    split
    · exact h.notify handlers t.subject now
    · exact h.dispatch handlers t.subject now
    · exact noted_deliver h handlers t.subject now
  obtain ⟨outbox, heq⟩ := sys.execute_eq handlers config t draw now
  rw [heq]
  exact ⟨hrun.distinct, hrun.below⟩

/-- Every call leaves notifications with identifiers of their own. -/
theorem noted_call (h : sys.store.Noted) (g : Setup) (now : Instant) (c : SystemCall) :
    (sys.call g now c).store.Noted := by
  have hle : sys.store.supply.next ≤ (sys.call g now c).store.supply.next :=
    (sys.movesBy_call g now c).next_le
  have hsame : (sys.call g now c).store.notifications = sys.store.notifications →
      (sys.call g now c).store.Noted := fun heq => h.sublist (heq ▸ .refl _) hle
  cases c with
  | createDraft | destroyCard | comment =>
      refine h.sublist ?_ hle
      simp only [call, Store.answer, Cards.createDraft, Cards.destroy, Comments.create]
      exact sys.store.perform_notifications now _
  | changeCard card creator o =>
      exact h.sublist (sys.store.performCard_notifications _ now card creator o) hle
  | saveWebhook | failNotificationsAfter | claim | complete | fail => exact hsame rfl
  | resubscribe webhook actions =>
      obtain ⟨webhooks, heq⟩ := sys.store.resubscribe_eq webhook actions
      exact hsame (congrArg Store.notifications heq :)
  | deactivate webhook =>
      obtain ⟨webhooks, heq⟩ := sys.store.deactivateWebhook_eq webhook
      exact hsame (congrArg Store.notifications heq :)
  | markRead notification => exact h.markRead notification now
  | reclaim threshold =>
      refine hsame ?_
      simp only [call, Store.answer]
      split
      · next hr =>
          obtain ⟨outbox, rfl⟩ := Store.reclaim_frame hr
          rfl
      · rfl
  | notify event => exact h.notify g.handlers event now
  | dispatch event => exact h.dispatch g.handlers event now
  | deliver delivery => exact noted_deliver h g.handlers delivery now
  | execute t draw => exact noted_execute h g.handlers g.config t draw now

/-- So does whatever others do at the queue. -/
theorem noted_callShared (h : sys.store.Noted) (g : Setup) (now : Instant) (c : SharedCall) :
    (sys.callShared g now c).store.Noted := by
  cases c with
  | program c => exact noted_call h g now c
  | queue c =>
      have hmoves : Outbox.Moves (fun _ => True) sys.store.outbox sys.store.supply.next
          (sys.store.claimsOf now c) (sys.store.call now c).outbox
          (sys.store.call now c).supply.next :=
        sys.store.call_moves now c fun _ _ => trivial
      have hle : sys.store.supply.next ≤ (sys.store.call now c).supply.next := hmoves.next_le
      change (sys.store.call now c).Noted
      refine h.sublist ?_ hle
      cases c with
      | enqueue t =>
          obtain ⟨outbox, supply, heq⟩ := sys.store.enqueue_frame t now
          simp only [Store.call, heq]
          exact .refl _
      | commit taken tx => exact (sys.store.take taken).commit_notifications tx now
      | claim | complete | fail => exact .refl _
      | reclaim threshold =>
          simp only [Store.call]
          split
          · next hr =>
              obtain ⟨outbox, rfl⟩ := Store.reclaim_frame hr
              exact .refl _
          · exact .refl _
      | destroy card =>
          simp only [Store.call, Cards.destroy]
          exact sys.store.perform_notifications now _

theorem noted_runShared (h : sys.store.Noted) (g : Setup) (calls : List (Instant × SharedCall)) :
    (sys.runShared g calls).store.Noted := by
  induction calls generalizing sys with
  | nil => exact h
  | cons c calls ih => exact ih (noted_callShared h g c.1 c.2)

/-- After whatever has been done to a store that began without notifications: a listing of events
has every event in scope once and no other, in strict order, a limit takes the first of them, and
each is carried with what was asked for and is there; events are sorted in one way however they
come; notifications and deliveries are listed exactly and in strict order; and no listing depends on
the order in which tables list their rows. -/
theorem listings_of_runShared (h : sys.store.notifications = .empty) (g : Setup)
    (calls : List (Instant × SharedCall)) :
    let s := (sys.runShared g calls).store
    (∀ q, s.ListsEvents q) ∧
      (∀ events events' : List Event, events'.Perm events → (events.map Event.id).Nodup →
        Event.sortChronologically events' = Event.sortChronologically events) ∧
      s.ListsNotices := by
  have hnoted := noted_runShared (Store.noted_of_empty h) g calls
  exact ⟨Store.listsEvents _, fun _ _ => Event.sortChronologically_of_perm,
    Store.listsNotices hnoted.distinct⟩

/-- A card is published, commented on and renamed, all at one time: the later events stand first. -/
theorem listings_of_renamed_card :
    let now : Instant := ⟨0, 0⟩
    let users : List User := [⟨⟨1⟩, ⟨9⟩, "ada", .member⟩, ⟨⟨4⟩, ⟨9⟩, "system", .system⟩]
    let sys : System := ⟨(users.foldl Store.addUser (Store.empty 10)).addBoard
      ⟨⟨2⟩, ⟨9⟩, "ops", []⟩, .standard⟩
    let g : Setup := ⟨.standard, .ofConfig .standard, .standard⟩
    let calls : List (Instant × SharedCall) :=
      [(now, .program (.createDraft ⟨2⟩ ⟨1⟩ "plan")),
       (now, .program (.changeCard ⟨10⟩ ⟨1⟩ .publish)),
       (now, .program (.comment ⟨10⟩ ⟨1⟩ "soon" [])),
       (now, .program (.changeCard ⟨10⟩ ⟨1⟩ (.rename "map")))]
    let s := (sys.runShared g calls).store
    sys.store.notifications = .empty ∧
      s.events.rows.map Event.action =
        ["card_published", "comment_created", "card_title_changed"] ∧
      (s.listEvents ⟨.board ⟨2⟩, .all, none⟩).map EventRecord.event = s.events.rows.reverse ∧
      s.ListsNotices := by
  intro now users sys g calls s
  have hempty : sys.store.notifications = .empty := rfl
  have hlistings : (∀ q, s.ListsEvents q) ∧ _ ∧ s.ListsNotices :=
    listings_of_runShared hempty g calls
  have hactions : s.events.rows.map Event.action =
      ["card_published", "comment_created", "card_title_changed"] := by
    decide +kernel
  have hscope : s.events.rows.filter (EventScope.board ⟨2⟩).contains = s.events.rows := by
    decide +kernel
  have htimes : s.events.rows.Pairwise fun a b => a.createdAt = b.createdAt ∧ a.id < b.id := by
    decide +kernel
  clear_value s
  have hreverse : Lists s.events.rows (EventScope.board ⟨2⟩).contains Event.Before
      s.events.rows.reverse := by
    refine ⟨?_, List.pairwise_reverse.2 (htimes.imp fun h => .inr ⟨h.1.symm, h.2⟩)⟩
    rw [hscope]
    exact List.reverse_perm _
  exact ⟨hempty, hactions,
    hreverse.eq_of_perm (fun _ _ => Event.Before.asymm)
      (hlistings.1 ⟨.board ⟨2⟩, .all, none⟩).events (.refl _), hlistings.2.2⟩

end System

end BoardActivity
