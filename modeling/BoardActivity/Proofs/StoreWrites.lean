import BoardActivity.Proofs.Membership
import BoardActivity.Proofs.ReferentialIntegrity
import Mathlib.Logic.Relation

/-!
# Single writes

Everything that a call does to the records is a sequence of single writes. `Store.Write` has one
case for each, with what the program has made sure of by then: whom it has looked up, which checks
were passed, what was absent. `System.call_writes` says that calls do nothing else; so what every
write keeps, every run keeps, and an invariant is shown by one case for each write.

Webhooks alone are written from outside without a check, so writes are relative to which of them may
be saved.
-/

namespace BoardActivity

namespace Delivery

/-- What is kept of a delivery while it makes progress: which it is, and where it comes from and
goes to. -/
def route (d : Delivery) : Ident × Ident × Ident := (d.id, d.webhook, d.event)

theorem route_finish (d : Delivery) (outcome : Outcome) (now : Instant) :
    (d.finish outcome now).route = d.route := by
  cases outcome with
  | responded status => rfl
  | errored text => rfl

end Delivery

namespace Store

/-- The board is there and belongs to the account. -/
def HasBoard (s : Store) (account board : Ident) : Prop :=
  ∃ b, s.boards.find? board = some b ∧ b.account = account

structure Alters (s : Store) (o : CardOperation) (c c' : Card) (p : Particulars) : Prop where
  found : s.cards.find? c.id = some c
  changes : o.Changes s c c' p
  members : ∀ u ∈ o.members, s.HasMember c.account u

structure Remarks (s : Store) (c : Card) (x : Comment) : Prop where
  found : s.cards.find? c.id = some c
  id : x.id = ⟨s.supply.next⟩
  card : x.card = c.id
  account : x.account = c.account
  creator : s.HasMember c.account x.creator
  mentionees : ∀ u ∈ x.mentionees, s.HasMember c.account u

inductive Write (g : Setup) (saved : Webhook → Prop) (s : Store) : Store → Prop
  /-- A member puts a draft on a board of the account. -/
  | draft {board creator : Ident} {b : Board} (title : String) (now : Instant) :
      s.boards.find? board = some b → s.HasMember b.account creator →
      Write g saved s { s with
        cards := s.cards.put (.draft ⟨s.supply.next⟩ b.account b.id creator title now)
        supply := ⟨s.supply.next + 1⟩ }
  /-- A draft changes. -/
  | edit {o : CardOperation} {c c' : Card} {p : Particulars} :
      s.Alters o c c' p → c'.status = .drafted →
      Write g saved s { s with cards := s.cards.put c' }
  /-- Any other change of a card is recorded, for a member. -/
  | change {o : CardOperation} {c c' : Card} {p : Particulars} {creator : Ident} {now : Instant}
      {e : Event} :
      s.Alters o c c' p → c'.status ≠ .drafted →
      e = (Eventable.ofCard c').event ⟨s.supply.next⟩ o.verb p creator now →
      s.HasMember c.account creator → s.HasBoard c.account c'.board →
      Write g saved s (s.recorded g.tracker now e { c' with lastActiveAt := now }
        (g.tracker.commenter.told s e ⟨s.supply.next + 1⟩ c'.id))
  /-- The system user comments on a card. -/
  | remark {c : Card} {x : Comment} : s.Remarks c x →
      Write g saved s { s with comments := s.comments.put x, supply := ⟨s.supply.next + 1⟩ }
  /-- Any other comment is recorded. -/
  | comment {c : Card} {x : Comment} {now : Instant} {e : Event} : s.Remarks c x →
      e = (Eventable.ofComment x).event ⟨s.supply.next + 1⟩ "created" [] x.creator now →
      s.HasBoard c.account x.board →
      Write g saved s (s.recorded g.tracker now e { c with lastActiveAt := now } [x])
  /-- Cards are removed with all that belongs to them. -/
  | removal (cards : List Ident) : Write g saved s (s.removeCards cards)
  /-- A webhook is saved from outside. -/
  | saving {w : Webhook} : saved w → Write g saved s (s.saveWebhook w)
  /-- A webhook subscribes to other actions, or is deactivated. -/
  | subscription {w w' : Webhook} : s.webhooks.find? w'.id = some w → w'.account = w.account →
      w'.board = w.board → Write g saved s (s.saveWebhook w')
  /-- A recipient of an event is notified for the first time. -/
  | notice {e : Event} {users : List Ident} {user : Ident} (now : Instant) (fault : Option Nat) :
      s.events.find? e.id = some e → g.handlers.registry.recipients e s.audience = .ok users →
      user ∈ users → s.notifications.find? (e.id, user) = none →
      Write g saved s { s with
        notifications := s.notifications.put ⟨⟨s.supply.next⟩, user, e.id, e.creator, now, none⟩
        notificationFault := fault
        supply := ⟨s.supply.next + 1⟩ }
  /-- A notification is read. -/
  | reading {n : Notification} (now : Instant) : n ∈ s.notifications.rows →
      Write g saved s { s with notifications := s.notifications.put (n.read now) }
  /-- The fault is armed, or goes off. -/
  | arming (fault : Option Nat) : Write g saved s { s with notificationFault := fault }
  /-- A delivery of an event to a webhook that it concerns is added with its task. -/
  | delivery {e : Event} {w : Webhook} {t : NewTask} (now : Instant) :
      s.events.find? e.id = some e → w ∈ s.webhooks.rows →
      g.handlers.dispatcher.concerns w e = true → s.deliveries.find? (w.id, e.id) = none →
      t.kind = .deliverWebhook → t.subject = ⟨s.supply.next⟩ → 1 ≤ t.maxAttempts →
      Write g saved s { s with
        deliveries := s.deliveries.put (.create ⟨s.supply.next⟩ w.id e.id now)
        outbox := s.outbox.insert t ⟨s.supply.next + 1⟩ now
        supply := ⟨s.supply.next + 2⟩ }
  /-- A delivery makes progress. -/
  | sending {d d' : Delivery} : d ∈ s.deliveries.rows → d'.id = d.id → d'.webhook = d.webhook →
      d'.event = d.event → Write g saved s { s with deliveries := s.deliveries.put d' }
  /-- The outcome of a delivery is counted. -/
  | counting (trackers : Table DelinquencyTracker) : Write g saved s { s with trackers }
  /-- Claims are settled or taken back. -/
  | settlement {o : Outbox} : s.outbox.Settled o → Write g saved s { s with outbox := o }
  /-- Tasks are claimed. -/
  | claim (worker : String) (kinds : List TaskKind) (max : Nat) (now : Instant) :
      Write g saved s (s.claim worker kinds max now).2

/-- Single writes one after the other. -/
abbrev Writes (g : Setup) (saved : Webhook → Prop) : Store → Store → Prop :=
  Relation.ReflTransGen (Write g saved)

variable {g : Setup} {saved : Webhook → Prop} {s s' : Store}

theorem Alters.card_id {o : CardOperation} {c c' : Card} {p : Particulars}
    (h : s.Alters o c c' p) : c'.id = c.id :=
  congrArg Prod.fst h.changes.origin

theorem Alters.find? {o : CardOperation} {c c' : Card} {p : Particulars}
    (h : s.Alters o c c' p) : s.cards.find? c'.id = some c := by
  rw [h.card_id, h.found]

/-- Identifiers are never given back. -/
theorem Write.next_le (hw : s.Write g saved s') : s.supply.next ≤ s'.supply.next := by
  cases hw with
  | change | comment =>
      simp only [recorded]
      omega
  | draft | remark | notice => exact Nat.le_succ _
  | delivery => exact Nat.le_add_right _ 2
  | edit | removal | saving | subscription | reading | arming | sending | counting | settlement
    | claim => exact le_rfl

theorem Linked.recordChange (h : s.Linked) {o : CardOperation} {c c' : Card} {p : Particulars}
    {creator : Ident} {now : Instant} {e : Event} (ha : s.Alters o c c' p)
    (he : e = (Eventable.ofCard c').event ⟨s.supply.next⟩ o.verb p creator now) (t : Tracker) :
    (s.recorded t now e { c' with lastActiveAt := now }
      (t.commenter.told s e ⟨s.supply.next + 1⟩ c'.id)).Linked := by
  have heid : e.id = ⟨s.supply.next⟩ := congrArg Event.id he
  have href : e.eventable = .card c'.id := congrArg Event.eventable he
  rcases t.commenter.told_eq s e ⟨s.supply.next + 1⟩ c'.id with ht | ⟨x, ht, hx, hxc, -⟩
  · rw [ht]
    refine h.recorded ha.find? (List.nodup_singleton _) ?_ (by simp) (.inl href)
    simp [heid]
  · rw [ht]
    refine h.recorded ha.find? ?_ ?_ ?_ (.inl href)
    · simp [heid, hx]
    · intro id hm
      rw [List.map_singleton, heid, hx] at hm
      exact range_of_pair hm
    · intro y hy
      cases List.mem_singleton.1 hy
      exact hxc ▸ mem_cardIds ha.find?

theorem Linked.recordComment (h : s.Linked) {c : Card} {x : Comment} {now : Instant} {e : Event}
    (hr : s.Remarks c x)
    (he : e = (Eventable.ofComment x).event ⟨s.supply.next + 1⟩ "created" [] x.creator now)
    (t : Tracker) : (s.recorded t now e { c with lastActiveAt := now } [x]).Linked := by
  have heid : e.id = ⟨s.supply.next + 1⟩ := congrArg Event.id he
  have href : e.eventable = .comment x.id := congrArg Event.eventable he
  refine h.recorded hr.found ?_ ?_ ?_ (.inr ⟨x, List.mem_singleton_self x, href⟩)
  · simp [heid, hr.id]
  · intro id hm
    rw [List.map_singleton, heid, hr.id] at hm
    exact range_of_pair (List.mem_pair.2 (List.mem_pair.1 hm).symm)
  · intro y hy
    cases List.mem_singleton.1 hy
    exact hr.card ▸ mem_cardIds hr.found

/-- No write leaves a reference behind that points nowhere, or forgets a task. -/
theorem Linked.write (h : s.Linked) (hw : s.Write g saved s') : s'.Linked := by
  cases hw with
  | draft => exact h.addCard rfl
  | edit ha => exact h.putCard ha.find?
  | change ha _ he => exact h.recordChange ha he g.tracker
  | remark hr => exact h.addComment hr.id (hr.card ▸ mem_cardIds hr.found)
  | comment hr he => exact h.recordComment hr he g.tracker
  | removal cards => exact h.removeCards cards
  | saving => exact h.saveWebhook _
  | subscription => exact h.saveWebhook _
  | notice _ _ he _ _ hnone =>
      exact h.addNotification rfl hnone (List.mem_map_of_mem (Table.find?_eq_some_iff.1 he).1)
  | @reading n now hn =>
      have hf : s.notifications.find? ((n.read now).event, (n.read now).user) = some n :=
        Table.mem_rows_iff.1 hn
      exact h.putNotification hf rfl
  | arming => exact h.frame rfl rfl rfl rfl rfl rfl (fun _ hm => hm) le_rfl
  | delivery now he hw _ hnone hkind hsubject hmax =>
      exact h.addDelivery now rfl hnone (List.mem_map_of_mem (Table.find?_eq_some_iff.1 he).1)
        (List.mem_map_of_mem hw) hkind hsubject hmax
  | @sending d d' hd hid hwebhook hevent =>
      refine h.putDelivery ?_ hid
      rw [hwebhook, hevent]
      exact Table.mem_rows_iff.1 hd
  | counting => exact h.frame rfl rfl rfl rfl rfl rfl (fun _ hm => hm) le_rfl
  | settlement hs => exact h.settle hs
  | claim worker kinds max now => exact h.claim worker kinds max now

theorem Linked.writes (h : s.Linked) (hw : Writes g saved s s') : s'.Linked := by
  induction hw with
  | refl => exact h
  | tail _ hw ih => exact ih.write hw

/-- What every write to a store without broken references keeps, sequences of writes keep. -/
theorem Writes.keeps {P : Store → Prop}
    (step : ∀ s s', s.Linked → s.Write g saved s' → P s → P s') (hl : s.Linked) (hp : P s)
    (hw : Writes g saved s s') : P s' := by
  induction hw with
  | refl => exact hp
  | tail hws hw ih => exact step _ _ (hl.writes hws) hw ih

theorem Writes.next_le (hw : Writes g saved s s') : s.supply.next ≤ s'.supply.next := by
  induction hw with
  | refl => exact le_rfl
  | tail _ hw ih => exact ih.trans hw.next_le

/-! ### Operations -/

theorem createDraft_writes (now : Instant) (board creator : Ident) (title : String) :
    Writes g saved s (Cards.createDraft s now board creator title).2 := by
  rcases error_or_ok (Cards.createDraft s now board creator title) Cards.createDraft_error with
    ⟨e, hr⟩ | ⟨c, s', hr⟩
  · rw [hr]
  · obtain ⟨b, hb, rfl, rfl⟩ := Cards.createDraft_ok hr
    rw [hr]
    exact .single (.draft _ now hb (Cards.createDraft_member hr hb))

theorem perform_writes (hfresh : s.Fresh) (now : Instant) (card creator : Ident)
    (o : CardOperation) : Writes g saved s (Cards.perform g.tracker s now card creator o).2 := by
  rcases error_or_ok (Cards.perform g.tracker s now card creator o) Cards.perform_error with
    ⟨e, hr⟩ | ⟨r, s', hr⟩
  · rw [hr]
  · obtain ⟨c, hf, hcases⟩ := Cards.perform_ok hfresh hr
    have hmembers := Cards.perform_members hr hf
    cases (Table.find?_eq_some_iff.1 hf).2
    rw [hr]
    rcases hcases with
      ⟨-, -, rfl⟩ | ⟨p, hc, hd, rfl⟩ | ⟨c', p, e, hc, hd, he, hcheck, -, rfl, rfl⟩
    · exact .refl
    · exact .single (.edit ⟨hf, CardOperation.changes_of_change hc, hmembers⟩ hd)
    · have hchanges := CardOperation.changes_of_change hc
      have haccount : (Eventable.ofCard c').account = c.account := hchanges.account
      obtain ⟨hboard, hcreator⟩ := Tracker.checkEvent_ok hcheck
      rw [haccount] at hboard hcreator
      exact .single (.change ⟨hf, hchanges, hmembers⟩ hd he hcreator hboard)

theorem comment_writes (hfresh : s.Fresh) (now : Instant) (card creator : Ident) (body : String)
    (mentionees : List Ident) :
    Writes g saved s (Comments.create g.tracker s now card creator body mentionees).2 := by
  rcases error_or_ok (Comments.create g.tracker s now card creator body mentionees)
    Comments.create_error with ⟨e, hr⟩ | ⟨x, s', hr⟩
  · rw [hr]
  · obtain ⟨c, u, hf, -, hx, hcases⟩ := Comments.create_ok hfresh hr
    obtain ⟨hcreator, hmentionees⟩ := Comments.create_members hr hf
    cases (Table.find?_eq_some_iff.1 hf).2
    have hremarks : s.Remarks c x := by
      subst hx
      exact ⟨hf, rfl, rfl, rfl, hcreator, hmentionees⟩
    rw [hr]
    rcases hcases with ⟨-, rfl⟩ | ⟨-, e, he, hcheck, rfl⟩
    · exact .single (.remark hremarks)
    · have hboard := (Tracker.checkEvent_ok hcheck).1
      have haccount : (Eventable.ofComment x).account = c.account := hremarks.account
      rw [haccount] at hboard
      refine .single (.comment hremarks ?_ hboard)
      rw [he, congrArg Comment.creator hx]

theorem destroy_writes (now : Instant) (card : Ident) :
    Writes g saved s (Cards.destroy s now card).2 := by
  rw [destroy_eq]
  split_ifs
  · exact .single (.removal [card])
  · exact .refl

theorem resubscribe_writes (webhook : Ident) (actions : List String) :
    Writes g saved s (s.resubscribe webhook actions) := by
  unfold resubscribe
  split
  · exact .refl
  · next w hf =>
      split
      · next w' hw' =>
          have hkey : w.id = webhook := (Table.find?_eq_some_iff.1 hf).2
          have hw : w' = { w with subscribed := .ofList actions } := by
            simp only [Webhook.resubscribe, Webhook.changeActions] at hw'
            cases hv : ({ w with subscribed := .ofList actions } : Webhook).validate with
            | error e => simp only [hv, reduceCtorEq] at hw'
            | ok => simpa only [hv, Except.ok.injEq, eq_comm] using hw'
          subst hw
          exact .single (.subscription (w := w) (by rw [hkey, hf]) rfl rfl)
      · exact .refl

theorem deactivateWebhook_writes (webhook : Ident) :
    Writes g saved s (s.deactivateWebhook webhook).2 := by
  unfold deactivateWebhook
  split
  · exact .refl
  · next w hf =>
      have hkey : w.id = webhook := (Table.find?_eq_some_iff.1 hf).2
      exact .single (.subscription (w := w) (by rw [hkey, hf]) rfl rfl)

theorem markRead_writes (notification : Ident) (now : Instant) :
    Writes g saved s (s.markRead notification now).2 := by
  unfold markRead
  split
  · exact .refl
  · next n hf => exact .single (.reading now (List.mem_of_find?_eq_some hf))

theorem complete_writes (t : Task) : Writes g saved s (s.complete t).2 :=
  .single (.settlement (s.outbox.complete_settled t))

theorem fail_writes (t : Task) (error : String) (delay : Span) (now : Instant) :
    Writes g saved s (s.fail t error delay now).2 :=
  .single (.settlement (s.outbox.fail_settled t error delay now))

theorem reclaim_writes {threshold : Span} {now : Instant} {n : Nat}
    (h : s.reclaim threshold now = some (n, s')) : Writes g saved s s' := by
  obtain ⟨⟨k, o⟩, ho, he⟩ := Option.map_eq_some_iff.1 h
  cases he
  exact .single (.settlement (Outbox.reclaim_settled ho))

/-! ### Handlers -/

/-- Making sure of a notification changes notifications, the armed fault and the supply only. -/
theorem ensureNotification_frame (s : Store) (user event creator : Ident) (now : Instant) :
    ∃ notifications fault supply, (s.ensureNotification user event creator now).2 =
      { s with notifications, notificationFault := fault, supply } := by
  cases hn : s.notifications.find? (event, user) with
  | some n =>
      rw [ensureNotification_of_some creator now hn]
      exact ⟨s.notifications, s.notificationFault, s.supply, rfl⟩
  | none =>
      by_cases hf : s.notificationFault = some 0
      · rw [ensureNotification_of_fault creator now hn hf]
        exact ⟨s.notifications, none, s.supply, rfl⟩
      · rw [ensureNotification_of_none creator now hn hf]
        exact ⟨_, _, _, rfl⟩

theorem ensureNotification_writes {e : Event} {users : List Ident} {user : Ident} (now : Instant)
    (he : s.events.find? e.id = some e)
    (hr : g.handlers.registry.recipients e s.audience = .ok users) (hu : user ∈ users) :
    Writes g saved s (s.ensureNotification user e.id e.creator now).2 := by
  cases hn : s.notifications.find? (e.id, user) with
  | some n =>
      rw [ensureNotification_of_some e.creator now hn]
  | none =>
      by_cases hf : s.notificationFault = some 0
      · rw [ensureNotification_of_fault e.creator now hn hf]
        exact .single (.arming none)
      · rw [ensureNotification_of_none e.creator now hn hf]
        exact .single (.notice now _ he hr hu hn)

theorem notifyAll_writes {e : Event} {users rest : List Ident} (now : Instant)
    (he : s.events.find? e.id = some e)
    (hr : g.handlers.registry.recipients e s.audience = .ok users) (hu : ∀ u ∈ rest, u ∈ users) :
    Writes g saved s (s.notifyAll e.id e.creator now rest).2 := by
  induction rest generalizing s with
  | nil => exact .refl
  | cons user rest ih =>
      have hone : Writes g saved s (s.ensureNotification user e.id e.creator now).2 :=
        ensureNotification_writes now he hr (hu user List.mem_cons_self)
      obtain ⟨notifications, fault, supply, heq⟩ :=
        s.ensureNotification_frame user e.id e.creator now
      unfold notifyAll
      cases hn : s.ensureNotification user e.id e.creator now with
      | mk r s' =>
          rw [hn] at hone heq
          have hs' : s' = _ := heq
          have hevents : s'.events = s.events := by rw [hs']
          have haudience : s'.audience = s.audience := by rw [hs']; rfl
          cases r with
          | error err => exact hone
          | ok n =>
              have hrest := ih (hevents ▸ he) (haudience ▸ hr)
                fun u hm => hu u (List.mem_cons_of_mem user hm)
              simp only
              split
              all_goals
                next ha =>
                  rw [ha] at hrest
                  exact hone.trans hrest

theorem notify_writes (event : Ident) (now : Instant) :
    Writes g saved s (g.handlers.notify s event now).2 := by
  unfold Handlers.notify
  split
  · exact .refl
  · next e hf =>
      have he : s.events.find? e.id = some e :=
        Table.mem_rows_iff.1 (Table.find?_eq_some_iff.1 hf).1
      have hall : Writes g saved s (s.notifyRecipients g.handlers.registry e now).2 := by
        unfold notifyRecipients
        split
        · exact .refl
        · next users hr => exact notifyAll_writes now he hr fun _ hm => hm
      split
      all_goals
        next hr =>
          rw [hr] at hall
          exact hall

theorem mem_concernedWebhooks {dispatcher : Dispatcher} {e : Event} {w : Webhook} :
    w ∈ s.concernedWebhooks dispatcher e ↔
      w ∈ s.webhooks.rows ∧ dispatcher.concerns w e = true := by
  unfold concernedWebhooks
  split_ifs with hpermits
  · rw [List.mem_filter, activeWebhooks, List.mem_mergeSort, List.mem_filter]
    refine ⟨fun h => ⟨h.1.1, h.2⟩, fun h => ⟨⟨h.1, ?_⟩, h.2⟩⟩
    have hconcerns := h.2
    simp only [Dispatcher.concerns, Bool.and_eq_true] at hconcerns
    exact Bool.and_eq_true_iff.2 hconcerns.1.1
  · refine iff_of_false List.not_mem_nil fun h => ?_
    have hconcerns := h.2
    simp only [Dispatcher.concerns, Bool.and_eq_true] at hconcerns
    exact hpermits hconcerns.1.2

def deliveryTask (delivery : Ident) (maxAttempts : Nat) : NewTask :=
  (NewTask.create .deliverWebhook delivery).withMaxAttempts maxAttempts

/-- A delivery that is there has its task, and one that is not comes about together with it. -/
theorem deliverToOne_cases (h : s.Linked) (maxAttempts : Nat) (event : Ident) (w : Webhook)
    (now : Instant) :
    (s.deliverToAll maxAttempts event now [w]).2 = s ∨
      s.deliveries.find? (w.id, event) = none ∧
      (s.deliverToAll maxAttempts event now [w]).2 = { s with
        deliveries := s.deliveries.put (.create ⟨s.supply.next⟩ w.id event now)
        outbox := s.outbox.insert (deliveryTask ⟨s.supply.next⟩ maxAttempts) ⟨s.supply.next + 1⟩ now
        supply := ⟨s.supply.next + 2⟩ } := by
  simp only [deliverToAll, ensureDelivery]
  cases hf : s.deliveries.find? (w.id, event) with
  | some d =>
      have hin : d.id ∈ s.deliveryIds := List.mem_map_of_mem (Table.find?_eq_some_iff.1 hf).1
      have hhas : s.outbox.has .deliverWebhook d.id = true :=
        (h.scheduled .deliverWebhook d.id).2 hin
      have hkeep := enqueue_of_has (s := s) (t := deliveryTask d.id maxAttempts) hhas now
      rw [deliveryTask] at hkeep
      rw [hkeep]
      exact .inl rfl
  | none =>
      let d := Delivery.create ⟨s.supply.next⟩ w.id event now
      let t := deliveryTask d.id maxAttempts
      have hhas : s.outbox.has t.kind t.subject = false := h.fresh.has_eq_false t.kind le_rfl
      have hnew := enqueue_of_new (s := { s with
        deliveries := s.deliveries.put d
        supply := ⟨s.supply.next + 1⟩ }) hhas now
      exact .inr ⟨rfl, congrArg Prod.snd hnew⟩

theorem deliverToOne_writes (h : s.Linked) (maxAttempts : Nat) {e : Event} {w : Webhook}
    (now : Instant) (he : s.events.find? e.id = some e) (hw : w ∈ s.webhooks.rows)
    (hconcerns : g.handlers.dispatcher.concerns w e = true) :
    Writes g saved s (s.deliverToAll maxAttempts e.id now [w]).2 ∧
      (s.deliverToAll maxAttempts e.id now [w]).2.events = s.events ∧
      (s.deliverToAll maxAttempts e.id now [w]).2.webhooks = s.webhooks := by
  rcases deliverToOne_cases h maxAttempts e.id w now with heq | ⟨hnone, heq⟩
  · rw [heq]
    exact ⟨.refl, rfl, rfl⟩
  · rw [heq]
    exact ⟨.single (.delivery now he hw hconcerns hnone rfl rfl (Nat.le_max_right _ 1)), rfl, rfl⟩

theorem deliverToAll_writes (h : s.Linked) (maxAttempts : Nat) {e : Event} (now : Instant)
    (he : s.events.find? e.id = some e) {webhooks : List Webhook}
    (hw : ∀ w ∈ webhooks, w ∈ s.webhooks.rows ∧ g.handlers.dispatcher.concerns w e = true) :
    Writes g saved s (s.deliverToAll maxAttempts e.id now webhooks).2 := by
  induction webhooks generalizing s with
  | nil => exact .refl
  | cons w webhooks ih =>
      obtain ⟨hrow, hconcerns⟩ := hw w List.mem_cons_self
      obtain ⟨hone, hevents, hwebhooks⟩ := deliverToOne_writes h maxAttempts now he hrow hconcerns
      refine hone.trans
        (ih (s := (s.deliverToAll maxAttempts e.id now [w]).2) (h.writes hone) (hevents ▸ he) ?_)
      intro x hx
      rw [hwebhooks]
      exact hw x (List.mem_cons_of_mem w hx)

theorem dispatch_writes (h : s.Linked) (event : Ident) (now : Instant) :
    Writes g saved s (g.handlers.dispatch s event now).2 := by
  unfold Handlers.dispatch
  split
  · exact .refl
  · next e hf =>
      have he : s.events.find? e.id = some e :=
        Table.mem_rows_iff.1 (Table.find?_eq_some_iff.1 hf).1
      exact deliverToAll_writes h _ now he fun w hw => mem_concernedWebhooks.1 hw

theorem updateDelivery_of_mem {d : Delivery} (d' : Delivery) (hd : d ∈ s.deliveries.rows)
    (hroute : d'.route = d.route) :
    s.updateDelivery d' = (.ok (), { s with deliveries := s.deliveries.put d' }) := by
  have hkey : (d'.webhook, d'.event) = (d.webhook, d.event) := (Prod.mk.inj hroute).2
  have hf : s.deliveries.find? (d'.webhook, d'.event) = some d := by
    rw [hkey]
    exact Table.mem_rows_iff.1 hd
  unfold updateDelivery
  rw [if_pos (Table.contains_iff.2 ⟨d, hf⟩)]

/-- The first half of sending leaves the store alone, or closes the delivery, if it is not finished,
without a request, or stores it as under way. -/
theorem beginDelivery_cases (s : Store) (delivery : Ident) (now : Instant) :
    (∃ result, Handlers.beginDelivery s delivery now = (.over result, s)) ∨
      ∃ d, s.findDelivery delivery = some d ∧ d.state.isFinished = false ∧
        (Handlers.beginDelivery s delivery now = (.over (.ok .skipped),
          { s with deliveries := s.deliveries.put (d.skip Handlers.inactiveText now) }) ∨
        ∃ request, Handlers.beginDelivery s delivery now = (.sending (d.start now) request,
          { s with deliveries := s.deliveries.put (d.start now) })) := by
  unfold Handlers.beginDelivery
  split
  · exact .inl ⟨_, rfl⟩
  · next d hf =>
      have hd : d ∈ s.deliveries.rows := List.mem_of_find?_eq_some hf
      have hskip := updateDelivery_of_mem (d.skip Handlers.inactiveText now) hd rfl
      have hstart := updateDelivery_of_mem (d.start now) hd rfl
      split_ifs with hfinished
      · exact .inl ⟨_, rfl⟩
      · have hopen : d.state.isFinished = false := by simpa using hfinished
        split
        · exact .inl ⟨_, rfl⟩
        · split_ifs
          · split
            · exact .inl ⟨_, rfl⟩
            · refine .inr ⟨d, hf, hopen, .inr ?_⟩
              simp only [hstart]
              exact ⟨_, rfl⟩
          · refine .inr ⟨d, hf, hopen, .inl ?_⟩
            simp only [hskip]

/-- The delivery under way after the first half of sending is one of the store's. -/
theorem beginDelivery_writes (delivery : Ident) (now : Instant) {start : DeliveryStart}
    (hb : Handlers.beginDelivery s delivery now = (start, s')) :
    Writes g saved s s' ∧ ∀ d request, start = .sending d request → d ∈ s'.deliveries.rows := by
  rcases beginDelivery_cases s delivery now with ⟨result, he⟩ | ⟨d, hf, -, he | ⟨request, he⟩⟩
  · cases he.symm.trans hb
    exact ⟨.refl, fun d request hs => nomatch hs⟩
  · have hd : d ∈ s.deliveries.rows := List.mem_of_find?_eq_some hf
    cases he.symm.trans hb
    exact ⟨.single (.sending hd rfl rfl rfl), fun d request hs => nomatch hs⟩
  · have hd : d ∈ s.deliveries.rows := List.mem_of_find?_eq_some hf
    cases he.symm.trans hb
    refine ⟨.single (.sending hd rfl rfl rfl), fun d' request' hs => ?_⟩
    cases hs
    exact Table.mem_rows_put.2 (.inl rfl)

theorem trackDelinquency_writes (webhook : Ident) (outcome : Outcome) (now : Instant) :
    Writes g saved s (g.handlers.trackDelinquency s webhook outcome now).2 := by
  have hcount : Writes g saved s (s.recordOutcome webhook outcome now).2 := .single (.counting _)
  unfold Handlers.trackDelinquency
  simp only
  split_ifs
  · exact hcount.trans (deactivateWebhook_writes webhook)
  · exact hcount

theorem endDelivery_writes {d : Delivery} (hd : d ∈ s.deliveries.rows) (outcome : Outcome)
    (now : Instant) : Writes g saved s (g.handlers.endDelivery s d outcome now).2 := by
  have hroute := d.route_finish outcome now
  obtain ⟨hid, hkey⟩ := Prod.mk.inj hroute
  obtain ⟨hwebhook, hevent⟩ := Prod.mk.inj hkey
  have hu : Writes g saved s { s with deliveries := s.deliveries.put (d.finish outcome now) } :=
    .single (.sending hd hid hwebhook hevent)
  have ht := hu.trans (trackDelinquency_writes d.webhook outcome now)
  unfold Handlers.endDelivery
  rw [updateDelivery_of_mem _ hd hroute]
  simp only
  split
  all_goals
    next hr =>
      rw [hr] at ht
      exact ht

end Store

namespace System

variable {g : Setup} {saved : Webhook → Prop} {sys : System}

open Store (Writes)

theorem deliver_writes (delivery : Ident) (now : Instant) :
    Writes g saved sys.store (g.handlers.deliver sys delivery now).2.store := by
  cases hb : Handlers.beginDelivery sys.store delivery now with
  | mk start s =>
      have hbegin : Writes g saved sys.store s ∧
          ∀ d request, start = .sending d request → d ∈ s.deliveries.rows :=
        Store.beginDelivery_writes delivery now hb
      obtain ⟨hs, hd⟩ := hbegin
      unfold Handlers.deliver
      rw [hb]
      match start with
      | .over result => exact hs
      | .sending d request =>
          simp only
          split
          · exact hs
          · next outcome transport hsend =>
              exact hs.trans (Store.endDelivery_writes (hd d request rfl) outcome now)

theorem handle_writes (h : sys.store.Linked) (t : Task) (now : Instant) :
    Writes g saved sys.store (g.handlers.run sys t now).2.store := by
  unfold Handlers.run
  split
  · exact Store.notify_writes t.subject now
  · exact Store.dispatch_writes h t.subject now
  · exact deliver_writes t.subject now

theorem settleFailure_writes (config : FanoutConfig) (t : Task) (error : Error) (draw : Draw)
    (now : Instant) :
    Writes g saved sys.store (sys.settleFailure config t error draw now).2.store := by
  unfold settleFailure
  split
  · exact .refl
  · next delay hd =>
      have hf : Writes g saved sys.store (sys.store.fail t error.message delay now).2 :=
        Store.fail_writes t error.message delay now
      split
      all_goals
        next hr =>
          rw [hr] at hf
          exact hf

theorem execute_writes (h : sys.store.Linked) (config : FanoutConfig) (t : Task) (draw : Draw)
    (now : Instant) :
    Writes g saved sys.store (sys.execute g.handlers config t draw now).2.store := by
  have hrun : Writes g saved sys.store (g.handlers.run sys t now).2.store := handle_writes h t now
  unfold execute
  split
  · next hr =>
      rw [hr] at hrun
      exact hrun
  · next hr =>
      rw [hr] at hrun
      exact hrun.trans (Store.complete_writes t)
  · next hr =>
      rw [hr] at hrun
      exact hrun.trans (settleFailure_writes config t _ draw now)

/-- A call does nothing to the records but single writes. -/
theorem call_writes (h : sys.store.Linked) (now : Instant) (c : SystemCall)
    (hsaved : ∀ w, c = .saveWebhook w → saved w) :
    Writes g saved sys.store (sys.call g now c).store := by
  cases c with
  | createDraft board creator title =>
      simp only [call, Store.answer]
      exact Store.createDraft_writes now board creator title
  | changeCard card creator o => exact Store.perform_writes h.fresh now card creator o
  | destroyCard card => exact Store.destroy_writes now card
  | comment card creator body mentionees =>
      simp only [call, Store.answer]
      exact Store.comment_writes h.fresh now card creator body mentionees
  | saveWebhook w => exact .single (.saving (hsaved w rfl))
  | resubscribe webhook actions => exact Store.resubscribe_writes webhook actions
  | deactivate webhook => exact Store.deactivateWebhook_writes webhook
  | markRead notification => exact Store.markRead_writes notification now
  | failNotificationsAfter n => exact .single (.arming (some n))
  | claim worker kinds max => exact .single (.claim worker kinds max now)
  | complete t => exact Store.complete_writes t
  | fail t error delay => exact Store.fail_writes t error delay now
  | reclaim threshold =>
      simp only [call, Store.answer]
      split
      · next hr => exact Store.reclaim_writes hr
      · exact .refl
  | notify event => exact Store.notify_writes event now
  | dispatch event => exact Store.dispatch_writes h event now
  | deliver delivery => exact deliver_writes delivery now
  | execute t draw => exact execute_writes h g.config t draw now

/-- What every write keeps holds after every run. -/
theorem run_keeps (saved : Webhook → Prop) {P : Store → Prop}
    (step : ∀ s s', s.Linked → s.Write g saved s' → P s → P s') (hl : sys.store.Linked)
    (hp : P sys.store) (calls : List (Instant × SystemCall))
    (hsaved : ∀ c ∈ calls, ∀ w, c.2 = .saveWebhook w → saved w) :
    (sys.run g calls).store.Linked ∧ P (sys.run g calls).store := by
  induction calls generalizing sys with
  | nil => exact ⟨hl, hp⟩
  | cons c calls ih =>
      have hcall : Writes g saved sys.store (sys.call g c.1 c.2).store :=
        call_writes hl c.1 c.2 (hsaved c List.mem_cons_self)
      exact ih (hl.writes hcall) (Writes.keeps step hl hp hcall)
        fun c' hc' => hsaved c' (List.mem_cons_of_mem c hc')

end System

end BoardActivity
