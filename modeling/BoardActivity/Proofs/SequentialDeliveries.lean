import BoardActivity.Proofs.DeliveryOrigins

/-!
# Deliveries sent one at a time

When handlers run one after the other and requests are answered, a run that sends a delivery ends
it: the delivery is skipped, or its request is made and the outcome stored. A delivery that is
finished is left alone, so over a whole run no delivery is sent twice, however often its task is
retried or its event dispatched again, and whatever becomes of the webhook meanwhile
(`System.deliveries_sent_in_turn`).

Webhooks are saved from outside without any check, and what the endpoints answer is arbitrary.
-/

namespace BoardActivity

namespace Delivery

/-- What of a delivery never changes: which it is, where it goes to and comes from, since when. -/
def stamp (d : Delivery) : Ident × Ident × Ident × Instant :=
  (d.id, d.webhook, d.event, d.createdAt)

structure Coherent (d : Delivery) : Prop where
  resting : d.state ≠ .inProgress
  succeeded : d.state = .succeeded ↔ ∃ code, d.responseCode = some code ∧ 200 ≤ code ∧ code < 300
  failed : d.state = .failed ↔ ∃ code, d.responseCode = some code ∧ ¬(200 ≤ code ∧ code < 300)
  answered : ∀ code, d.responseCode = some code → d.error = none
  unanswered : d.state = .errored ∨ d.state = .skipped →
    d.responseCode = none ∧ ∃ text, d.error = some text
  pending : d.state = .pending → d.responseCode = none ∧ d.error = none

theorem coherent_of_pending {d : Delivery} (h : d.verdict = (.pending, none, none)) :
    d.Coherent := by
  obtain ⟨hstate, hrest⟩ := Prod.mk.inj h
  obtain ⟨hcode, herror⟩ := Prod.mk.inj hrest
  constructor <;> simp [hstate, hcode, herror]

theorem coherent_skip (d : Delivery) (reason : String) (now : Instant) :
    (d.skip reason now).Coherent := by
  constructor <;> simp [skip]

theorem coherent_finish (d : Delivery) (outcome : Outcome) (now : Instant) :
    (d.finish outcome now).Coherent := by
  cases outcome with
  | responded status =>
      by_cases hs : 200 ≤ status ∧ status < 300
      · have hsuccess : (Outcome.responded status).isSuccess = true := by
          simpa [Outcome.isSuccess] using hs
        constructor <;> simp [finish, hsuccess] <;> omega
      · have hfailure : (Outcome.responded status).isSuccess = false := by
          simpa [Outcome.isSuccess] using hs
        constructor <;> simp [finish, hfailure] <;> omega
  | errored text => constructor <;> simp [finish]

theorem stamp_finish (d : Delivery) (outcome : Outcome) (now : Instant) :
    (d.finish outcome now).stamp = d.stamp := by
  cases outcome with
  | responded status => rfl
  | errored text => rfl

end Delivery

/-- A transport that does not hang answers every request. -/
theorem Transport.send_of_answering {t : Transport} (h : t.hangs = false) (r : Request) :
    ∃ outcome script, t.send r = some (outcome, { t with script, sent := t.sent ++ [r] }) := by
  unfold send
  rw [h]
  cases t.script with
  | nil => exact ⟨t.fallback, [], rfl⟩
  | cons outcome rest => exact ⟨outcome, rest, rfl⟩

namespace Store

variable {s s' : Store} {g : Setup}

/-- The request that tells a webhook of an event: what is stored of it, and the names of its board
and its creator where these are there. -/
def requestFor (s : Store) (d : Delivery) (w : Webhook) (e : Event) : Request where
  webhook := w.id
  delivery := d.id
  state := .inProgress
  payload :=
    { id := e.id
      action := e.action
      createdAt := e.createdAt
      particulars := e.particulars
      eventable := e.eventable
      board := ⟨e.board, (s.boards.find? e.board).map (·.name)⟩
      creator := ⟨e.creator, (s.users.find? e.creator).map (·.name)⟩ }

def begun (s : Store) (d : Delivery) (now : Instant) : Store :=
  { s with deliveries := s.deliveries.put (d.start now) }

theorem mem_begun (s : Store) (d : Delivery) (now : Instant) :
    d.start now ∈ (s.begun d now).deliveries.rows :=
  Table.mem_rows_put.2 (.inl rfl)

/-- A delivery of a store without broken references has its webhook and its event. -/
theorem Linked.ends_of_delivery (h : s.Linked) {d : Delivery} (hd : d ∈ s.deliveries.rows) :
    ∃ w e, s.webhooks.find? d.webhook = some w ∧ s.events.find? d.event = some e := by
  obtain ⟨hevent, hwebhook⟩ := h.delivered d hd
  obtain ⟨e, he, heid⟩ := List.mem_map.1 hevent
  obtain ⟨w, hw, hwid⟩ := List.mem_map.1 hwebhook
  exact ⟨w, e, hwid ▸ Table.mem_rows_iff.1 hw, heid ▸ Table.mem_rows_iff.1 he⟩

/-- Deliveries are told apart by their identifiers. -/
theorem Linked.eq_of_delivery_id (h : s.Linked) {d d' : Delivery} (hd : d ∈ s.deliveries.rows)
    (hd' : d' ∈ s.deliveries.rows) (hid : d.id = d'.id) : d = d' :=
  List.inj_on_of_nodup_map h.counted.delivery_nodup hd hd' hid

theorem Linked.findDelivery_of_mem (h : s.Linked) {d : Delivery} (hd : d ∈ s.deliveries.rows) :
    s.findDelivery d.id = some d := by
  cases hf : s.findDelivery d.id with
  | none =>
      have hnone := List.find?_eq_none.1 hf d hd
      simp at hnone
  | some d' =>
      have hid : d'.id = d.id := by simpa using List.find?_some hf
      exact congrArg some (h.eq_of_delivery_id (List.mem_of_find?_eq_some hf) hd hid)

/-! ### What a call does to deliveries -/

/-- Deliveries are added that wait to be sent, or go with their events, or one that was not finished
is closed for good. -/
inductive Advance (s s' : Store) : Prop
  | adds (added : List Delivery) :
      s'.deliveries.rows = s.deliveries.rows ++ added →
      (∀ d ∈ added, s.supply.next ≤ d.id.value ∧ d.verdict = (.pending, none, none)) → Advance s s'
  | removes : (∀ d ∈ s'.deliveries.rows, d ∈ s.deliveries.rows) →
      (∀ d ∈ s.deliveries.rows, d ∈ s'.deliveries.rows ∨ d.event ∉ s'.eventIds) → Advance s s'
  | closes (d d' : Delivery) : d ∈ s.deliveries.rows → d.state.isFinished = false →
      d'.stamp = d.stamp → d'.Coherent → d'.state.isFinished = true →
      s'.deliveries = s.deliveries.put d' → Advance s s'

theorem Advance.coherent (h : s.Advance s') (hs : ∀ d ∈ s.deliveries.rows, d.Coherent) :
    ∀ d ∈ s'.deliveries.rows, d.Coherent := by
  intro x hx
  cases h with
  | adds added hrows hadded =>
      rcases List.mem_append.1 (hrows ▸ hx) with hx | hx
      · exact hs x hx
      · exact Delivery.coherent_of_pending (hadded x hx).2
  | removes hsub _ => exact hs x (hsub x hx)
  | closes d d' hd hopen hstamp hcoherent hfinished heq =>
      rcases Table.mem_rows_put.1 (heq ▸ hx) with rfl | ⟨hx, -⟩
      · exact hcoherent
      · exact hs x hx

/-- What becomes of a delivery: no other one has its identifier, it does not change once it is
finished, and it is there as long as its event. -/
structure Persists (d : Delivery) (s : Store) : Prop where
  below : d.id.value < s.supply.next
  spent : d.event.value < s.supply.next
  same : ∀ x ∈ s.deliveries.rows, x.id = d.id →
    x.stamp = d.stamp ∧ (d.state.isFinished = true → x = d)
  there : (∃ x ∈ s.deliveries.rows, x.id = d.id) ∨ d.event ∉ s.eventIds

theorem Linked.persists (h : s.Linked) {d : Delivery} (hd : d ∈ s.deliveries.rows) :
    Persists d s where
  below := h.counted.below_of_mem (.inr (.inr (.inr (.inr (.inl (List.mem_map_of_mem hd))))))
  spent := h.counted.below_of_mem (.inr (.inr (.inl (h.delivered d hd).1)))
  same x hx hid := by
    cases h.eq_of_delivery_id hx hd hid
    exact ⟨rfl, fun _ => rfl⟩
  there := .inl ⟨d, hd, rfl⟩

theorem Persists.same_advance {d : Delivery} (hp : Persists d s) (h : s.Advance s') :
    ∀ x ∈ s'.deliveries.rows, x.id = d.id →
      x.stamp = d.stamp ∧ (d.state.isFinished = true → x = d) := by
  intro x hx hid
  cases h with
  | adds added hrows hadded =>
      rcases List.mem_append.1 (hrows ▸ hx) with hx | hx
      · exact hp.same x hx hid
      · have hnew := (hadded x hx).1
        have hbelow := hp.below
        rw [hid] at hnew
        omega
  | removes hsub _ => exact hp.same x (hsub x hx) hid
  | closes y y' hy hopen hstamp _ _ heq =>
      rcases Table.mem_rows_put.1 (heq ▸ hx) with rfl | ⟨hx, -⟩
      · -- The delivery closed is this one, which therefore was not finished.
        have hyid : y.id = d.id := (congrArg Prod.fst hstamp).symm.trans hid
        obtain ⟨hsame, hfinal⟩ := hp.same y hy hyid
        refine ⟨hstamp.trans hsame, fun hfinished => ?_⟩
        rw [← hfinal hfinished, hopen] at hfinished
        cases hfinished
      · exact hp.same x hx hid

theorem Persists.there_advance {d : Delivery} (hp : Persists d s) (h : s.Advance s')
    {x : Delivery} (hx : x ∈ s.deliveries.rows) (hid : x.id = d.id) :
    (∃ y ∈ s'.deliveries.rows, y.id = d.id) ∨ d.event ∉ s'.eventIds := by
  cases h with
  | adds added hrows _ => exact .inl ⟨x, hrows ▸ List.mem_append_left _ hx, hid⟩
  | removes _ hkept =>
      rcases hkept x hx with hx' | hno
      · exact .inl ⟨x, hx', hid⟩
      · have hevent : x.event = d.event := congrArg (fun p => p.2.2.1) (hp.same x hx hid).1
        exact .inr (hevent ▸ hno)
  | closes y y' hy _ hstamp _ _ heq =>
      left
      by_cases hk : Keyed.key x = Keyed.key y'
      · have hxy : x = y := by
          apply Table.eq_of_key_eq hx hy
          exact hk.trans (congrArg (fun p => (p.2.1, p.2.2.1)) hstamp)
        refine ⟨y', heq ▸ Table.mem_rows_put.2 (.inl rfl), ?_⟩
        exact (congrArg Prod.fst hstamp).trans (hxy ▸ hid)
      · exact ⟨x, heq ▸ Table.mem_rows_put.2 (.inr ⟨hx, hk⟩), hid⟩

theorem Persists.advance {d : Delivery} (hp : Persists d s) (h : s.Advance s')
    (hle : s.supply.next ≤ s'.supply.next)
    (hevents : ∀ id ∈ s'.eventIds, id ∈ s.eventIds ∨ s.supply.next ≤ id.value) :
    Persists d s' := by
  refine ⟨hp.below.trans_le hle, hp.spent.trans_le hle, hp.same_advance h, ?_⟩
  rcases hp.there with ⟨x, hx, hid⟩ | hno
  · exact hp.there_advance h hx hid
  · right
    intro hm
    have hspent := hp.spent
    rcases hevents _ hm with hm | hm
    · exact hno hm
    · omega

theorem advance_of_eq (h : s'.deliveries = s.deliveries) : s.Advance s' :=
  .adds [] (h ▸ (List.append_nil _).symm) fun _ hm => (List.not_mem_nil hm).elim

/-- Deliveries go with the events that they are about. -/
theorem advance_removeCards (s : Store) (cards : List Ident) : s.Advance (s.removeCards cards) := by
  refine .removes (fun d hd => (List.mem_filter.1 hd).1) fun d hd => ?_
  by_cases hm : d.event ∈ s.eventIdsOn cards
  · exact .inr fun hin => (mem_eventIds_removeCards.1 hin).2 hm
  · exact .inl (List.mem_filter.2 ⟨hd, decide_eq_true hm⟩)

/-- The events of a store are those that a write found there, and new ones. -/
theorem Write.eventIds {saved : Webhook → Prop} (hw : s.Write g saved s') :
    ∀ id ∈ s'.eventIds, id ∈ s.eventIds ∨ s.supply.next ≤ id.value := by
  have hput : ∀ e : Event, s.supply.next ≤ e.id.value →
      ∀ id ∈ (s.events.put e).rows.map Event.id, id ∈ s.eventIds ∨ s.supply.next ≤ id.value := by
    intro e he id hm
    rcases Table.key_mem_putRow.1 hm with rfl | hm
    · exact .inr he
    · exact .inl hm
  intro id hm
  cases hw with
  | @change o c c' p creator now e ha _ he =>
      exact hput e (he ▸ le_rfl) id hm
  | @comment c x now e hr he =>
      exact hput e (he ▸ Nat.le_succ _) id hm
  | removal cards => exact .inl ((List.filter_sublist.map Event.id).subset hm)
  | draft | remark | notice | delivery | edit | saving | subscription | reading | arming | sending
    | counting | settlement | claim => exact .inl hm

end Store

namespace System

variable {sys : System} {g : Setup}

/-! ### Sending, by cases -/

section Cases

variable {h : Handlers} {delivery : Ident} {d : Delivery} {w : Webhook} {e : Event} {now : Instant}

theorem deliver_of_unknown (hf : sys.store.findDelivery delivery = none) :
    h.deliver sys delivery now = (some (.ok .skipped), sys) := by
  simp only [Handlers.deliver, Handlers.beginDelivery, hf]

theorem deliver_of_finished (hf : sys.store.findDelivery delivery = some d)
    (hfinished : d.state.isFinished = true) :
    h.deliver sys delivery now = (some (.ok .skipped), sys) := by
  simp only [Handlers.deliver, Handlers.beginDelivery, hf, hfinished, if_true]

/-- A delivery is left alone if its webhook is gone, or is active and its event is gone. -/
theorem deliver_of_orphan (hf : sys.store.findDelivery delivery = some d)
    (hopen : d.state.isFinished = false)
    (hgone : sys.store.webhooks.find? d.webhook = none ∨
      ∃ w, sys.store.webhooks.find? d.webhook = some w ∧ w.active = true ∧
        sys.store.events.find? d.event = none) :
    h.deliver sys delivery now = (some (.ok .skipped), sys) := by
  rcases hgone with hw | ⟨w, hw, hactive, he⟩
  · simp only [Handlers.deliver, Handlers.beginDelivery, hf, hopen, hw, Bool.false_eq_true,
      if_false]
  · simp only [Handlers.deliver, Handlers.beginDelivery, hf, hopen, hw, hactive, he,
      Bool.false_eq_true, if_false, if_true]

/-- To an inactive webhook nothing is sent. -/
theorem deliver_of_inactive (hf : sys.store.findDelivery delivery = some d)
    (hopen : d.state.isFinished = false) (hw : sys.store.webhooks.find? d.webhook = some w)
    (hactive : w.active = false) :
    h.deliver sys delivery now = (some (.ok .skipped), ⟨{ sys.store with
      deliveries := sys.store.deliveries.put (d.skip Handlers.inactiveText now) },
      sys.transport⟩) := by
  have hd : d ∈ sys.store.deliveries.rows := List.mem_of_find?_eq_some hf
  have hskip := Store.updateDelivery_of_mem (d.skip Handlers.inactiveText now) hd rfl
  simp only [Handlers.deliver, Handlers.beginDelivery, hf, hopen, hw, hactive, hskip,
    Bool.false_eq_true, if_false]

theorem begin_of_active (hf : sys.store.findDelivery delivery = some d)
    (hopen : d.state.isFinished = false) (hw : sys.store.webhooks.find? d.webhook = some w)
    (he : sys.store.events.find? d.event = some e) (hactive : w.active = true) :
    Handlers.beginDelivery sys.store delivery now =
      (.sending (d.start now) (sys.store.requestFor d w e), sys.store.begun d now) := by
  have hd : d ∈ sys.store.deliveries.rows := List.mem_of_find?_eq_some hf
  have hstart := Store.updateDelivery_of_mem (d.start now) hd rfl
  simp only [Handlers.beginDelivery, hf, hopen, hw, hactive, he, hstart, Bool.false_eq_true,
    if_false, if_true]
  rfl

/-- The request that is made to an active webhook, and its outcome. -/
theorem deliver_of_active (hf : sys.store.findDelivery delivery = some d)
    (hopen : d.state.isFinished = false) (hw : sys.store.webhooks.find? d.webhook = some w)
    (he : sys.store.events.find? d.event = some e) (hactive : w.active = true) {outcome : Outcome}
    {transport : Transport}
    (hsend : sys.transport.send (sys.store.requestFor d w e) = some (outcome, transport)) :
    h.deliver sys delivery now =
      (some (h.endDelivery (sys.store.begun d now) (d.start now) outcome now).1,
        ⟨(h.endDelivery (sys.store.begun d now) (d.start now) outcome now).2, transport⟩) := by
  simp only [Handlers.deliver, begin_of_active hf hopen hw he hactive, hsend]

end Cases

/-- What comes of a call that is to send a delivery: there is nothing to send, or the delivery is
ended, with a request if its webhook is active. -/
inductive Sending (sys : System) (delivery : Ident) (sys' : System) : Prop
  | idle : sys'.store.deliveries = sys.store.deliveries → sys'.transport = sys.transport →
      (∀ d, sys.store.findDelivery delivery = some d → d.state.isFinished = true) →
      Sending sys delivery sys'
  | ends (d d' : Delivery) (w : Webhook) (e : Event) :
      sys.store.findDelivery delivery = some d → d.state.isFinished = false →
      sys.store.webhooks.find? d.webhook = some w → sys.store.events.find? d.event = some e →
      d'.stamp = d.stamp → d'.Coherent → d'.state.isFinished = true →
      sys'.store.deliveries = sys.store.deliveries.put d' →
      sys'.transport.hangs = sys.transport.hangs →
      sys'.transport.sent = sys.transport.sent ++
        (if w.active = true then [sys.store.requestFor d w e] else []) → Sending sys delivery sys'

theorem deliver_sending (hl : sys.store.Linked) (ht : sys.transport.hangs = false) (h : Handlers)
    (delivery : Ident) (now : Instant) :
    sys.Sending delivery (h.deliver sys delivery now).2 := by
  cases hf : sys.store.findDelivery delivery with
  | none =>
      rw [deliver_of_unknown hf]
      refine .idle rfl rfl fun d hd => ?_
      cases hf.symm.trans hd
  | some d =>
      have hd : d ∈ sys.store.deliveries.rows := List.mem_of_find?_eq_some hf
      obtain ⟨w, e, hw, he⟩ := hl.ends_of_delivery hd
      cases hopen : d.state.isFinished with
      | true =>
          rw [deliver_of_finished hf hopen]
          exact .idle rfl rfl fun d' hd' => (Option.some.inj (hf.symm.trans hd')) ▸ hopen
      | false =>
          cases hactive : w.active with
          | false =>
              rw [deliver_of_inactive hf hopen hw hactive]
              refine .ends d (d.skip Handlers.inactiveText now) w e hf hopen hw he rfl
                (d.coherent_skip _ now) rfl rfl rfl ?_
              simp only [hactive, Bool.false_eq_true, if_false, List.append_nil]
          | true =>
              obtain ⟨outcome, script, hsend⟩ :=
                Transport.send_of_answering ht (sys.store.requestFor d w e)
              obtain ⟨webhooks, hend⟩ :=
                Store.endDelivery_eq h (sys.store.mem_begun d now) rfl outcome now
              have hkey : Keyed.key ((d.start now).finish outcome now) = Keyed.key (d.start now) :=
                congrArg Prod.snd ((d.start now).route_finish outcome now)
              rw [deliver_of_active hf hopen hw he hactive hsend]
              refine .ends d ((d.start now).finish outcome now) w e hf hopen hw he
                ((d.start now).stamp_finish outcome now) ((d.start now).coherent_finish outcome now)
                ((d.start now).isFinished_finish outcome now) ?_ rfl ?_
              · rw [hend]
                exact Table.put_put _ hkey
              · simp only [hactive, if_true]

theorem call_sending (hl : sys.store.Linked) (ht : sys.transport.hangs = false) (now : Instant)
    {c : SystemCall} {delivery : Ident} (hc : c.delivers? = some delivery) :
    sys.Sending delivery (sys.call g now c) := by
  obtain ⟨outbox, heq⟩ := sys.call_of_sending g now hc
  rw [heq]
  cases deliver_sending hl ht g.handlers delivery now with
  | idle hsame htransport hover => exact .idle hsame htransport hover
  | ends d d' w e hd hopen hw he hstamp hcoherent hfinished hput hhangs hsent =>
      exact .ends d d' w e hd hopen hw he hstamp hcoherent hfinished hput hhangs hsent

theorem Sending.advance {delivery : Ident} {sys' : System} (h : sys.Sending delivery sys') :
    sys.store.Advance sys'.store := by
  cases h with
  | idle hsame _ _ => exact Store.advance_of_eq hsame
  | ends d d' w e hd hopen _ _ hstamp hcoherent hfinished hput _ _ =>
      exact .closes d d' (List.mem_of_find?_eq_some hd) hopen hstamp hcoherent hfinished hput

theorem call_advance (hl : sys.store.Linked) (ht : sys.transport.hangs = false) (g : Setup)
    (now : Instant) (c : SystemCall) : sys.store.Advance (sys.call g now c).store := by
  by_cases hdestroy : ∃ card, c = .destroyCard card
  · obtain ⟨card, rfl⟩ := hdestroy
    simp only [call, Store.answer, Store.destroy_eq]
    split_ifs
    · exact Store.advance_removeCards _ _
    · exact Store.advance_of_eq rfl
  · cases hdeliver : c.delivers? with
    | some delivery => exact (call_sending hl ht now hdeliver).advance
    | none =>
        cases hdispatch : c.dispatches? with
        | none =>
            refine Store.advance_of_eq (deliveries_call hl g now hdispatch hdeliver ?_)
            exact fun card he => hdestroy ⟨card, he⟩
        | some event =>
            obtain ⟨added, tasks, hadded, -, hnew⟩ :=
              Store.dispatch_grows (g := g) hl event now
            rw [← deliveries_dispatching sys g now hdispatch] at hadded
            exact .adds added hadded fun d hd => ⟨(hnew d hd).1, (hnew d hd).2.1⟩

/-! ### Runs -/

structure Sends (sys : System) (g : Setup) (now : Instant) (c : SystemCall) (r : Request) :
    Prop where
  call : c.delivers? = some r.delivery
  subject : ∃ d w e, sys.store.findDelivery r.delivery = some d ∧ d.state.isFinished = false ∧
    sys.store.webhooks.find? d.webhook = some w ∧ w.active = true ∧
    sys.store.events.find? d.event = some e ∧ r = sys.store.requestFor d w e
  sent : (sys.call g now c).transport.sent = sys.transport.sent ++ [r]

structure Orderly (sys : System) : Prop where
  linked : sys.store.Linked
  answering : sys.transport.hangs = false
  coherent : ∀ d ∈ sys.store.deliveries.rows, d.Coherent

/-- Requests are made by calls that send a delivery, one at most by each. -/
theorem Orderly.requests (h : sys.Orderly) (g : Setup) (now : Instant) (c : SystemCall) :
    (sys.call g now c).transport.hangs = sys.transport.hangs ∧
      ((sys.call g now c).transport.sent = sys.transport.sent ∨ ∃ r, sys.Sends g now c r) := by
  cases hc : c.delivers? with
  | none =>
      rw [(sys.call_of_silent g now hc).1]
      exact ⟨rfl, .inl rfl⟩
  | some delivery =>
      cases call_sending (g := g) h.linked h.answering now hc with
      | idle _ htransport _ =>
          rw [htransport]
          exact ⟨rfl, .inl rfl⟩
      | ends d d' w e hd hopen hw he _ _ _ _ hhangs hsent =>
          refine ⟨hhangs, ?_⟩
          split_ifs at hsent with hactive
          · have hid : d.id = delivery := by simpa using List.find?_some hd
            subst hid
            exact .inr ⟨_, hc, ⟨d, w, e, hd, hopen, hw, hactive, he, rfl⟩, hsent⟩
          · exact .inl (hsent.trans (List.append_nil _))

theorem Orderly.call (h : sys.Orderly) (g : Setup) (now : Instant) (c : SystemCall) :
    (sys.call g now c).Orderly where
  linked := linked_call h.linked g now c
  answering := (h.requests g now c).1.trans h.answering
  coherent := (call_advance h.linked h.answering g now c).coherent h.coherent

theorem Orderly.run (h : sys.Orderly) (g : Setup) (calls : List (Instant × SystemCall)) :
    (sys.run g calls).Orderly :=
  run_induction (fun _ now c ho => ho.call g now c) h calls

/-- A call that is to send a stored delivery leaves it finished. -/
theorem Orderly.finished (h : sys.Orderly) (g : Setup) (now : Instant) {c : SystemCall}
    {d : Delivery} (hd : d ∈ sys.store.deliveries.rows) (hc : c.delivers? = some d.id) :
    ∃ d', (sys.call g now c).store.findDelivery d.id = some d' ∧ d'.state.isFinished = true := by
  have hf := h.linked.findDelivery_of_mem hd
  have hlinked := (h.call g now c).linked
  cases call_sending (g := g) h.linked h.answering now hc with
  | idle hsame _ hover =>
      exact ⟨d, hlinked.findDelivery_of_mem (hsame ▸ hd), hover d hf⟩
  | ends d₀ d' w e hd₀ _ _ _ hstamp _ hfinished hput _ _ =>
      cases hf.symm.trans hd₀
      have hid : d'.id = d.id := congrArg Prod.fst hstamp
      have hrow : d' ∈ (sys.call g now c).store.deliveries.rows :=
        hput ▸ Table.mem_rows_put.2 (.inl rfl)
      exact ⟨d', hid ▸ hlinked.findDelivery_of_mem hrow, hfinished⟩

/-- The events after a call are those before it, and new ones. -/
theorem eventIds_call (h : sys.store.Linked) (g : Setup) (now : Instant) (c : SystemCall) :
    sys.store.supply.next ≤ (sys.call g now c).store.supply.next ∧
      ∀ id ∈ (sys.call g now c).store.eventIds,
        id ∈ sys.store.eventIds ∨ sys.store.supply.next ≤ id.value := by
  have hwrites : Store.Writes g (fun _ => True) sys.store (sys.call g now c).store :=
    call_writes h now c fun _ _ => trivial
  refine Store.Writes.keeps (P := fun s => sys.store.supply.next ≤ s.supply.next ∧
    ∀ id ∈ s.eventIds, id ∈ sys.store.eventIds ∨ sys.store.supply.next ≤ id.value)
    (fun s s' _ hw hp => ⟨hp.1.trans hw.next_le, fun id hm => ?_⟩) h
    ⟨le_rfl, fun _ hm => .inl hm⟩ hwrites
  rcases hw.eventIds id hm with hm | hnew
  · exact hp.2 id hm
  · exact .inr (hp.1.trans hnew)

theorem Orderly.persists_run (h : sys.Orderly) {d : Delivery} (hp : Store.Persists d sys.store)
    (g : Setup) (calls : List (Instant × SystemCall)) :
    Store.Persists d (sys.run g calls).store := by
  have hstep : ∀ (sys : System) now c, sys.Orderly ∧ Store.Persists d sys.store →
      (sys.call g now c).Orderly ∧ Store.Persists d (sys.call g now c).store := by
    rintro sys now c ⟨ho, hp⟩
    obtain ⟨hle, hevents⟩ := eventIds_call ho.linked g now c
    exact ⟨ho.call g now c,
      hp.advance (call_advance ho.linked ho.answering g now c) hle hevents⟩
  exact (run_induction hstep ⟨h, hp⟩ calls).2

/-- A delivery that a call was to send is not sent again by what follows. -/
theorem Orderly.not_sent_again (h : sys.Orderly) {now now' : Instant} {c c' : SystemCall}
    {r r' : Request} (hr : sys.Sends g now c r) (calls : List (Instant × SystemCall))
    (hr' : ((sys.call g now c).run g calls).Sends g now' c' r') : r'.delivery ≠ r.delivery := by
  intro hsame
  obtain ⟨d, w, e, hd, -⟩ := hr.subject
  have hid : d.id = r.delivery := by simpa using List.find?_some hd
  obtain ⟨d', hd', hfinished⟩ :=
    h.finished g now (List.mem_of_find?_eq_some hd) (hid ▸ hr.call)
  have hnext := h.call g now c
  have hp := hnext.persists_run (hnext.linked.persists (List.mem_of_find?_eq_some hd')) g calls
  obtain ⟨x, -, -, hx, hopen, -⟩ := hr'.subject
  have hxid : x.id = d'.id := by
    have hx' : x.id = r'.delivery := by simpa using List.find?_some hx
    have hd'' : d'.id = d.id := by simpa using List.find?_some hd'
    rw [hx', hsame, hd'', hid]
  rw [(hp.same x (List.mem_of_find?_eq_some hx) hxid).2 hfinished, hfinished] at hopen
  cases hopen

/-- The requests of a run are all for different deliveries. -/
theorem Orderly.requests_of_run (h : sys.Orderly) (g : Setup)
    (calls : List (Instant × SystemCall)) :
    ∃ made, (sys.run g calls).transport.sent = sys.transport.sent ++ made ∧
      (made.map Request.delivery).Nodup ∧
      ∀ r ∈ made, ∃ before now c after, calls = before ++ (now, c) :: after ∧
        (sys.run g before).Sends g now c r := by
  induction calls using List.reverseRecOn with
  | nil => exact ⟨[], (List.append_nil _).symm, List.nodup_nil, fun r hr => nomatch hr⟩
  | append_singleton calls call ih =>
      obtain ⟨now, c⟩ := call
      obtain ⟨made, hsent, honce, horigin⟩ := ih
      rw [run_append]
      have hearlier : ∀ r ∈ made, ∃ before now' c' after,
          calls ++ [(now, c)] = before ++ (now', c') :: after ∧
            (sys.run g before).Sends g now' c' r := by
        intro r hr
        obtain ⟨before, now', c', after, rfl, hsends⟩ := horigin r hr
        exact ⟨before, now', c', after ++ [(now, c)], by simp, hsends⟩
      rcases ((h.run g calls).requests g now c).2 with hsame | ⟨r, hr⟩
      · exact ⟨made, hsame.trans hsent, honce, hearlier⟩
      · refine ⟨made ++ [r], ?_, ?_, fun r' hr' => ?_⟩
        · rw [← List.append_assoc, ← hsent]
          exact hr.sent
        · -- The latest request is for none of the deliveries that were sent before.
          rw [List.map_append, List.nodup_append]
          refine ⟨honce, List.nodup_singleton _, ?_⟩
          intro id hid id' hid' hsame
          obtain ⟨r', hr', rfl⟩ := List.mem_map.1 hid
          obtain ⟨before, now', c', after, rfl, hsends⟩ := horigin r' hr'
          rw [run_append] at hr
          refine (h.run g before).not_sent_again hsends after hr ?_
          rw [hsame]
          exact (List.mem_singleton.1 hid').symm
        · rcases List.mem_append.1 hr' with hr' | hr'
          · exact hearlier r' hr'
          · cases List.mem_singleton.1 hr'
            exact ⟨calls, now, c, [], rfl, hr⟩

structure SentInTurn (sys : System) (g : Setup) (calls : List (Instant × SystemCall)) : Prop where
  /-- No two requests are for one delivery, and each is made while its webhook is active and its
  event is there. -/
  once : ∃ made, (sys.run g calls).transport.sent = sys.transport.sent ++ made ∧
    (made.map Request.delivery).Nodup ∧
    ∀ r ∈ made, ∃ before now c after, calls = before ++ (now, c) :: after ∧
      (sys.run g before).Sends g now c r
  finished : ∀ now c, ∀ d ∈ (sys.run g calls).store.deliveries.rows, c.delivers? = some d.id →
    ∃ d', ((sys.run g calls).call g now c).store.findDelivery d.id = some d' ∧
      d'.state.isFinished = true
  /-- A finished delivery stays as it is for as long as its event is there. -/
  final : ∀ later, ∀ d ∈ (sys.run g calls).store.deliveries.rows, d.state.isFinished = true →
    d ∈ ((sys.run g calls).run g later).store.deliveries.rows ∨
      d.event ∉ ((sys.run g calls).run g later).store.eventIds
  coherent : ∀ d ∈ (sys.run g calls).store.deliveries.rows, d.Coherent
  /-- No delivery takes another identifier, webhook, event or time of creation. -/
  same : ∀ later, ∀ d ∈ (sys.run g calls).store.deliveries.rows,
    ∀ d' ∈ ((sys.run g calls).run g later).store.deliveries.rows,
      d'.id = d.id ∨ (d'.webhook, d'.event) = (d.webhook, d.event) → d'.stamp = d.stamp

/-- Over every run from users, boards and webhooks whose handlers run one at a time, with any
answers of the endpoints, any repetition of calls and any changes of webhooks: each delivery is sent
once at most, and only while its webhook is active and its event is there; a run that is to send a
stored delivery leaves it finished, and finished it stays as it is until its event goes; state,
answer and error of every delivery agree; and what a delivery is never changes. -/
theorem deliveries_sent_in_turn {sys : System} (h : sys.store.Seeded)
    (ht : sys.transport.hangs = false) (g : Setup) (calls : List (Instant × SystemCall)) :
    sys.SentInTurn g calls := by
  have hstart : sys.Orderly := ⟨h.linked, ht, fun d hd => by
    rw [h.deliveries] at hd
    cases hd⟩
  have hrun := hstart.run g calls
  have hpersists : ∀ later, ∀ d ∈ (sys.run g calls).store.deliveries.rows,
      Store.Persists d ((sys.run g calls).run g later).store :=
    fun later d hd => hrun.persists_run (hrun.linked.persists hd) g later
  refine ⟨hstart.requests_of_run g calls, fun now c d hd hc => hrun.finished g now hd hc,
    fun later d hd hfinished => ?_, hrun.coherent, fun later d hd d' hd' hsame => ?_⟩
  · have hp := hpersists later d hd
    rcases hp.there with ⟨x, hx, hid⟩ | hgone
    · exact .inl ((hp.same x hx hid).2 hfinished ▸ hx)
    · exact .inr hgone
  · have hp := hpersists later d hd
    rcases hsame with hid | hkey
    · exact (hp.same d' hd' hid).1
    · obtain ⟨hwebhook, hevent⟩ := Prod.mk.inj hkey
      rcases hp.there with ⟨x, hx, hid⟩ | hgone
      · have hstamp := (hp.same x hx hid).1
        have hxd' : x = d' := by
          refine Table.eq_of_key_eq hx hd' (Eq.trans ?_ hkey.symm)
          exact congrArg (fun p => (p.2.1, p.2.2.1)) hstamp
        exact hxd' ▸ hstamp
      · refine (hgone ?_).elim
        exact hevent ▸ ((hrun.run g later).linked.delivered d' hd').1

/-- The endpoint answers with an error. Sending again, also by a task or after another dispatch,
makes no second request, and the delivery stays failed. -/
theorem deliveries_sent_in_turn_failed :
    let now : Instant := ⟨0, 0⟩
    let webhook : Webhook := ⟨⟨3⟩, ⟨9⟩, ⟨2⟩, "hook", "https://example.com", true,
      .ofList ["card_published"], now⟩
    let seed := ((Store.empty 10).addUser ⟨⟨1⟩, ⟨9⟩, "ada", .member⟩).addBoard
      ⟨⟨2⟩, ⟨9⟩, "ops", []⟩
    let sys : System := ⟨seed.saveWebhook webhook, ⟨[.responded 500], .responded 200, false, []⟩⟩
    let g : Setup := ⟨.standard, .ofConfig .standard, .standard⟩
    let calls : List (Instant × SystemCall) :=
      [(now, .createDraft ⟨2⟩ ⟨1⟩ "plan"), (now, .changeCard ⟨10⟩ ⟨1⟩ .publish),
       (now, .dispatch ⟨11⟩), (now, .deliver ⟨14⟩), (now, .deactivate ⟨3⟩), (now, .deliver ⟨14⟩),
       (now, .saveWebhook webhook), (now, .dispatch ⟨11⟩),
       (now, .execute ⟨⟨15⟩, .deliverWebhook, ⟨14⟩, 1, 1, "worker"⟩ .middle)]
    sys.transport.hangs = false ∧
      (sys.run g calls).transport.sent.map Request.delivery = [⟨14⟩] ∧
      (∃ d ∈ (sys.run g calls).store.deliveries.rows, d.verdict = (.failed, some 500, none)) ∧
      sys.SentInTurn g calls := by
  intro now webhook seed sys g calls
  have hseed : sys.store.Seeded := ⟨rfl, rfl, rfl, rfl, rfl, rfl⟩
  exact ⟨rfl, by decide +kernel, by decide +kernel, deliveries_sent_in_turn hseed rfl g calls⟩

end System

end BoardActivity
