import BoardActivity.Proofs.NotificationFanout
import BoardActivity.Proofs.ReferenceRuns

/-!
# Accounts are kept apart

An account is named in many records, and compared at some places only: by operations when a draft is
put on a board, when users are brought in and when an event is recorded, but neither when recipients
are told nor when webhooks are looked up. `Store.Isolated` is what makes up for that: every record
stays within one account, together with the users, the board and the records that it refers to.
Boards and webhooks come from outside, so that they do so has to be assumed of the first store.

Most writes add to what a store knows of accounts (`Store.Extends`); only removal takes away, and it
takes along whatever refers to what is removed.
-/

namespace BoardActivity

structure Card.Within (c : Card) (s : Store) : Prop where
  board : s.HasBoard c.account c.board
  creator : s.HasMember c.account c.creator
  assignees : ∀ u ∈ c.assignees, s.HasMember c.account u
  watchers : ∀ u ∈ c.watchers, s.HasMember c.account u

structure Comment.Within (x : Comment) (s : Store) : Prop where
  card : ∃ c ∈ s.cards.rows, c.id = x.card ∧ c.account = x.account
  creator : s.HasMember x.account x.creator
  mentionees : ∀ u ∈ x.mentionees, s.HasMember x.account u

/-- What an event is about is there and belongs to the account. -/
def Store.OwnsEventable (s : Store) (account : Ident) (ref : EventableRef) : Prop :=
  match ref.kind with
  | .card => ∃ c ∈ s.cards.rows, c.id = ref.id ∧ c.account = account
  | .comment => ∃ x ∈ s.comments.rows, x.id = ref.id ∧ x.account = account

structure Event.Within (e : Event) (s : Store) : Prop where
  board : s.HasBoard e.account e.board
  creator : s.HasMember e.account e.creator
  eventable : s.OwnsEventable e.account e.eventable
  assignees : ∀ u ∈ e.assignees, s.HasMember e.account u

/-- The user belongs to the account of the event. -/
def Notification.Within (n : Notification) (s : Store) : Prop :=
  ∃ e ∈ s.events.rows, e.id = n.event ∧ s.HasMember e.account n.user

def Delivery.Within (d : Delivery) (s : Store) : Prop :=
  ∃ e ∈ s.events.rows, e.id = d.event ∧
    ∃ w ∈ s.webhooks.rows, w.id = d.webhook ∧ w.account = e.account

namespace Store

/-- No record reaches from one account into another. -/
structure Isolated (s : Store) : Prop where
  watchers : ∀ b ∈ s.boards.rows, ∀ u ∈ b.watchers, s.HasMember b.account u
  webhooks : ∀ w ∈ s.webhooks.rows, ∀ b ∈ s.boards.rows, b.id = w.board → w.account = b.account
  cards : ∀ c ∈ s.cards.rows, c.Within s
  comments : ∀ x ∈ s.comments.rows, x.Within s
  events : ∀ e ∈ s.events.rows, e.Within s
  notifications : ∀ n ∈ s.notifications.rows, n.Within s
  deliveries : ∀ d ∈ s.deliveries.rows, d.Within s

structure Extends (s s' : Store) : Prop where
  users : s'.users = s.users
  boards : s'.boards = s.boards
  cards : ∀ c ∈ s.cards.rows, ∃ c' ∈ s'.cards.rows, c'.id = c.id ∧ c'.account = c.account
  comments : ∀ x ∈ s.comments.rows, x ∈ s'.comments.rows
  events : ∀ e ∈ s.events.rows, e ∈ s'.events.rows
  webhooks : ∀ w ∈ s.webhooks.rows, ∃ w' ∈ s'.webhooks.rows, w'.id = w.id ∧ w'.account = w.account

variable {s s' : Store}

namespace Extends

theorem member (h : s.Extends s') {account user : Ident} (hm : s.HasMember account user) :
    s'.HasMember account user := by
  unfold HasMember at hm ⊢
  rwa [h.users]

theorem board (h : s.Extends s') {account board : Ident} (hb : s.HasBoard account board) :
    s'.HasBoard account board := by
  unfold HasBoard at hb ⊢
  rwa [h.boards]

theorem card (h : s.Extends s') {c : Card} (hc : c.Within s) : c.Within s' where
  board := h.board hc.board
  creator := h.member hc.creator
  assignees := fun u hu => h.member (hc.assignees u hu)
  watchers := fun u hu => h.member (hc.watchers u hu)

theorem owned (h : s.Extends s') {id account : Ident}
    (hc : ∃ c ∈ s.cards.rows, c.id = id ∧ c.account = account) :
    ∃ c ∈ s'.cards.rows, c.id = id ∧ c.account = account := by
  obtain ⟨c, hc, hid, ha⟩ := hc
  obtain ⟨c', hc', hid', ha'⟩ := h.cards c hc
  exact ⟨c', hc', hid'.trans hid, ha'.trans ha⟩

theorem comment (h : s.Extends s') {x : Comment} (hx : x.Within s) : x.Within s' where
  card := h.owned hx.card
  creator := h.member hx.creator
  mentionees := fun u hu => h.member (hx.mentionees u hu)

theorem eventable (h : s.Extends s') {account : Ident} {ref : EventableRef}
    (hr : s.OwnsEventable account ref) : s'.OwnsEventable account ref := by
  unfold OwnsEventable at hr ⊢
  split at hr
  · exact h.owned hr
  · obtain ⟨x, hx, hid, ha⟩ := hr
    exact ⟨x, h.comments x hx, hid, ha⟩

theorem event (h : s.Extends s') {e : Event} (he : e.Within s) : e.Within s' where
  board := h.board he.board
  creator := h.member he.creator
  eventable := h.eventable he.eventable
  assignees := fun u hu => h.member (he.assignees u hu)

theorem notification (h : s.Extends s') {n : Notification} (hn : n.Within s) : n.Within s' := by
  obtain ⟨e, he, hid, hm⟩ := hn
  exact ⟨e, h.events e he, hid, h.member hm⟩

theorem delivery (h : s.Extends s') {d : Delivery} (hd : d.Within s) : d.Within s' := by
  obtain ⟨e, he, hid, w, hw, hwid, ha⟩ := hd
  obtain ⟨w', hw', hwid', ha'⟩ := h.webhooks w hw
  exact ⟨e, h.events e he, hid, w', hw', hwid'.trans hwid, ha'.trans ha⟩

end Extends

/-- A store that knows no less is isolated if what is new in it is. -/
theorem Isolated.extend (h : s.Isolated) (hx : s.Extends s')
    (hwebhooks : ∀ w' ∈ s'.webhooks.rows, ∃ w ∈ s.webhooks.rows,
      w'.account = w.account ∧ w'.board = w.board)
    (hcards : ∀ c ∈ s'.cards.rows, c ∈ s.cards.rows ∨ c.Within s')
    (hcomments : ∀ x ∈ s'.comments.rows, x ∈ s.comments.rows ∨ x.Within s')
    (hevents : ∀ e ∈ s'.events.rows, e ∈ s.events.rows ∨ e.Within s')
    (hnotifications : ∀ n ∈ s'.notifications.rows, n ∈ s.notifications.rows ∨ n.Within s')
    (hdeliveries : ∀ d ∈ s'.deliveries.rows, d ∈ s.deliveries.rows ∨ d.Within s') :
    s'.Isolated where
  watchers := fun b hb u hu => hx.member (h.watchers b (hx.boards ▸ hb) u hu)
  webhooks := by
    intro w' hw' b hb hid
    obtain ⟨w, hw, ha, hboard⟩ := hwebhooks w' hw'
    exact ha.trans (h.webhooks w hw b (hx.boards ▸ hb) (hid.trans hboard))
  cards := fun c hc => (hcards c hc).elim (fun hc => hx.card (h.cards c hc)) id
  comments := fun x hx' => (hcomments x hx').elim (fun hx' => hx.comment (h.comments x hx')) id
  events := fun e he => (hevents e he).elim (fun he => hx.event (h.events e he)) id
  notifications := fun n hn =>
    (hnotifications n hn).elim (fun hn => hx.notification (h.notifications n hn)) id
  deliveries := fun d hd =>
    (hdeliveries d hd).elim (fun hd => hx.delivery (h.deliveries d hd)) id

/-- Nothing is written but notifications, deliveries, and what has to do with no account. -/
theorem Isolated.report (h : s.Isolated) (husers : s'.users = s.users)
    (hboards : s'.boards = s.boards) (hcards : s'.cards = s.cards)
    (hcomments : s'.comments = s.comments) (hevents : s'.events = s.events)
    (hwebhooks : s'.webhooks = s.webhooks)
    (hnotifications : ∀ n ∈ s'.notifications.rows, n ∈ s.notifications.rows ∨ n.Within s)
    (hdeliveries : ∀ d ∈ s'.deliveries.rows, d ∈ s.deliveries.rows ∨ d.Within s) :
    s'.Isolated := by
  have hext : s.Extends s' := by
    refine ⟨husers, hboards, ?_, ?_, ?_, ?_⟩ <;>
      simp only [hcards, hcomments, hevents, hwebhooks]
    · exact fun c hc => ⟨c, hc, rfl, rfl⟩
    · exact fun _ hx => hx
    · exact fun _ he => he
    · exact fun w hw => ⟨w, hw, rfl, rfl⟩
  refine h.extend hext ?_ ?_ ?_ ?_ ?_ ?_
  · exact fun w hw => ⟨w, hwebhooks ▸ hw, rfl, rfl⟩
  · exact fun _ hc => .inl (hcards ▸ hc)
  · exact fun _ hx => .inl (hcomments ▸ hx)
  · exact fun _ he => .inl (hevents ▸ he)
  · exact fun n hn => (hnotifications n hn).imp_right hext.notification
  · exact fun d hd => (hdeliveries d hd).imp_right hext.delivery

/-! ### Cards and comments -/

/-- Writing a card of the same account in place of one loses no card of an account. -/
theorem exists_card_put {c : Card} (hsame : ∀ x ∈ s.cards.rows, x.id = c.id → x.account = c.account)
    {x : Card} (hx : x ∈ s.cards.rows) :
    ∃ x' ∈ (s.cards.put c).rows, x'.id = x.id ∧ x'.account = x.account := by
  by_cases hid : x.id = c.id
  · exact ⟨c, Table.mem_rows_put.2 (.inl rfl), hid.symm, (hsame x hx hid).symm⟩
  · exact ⟨x, Table.mem_rows_put.2 (.inr ⟨hx, hid⟩), rfl, rfl⟩

theorem Isolated.putCard (h : s.Isolated) {c : Card} {supply : Supply}
    (hsame : ∀ x ∈ s.cards.rows, x.id = c.id → x.account = c.account) (hc : c.Within s) :
    ({ s with cards := s.cards.put c, supply } : Store).Isolated := by
  have hx : s.Extends { s with cards := s.cards.put c, supply } :=
    ⟨rfl, rfl, fun _ hx => exists_card_put hsame hx, fun _ hx => hx, fun _ he => he,
      fun w hw => ⟨w, hw, rfl, rfl⟩⟩
  refine h.extend hx (fun w hw => ⟨w, hw, rfl, rfl⟩) (fun x hm => ?_) (fun _ hx => .inl hx)
    (fun _ he => .inl he) (fun _ hn => .inl hn) (fun _ hd => .inl hd)
  rcases Table.mem_rows_put.1 hm with rfl | ⟨hm, -⟩
  · exact .inr (hx.card hc)
  · exact .inl hm

theorem Isolated.putComment (h : s.Isolated) {x : Comment} {supply : Supply}
    (hnew : s.comments.find? x.id = none) (hx : x.Within s) :
    ({ s with comments := s.comments.put x, supply } : Store).Isolated := by
  have hrows : (s.comments.put x).rows = s.comments.rows ++ [x] := Table.rows_put_of_absent hnew
  have hext : s.Extends { s with comments := s.comments.put x, supply } := by
    refine ⟨rfl, rfl, fun c hc => ⟨c, hc, rfl, rfl⟩, fun y hy => ?_, fun _ he => he,
      fun w hw => ⟨w, hw, rfl, rfl⟩⟩
    exact hrows ▸ List.mem_append_left _ hy
  refine h.extend hext (fun w hw => ⟨w, hw, rfl, rfl⟩) (fun _ hc => .inl hc) (fun y hy => ?_)
    (fun _ he => .inl he) (fun _ hn => .inl hn) (fun _ hd => .inl hd)
  rcases Table.mem_rows_put.1 hy with rfl | ⟨hy, -⟩
  · exact .inr (hext.comment hx)
  · exact .inl hy

theorem extends_recorded (hfresh : s.Fresh) {t : Tracker} {now : Instant} {e : Event} {card : Card}
    {comments : List Comment} (hnew : s.supply.next ≤ e.id.value)
    (hsame : ∀ x ∈ s.cards.rows, x.id = card.id → x.account = card.account)
    (habsent : ∀ x ∈ comments, s.supply.next ≤ x.id.value)
    (hnodup : (comments.map Comment.id).Nodup) :
    s.Extends (s.recorded t now e card comments) := by
  have hevents : (s.events.put e).rows = s.events.rows ++ [e] :=
    Table.rows_put_of_absent (hfresh.find?_event hnew)
  have hcomments : (s.comments.putAll comments).rows = s.comments.rows ++ comments :=
    Table.rows_putAll_of_absent (fun x hx => hfresh.find?_comment (habsent x hx)) hnodup
  refine ⟨rfl, rfl, fun _ hx => exists_card_put hsame hx, fun x hx => ?_, fun x hx => ?_,
    fun w hw => ⟨w, hw, rfl, rfl⟩⟩
  · exact hcomments ▸ List.mem_append_left _ hx
  · exact hevents ▸ List.mem_append_left _ hx

theorem Isolated.recorded (h : s.Isolated) {t : Tracker} {now : Instant} {e : Event} {card : Card}
    {comments : List Comment} (hext : s.Extends (s.recorded t now e card comments))
    (hcard : card.Within s)
    (hcomments : ∀ x ∈ comments, x.Within s)
    (he : e.Within (s.recorded t now e card comments)) :
    (s.recorded t now e card comments).Isolated := by
  refine h.extend hext (fun w hw => ⟨w, hw, rfl, rfl⟩) (fun c hc => ?_) (fun x hx => ?_)
    (fun x hx => ?_) (fun _ hn => .inl hn) (fun _ hd => .inl hd)
  · rcases Table.mem_rows_put.1 hc with rfl | ⟨hc, -⟩
    · exact .inr (hext.card hcard)
    · exact .inl hc
  · exact (Table.mem_rows_putAll hx).imp_right fun hx => hext.comment (hcomments x hx)
  · rcases Table.mem_rows_put.1 hx with rfl | ⟨hx, -⟩
    · exact .inr he
    · exact .inl hx

/-- A system comment stays within the account of its event, if the card does. -/
theorem within_of_told {commenter : Commenter} {e : Event} {id card : Ident}
    (hcard : ∃ c ∈ s.cards.rows, c.id = card ∧ c.account = e.account) {x : Comment}
    (hx : x ∈ commenter.told s e id card) : x.Within s := by
  unfold Commenter.told at hx
  split_ifs at hx
  · split at hx
    · cases hx
    · next author ha =>
        obtain ⟨body, -, rfl⟩ := Option.map_eq_some_iff.1 (Option.mem_toList.1 hx)
        obtain ⟨hrow, haccount, -⟩ := systemUser_ok ha
        exact ⟨hcard, ⟨author, Table.mem_rows_iff.1 hrow, haccount⟩,
          fun _ hu => (List.not_mem_nil hu).elim⟩
  · cases hx

theorem Alters.within {o : CardOperation} {c c' : Card} {p : Particulars} (ha : s.Alters o c c' p)
    (hc : c.Within s) : c'.Within s := by
  obtain ⟨-, hchange, hmembers⟩ := ha
  cases hchange with
  | @assign users =>
      have hadded : ∀ u ∈ c.toAssign users, s.HasMember c.account u :=
        fun u hu => hmembers u (Card.mem_toAssign.1 hu).1
      rw [Card.assign_eq]
      refine ⟨hc.board, hc.creator, fun u hu => ?_, fun u hu => ?_⟩
      · exact (List.mem_append.1 hu).elim (hc.assignees u) (hadded u)
      · exact (Card.mem_watchers_assign.1 hu).elim (hadded u) (hc.watchers u)
  | unassign =>
      exact ⟨hc.board, hc.creator, fun u hu => hc.assignees u (List.mem_filter.1 hu).1, hc.watchers⟩
  | move _ hnew _ haccount => exact ⟨⟨_, hnew, haccount⟩, hc.creator, hc.assignees, hc.watchers⟩
  | publish | close | reopen | postpone | rename =>
      exact ⟨hc.board, hc.creator, hc.assignees, hc.watchers⟩

theorem Alters.same_account {o : CardOperation} {c c' : Card} {p : Particulars}
    (ha : s.Alters o c c' p) {x : Card} (hx : x ∈ s.cards.rows) (hid : x.id = c'.id) :
    x.account = c'.account := by
  have hrow := (Table.find?_eq_some_iff.1 ha.find?).1
  have hkey : x.id = c.id := hid.trans ha.card_id
  rw [ha.changes.account, Table.eq_of_key_eq hx hrow hkey]

/-! ### Recipients and webhooks -/

/-- Only a card of the account can be found under the identifier of what an event is about. -/
theorem Isolated.card_of_event (h : s.Isolated) (hl : s.Linked) {e : Event}
    (he : e ∈ s.events.rows) {c : Card} (hc : s.cards.find? e.eventable.id = some c) :
    c.account = e.account := by
  obtain ⟨hrow, hid⟩ := Table.find?_eq_some_iff.1 hc
  have howns := (h.events e he).eventable
  unfold OwnsEventable at howns
  split at howns
  · obtain ⟨c', hrow', hid', ha⟩ := howns
    exact Table.eq_of_key_eq hrow' hrow (hid'.trans hid.symm) ▸ ha
  · -- The event is about a comment, whose identifier no card has.
    obtain ⟨x, hx, hxid, -⟩ := howns
    have hin : e.eventable.id ∈ s.cardIds := mem_cardIds hc
    exact (hl.counted.card_ne_comment hin (hxid ▸ List.mem_map_of_mem hx)).elim

theorem Isolated.comment_of_event (h : s.Isolated) (hl : s.Linked) {e : Event}
    (he : e ∈ s.events.rows) {x : Comment} (hx : s.comments.find? e.eventable.id = some x) :
    x.account = e.account := by
  obtain ⟨hrow, hid⟩ := Table.find?_eq_some_iff.1 hx
  have howns := (h.events e he).eventable
  unfold OwnsEventable at howns
  split at howns
  · obtain ⟨c, hc, hcid, -⟩ := howns
    have hin : e.eventable.id ∈ s.cardIds := hcid ▸ List.mem_map_of_mem hc
    have hxid : x.id = e.eventable.id := hid
    exact (hl.counted.card_ne_comment hin (hxid ▸ List.mem_map_of_mem hrow)).elim
  · obtain ⟨x', hrow', hid', ha⟩ := howns
    exact Table.eq_of_key_eq hrow' hrow (hid'.trans hid.symm) ▸ ha

/-- Strategies name members only. -/
theorem Isolated.candidates (h : s.Isolated) (hl : s.Linked) {e : Event} (he : e ∈ s.events.rows)
    {st : Strategy} {users : List Ident} (hc : st.candidates e s.audience = .ok users) {u : Ident}
    (hu : u ∈ users) : s.HasMember e.account u := by
  have hwatchers : ∀ v ∈ ((s.boards.find? e.board).map Board.watchers).getD [],
      s.HasMember e.account v := by
    intro v hv
    obtain ⟨b, hb, hv⟩ := mem_getD_map.1 hv
    obtain ⟨b', hb', ha⟩ := (h.events e he).board
    cases hb.symm.trans hb'
    exact ha ▸ h.watchers b (Table.find?_eq_some_iff.1 hb).1 v hv
  cases st with
  | boardWatchers =>
      cases hc
      exact hwatchers u hu
  | assignment =>
      cases hc
      exact (h.events e he).assignees u hu
  | publication =>
      cases hc
      rcases List.mem_append.1 hu with hu | hu
      · exact hwatchers u (List.mem_filter.1 hu).1
      · obtain ⟨c, hf, hu⟩ := mem_getD_map.1 hu
        rw [← h.card_of_event hl he hf]
        exact (h.cards c (Table.find?_eq_some_iff.1 hf).1).assignees u hu
  | comment =>
      simp only [Strategy.candidates, audience] at hc
      cases hx : s.comments.find? e.eventable.id with
      | none =>
          rw [hx] at hc
          cases hc
          cases hu
      | some x =>
          rw [hx] at hc
          cases hc
          obtain ⟨c, hf, hu⟩ := mem_getD_map.1 (List.mem_filter.1 hu).1
          obtain ⟨hrow, hid⟩ := Table.find?_eq_some_iff.1 hf
          obtain ⟨c', hrow', hid', ha⟩ := (h.comments x (Table.find?_eq_some_iff.1 hx).1).card
          cases Table.eq_of_key_eq hrow' hrow (hid'.trans hid.symm)
          rw [← h.comment_of_event hl he hx, ← ha]
          exact (h.cards c hrow).watchers u hu
  | quiet =>
      cases hc
      cases hu

theorem Isolated.concerned (h : s.Isolated) {e : Event} (he : e ∈ s.events.rows) {w : Webhook}
    (hw : w ∈ s.webhooks.rows) {dispatcher : Dispatcher}
    (hconcerns : dispatcher.concerns w e = true) : w.account = e.account := by
  simp only [Dispatcher.concerns, Bool.and_eq_true, beq_iff_eq] at hconcerns
  obtain ⟨b, hb, ha⟩ := (h.events e he).board
  obtain ⟨hrow, hid⟩ := Table.find?_eq_some_iff.1 hb
  exact (h.webhooks w hw b hrow (hid.trans hconcerns.1.1.2.symm)).trans ha

/-! ### Writes -/

theorem Remarks.within {c : Card} {x : Comment} (hr : s.Remarks c x) : x.Within s where
  card := ⟨c, (Table.find?_eq_some_iff.1 hr.found).1, hr.card.symm, hr.account.symm⟩
  creator := hr.account ▸ hr.creator
  mentionees := fun u hu => hr.account ▸ hr.mentionees u hu

section Removed

variable {cards : List Ident}

theorem mem_cards_removeCards {c : Card} (hc : c ∈ s.cards.rows) (hid : c.id ∉ cards) :
    c ∈ (s.removeCards cards).cards.rows :=
  List.mem_filter.2 ⟨hc, decide_eq_true hid⟩

theorem mem_events_removeCards {e : Event} (he : e ∈ s.events.rows)
    (hid : e.id ∉ s.eventIdsOn cards) : e ∈ (s.removeCards cards).events.rows := by
  refine List.mem_filter.2 ⟨he, ?_⟩
  rw [Bool.not_eq_true']
  exact Bool.eq_false_iff.2 fun ha =>
    hid (List.mem_map_of_mem (List.mem_filter.2 ⟨he, ha⟩))

/-- What an event that stays is about is not removed. -/
theorem OwnsEventable.removeCards {e : Event} {account : Ident}
    (h : s.OwnsEventable account e.eventable) (hkeep : e ∈ (s.removeCards cards).events.rows) :
    (s.removeCards cards).OwnsEventable account e.eventable := by
  have hstays := (List.mem_filter.1 hkeep).2
  unfold OwnsEventable at h ⊢
  simp only [Transaction.isAbout] at hstays
  cases hk : e.eventable.kind with
  | card =>
      simp only [hk] at h hstays ⊢
      obtain ⟨c, hc, hid, ha⟩ := h
      exact ⟨c, mem_cards_removeCards hc (by simpa [hid] using hstays), hid, ha⟩
  | comment =>
      simp only [hk] at h hstays ⊢
      obtain ⟨x, hx, hid, ha⟩ := h
      refine ⟨x, List.mem_filter.2 ⟨hx, decide_eq_true fun hin => ?_⟩, hid, ha⟩
      have hdoomed : e.eventable.id ∈
          (s.comments.rows.filter fun c => c.card ∈ cards).map Comment.id :=
        hid ▸ List.mem_map_of_mem (List.mem_filter.2 ⟨hx, decide_eq_true hin⟩)
      rw [decide_eq_true hdoomed] at hstays
      cases hstays

/-- Removing cards leaves nothing behind that refers to them. -/
theorem Isolated.removeCards (h : s.Isolated) (cards : List Ident) :
    (s.removeCards cards).Isolated where
  watchers := h.watchers
  webhooks := h.webhooks
  cards := fun c hc =>
    have hwithin := h.cards c (List.mem_filter.1 hc).1
    ⟨hwithin.board, hwithin.creator, hwithin.assignees, hwithin.watchers⟩
  comments := fun x hx => by
    obtain ⟨hx, hkeep⟩ := List.mem_filter.1 hx
    obtain ⟨⟨c, hc, hid, ha⟩, hcreator, hmentionees⟩ := h.comments x hx
    have hstays : c.id ∉ cards := hid ▸ of_decide_eq_true hkeep
    exact ⟨⟨c, mem_cards_removeCards hc hstays, hid, ha⟩, hcreator, hmentionees⟩
  events := fun e he => by
    obtain ⟨hboard, hcreator, howns, hassignees⟩ := h.events e (List.mem_filter.1 he).1
    exact ⟨hboard, hcreator, howns.removeCards he, hassignees⟩
  notifications := fun n hn => by
    obtain ⟨hn, hkeep⟩ := List.mem_filter.1 hn
    obtain ⟨e, he, hid, hm⟩ := h.notifications n hn
    exact ⟨e, mem_events_removeCards he (hid ▸ of_decide_eq_true hkeep), hid, hm⟩
  deliveries := fun d hd => by
    obtain ⟨hd, hkeep⟩ := List.mem_filter.1 hd
    obtain ⟨e, he, hid, hw⟩ := h.deliveries d hd
    exact ⟨e, mem_events_removeCards he (hid ▸ of_decide_eq_true hkeep), hid, hw⟩

end Removed

theorem Isolated.putWebhook (h : s.Isolated) {w w' : Webhook} (hf : s.webhooks.find? w'.id = some w)
    (haccount : w'.account = w.account) (hboard : w'.board = w.board) :
    (s.saveWebhook w').Isolated := by
  obtain ⟨hrow, hid⟩ := Table.find?_eq_some_iff.1 hf
  have hext : s.Extends (s.saveWebhook w') := by
    refine ⟨rfl, rfl, fun c hc => ⟨c, hc, rfl, rfl⟩, fun _ hx => hx, fun _ he => he, fun x hx => ?_⟩
    by_cases hxid : x.id = w'.id
    · cases Table.eq_of_key_eq hx hrow (hxid.trans hid.symm)
      exact ⟨w', Table.mem_rows_put.2 (.inl rfl), hxid.symm, haccount⟩
    · exact ⟨x, Table.mem_rows_put.2 (.inr ⟨hx, hxid⟩), rfl, rfl⟩
  refine h.extend hext (fun x hx => ?_) (fun _ hc => .inl hc) (fun _ hx => .inl hx)
    (fun _ he => .inl he) (fun _ hn => .inl hn) (fun _ hd => .inl hd)
  rcases Table.mem_rows_put.1 hx with rfl | ⟨hx, -⟩
  · exact ⟨w, hrow, haccount, hboard⟩
  · exact ⟨x, hx, rfl, rfl⟩

/-- An event stays within the account of what it is about, if the users and the board do. -/
theorem within_of_event {x : Eventable} {e : Event} {id creator : Ident} {verb : String}
    {p : Particulars} {now : Instant} (he : e = x.event id verb p creator now)
    (hboard : s.HasBoard x.account x.board) (hcreator : s.HasMember x.account creator)
    (hsubject : s.OwnsEventable x.account x.ref)
    (hassignees : ∀ u ∈ p.ids "assignee_ids", s.HasMember x.account u) : e.Within s := by
  subst he
  exact ⟨hboard, hcreator, hsubject, hassignees⟩

theorem Isolated.draft (h : s.Isolated) (hfresh : s.Fresh) {board creator : Ident} {b : Board}
    (hb : s.boards.find? board = some b) (hm : s.HasMember b.account creator) (title : String)
    (now : Instant) : ({ s with
      cards := s.cards.put (.draft ⟨s.supply.next⟩ b.account b.id creator title now)
      supply := ⟨s.supply.next + 1⟩ } : Store).Isolated := by
  have hid : b.id = board := (Table.find?_eq_some_iff.1 hb).2
  have hnew : s.cards.find? ⟨s.supply.next⟩ = none := hfresh.find?_card le_rfl
  refine h.putCard (fun x hx hxid => ?_) ⟨⟨b, hid ▸ hb, rfl⟩, hm, ?_, ?_⟩
  · exact (Table.find?_eq_none_iff.1 hnew x hx hxid).elim
  · exact fun _ hu => (List.not_mem_nil hu).elim
  · exact fun u hu => List.mem_singleton.1 hu ▸ hm

theorem Isolated.recordChange (h : s.Isolated) (hfresh : s.Fresh) {o : CardOperation} {c c' : Card}
    {p : Particulars} {creator : Ident} {now : Instant} {e : Event} (ha : s.Alters o c c' p)
    (he : e = (Eventable.ofCard c').event ⟨s.supply.next⟩ o.verb p creator now)
    (hcreator : s.HasMember c.account creator) (hboard : s.HasBoard c.account c'.board)
    (t : Tracker) : (s.recorded t now e { c' with lastActiveAt := now }
      (t.commenter.told s e ⟨s.supply.next + 1⟩ c'.id)).Isolated := by
  have hrow := (Table.find?_eq_some_iff.1 ha.found).1
  have haccount : (Eventable.ofCard c').account = c.account := ha.changes.account
  have hevent : e.account = c.account := (congrArg Event.account he).trans haccount
  have hext : s.Extends (s.recorded t now e { c' with lastActiveAt := now }
      (t.commenter.told s e ⟨s.supply.next + 1⟩ c'.id)) := by
    refine extends_recorded hfresh (he ▸ le_rfl) (fun x hx hid => ha.same_account hx hid)
      (fun x hx => ?_) (Commenter.nodup_told ..)
    rw [Commenter.id_of_mem_told hx]
    exact Nat.le_succ _
  obtain ⟨hb, hc, has, hws⟩ := ha.within (h.cards c hrow)
  refine h.recorded hext ⟨hb, hc, has, hws⟩ (fun x hx => ?_)
    (within_of_event he ?_ ?_ ?_ fun u hu => ?_)
  · exact within_of_told ⟨c, hrow, ha.card_id.symm, hevent.symm⟩ hx
  all_goals rw [haccount]
  · exact hext.board hboard
  · exact hext.member hcreator
  · exact hext.owned ⟨c, hrow, ha.card_id.symm, rfl⟩
  · rcases ha.changes.mem_told hu with hu | hu
    · exact hext.member (ha.members u hu)
    · exact hext.member ((h.cards c hrow).assignees u hu)

theorem Isolated.recordComment (h : s.Isolated) (hfresh : s.Fresh) {c : Card} {x : Comment}
    {now : Instant} {e : Event} (hr : s.Remarks c x)
    (he : e = (Eventable.ofComment x).event ⟨s.supply.next + 1⟩ "created" [] x.creator now)
    (hboard : s.HasBoard c.account x.board) (t : Tracker) :
    (s.recorded t now e { c with lastActiveAt := now } [x]).Isolated := by
  have hrow := (Table.find?_eq_some_iff.1 hr.found).1
  have haccount : (Eventable.ofComment x).account = c.account := hr.account
  have hext : s.Extends (s.recorded t now e { c with lastActiveAt := now } [x]) := by
    refine extends_recorded hfresh (he ▸ Nat.le_succ _) (fun y hy hid => ?_) (fun y hy => ?_)
      (List.nodup_singleton _)
    · have hkey : y.id = c.id := hid
      rw [Table.eq_of_key_eq hy hrow hkey]
    · rw [List.mem_singleton.1 hy, hr.id]
  obtain ⟨hb, hc, has, hws⟩ := h.cards c hrow
  refine h.recorded hext ⟨hb, hc, has, hws⟩ (fun y hy => ?_)
    (within_of_event he ?_ ?_ ?_ fun u hu => (List.not_mem_nil hu).elim)
  · exact List.mem_singleton.1 hy ▸ hr.within
  all_goals rw [haccount]
  · exact hext.board hboard
  · exact hext.member hr.creator
  · exact ⟨x, Table.mem_rows_put.2 (.inl rfl), rfl, hr.account⟩

theorem Isolated.recipient (h : s.Isolated) (hl : s.Linked) {registry : Registry} {e : Event}
    {users : List Ident} {user : Ident} (he : e ∈ s.events.rows)
    (hr : registry.recipients e s.audience = .ok users) (hu : user ∈ users) :
    s.HasMember e.account user := by
  obtain ⟨candidates, users', hc, hr', hsub, -⟩ := registry.recipients_audience e s
  cases hr.symm.trans hr'
  exact h.candidates hl he hc (hsub user hu)

/-- No write leads from one account into another. -/
theorem Isolated.write {g : Setup} (h : s.Isolated) (hl : s.Linked)
    (hw : s.Write g (fun _ => False) s') : s'.Isolated := by
  cases hw with
  | draft title now hb hm => exact h.draft hl.fresh hb hm title now
  | @edit o c c' p ha hd =>
      have hrow := (Table.find?_eq_some_iff.1 ha.found).1
      exact h.putCard (fun x hx hid => ha.same_account hx hid) (ha.within (h.cards c hrow))
  | change ha hd he hcreator hboard => exact h.recordChange hl.fresh ha he hcreator hboard g.tracker
  | remark hr => exact h.putComment (hl.fresh.find?_comment (hr.id ▸ le_rfl)) hr.within
  | comment hr he hboard => exact h.recordComment hl.fresh hr he hboard g.tracker
  | removal cards => exact h.removeCards cards
  | saving hs => exact hs.elim
  | subscription hf haccount hboard => exact h.putWebhook hf haccount hboard
  | @notice e users user now fault he hr hu hn =>
      have hrow := (Table.find?_eq_some_iff.1 he).1
      refine h.report rfl rfl rfl rfl rfl rfl (fun n hm => ?_) (fun _ hd => .inl hd)
      rcases Table.mem_rows_put.1 hm with rfl | ⟨hm, -⟩
      · exact .inr ⟨e, hrow, rfl, h.recipient hl hrow hr hu⟩
      · exact .inl hm
  | @reading n now hn =>
      refine h.report rfl rfl rfl rfl rfl rfl (fun m hm => ?_) (fun _ hd => .inl hd)
      rcases Table.mem_rows_put.1 hm with rfl | ⟨hm, -⟩
      · exact .inr (h.notifications n hn)
      · exact .inl hm
  | @delivery e w t now he hw hc hn =>
      have hrow := (Table.find?_eq_some_iff.1 he).1
      refine h.report rfl rfl rfl rfl rfl rfl (fun _ hn => .inl hn) (fun d hd => ?_)
      rcases Table.mem_rows_put.1 hd with rfl | ⟨hd, -⟩
      · exact .inr ⟨e, hrow, rfl, w, hw, rfl, h.concerned hrow hw hc⟩
      · exact .inl hd
  | @sending d d' hd hid hwebhook hevent =>
      refine h.report rfl rfl rfl rfl rfl rfl (fun _ hn => .inl hn) (fun x hx => ?_)
      rcases Table.mem_rows_put.1 hx with rfl | ⟨hx, -⟩
      · have hwithin := h.deliveries d hd
        rw [Delivery.Within, ← hevent, ← hwebhook] at hwithin
        exact .inr hwithin
      · exact .inl hx
  | arming | counting | settlement | claim =>
      exact h.report rfl rfl rfl rfl rfl rfl (fun _ hn => .inl hn) (fun _ hd => .inl hd)

end Store

namespace System

/-- Over every run from users, boards whose watchers are members, and webhooks of the account of
their board, in which no webhook is saved from outside: no record reaches from one account into
another. This does not depend on who is told of which event. -/
theorem isolated_of_run {sys : System} (h : sys.store.Seeded)
    (hwatchers : ∀ b ∈ sys.store.boards.rows, ∀ u ∈ b.watchers, sys.store.HasMember b.account u)
    (hwebhooks : ∀ w ∈ sys.store.webhooks.rows, ∀ b ∈ sys.store.boards.rows, b.id = w.board →
      w.account = b.account)
    (g : Setup) (calls : List (Instant × SystemCall))
    (hcalls : ∀ c ∈ calls, ∀ w, c.2 ≠ .saveWebhook w) :
    let s := (sys.run g calls).store
    (∀ c ∈ s.cards.rows, c.Within s) ∧ (∀ x ∈ s.comments.rows, x.Within s) ∧
      (∀ e ∈ s.events.rows, e.Within s) ∧ (∀ n ∈ s.notifications.rows, n.Within s) ∧
      ∀ d ∈ s.deliveries.rows, d.Within s := by
  have hseed : sys.store.Isolated := by
    obtain ⟨hcards, hcomments, hevents, hnotifications, hdeliveries, -⟩ := h
    refine ⟨hwatchers, hwebhooks, ?_, ?_, ?_, ?_, ?_⟩ <;>
      simp only [hcards, hcomments, hevents, hnotifications, hdeliveries] <;>
      exact fun _ hm => (List.not_mem_nil hm).elim
  obtain ⟨-, hend⟩ := run_keeps (g := g) (fun _ => False) (fun _ _ hl hw hi => hi.write hl hw)
    h.linked hseed calls hcalls
  exact ⟨hend.cards, hend.comments, hend.events, hend.notifications, hend.deliveries⟩

/-- The publication of a card is told and dispatched within its account, in a store that has another
account, too, whose user tries to close the card. -/
theorem isolated_of_foreign_close :
    let users := (((Store.empty 10).addUser ⟨⟨1⟩, ⟨9⟩, "ada", .member⟩).addUser
      ⟨⟨5⟩, ⟨9⟩, "bob", .member⟩).addUser ⟨⟨6⟩, ⟨8⟩, "eve", .member⟩
    let boards := (users.addBoard ⟨⟨2⟩, ⟨9⟩, "ops", [⟨1⟩, ⟨5⟩]⟩).addBoard ⟨⟨3⟩, ⟨8⟩, "dev", [⟨6⟩]⟩
    let seed := boards.saveWebhook ⟨⟨4⟩, ⟨9⟩, ⟨2⟩, "hook", "https://example.com", true,
      .ofList ["card_published"], ⟨0, 0⟩⟩
    let sys : System := ⟨seed, .standard⟩
    let calls : List (Instant × SystemCall) :=
      [(⟨0, 0⟩, .createDraft ⟨2⟩ ⟨1⟩ "plan"), (⟨0, 0⟩, .changeCard ⟨10⟩ ⟨1⟩ .publish),
       (⟨0, 0⟩, .notify ⟨11⟩), (⟨0, 0⟩, .dispatch ⟨11⟩), (⟨0, 0⟩, .changeCard ⟨10⟩ ⟨6⟩ .close)]
    let s := (sys.run ⟨.standard, .ofConfig .standard, .standard⟩ calls).store
    s.cards.rows.map Card.status = [.published] ∧ s.notificationKeys = [(⟨11⟩, ⟨5⟩)] ∧
      (s.deliveries.rows.map fun d => (d.webhook, d.event)) = [(⟨4⟩, ⟨11⟩)] ∧
      (∀ n ∈ s.notifications.rows, n.Within s) ∧ ∀ d ∈ s.deliveries.rows, d.Within s := by
  intro users boards seed sys calls s
  have hseed : sys.store.Seeded := ⟨rfl, rfl, rfl, rfl, rfl, rfl⟩
  have hwatchers : ∀ b ∈ sys.store.boards.rows, ∀ u ∈ b.watchers,
      sys.store.HasMember b.account u := by
    have hfound : ∀ b ∈ sys.store.boards.rows, ∀ u ∈ b.watchers,
        (sys.store.users.find? u).map User.account = some b.account := by decide +kernel
    intro b hb u hu
    exact Option.map_eq_some_iff.1 (hfound b hb u hu)
  have hwebhooks : ∀ w ∈ sys.store.webhooks.rows, ∀ b ∈ sys.store.boards.rows, b.id = w.board →
      w.account = b.account := by decide +kernel
  have hcalls : ∀ c ∈ calls, ∀ w, c.2 ≠ .saveWebhook w := by
    intro c hc w heq
    simp only [calls, List.mem_cons, List.not_mem_nil, or_false] at hc
    rcases hc with rfl | rfl | rfl | rfl | rfl <;> cases heq
  have hstatus : s.cards.rows.map Card.status = [.published] := by decide +kernel
  have hnotified : s.notificationKeys = [(⟨11⟩, ⟨5⟩)] := by decide +kernel
  have hdispatched : (s.deliveries.rows.map fun d => (d.webhook, d.event)) = [(⟨4⟩, ⟨11⟩)] := by
    decide +kernel
  have hall := isolated_of_run hseed hwatchers hwebhooks
    ⟨.standard, .ofConfig .standard, .standard⟩ calls hcalls
  have hrun : (sys.run ⟨.standard, .ofConfig .standard, .standard⟩ calls).store = s := rfl
  rw [hrun] at hall
  clear_value s
  obtain ⟨-, -, -, hnotifications, hdeliveries⟩ := hall
  exact ⟨hstatus, hnotified, hdispatched, hnotifications, hdeliveries⟩

end System

end BoardActivity
