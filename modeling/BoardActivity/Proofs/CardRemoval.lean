import BoardActivity.Proofs.QueueCalls

/-!
# What goes with a card

Destroying a card takes along its comments, the events of the card and of its comments, the
notifications and deliveries of those events, and the tasks about those events and deliveries.
`Store.Cascade` says of a store what is left of every table, row for row and in order, in terms of
the store before. Nothing is assumed of that store: references may lead nowhere, and an identifier
may be in use in several tables.
-/

namespace BoardActivity

/-- An event is about cards, or about comments on them. -/
theorem Transaction.isAbout_iff {cards : List Ident} {comments : List Comment} {e : Event} :
    isAbout cards ((comments.filter fun c => c.card ∈ cards).map Comment.id) e = true ↔
      ∃ card ∈ cards, e.eventable = .card card ∨
        ∃ c ∈ comments, c.card = card ∧ e.eventable = .comment c.id := by
  obtain ⟨id, account, board, creator, ⟨kind, ref⟩, action, particulars, createdAt⟩ := e
  cases kind with
  | card => simp [isAbout, EventableRef.card, EventableRef.comment]
  | comment =>
      simp only [isAbout, EventableRef.card, EventableRef.comment, List.mem_map, List.mem_filter,
        decide_eq_true_eq, EventableRef.mk.injEq, reduceCtorEq, true_and, false_and, false_or]
      constructor
      · rintro ⟨c, ⟨hc, hcard⟩, hid⟩
        exact ⟨c.card, hcard, c, hc, rfl, hid.symm⟩
      · rintro ⟨card, hcard, c, hc, rfl, hid⟩
        exact ⟨c, ⟨hc, hcard⟩, hid.symm⟩

namespace Store

/-- The event is on the card, or on one of the card's comments. -/
def IsOn (s : Store) (card : Ident) (e : Event) : Prop :=
  e.eventable = .card card ∨
    ∃ c ∈ s.comments.rows, c.card = card ∧ e.eventable = .comment c.id

instance (s : Store) (card : Ident) (e : Event) : Decidable (s.IsOn card e) :=
  inferInstanceAs (Decidable (_ ∨ _))

/-- Some event on the card has the identifier. -/
def HasEventOn (s : Store) (card event : Ident) : Prop :=
  ∃ e ∈ s.events.rows, s.IsOn card e ∧ e.id = event

instance (s : Store) (card event : Ident) : Decidable (s.HasEventOn card event) :=
  inferInstanceAs (Decidable (∃ _ ∈ _, _ ∧ _))

def HasDeliveryOn (s : Store) (card delivery : Ident) : Prop :=
  ∃ d ∈ s.deliveries.rows, s.HasEventOn card d.event ∧ d.id = delivery

instance (s : Store) (card delivery : Ident) : Decidable (s.HasDeliveryOn card delivery) :=
  inferInstanceAs (Decidable (∃ _ ∈ _, _ ∧ _))

/-- A task with the subject is about an event on the card, or about a delivery of one. -/
def IsSubjectOn (s : Store) (card subject : Ident) : Prop :=
  s.HasEventOn card subject ∨ s.HasDeliveryOn card subject

instance (s : Store) (card subject : Ident) : Decidable (s.IsSubjectOn card subject) :=
  inferInstanceAs (Decidable (_ ∨ _))

/-- The second store is the first without the card and all that belongs to it. -/
structure Cascade (s : Store) (card : Ident) (s' : Store) : Prop where
  cards : s'.cards.rows = s.cards.rows.filter fun c => c.id ≠ card
  comments : s'.comments.rows = s.comments.rows.filter fun c => c.card ≠ card
  events : s'.events.rows = s.events.rows.filter fun e => ¬ s.IsOn card e
  notifications : s'.notifications.rows =
    s.notifications.rows.filter fun n => ¬ s.HasEventOn card n.event
  deliveries : s'.deliveries.rows = s.deliveries.rows.filter fun d => ¬ s.HasEventOn card d.event
  tasks : s'.outbox.rows.rows =
    s.outbox.rows.rows.filter fun r => ¬ s.IsSubjectOn card r.subject
  entries : s'.outbox.index.rows =
    s.outbox.index.rows.filter fun r => ¬ s.IsSubjectOn card r.subject
  rest : s' = { s with
    cards := s'.cards
    comments := s'.comments
    events := s'.events
    notifications := s'.notifications
    deliveries := s'.deliveries
    outbox := { s.outbox with rows := s'.outbox.rows, index := s'.outbox.index } }

def eventIdsOn (s : Store) (cards : List Ident) : List Ident :=
  let comments := (s.comments.rows.filter fun c => c.card ∈ cards).map Comment.id
  (s.events.rows.filter (Transaction.isAbout cards comments)).map Event.id

def deliveryIdsOn (s : Store) (cards : List Ident) : List Ident :=
  (s.deliveries.rows.filter fun d => d.event ∈ s.eventIdsOn cards).map Delivery.id

variable {s : Store} {card : Ident} {cards : List Ident}

theorem isAbout_iff_isOn {e : Event} :
    Transaction.isAbout cards ((s.comments.rows.filter fun c => c.card ∈ cards).map Comment.id) e
      = true ↔ ∃ card ∈ cards, s.IsOn card e :=
  Transaction.isAbout_iff

theorem mem_eventIdsOn {id : Ident} :
    id ∈ s.eventIdsOn cards ↔ ∃ card ∈ cards, s.HasEventOn card id := by
  simp only [eventIdsOn, List.mem_map, List.mem_filter, isAbout_iff_isOn, HasEventOn]
  constructor
  · rintro ⟨e, ⟨he, card, hcard, hon⟩, hid⟩
    exact ⟨card, hcard, e, he, hon, hid⟩
  · rintro ⟨card, hcard, e, he, hon, hid⟩
    exact ⟨e, ⟨he, card, hcard, hon⟩, hid⟩

/-- The tasks that go with the cards are about their events, or about deliveries of these. -/
theorem mem_subjectsOn {id : Ident} : id ∈ s.eventIdsOn cards ++ s.deliveryIdsOn cards ↔
    ∃ card ∈ cards, s.IsSubjectOn card id := by
  simp only [List.mem_append, deliveryIdsOn, List.mem_map, List.mem_filter, decide_eq_true_eq,
    mem_eventIdsOn, IsSubjectOn, HasDeliveryOn]
  constructor
  · rintro (⟨card, hcard, hevent⟩ | ⟨d, ⟨hd, card, hcard, hevent⟩, hid⟩)
    · exact ⟨card, hcard, .inl hevent⟩
    · exact ⟨card, hcard, .inr ⟨d, hd, hevent, hid⟩⟩
  · rintro ⟨card, hcard, hevent | ⟨d, hd, hevent, hid⟩⟩
    · exact .inl ⟨card, hcard, hevent⟩
    · exact .inr ⟨d, ⟨hd, card, hcard, hevent⟩, hid⟩

/-- What is removed with the card is collected table by table, each with the identifiers found in
the one before. -/
theorem removeCards_cascade (s : Store) (card : Ident) : s.Cascade card (s.removeCards [card]) := by
  have hevents : ∀ id, id ∈ s.eventIdsOn [card] ↔ s.HasEventOn card id := fun id =>
    mem_eventIdsOn.trans (by simp)
  have hsubjects : ∀ id, id ∈ s.eventIdsOn [card] ++ s.deliveryIdsOn [card] ↔
      s.IsSubjectOn card id := fun id => mem_subjectsOn.trans (by simp)
  constructor
  · exact List.filter_congr fun c _ => by simp
  · exact List.filter_congr fun c _ => by simp
  · apply List.filter_congr
    intro e _
    have habout : (Transaction.isAbout [card]
        ((s.comments.rows.filter fun c => c.card ∈ [card]).map Comment.id) e) = true ↔
          s.IsOn card e := isAbout_iff_isOn.trans (by simp)
    rw [Bool.eq_iff_iff, Bool.not_eq_true', decide_eq_true_eq, ← habout, Bool.not_eq_true]
  · exact List.filter_congr fun n _ => decide_eq_decide.2 (not_congr (hevents n.event))
  · exact List.filter_congr fun d _ => decide_eq_decide.2 (not_congr (hevents d.event))
  · exact List.filter_congr fun r _ => decide_eq_decide.2 (not_congr (hsubjects r.subject))
  · exact List.filter_congr fun r _ => decide_eq_decide.2 (not_congr (hsubjects r.subject))
  · rfl

end Store

namespace Cards

/-- Destroying a card that is not there is refused and changes nothing. Any other card goes with all
that belongs to it, and nothing else does. -/
theorem destroy_cascades (s : Store) (now : Instant) (card : Ident) :
    (s.cards.find? card = none ∧ destroy s now card = (.error (.notFound "card" card), s)) ∨
      ∃ c s', s.cards.find? card = some c ∧ destroy s now card = (.ok (), s') ∧
        s.Cascade card s' := by
  rw [Store.destroy_eq]
  cases hf : s.cards.find? card with
  | none =>
      have hno : s.cards.contains card = false := by rw [Table.contains, hf]; rfl
      rw [hno]
      exact .inl ⟨rfl, rfl⟩
  | some c =>
      have hyes : s.cards.contains card = true := Table.contains_iff.2 ⟨c, hf⟩
      rw [if_pos hyes]
      exact .inr ⟨c, s.removeCards [card], rfl, rfl, s.removeCards_cascade card⟩

end Cards

end BoardActivity
