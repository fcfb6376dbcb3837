import BoardActivity.Proofs.ReferenceRuns

/-!
# The history of a card

A card is stored as it is now, its events as they came; both are written apart from each other, and
changes of drafts are not told at all. `Portrait.after?` replays one event on what was known of the
card before, and fails on an event that could not have happened then. `System.history_of_run` says
that nothing is lost or made up: the events of a card begin with its only publication, and replayed
from there, every one of them is possible and the last leads to the card as it is.

Users of an assignment are told by the texts of their identifiers, which have 128 bits; so much is
assumed of the users that a run starts with.
-/

namespace BoardActivity

/-- What the events of a card tell of it. -/
structure Portrait where
  status : CardStatus
  title : String
  board : Ident
  assignees : List Ident
deriving Repr, DecidableEq

def Card.portrait (c : Card) : Portrait := ⟨c.status, c.title, c.board, c.assignees⟩

namespace Portrait

def turn? (p : Portrait) (sources : List CardStatus) (target : CardStatus) : Option Portrait :=
  if p.status ∈ sources then some { p with status := target } else none

def retitle? (p : Portrait) : Option String → Option String → Option Portrait
  | some old, some new => if old = p.title ∧ new ≠ old then some { p with title := new } else none
  | _, _ => none

def move? (p : Portrait) (board : Ident) : Option Portrait :=
  if board ≠ p.board then some { p with board } else none

/-- Further assignees, who were none before. -/
def assign? (p : Portrait) (users : List Ident) : Option Portrait :=
  if users ≠ [] ∧ users.Nodup ∧ ∀ u ∈ users, u ∉ p.assignees then
    some { p with assignees := p.assignees ++ users }
  else none

/-- Fewer assignees, all of whom were assigned. -/
def unassign? (p : Portrait) (users : List Ident) : Option Portrait :=
  if users ≠ [] ∧ users.Nodup ∧ ∀ u ∈ users, u ∈ p.assignees then
    some { p with assignees := p.assignees.filter fun u => u ∉ users }
  else none

/-- What an event does to a card that is published, by its action, if it is possible at all. -/
def steps : List (String × (Portrait → Event → Option Portrait)) :=
  [(Action.cardClosed, fun p _ => p.turn? [.published, .postponed] .closed),
   (Action.cardReopened, fun p _ => p.turn? [.closed, .postponed] .published),
   (Action.cardPostponed, fun p _ => p.turn? [.published, .closed] .postponed),
   (Action.cardTitleChanged, fun p e =>
     p.retitle? (e.particulars.text? "old_title") (e.particulars.text? "new_title")),
   (Action.cardBoardChanged, fun p e => p.move? e.board),
   (Action.cardAssigned, fun p e => p.assign? e.assignees),
   (Action.cardUnassigned, fun p e => p.unassign? e.assignees)]

/-- The portrait after an event, if the event is possible and names the board that the card is on
then. -/
def after? (p : Portrait) (e : Event) : Option Portrait :=
  ((steps.lookup e.action).bind fun step => step p e).filter fun q => q.board = e.board

variable {p p' : Portrait} {e : Event}

theorem after?_of_step {step : Portrait → Event → Option Portrait}
    (hl : steps.lookup e.action = some step) (hs : step p e = some p') (hb : p'.board = e.board) :
    p.after? e = some p' := by
  rw [after?, hl, Option.bind_some, hs]
  exact Option.filter_some_pos (decide_eq_true hb)

theorem after?_board (h : p.after? e = some p') : p'.board = e.board :=
  of_decide_eq_true (Option.filter_eq_some_iff.1 h).2

/-- No card is published twice. -/
theorem not_published_of_after? (h : p.after? e = some p') : e.action ≠ Action.cardPublished := by
  intro ha
  have hnone : steps.lookup Action.cardPublished = none := rfl
  rw [after?, ha, hnone] at h
  cases h

theorem not_published_of_replay {events : List Event} (h : events.foldlM after? p = some p') :
    ∀ e ∈ events, e.action ≠ Action.cardPublished := by
  induction events generalizing p with
  | nil => exact fun _ hm => (List.not_mem_nil hm).elim
  | cons e events ih =>
      obtain ⟨q, hq, hrest⟩ := Option.bind_eq_some_iff.1 (List.foldlM_cons.symm.trans h)
      intro x hx
      rcases List.mem_cons.1 hx with rfl | hx
      · exact not_published_of_after? hq
      · exact ih hrest x hx

/-- The events begin with a publication and lead from there to the portrait. -/
def Tells (events : List Event) (p : Portrait) : Prop :=
  ∃ first rest start, events = first :: rest ∧ first.action = Action.cardPublished ∧
    start.status = .published ∧ start.board = first.board ∧ rest.foldlM after? start = some p

theorem Tells.snoc {events : List Event} (h : Tells events p) (he : p.after? e = some p') :
    Tells (events ++ [e]) p' := by
  obtain ⟨first, rest, start, rfl, haction, hstatus, hboard, hrest⟩ := h
  refine ⟨first, rest ++ [e], start, rfl, haction, hstatus, hboard, ?_⟩
  rw [List.foldlM_append, hrest]
  simpa using he

/-- The last event names the board that the card is on. -/
theorem Tells.board_eq {events : List Event} (h : Tells events p) :
    events.getLast?.map Event.board = some p.board := by
  obtain ⟨first, rest, start, rfl, -, -, hboard, hrest⟩ := h
  induction rest generalizing first start with
  | nil =>
      cases hrest
      exact congrArg some hboard.symm
  | cons e rest ih =>
      obtain ⟨q, hq, hrest⟩ := Option.bind_eq_some_iff.1 (List.foldlM_cons.symm.trans hrest)
      rw [List.getLast?_cons_cons]
      exact ih e q (after?_board hq) hrest

end Portrait

/-- What there is to tell of a card: nothing of a draft. -/
def Card.Told (c : Card) (events : List Event) : Prop :=
  if c.status = .drafted then events = [] else Portrait.Tells events c.portrait

namespace CardOperation

variable {s : Store} {o : CardOperation} {c c' : Card} {p : Particulars}

/-- A card leaves the drafts by being published. -/
theorem Changes.published (h : o.Changes s c c' p) (hd : c.status = .drafted)
    (hd' : c'.status ≠ .drafted) : o = .publish ∧ c' = { c with status := .published } := by
  cases h with
  | publish => exact ⟨rfl, rfl⟩
  | close hs | reopen hs | postpone hs => rcases hs with hs | hs <;> cases hd.symm.trans hs
  | assign =>
      rw [Card.assign_eq] at hd'
      exact (hd' hd).elim
  | unassign | rename | move => exact (hd' hd).elim

/-- The event of a change can happen to a published card, and tells what the card becomes. -/
theorem Changes.after? (h : o.Changes s c c' p) (hd : c.status ≠ .drafted)
    (hmembers : ∀ u ∈ o.members, u.value < pow2 128)
    (hassignees : ∀ u ∈ c.assignees, u.value < pow2 128) (id creator : Ident) (now : Instant) :
    c.portrait.after? ((Eventable.ofCard c').event id o.verb p creator now) =
      some c'.portrait := by
  cases h with
  | publish hs => exact (hd hs).elim
  | close hs => exact Portrait.after?_of_step rfl (if_pos (List.mem_pair.2 hs)) rfl
  | reopen hs => exact Portrait.after?_of_step rfl (if_pos (List.mem_pair.2 hs)) rfl
  | postpone hs => exact Portrait.after?_of_step rfl (if_pos (List.mem_pair.2 hs)) rfl
  | @assign users hne =>
      have hsmall : ∀ u ∈ c.toAssign users, u.value < pow2 128 :=
        fun u hu => hmembers u (Card.mem_toAssign.1 hu).1
      have hstep : c.portrait.assign?
          ((Particulars.ofAssignees (c.toAssign users)).ids "assignee_ids") =
            some (c.assign (c.toAssign users)).portrait := by
        rw [Particulars.ids_ofAssignees hsmall, Card.assign_eq]
        exact if_pos ⟨hne, Ident.nodup_of_pairwise (Ident.pairwise_sortDistinct _),
          fun u hu => (Card.mem_toAssign.1 hu).2⟩
      exact Portrait.after?_of_step rfl hstep rfl
  | @unassign users hne =>
      have hsmall : ∀ u ∈ c.toUnassign users, u.value < pow2 128 :=
        fun u hu => hassignees u (Card.mem_toUnassign.1 hu).2
      have hstep : c.portrait.unassign?
          ((Particulars.ofAssignees (c.toUnassign users)).ids "assignee_ids") =
            some (c.unassign (c.toUnassign users)).portrait := by
        rw [Particulars.ids_ofAssignees hsmall]
        exact if_pos ⟨hne, Ident.nodup_of_pairwise (Ident.pairwise_sortDistinct _),
          fun u hu => (Card.mem_toUnassign.1 hu).2⟩
      exact Portrait.after?_of_step rfl hstep rfl
  | rename ht => exact Portrait.after?_of_step rfl (if_pos ⟨rfl, Ne.symm ht⟩) rfl
  | move hold hnew hb ha => exact Portrait.after?_of_step rfl (if_pos (Ne.symm hb)) rfl

/-- A change that leaves a card with something to tell tells it. -/
theorem Changes.told (h : o.Changes s c c' p) (hd : c'.status ≠ .drafted)
    (hmembers : ∀ u ∈ o.members, u.value < pow2 128)
    (hassignees : ∀ u ∈ c.assignees, u.value < pow2 128) (id creator : Ident) (now : Instant)
    {events : List Event} (htold : c.Told events) :
    Portrait.Tells (events ++ [(Eventable.ofCard c').event id o.verb p creator now])
      c'.portrait := by
  unfold Card.Told at htold
  split_ifs at htold with hs
  · obtain ⟨rfl, rfl⟩ := h.published hs hd
    subst htold
    exact ⟨_, [], _, rfl, rfl, rfl, rfl, rfl⟩
  · exact htold.snoc (h.after? hs hmembers hassignees id creator now)

/-- An operation brings in only those whom it names. -/
theorem Changes.mem_assignees (h : o.Changes s c c' p) {u : Ident} (hu : u ∈ c'.assignees) :
    u ∈ c.assignees ∨ u ∈ o.members := by
  cases h with
  | assign =>
      rw [Card.assign_eq] at hu
      rcases List.mem_append.1 hu with hu | hu
      · exact .inl hu
      · exact .inr (Card.mem_toAssign.1 hu).1
  | unassign => exact .inl (List.mem_filter.1 hu).1
  | publish | close | reopen | postpone | rename | move => exact .inl hu

end CardOperation

namespace Store

def eventsAbout (s : Store) (card : Ident) : List Event :=
  s.events.rows.filter fun e => e.eventable = .card card

/-- The events about a card by identifier, which is in the order of their creation. -/
def cardEvents (s : Store) (card : Ident) : List Event :=
  (s.eventsAbout card).mergeSort fun a b => decide (a.id ≤ b.id)

structure Faithful (s : Store) : Prop where
  users : ∀ u ∈ s.users.rows, u.id.value < pow2 128
  assignees : ∀ c ∈ s.cards.rows, ∀ u ∈ c.assignees, u.value < pow2 128
  ordered : s.events.rows.Pairwise fun a b => a.id < b.id
  told : ∀ c ∈ s.cards.rows, c.Told (s.eventsAbout c.id)

variable {s s' : Store} {g : Setup} {saved : Webhook → Prop}

theorem Faithful.member (h : s.Faithful) {account user : Ident} (hm : s.HasMember account user) :
    user.value < pow2 128 := by
  obtain ⟨u, hu, -⟩ := hm
  obtain ⟨hrow, hid⟩ := Table.find?_eq_some_iff.1 hu
  exact hid ▸ h.users u hrow

theorem Faithful.frame (h : s.Faithful) (husers : s'.users = s.users) (hcards : s'.cards = s.cards)
    (hevents : s'.events = s.events) : s'.Faithful := by
  obtain ⟨hu, ha, ho, ht⟩ := h
  simp only [eventsAbout] at ht
  refine ⟨?_, ?_, ?_, ?_⟩ <;> simp only [eventsAbout, husers, hcards, hevents]
  · exact hu
  · exact ha
  · exact ho
  · exact ht

/-- A card is written whose story is complete, with no new event. -/
theorem Faithful.putCard (h : s.Faithful) {c : Card} {supply : Supply}
    (ha : ∀ u ∈ c.assignees, u.value < pow2 128) (ht : c.Told (s.eventsAbout c.id)) :
    ({ s with cards := s.cards.put c, supply } : Store).Faithful := by
  refine ⟨h.users, fun d hd => ?_, h.ordered, fun d hd => ?_⟩
  · rcases Table.mem_rows_put.1 hd with rfl | ⟨hd, -⟩
    · exact ha
    · exact h.assignees d hd
  · rcases Table.mem_rows_put.1 hd with rfl | ⟨hd, -⟩
    · exact ht
    · exact h.told d hd

/-- A new event comes after all others. -/
theorem Fresh.ordered_put (h : s.Fresh) {e : Event} (hnew : s.supply.next ≤ e.id.value)
    (ho : s.events.rows.Pairwise fun a b => a.id < b.id) :
    (s.events.put e).rows.Pairwise fun a b => a.id < b.id := by
  rw [Table.rows_put_of_absent (h.find?_event hnew)]
  refine List.pairwise_append.2 ⟨ho, List.pairwise_singleton _ e, fun a hm b hb => ?_⟩
  rw [List.mem_singleton.1 hb]
  exact (h.events a hm).trans_le hnew

/-- An event is recorded, and the card written that it is about, if it is about a card. -/
theorem Faithful.recorded (h : s.Faithful) (hfresh : s.Fresh) {t : Tracker} {now : Instant}
    {e : Event} {card : Card} {comments : List Comment} (hnew : s.supply.next ≤ e.id.value)
    (ha : ∀ u ∈ card.assignees, u.value < pow2 128)
    (habout : ∀ id, e.eventable = .card id → id = card.id)
    (ht : card.Told
      (s.eventsAbout card.id ++ if e.eventable = .card card.id then [e] else [])) :
    (s.recorded t now e card comments).Faithful := by
  have hrows : (s.events.put e).rows = s.events.rows ++ [e] :=
    Table.rows_put_of_absent (hfresh.find?_event hnew)
  have hevents : ∀ id, (s.recorded t now e card comments).eventsAbout id =
      s.eventsAbout id ++ if e.eventable = .card id then [e] else [] := by
    intro id
    simp only [eventsAbout, Store.recorded, hrows, List.filter_append, List.filter_cons,
      List.filter_nil, decide_eq_true_eq]
  refine ⟨h.users, fun d hd => ?_, hfresh.ordered_put hnew h.ordered, fun d hd => ?_⟩
  · rcases Table.mem_rows_put.1 hd with rfl | ⟨hd, -⟩
    · exact ha
    · exact h.assignees d hd
  · rw [hevents]
    rcases Table.mem_rows_put.1 hd with rfl | ⟨hd, hne⟩
    · exact ht
    · have hother : e.eventable ≠ .card d.id := fun he => hne (habout d.id he)
      simpa [hother] using h.told d hd

theorem Linked.eventsAbout_eq_nil (h : s.Linked) {id : Ident} (hid : id ∉ s.cardIds) :
    s.eventsAbout id = [] := by
  refine List.filter_eq_nil_iff.2 fun e he habout => hid ?_
  have hthere := h.eventables e he
  rw [of_decide_eq_true habout] at hthere
  exact hthere

theorem eventsAbout_removeCards {cards : List Ident} {id : Ident} (hid : id ∉ cards) :
    (s.removeCards cards).eventsAbout id = s.eventsAbout id := by
  simp only [eventsAbout, Store.removeCards, Table.keep, List.filter_filter]
  refine List.filter_congr fun e _ => ?_
  by_cases he : e.eventable = .card id
  · simp [he, Transaction.isAbout, EventableRef.card, hid]
  · simp [he]

theorem Faithful.recordChange (h : s.Faithful) (hfresh : s.Fresh) {o : CardOperation} {c c' : Card}
    {p : Particulars} {creator : Ident} {now : Instant} {e : Event} (ha : s.Alters o c c' p)
    (hd : c'.status ≠ .drafted)
    (he : e = (Eventable.ofCard c').event ⟨s.supply.next⟩ o.verb p creator now) (t : Tracker)
    (comments : List Comment) :
    (s.recorded t now e { c' with lastActiveAt := now } comments).Faithful := by
  have hrow := (Table.find?_eq_some_iff.1 ha.found).1
  have hmembers : ∀ u ∈ o.members, u.value < pow2 128 := fun u hu => h.member (ha.members u hu)
  have href : e.eventable = .card c'.id := congrArg Event.eventable he
  refine h.recorded hfresh (he ▸ le_rfl) (fun u hu => ?_) (fun id hid => ?_) ?_
  · rcases ha.changes.mem_assignees hu with hu | hu
    · exact h.assignees c hrow u hu
    · exact hmembers u hu
  · exact (EventableRef.mk.inj (hid.symm.trans href)).2
  · have htold := ha.changes.told hd hmembers (h.assignees c hrow) ⟨s.supply.next⟩ creator now
      (h.told c hrow)
    rw [← ha.card_id, ← he] at htold
    rw [Card.Told, if_neg hd, if_pos href]
    exact htold

/-- Every write leaves the events of every card in keeping with the card. -/
theorem Faithful.write (h : s.Faithful) (hl : s.Linked) (hw : s.Write g saved s') :
    s'.Faithful := by
  have hfresh := hl.fresh
  cases hw with
  | draft title now hb hm =>
      -- No event can refer to an identifier that was not in use.
      have hid : (⟨s.supply.next⟩ : Ident) ∉ s.cardIds := fun hin =>
        Nat.lt_irrefl _ (hl.counted.below_of_mem (.inl hin))
      refine h.putCard (fun u hu => (List.not_mem_nil hu).elim) ?_
      exact (if_pos rfl).mpr (hl.eventsAbout_eq_nil hid)
  | @edit o c c' p ha hd =>
      have hrow := (Table.find?_eq_some_iff.1 ha.found).1
      have htold := h.told c hrow
      rw [Card.Told, if_pos (ha.changes.of_drafted hd).1] at htold
      refine h.putCard (fun u hu => ?_) ?_
      · rcases ha.changes.mem_assignees hu with hu | hu
        · exact h.assignees c hrow u hu
        · exact h.member (ha.members u hu)
      · rw [Card.Told, if_pos hd, ha.card_id]
        exact htold
  | change ha hd he => exact h.recordChange hfresh ha hd he g.tracker _
  | @comment c x now e hr he =>
      have hrow := (Table.find?_eq_some_iff.1 hr.found).1
      have href : e.eventable = .comment x.id := congrArg Event.eventable he
      -- What is told of a comment does not count among the events of its card.
      have hnot : ∀ id, e.eventable ≠ .card id := fun id hid => by
        cases (EventableRef.mk.inj (hid.symm.trans href)).1
      refine h.recorded hfresh ?_ (h.assignees c hrow) (fun id hid => (hnot id hid).elim) ?_
      · rw [he]
        exact Nat.le_succ _
      · rw [if_neg (hnot _), List.append_nil]
        exact h.told c hrow
  | removal cards =>
      refine ⟨h.users, fun c hc => ?_, h.ordered.sublist List.filter_sublist, fun c hc => ?_⟩
      · exact h.assignees c (List.mem_filter.1 hc).1
      · obtain ⟨hc, hkeep⟩ := List.mem_filter.1 hc
        rw [eventsAbout_removeCards (of_decide_eq_true hkeep)]
        exact h.told c hc
  | remark | saving | subscription | notice | reading | arming | delivery | sending | counting
  | settlement | claim => exact h.frame rfl rfl rfl

/-- The table has the events in order already. -/
theorem Faithful.cardEvents_eq (h : s.Faithful) (card : Ident) :
    s.cardEvents card = s.eventsAbout card := by
  refine List.mergeSort_of_pairwise ((h.ordered.sublist List.filter_sublist).imp fun hlt => ?_)
  exact decide_eq_true (Nat.le_of_lt hlt)

end Store

namespace System

/-- Over every run from users, whose identifiers have 128 bits, boards and webhooks: the events of a
draft are none. Those of any other card, in the order of their identifiers, begin with its only
publication, and replayed from the published card, with some title, board and assignees, each of
them is possible and the last leads to the status, title, board and assignees that the card has; the
last also names the board. -/
theorem history_of_run {sys : System} (h : sys.store.Seeded)
    (hids : ∀ u ∈ sys.store.users.rows, u.id.value < pow2 128) (g : Setup)
    (calls : List (Instant × SystemCall)) :
    let s := (sys.run g calls).store
    ∀ c ∈ s.cards.rows,
      (∀ e, e ∈ s.cardEvents c.id ↔ e ∈ s.events.rows ∧ e.eventable = .card c.id) ∧
      (s.cardEvents c.id).Pairwise (fun a b => a.id < b.id) ∧
      (c.status = .drafted → s.cardEvents c.id = []) ∧
      (c.status ≠ .drafted → ∃ first rest start, s.cardEvents c.id = first :: rest ∧
        first.action = Action.cardPublished ∧ (∀ e ∈ rest, e.action ≠ Action.cardPublished) ∧
        start.status = .published ∧ rest.foldlM Portrait.after? start = some c.portrait ∧
        (s.cardEvents c.id).getLast?.map Event.board = some c.board) := by
  have hseed : sys.store.Faithful := by
    refine ⟨hids, ?_, ?_, ?_⟩
    · rw [h.cards]
      exact fun _ hm => (List.not_mem_nil hm).elim
    · rw [h.events]
      exact .nil
    · rw [h.cards]
      exact fun _ hm => (List.not_mem_nil hm).elim
  obtain ⟨-, hend⟩ := run_keeps (g := g) (fun _ => True) (fun _ _ hl hw hf => hf.write hl hw)
    h.linked hseed calls fun _ _ _ _ => trivial
  intro s c hc
  have htold := hend.told c hc
  rw [hend.cardEvents_eq]
  refine ⟨fun e => ?_, hend.ordered.sublist List.filter_sublist, fun hd => ?_, fun hd => ?_⟩
  · rw [Store.eventsAbout, List.mem_filter, decide_eq_true_eq]
  · rwa [Card.Told, if_pos hd] at htold
  · rw [Card.Told, if_neg hd] at htold
    have hboard := htold.board_eq
    obtain ⟨first, rest, start, heq, haction, hstatus, -, hrest⟩ := htold
    exact ⟨first, rest, start, heq, haction, Portrait.not_published_of_replay hrest, hstatus, hrest,
      hboard⟩

/-- A draft is renamed, published, assigned, moved, renamed again, closed and freed of its assignee:
the first renaming is not told, and the events after the publication lead to the card as it is. -/
theorem history_of_moved_card :
    let users := (((Store.empty 10).addUser ⟨⟨1⟩, ⟨9⟩, "ada", .member⟩).addUser
      ⟨⟨5⟩, ⟨9⟩, "bob", .member⟩).addUser (.newSystem ⟨6⟩ ⟨9⟩)
    let sys : System :=
      ⟨(users.addBoard ⟨⟨2⟩, ⟨9⟩, "ops", []⟩).addBoard ⟨⟨3⟩, ⟨9⟩, "dev", []⟩, .standard⟩
    let change (o : CardOperation) : Instant × SystemCall := (⟨0, 0⟩, .changeCard ⟨10⟩ ⟨1⟩ o)
    let calls := [(⟨0, 0⟩, .createDraft ⟨2⟩ ⟨1⟩ "plan"), change (.rename "draft"), change .publish,
      change (.assign [⟨5⟩]), change (.move ⟨3⟩), change (.rename "final"), change .close,
      change (.unassign [⟨5⟩, ⟨1⟩])]
    let s := (sys.run ⟨.standard, .ofConfig .standard, .standard⟩ calls).store
    (s.cardEvents ⟨10⟩).map Event.action =
        [Action.cardPublished, Action.cardAssigned, Action.cardBoardChanged,
          Action.cardTitleChanged, Action.cardClosed, Action.cardUnassigned] ∧
      ∃ first rest start, s.cardEvents ⟨10⟩ = first :: rest ∧ start.status = .published ∧
        rest.foldlM Portrait.after? start = some ⟨.closed, "final", ⟨3⟩, []⟩ := by
  intro users sys change calls s
  have hseed : sys.store.Seeded := ⟨rfl, rfl, rfl, rfl, rfl, rfl⟩
  have hids : ∀ u ∈ sys.store.users.rows, u.id.value < pow2 128 := by decide
  have hsorted : s.cardEvents ⟨10⟩ = s.eventsAbout ⟨10⟩ :=
    List.mergeSort_of_pairwise (by decide +kernel)
  have hactions : (s.eventsAbout ⟨10⟩).map Event.action =
      [Action.cardPublished, Action.cardAssigned, Action.cardBoardChanged,
        Action.cardTitleChanged, Action.cardClosed, Action.cardUnassigned] := by decide +kernel
  have hrow : ((⟨10⟩ : Ident), (⟨.closed, "final", ⟨3⟩, []⟩ : Portrait)) ∈
      s.cards.rows.map fun c => (c.id, c.portrait) := by decide +kernel
  have hall := history_of_run hseed hids ⟨.standard, .ofConfig .standard, .standard⟩ calls
  have hrun : (sys.run ⟨.standard, .ofConfig .standard, .standard⟩ calls).store = s := rfl
  rw [hrun] at hall
  clear_value s
  obtain ⟨c, hc, heq⟩ := List.mem_map.1 hrow
  obtain ⟨hid, hportrait⟩ := Prod.mk.inj heq
  have hstatus : c.status = .closed := congrArg Portrait.status hportrait
  obtain ⟨-, -, -, htold⟩ := hall c hc
  rw [hid, hportrait] at htold
  obtain ⟨first, rest, start, hevents, -, -, hstart, hreplay, -⟩ := htold (by simp [hstatus])
  exact ⟨hsorted ▸ hactions, first, rest, start, hevents, hstart, hreplay⟩

end System

end BoardActivity
