import BoardActivity.Activity.Comments
import BoardActivity.Proofs.QueueCalls

/-!
# What a recorded event stages

An operation that succeeds has passed every check on its way, and what it has staged then is known
exactly: the event, the two tasks that follow from it, the card that it touches, and the comments
that it adds. This is shown here for the steps of a transaction one by one, so that the operations
only put these steps together.
-/

namespace BoardActivity

theorem bind_ok_iff {α β : Type} {x : Except Error α} {f : α → Except Error β} {b : β} :
    x >>= f = .ok b ↔ ∃ a, x = .ok a ∧ f a = .ok b := by
  cases x with
  | error e => simp [bind, Except.bind]
  | ok a => simp [bind, Except.bind]

/-- A check in a chain of steps. -/
theorem guard_ok_iff {α : Type} {p : Prop} [Decidable p] {e : Error} {f : Unit → Except Error α}
    {x : Except Error α} {a : α} :
    (if p then (throw e : Except Error Unit) >>= f else x) = .ok a ↔ ¬p ∧ x = .ok a := by
  by_cases h : p
  · simp [h, throw, throwThe, MonadExceptOf.throw, bind, Except.bind]
  · simp [h]

theorem orDrop_ok_iff {α : Type} {x : Staged α} {a : α} {w : Work} :
    x.orDrop = .ok (a, w) ↔ x = (.ok a, w) := by
  obtain ⟨r, v⟩ := x
  cases r with
  | error e => simp [Staged.orDrop]
  | ok b => simp [Staged.orDrop]

namespace Store

variable {α : Type} {s s' : Store} {now : Instant} {work : Except Error (α × Work)}

/-- Work that succeeds is committed, and nothing else is. -/
theorem perform_ok {a : α} (h : s.perform now work = (.ok a, s')) :
    ∃ w, work = .ok (a, w) ∧ s' = ({ s with supply := w.supply } : Store).commit w.tx now := by
  unfold perform at h
  split at h
  · obtain ⟨hr, hs⟩ := Prod.mk.inj h
    cases hr
    exact ⟨_, rfl, hs.symm⟩
  · cases (Prod.mk.inj h).1

theorem perform_error {e : Error} (h : (s.perform now work).1 = .error e) :
    (s.perform now work).2 = s := by
  unfold perform at h ⊢
  split at h
  · cases h
  · rfl

/-- An answer of a call that leaves the store as it is when it fails. -/
theorem error_or_ok (x : Except Error α × Store) (h : ∀ {e}, x.1 = .error e → x.2 = s) :
    (∃ e, x = (.error e, s)) ∨ ∃ a s', x = (.ok a, s') := by
  obtain ⟨r, s'⟩ := x
  cases r with
  | error e => exact .inl ⟨e, congrArg (Prod.mk _) (h rfl)⟩
  | ok a => exact .inr ⟨a, s', rfl⟩

theorem loadUser_ok {id : Ident} {u : User} (h : s.loadUser id = .ok u) :
    s.users.find? id = some u ∧ u.id = id := by
  unfold loadUser at h
  split at h
  next u' hf =>
    cases h
    exact ⟨hf, (Table.find?_eq_some_iff.1 hf).2⟩
  next => cases h

theorem loadBoard_ok {id : Ident} {b : Board} (h : s.loadBoard id = .ok b) :
    s.boards.find? id = some b ∧ b.id = id := by
  unfold loadBoard at h
  split at h
  next b' hf =>
    cases h
    exact ⟨hf, (Table.find?_eq_some_iff.1 hf).2⟩
  next => cases h

end Store

namespace Transaction

variable {s : Store} {tx tx' : Transaction}

theorem findCard_start (s : Store) (id : Ident) : start.findCard s id = s.cards.find? id := by
  simp [findCard, start]

theorem loadCard_ok {id : Ident} {c : Card} (h : tx.loadCard s id = .ok c) :
    tx.findCard s id = some c := by
  unfold loadCard at h
  split at h
  next c' hf =>
    cases h
    exact hf
  next => cases h

theorem saveCard_ok {c : Card} (h : tx.saveCard c = .ok tx') :
    tx' = { tx with cards := tx.cards.put c } := by
  unfold saveCard at h
  split_ifs at h
  exact (Except.ok.inj h).symm

theorem insertComment_ok {c : Comment} (h : tx.insertComment s c = .ok tx') :
    tx' = { tx with comments := tx.comments.put c } := by
  unfold insertComment at h
  split_ifs at h
  exact (Except.ok.inj h).symm

theorem insertEvent_ok {e : Event} (h : tx.insertEvent s e = .ok tx') :
    s.events.contains e.id = false ∧ tx' = { tx with events := tx.events ++ [e] } := by
  unfold insertEvent at h
  split_ifs at h with hd
  simp only [Bool.or_eq_true, not_or, Bool.not_eq_true] at hd
  exact ⟨hd.2, (Except.ok.inj h).symm⟩

/-- A card that is staged is read back. -/
theorem loadCard_staged {id : Ident} {c c' : Card} (h : tx.loadCard s id = .ok c')
    (hd : id ∉ tx.deleted) (hf : tx.cards.find? id = some c) : c' = c := by
  have hl := loadCard_ok h
  simp only [findCard, hd, if_false, hf, Option.some_or, Option.some.injEq] at hl
  exact hl.symm

end Transaction

/-- The system comments that are posted about an event: one if there is something to tell. -/
def Commenter.told (c : Commenter) (s : Store) (e : Event) (id card : Ident) : List Comment :=
  if c.handles e.action then
    match s.systemUser e.account with
    | .error _ => []
    | .ok author =>
      (c.commentFor e id card (Names.ofUsers (s.findUsers e.referencedUsers)) author).toList
  else []

/-- A post that succeeds has staged exactly what is told, and taken an identifier for it. -/
theorem Commenter.post_ok {c : Commenter} {s : Store} {e : Event} {card : Ident} {w w' : Work}
    {r : Option Comment} (h : c.post s e card w = (.ok r, w')) :
    w' = ⟨{ w.tx with comments := w.tx.comments.putAll (c.told s e ⟨w.supply.next⟩ card) },
      ⟨w.supply.next + (c.told s e ⟨w.supply.next⟩ card).length⟩⟩ := by
  simp only [Commenter.post, Supply.mint] at h
  split_ifs at h with hh
  · split at h
    next => cases (Prod.mk.inj h).1
    next author ha =>
      split at h
      next hc =>
        have ht : c.told s e ⟨w.supply.next⟩ card = [] := by
          simp only [Commenter.told, hh, if_true, ha]
          exact congrArg Option.toList hc
        rw [ht]
        exact (Prod.mk.inj h).2.symm
      next comment hc =>
        have ht : c.told s e ⟨w.supply.next⟩ card = [comment] := by
          simp only [Commenter.told, hh, if_true, ha]
          exact congrArg Option.toList hc
        split at h
        next => cases (Prod.mk.inj h).1
        next tx hi =>
          rw [ht, ← (Prod.mk.inj h).2, Transaction.insertComment_ok hi]
          rfl
  · have ht : c.told s e ⟨w.supply.next⟩ card = [] := by
      simp [Commenter.told, hh]
    rw [ht]
    exact (Prod.mk.inj h).2.symm

theorem Commenter.told_eq (c : Commenter) (s : Store) (e : Event) (id card : Ident) :
    c.told s e id card = [] ∨ ∃ comment, c.told s e id card = [comment] ∧ comment.id = id ∧
      comment.card = card ∧ comment.system = true := by
  unfold Commenter.told
  split_ifs
  · cases s.systemUser e.account with
    | error _ => exact .inl rfl
    | ok author =>
        simp only [Commenter.commentFor]
        cases c.render e (Names.ofUsers (s.findUsers e.referencedUsers)) with
        | none => exact .inl rfl
        | some body => exact .inr ⟨_, rfl, rfl, rfl, rfl⟩
  · exact .inl rfl

/-- What the comments on a card about an event are: none if the event's action is not told, or if
there is nothing to tell of it with the names of the users it refers to, and otherwise the sentence
found, from the system user of the event's account at the event's time. -/
inductive Commenter.Tells (c : Commenter) (s : Store) (e : Event) (id card : Ident) :
    List Comment → Prop
  | nothing : (∀ r, c.renderers.lookup e.action = some r →
        r e (.ofUsers (s.findUsers e.referencedUsers)) = none) →
      Tells c s e id card []
  | sentence {r : Renderer} {body : String} {author : User} :
      c.renderers.lookup e.action = some r →
      r e (.ofUsers (s.findUsers e.referencedUsers)) = some body →
      s.systemUser e.account = .ok author → author ∈ s.users.rows →
      author.account = e.account → author.role = .system →
      Tells c s e id card
        [⟨id, e.account, e.board, card, author.id, body, true, [], e.createdAt⟩]

theorem Store.systemUser_ok {s : Store} {account : Ident} {u : User}
    (h : s.systemUser account = .ok u) :
    u ∈ s.users.rows ∧ u.account = account ∧ u.role = .system := by
  unfold systemUser at h
  split at h
  next u' hf =>
    cases h
    have hu := List.find?_some hf
    simp only [User.isSystem, Bool.and_eq_true, beq_iff_eq] at hu
    exact ⟨List.mem_of_find?_eq_some hf, hu⟩
  next => cases h

/-- A post that succeeds has found the system user, if the action is told. -/
theorem Commenter.tells_of_post {c : Commenter} {s : Store} {e : Event} {card : Ident}
    {w w' : Work} {r : Option Comment} (h : c.post s e card w = (.ok r, w')) (id : Ident) :
    c.Tells s e id card (c.told s e id card) := by
  unfold post at h
  unfold told
  cases hlookup : c.renderers.lookup e.action with
  | none =>
      rw [handles, hlookup, if_neg (by simp)]
      refine .nothing fun r hr => ?_
      cases hlookup.symm.trans hr
  | some render =>
      have hhandles : c.handles e.action = true := by rw [handles, hlookup]; rfl
      rw [if_pos hhandles] at h ⊢
      cases hauthor : s.systemUser e.account with
      | error err =>
          rw [hauthor] at h
          cases (Prod.mk.inj h).1
      | ok author =>
          obtain ⟨hrow, haccount, hrole⟩ := Store.systemUser_ok hauthor
          simp only [commentFor, Commenter.render, hlookup, Option.bind_some]
          cases hbody : render e (.ofUsers (s.findUsers e.referencedUsers)) with
          | none =>
              refine .nothing fun r hr => ?_
              cases hlookup.symm.trans hr
              exact hbody
          | some body => exact .sentence hlookup hbody hauthor hrow haccount hrole

theorem Commenter.id_of_mem_told {c : Commenter} {s : Store} {e : Event} {id card : Ident}
    {x : Comment} (hx : x ∈ c.told s e id card) : x.id = id := by
  rcases c.told_eq s e id card with h | ⟨y, h, hy, -⟩
  · rw [h] at hx
    cases hx
  · rw [h] at hx
    exact List.mem_singleton.1 hx ▸ hy

theorem Commenter.nodup_told (c : Commenter) (s : Store) (e : Event) (id card : Ident) :
    ((c.told s e id card).map Comment.id).Nodup := by
  rcases c.told_eq s e id card with h | ⟨x, h, -⟩
  · rw [h]
    exact List.nodup_nil
  · rw [h]
    exact List.nodup_singleton _

/-- The event that is recorded about something on its own board. -/
def Eventable.event (x : Eventable) (id : Ident) (verb : String) (particulars : Particulars)
    (creator : Ident) (now : Instant) : Event :=
  ⟨id, x.account, x.board, creator, x.ref, x.actionHead ++ "_" ++ verb, particulars, now⟩

namespace Eventable

variable {commenter : Commenter} {s : Store} {e : Event} {w w' : Work}

theorem react_ofCard_ok {c : Card} (h : (ofCard c).react commenter s e w = (.ok (), w')) :
    w' = ⟨{ w.tx with
        cards := w.tx.cards.put { c with lastActiveAt := e.createdAt }
        comments := w.tx.comments.putAll (commenter.told s e ⟨w.supply.next⟩ c.id) },
      ⟨w.supply.next + (commenter.told s e ⟨w.supply.next⟩ c.id).length⟩⟩ := by
  simp only [ofCard] at h
  split at h
  next => cases (Prod.mk.inj h).1
  next w₁ hp =>
    split at h
    next => cases (Prod.mk.inj h).1
    next tx hs =>
      rw [← (Prod.mk.inj h).2, Transaction.saveCard_ok hs, Commenter.post_ok hp]

theorem tells_of_react {c : Card} (h : (ofCard c).react commenter s e w = (.ok (), w'))
    (id : Ident) : commenter.Tells s e id c.id (commenter.told s e id c.id) := by
  simp only [ofCard] at h
  split at h
  next => cases (Prod.mk.inj h).1
  next w₁ hp => exact Commenter.tells_of_post hp id

theorem react_ofComment_ok {c : Comment} (h : (ofComment c).react commenter s e w = (.ok (), w')) :
    ∃ card, w.tx.findCard s c.card = some card ∧ w' = { w with
      tx := { w.tx with cards := w.tx.cards.put { card with lastActiveAt := e.createdAt } } } := by
  simp only [ofComment] at h
  split at h
  next => cases (Prod.mk.inj h).1
  next card hl =>
    split at h
    next => cases (Prod.mk.inj h).1
    next tx hs =>
      refine ⟨card, Transaction.loadCard_ok hl, ?_⟩
      rw [← (Prod.mk.inj h).2, Transaction.saveCard_ok hs]

end Eventable

namespace Tracker

variable {t : Tracker} {s : Store} {now : Instant} {x : Eventable} {verb : String}
  {particulars : Particulars} {creator : Ident} {w w' : Work} {r : Option Event}

theorem track_of_closed (hx : x.tracked = false) (w : Work) :
    t.track s now x verb particulars creator none w = (.ok none, w) := by
  simp [track, record, hx]

/-- What has happened when an event was recorded: the checks were passed, the subject has reacted to
the event, and the tasks are staged last. -/
theorem track_ok (hx : x.tracked = true)
    (h : t.track s now x verb particulars creator none w = (.ok r, w')) :
    ∃ e w₁, e = x.event ⟨w.supply.next⟩ verb particulars creator now ∧ r = some e ∧
      checkEvent s x e.action creator x.board = .ok () ∧ s.events.contains e.id = false ∧
      x.react t.commenter s e ⟨{ w.tx with events := w.tx.events ++ [e] }, ⟨w.supply.next + 1⟩⟩ =
        (.ok (), w₁) ∧
      w' = { w₁ with tx := enqueueAll s w₁.tx (t.tasksFor e.id) } := by
  simp only [track, record, hx, if_true, Supply.mint, Option.getD_none] at h
  split at h
  next => cases (Prod.mk.inj h).1
  next hc =>
    split at h
    next => cases (Prod.mk.inj h).1
    next tx hi =>
      obtain ⟨hnew, rfl⟩ := Transaction.insertEvent_ok hi
      split at h
      next => cases (Prod.mk.inj h).1
      next w₁ hr =>
        obtain ⟨he, hw⟩ := Prod.mk.inj h
        exact ⟨_, w₁, rfl, (Except.ok.inj he).symm, hc, hnew, hr, hw.symm⟩

/-- Both tasks of an event that has none yet are staged. -/
theorem enqueueAll_tasksFor (t : Tracker) {tx : Transaction} {event : Ident} (htx : tx.tasks = [])
    (hn : s.outbox.has .notify event = false) (hd : s.outbox.has .dispatchWebhooks event = false) :
    enqueueAll s tx (t.tasksFor event) = { tx with tasks := t.tasksFor event } := by
  simp [enqueueAll, tasksFor, Transaction.enqueue, NewTask.create, NewTask.withMaxAttempts, htx, hn,
    hd]

end Tracker

/-- The store with an event recorded: the event and its two tasks are added with the comments, and
the card is written. -/
def Store.recorded (s : Store) (t : Tracker) (now : Instant) (e : Event) (card : Card)
    (comments : List Comment) : Store :=
  let next := s.supply.next + 1 + comments.length
  { s with
    cards := s.cards.put card
    comments := s.comments.putAll comments
    events := s.events.put e
    outbox :=
      (s.outbox.insert ((NewTask.create .notify e.id).withMaxAttempts t.notifyAttempts) ⟨next⟩
        now).insert
        ((NewTask.create .dispatchWebhooks e.id).withMaxAttempts t.dispatchAttempts) ⟨next + 1⟩ now
    supply := ⟨next + 2⟩ }

namespace Store

variable {s : Store} {t : Tracker} {now : Instant} {e : Event} {card : Card}
  {comments : List Comment}

/-- Committing what a recorded event has staged records it. -/
theorem commit_recorded {tx : Transaction} (hcards : tx.cards.rows = [card])
    (hcomments : tx.comments.rows = comments) (hevents : tx.events = [e])
    (htasks : tx.tasks = t.tasksFor e.id) (hdeleted : tx.deleted = [])
    (hn : s.outbox.has .notify e.id = false) (hd : s.outbox.has .dispatchWebhooks e.id = false) :
    ({ s with supply := ⟨s.supply.next + 1 + comments.length⟩ } : Store).commit tx now =
      s.recorded t now e card comments := by
  have hd' : ∀ u : NewTask, u.kind = .notify → ∀ id,
      (s.outbox.insert u id now).has .dispatchWebhooks e.id = false := by
    intro u hu id
    rw [Outbox.has_insert_of_ne (by simp [hu]), hd]
  rw [commit_eq, hdeleted, if_pos List.isEmpty_nil, htasks, Tracker.tasksFor, enqueueAll_cons,
    enqueue_of_new hn, enqueueAll_cons, enqueue_of_new (hd' _ rfl _)]
  simp only [write, hcards, hcomments, hevents]
  rfl

end Store

end BoardActivity
