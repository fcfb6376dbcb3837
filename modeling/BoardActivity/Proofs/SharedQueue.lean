import BoardActivity.Proofs.CallFrames
import BoardActivity.Proofs.TaskLifecycle

/-!
# Runs in which others use the queue

The queue of a store is open to others than the program: they enqueue tasks about anything, and
commit transactions with any writes in them. Of what holds between records, little is left then. But
every call, of the program as of others, is a history of moves of the outbox (`Store.MovesTo`), in
which only claims hand out tasks (`Store.MovesBy`); so rows and index still name the same tasks,
status and attempts of each row agree, and no row has an identifier that is still to be taken
(`Store.Queued`).

Tasks from outside are those that the constructors make. Nothing is assumed of the records that are
there at the start, only that no task is.
-/

namespace BoardActivity

inductive SharedCall where
  | program (call : SystemCall)
  | queue (call : QueueCall)

def SharedCall.tasks : SharedCall → List NewTask
  | .program _ => []
  | .queue c => c.tasks

namespace System

def callShared (sys : System) (g : Setup) (now : Instant) : SharedCall → System
  | .program c => sys.call g now c
  | .queue c => { sys with store := sys.store.call now c }

def claimsOf (sys : System) (now : Instant) : SharedCall → List Task
  | .program (.claim worker kinds max) => (sys.store.claim worker kinds max now).1
  | .program _ => []
  | .queue c => sys.store.claimsOf now c

def runShared (sys : System) (g : Setup) : List (Instant × SharedCall) → System
  | [] => sys
  | (now, c) :: rest => (sys.callShared g now c).runShared g rest

theorem runShared_append (sys : System) (g : Setup) (calls calls' : List (Instant × SharedCall)) :
    sys.runShared g (calls ++ calls') = (sys.runShared g calls).runShared g calls' := by
  induction calls generalizing sys with
  | nil => rfl
  | cons c calls ih => exact ih (sys.callShared g c.1 c.2)

end System

namespace Store

variable {s s' s'' : Store}

/-- The outbox comes about by moves, in which only tasks of the constructors are inserted. -/
def MovesTo (s s' : Store) : Prop :=
  ∃ claims, Outbox.Moves NewTask.Built s.outbox s.supply.next claims s'.outbox s'.supply.next

/-- The outbox comes about by such moves, and these claims are handed out in them. -/
def MovesBy (s : Store) (claims : List Task) (s' : Store) : Prop :=
  Outbox.Moves NewTask.Built s.outbox s.supply.next claims s'.outbox s'.supply.next

namespace MovesBy

variable {claims claims' : List Task}

theorem movesTo (h : s.MovesBy claims s') : s.MovesTo s' := ⟨claims, h⟩

theorem of_eq (houtbox : s'.outbox = s.outbox) (hle : s.supply.next ≤ s'.supply.next) :
    s.MovesBy [] s' := by
  unfold MovesBy
  rw [houtbox]
  exact (Outbox.Move.mint s.outbox hle).single

theorem refl (s : Store) : s.MovesBy [] s := of_eq rfl le_rfl

theorem trans (h : s.MovesBy claims s') (h' : s'.MovesBy claims' s'') :
    s.MovesBy (claims ++ claims') s'' :=
  Outbox.Moves.trans h h'

theorem settle {o : Outbox} (h : s.outbox.Settled o) : s.MovesBy [] { s with outbox := o } :=
  (Outbox.Move.settle s.supply.next h).single

end MovesBy

end Store

/-! ### Operations -/

structure Work.Ahead (s : Store) (w : Work) : Prop where
  next_le : s.supply.next ≤ w.supply.next
  built : ∀ t ∈ w.tx.tasks, t.Built

theorem Work.ahead_start (s : Store) : (Work.start s).Ahead s :=
  ⟨le_rfl, fun _ ht => (List.not_mem_nil ht).elim⟩

namespace Tracker

variable {t : Tracker} {s : Store} {now : Instant} {x : Eventable} {verb : String}
  {particulars : Particulars} {creator : Ident} {w w' : Work} {r : Option Event}

theorem built_tasksFor (t : Tracker) (event : Ident) : ∀ u ∈ t.tasksFor event, u.Built := by
  intro u hu
  rcases List.mem_pair.1 hu with rfl | rfl
  · exact .withMaxAttempts _ (.create _ _)
  · exact .withMaxAttempts _ (.create _ _)

theorem built_enqueueAll {tx : Transaction} {tasks : List NewTask}
    (htx : ∀ u ∈ tx.tasks, u.Built) (h : ∀ u ∈ tasks, u.Built) :
    ∀ u ∈ (enqueueAll s tx tasks).tasks, u.Built := by
  induction tasks generalizing tx with
  | nil => exact htx
  | cons task tasks ih =>
      refine ih (fun u hu => ?_) fun u hu => h u (List.mem_cons_of_mem task hu)
      change u ∈ (tx.enqueue s task).2.tasks at hu
      unfold Transaction.enqueue at hu
      split_ifs at hu
      · exact htx u hu
      · rcases List.mem_append.1 hu with hu | hu
        · exact htx u hu
        · exact List.mem_singleton.1 hu ▸ h task List.mem_cons_self

/-- Recording an event keeps work ahead if the reaction to the event does. -/
theorem ahead_track
    (hreact : ∀ e w w', x.react t.commenter s e w = (.ok (), w') → w.Ahead s → w'.Ahead s)
    (hw : w.Ahead s) (h : t.track s now x verb particulars creator none w = (.ok r, w')) :
    w'.Ahead s := by
  cases hx : x.tracked with
  | false =>
      rw [track_of_closed hx] at h
      exact (Prod.mk.inj h).2 ▸ hw
  | true =>
      obtain ⟨e, w₁, -, -, -, -, hr, rfl⟩ := track_ok hx h
      have hone := hreact _ _ _ hr ⟨hw.next_le.trans (Nat.le_succ _), hw.built⟩
      exact ⟨hone.next_le, built_enqueueAll hone.built (t.built_tasksFor e.id)⟩

end Tracker

namespace Eventable

variable {commenter : Commenter} {s : Store} {e : Event} {w w' : Work}

theorem ahead_react_ofCard {c : Card} (h : (ofCard c).react commenter s e w = (.ok (), w'))
    (hw : w.Ahead s) : w'.Ahead s := by
  cases react_ofCard_ok h
  exact ⟨hw.next_le.trans (Nat.le_add_right _ _), hw.built⟩

theorem ahead_react_ofComment {c : Comment} (h : (ofComment c).react commenter s e w = (.ok (), w'))
    (hw : w.Ahead s) : w'.Ahead s := by
  obtain ⟨card, -, rfl⟩ := react_ofComment_ok h
  exact ⟨hw.next_le, hw.built⟩

end Eventable

namespace Store

variable {s s' : Store} {g : Setup}

theorem movesBy_commit {w : Work} (h : w.Ahead s) (now : Instant) :
    s.MovesBy [] (({ s with supply := w.supply } : Store).commit w.tx now) := by
  have htaken : s.MovesBy [] { s with supply := w.supply } := .of_eq rfl h.next_le
  exact htaken.trans (commit_moves _ h.built now)

theorem movesBy_createDraft (now : Instant) (board creator : Ident) (title : String) :
    s.MovesBy [] (Cards.createDraft s now board creator title).2 := by
  rcases error_or_ok (Cards.createDraft s now board creator title) Cards.createDraft_error with
    ⟨e, hr⟩ | ⟨c, s', hr⟩
  · rw [hr]
    exact .refl s
  · obtain ⟨b, -, -, rfl⟩ := Cards.createDraft_ok hr
    rw [hr]
    exact .of_eq rfl (Nat.le_succ _)

theorem movesBy_perform (t : Tracker) (now : Instant) (card creator : Ident) (o : CardOperation) :
    s.MovesBy [] (Cards.perform t s now card creator o).2 := by
  rcases error_or_ok (Cards.perform t s now card creator o) Cards.perform_error with
    ⟨e, hr⟩ | ⟨r, s', hr⟩
  · rw [hr]
    exact .refl s
  · rw [hr]
    rcases Cards.perform_eq t s now card creator o with hp | ⟨e, hp⟩
    · rw [hp] at hr
      obtain ⟨c, -, -, ⟨-, -, rfl⟩ | ⟨c', particulars, w, -, hsave, rfl⟩⟩ := Cards.transition_ok hr
      · exact .refl _
      · refine movesBy_commit ?_ now
        simp only [Cards.saveAndTrack, bind_ok_iff] at hsave
        obtain ⟨tx, htx, ⟨x, w₁⟩, htrack, c₁, -, hw⟩ := hsave
        cases Transaction.saveCard_ok htx
        cases (Prod.mk.inj (Except.ok.inj hw)).2
        have hsaved : Work.Ahead s ⟨{ Transaction.start with cards := Table.empty.put c' },
            s.supply⟩ := ⟨le_rfl, (Work.ahead_start s).built⟩
        exact Tracker.ahead_track (x := .ofCard c')
          (fun _ _ _ h hw => Eventable.ahead_react_ofCard h hw) hsaved (orDrop_ok_iff.1 htrack)
    · rw [hp] at hr
      cases (Prod.mk.inj hr).1

theorem movesBy_comment (t : Tracker) (now : Instant) (card creator : Ident) (body : String)
    (mentionees : List Ident) :
    s.MovesBy [] (Comments.create t s now card creator body mentionees).2 := by
  rcases error_or_ok (Comments.create t s now card creator body mentionees)
    Comments.create_error with ⟨e, hr⟩ | ⟨x, s', hr⟩
  · rw [hr]
    exact .refl s
  · obtain ⟨w, hw, rfl⟩ := perform_ok hr
    rw [hr]
    refine movesBy_commit ?_ now
    simp only [bind_ok_iff, guard_ok_iff] at hw
    obtain ⟨body', -, c, -, u, -, -, _, -, tx, htx, ⟨r, w₁⟩, htrack, hw⟩ := hw
    cases Transaction.insertComment_ok htx
    cases (Prod.mk.inj (Except.ok.inj hw)).2
    have hinserted : ∀ x : Comment, Work.Ahead s ⟨{ Transaction.start with
        comments := Table.empty.put x }, ⟨s.supply.next + 1⟩⟩ :=
      fun _ => ⟨Nat.le_succ _, (Work.ahead_start s).built⟩
    exact Tracker.ahead_track (fun _ _ _ h hw => Eventable.ahead_react_ofComment h hw)
      (hinserted _) (orDrop_ok_iff.1 htrack)

/-! ### Handlers -/

theorem movesBy_notify (h : Handlers) (event : Ident) (now : Instant) :
    s.MovesBy [] (h.notify s event now).2 := by
  have hw : Writes ⟨.standard, h, .standard⟩ (fun _ => True) s (h.notify s event now).2 :=
    notify_writes event now
  obtain ⟨notifications, fault, supply, hframe⟩ := s.notify_frame h event now
  exact .of_eq (congrArg Store.outbox hframe :) hw.next_le

theorem movesBy_enqueue {t : NewTask} (ht : t.Built) (now : Instant) :
    s.MovesBy [] (s.enqueue t now).2 :=
  s.enqueue_moves ht now

theorem movesBy_ensureDelivery (webhook event : Ident) (now : Instant) :
    s.MovesBy [] (s.ensureDelivery webhook event now).2 := by
  unfold ensureDelivery
  split
  · exact .refl s
  · exact .of_eq rfl (Nat.le_succ _)

theorem movesBy_deliverToAll (maxAttempts : Nat) (event : Ident) (now : Instant)
    (webhooks : List Webhook) : s.MovesBy [] (s.deliverToAll maxAttempts event now webhooks).2 := by
  induction webhooks generalizing s with
  | nil => exact .refl s
  | cons w webhooks ih =>
      have htask := movesBy_enqueue (s := (s.ensureDelivery w.id event now).2)
        (.withMaxAttempts maxAttempts (.create .deliverWebhook
          (s.ensureDelivery w.id event now).1.id)) now
      exact ((movesBy_ensureDelivery w.id event now).trans htask).trans ih

theorem movesBy_dispatch (h : Handlers) (event : Ident) (now : Instant) :
    s.MovesBy [] (h.dispatch s event now).2 := by
  unfold Handlers.dispatch
  split
  · exact .refl s
  · exact movesBy_deliverToAll _ _ _ _

end Store

namespace System

variable {sys : System} {g : Setup}

open Store (MovesBy)

theorem movesBy_deliver (h : Handlers) (delivery : Ident) (now : Instant) :
    sys.store.MovesBy [] (h.deliver sys delivery now).2.store := by
  obtain ⟨deliveries, webhooks, trackers, hframe⟩ := sys.deliver_frame h delivery now
  exact .of_eq (congrArg Store.outbox hframe :) (congrArg (fun s => s.supply.next) hframe :).ge

theorem movesBy_run (h : Handlers) (t : Task) (now : Instant) :
    sys.store.MovesBy [] (h.run sys t now).2.store := by
  unfold Handlers.run
  split
  · exact Store.movesBy_notify h t.subject now
  · exact Store.movesBy_dispatch h t.subject now
  · exact movesBy_deliver h t.subject now

theorem movesBy_execute (h : Handlers) (config : FanoutConfig) (t : Task) (draw : Draw)
    (now : Instant) : sys.store.MovesBy [] (sys.execute h config t draw now).2.store := by
  obtain ⟨outbox, hsettled, heq⟩ := sys.execute_settled h config t draw now
  rw [heq]
  exact (movesBy_run h t now).trans (.settle hsettled)

/-- Every call of the program is a history of moves, whatever records are there. -/
theorem movesBy_call (sys : System) (g : Setup) (now : Instant) (c : SystemCall) :
    sys.store.MovesBy (sys.claimsOf now (.program c)) (sys.call g now c).store := by
  cases c with
  | createDraft board creator title =>
      simp only [call, Store.answer]
      exact Store.movesBy_createDraft now board creator title
  | changeCard card creator o => exact Store.movesBy_perform g.tracker now card creator o
  | comment card creator body mentionees =>
      simp only [call, Store.answer]
      exact Store.movesBy_comment g.tracker now card creator body mentionees
  | destroyCard card => exact sys.store.call_moves now (.destroy card) (by simp [QueueCall.tasks])
  | saveWebhook | failNotificationsAfter => exact .of_eq rfl le_rfl
  | resubscribe webhook actions =>
      obtain ⟨webhooks, heq⟩ := sys.store.resubscribe_eq webhook actions
      exact .of_eq (congrArg Store.outbox heq :) (congrArg (fun s => s.supply.next) heq :).ge
  | deactivate webhook =>
      obtain ⟨webhooks, heq⟩ := sys.store.deactivateWebhook_eq webhook
      exact .of_eq (congrArg Store.outbox heq :) (congrArg (fun s => s.supply.next) heq :).ge
  | markRead notification =>
      obtain ⟨notifications, heq, -⟩ := sys.store.markRead_frame notification now
      exact .of_eq (congrArg Store.outbox heq :) (congrArg (fun s => s.supply.next) heq :).ge
  | claim worker kinds max =>
      exact sys.store.call_moves now (.claim worker kinds max) (by simp [QueueCall.tasks])
  | complete t => exact .settle (sys.store.outbox.complete_settled t)
  | fail t error delay => exact .settle (sys.store.outbox.fail_settled t error delay now)
  | reclaim threshold =>
      exact sys.store.call_moves now (.reclaim threshold) (by simp [QueueCall.tasks])
  | notify event => exact Store.movesBy_notify g.handlers event now
  | dispatch event => exact Store.movesBy_dispatch g.handlers event now
  | deliver delivery => exact movesBy_deliver g.handlers delivery now
  | execute t draw => exact movesBy_execute g.handlers g.config t draw now

theorem movesBy_callShared (sys : System) (g : Setup) (now : Instant) {c : SharedCall}
    (h : ∀ t ∈ c.tasks, t.Built) :
    sys.store.MovesBy (sys.claimsOf now c) (sys.callShared g now c).store := by
  cases c with
  | program c => exact sys.movesBy_call g now c
  | queue c => exact sys.store.call_moves now c h

theorem movesTo_runShared (sys : System) (g : Setup) {calls : List (Instant × SharedCall)}
    (h : ∀ c ∈ calls, ∀ t ∈ c.2.tasks, t.Built) :
    sys.store.MovesTo (sys.runShared g calls).store := by
  induction calls generalizing sys with
  | nil => exact (MovesBy.refl sys.store).movesTo
  | cons c calls ih =>
      obtain ⟨claims, hrest⟩ :=
        ih (sys.callShared g c.1 c.2) fun d hd => h d (List.mem_cons_of_mem c hd)
      exact ⟨_, (sys.movesBy_callShared g c.1 (h c List.mem_cons_self)).trans hrest⟩

end System

namespace Store

variable {s s' : Store}

structure Queued (s : Store) : Prop where
  sound : s.outbox.Sound
  below : s.outbox.Below s.supply.next

theorem queued_of_empty (h : s.outbox = .empty) : s.Queued := by
  refine ⟨h ▸ Outbox.sound_empty, fun r hr => ?_⟩
  rw [h] at hr
  cases hr

theorem Queued.movesTo (h : s.Queued) (hm : s.MovesTo s') : s'.Queued := by
  obtain ⟨claims, hm⟩ := hm
  exact ⟨hm.sound (fun _ ht => ht.pos) h.below h.sound, hm.rows_below h.below⟩

end Store

/-- Over every run from a store without tasks, whatever others do at its queue, the outbox stays in
order. -/
theorem System.queued_runShared {sys : System} (h : sys.store.outbox = .empty) (g : Setup)
    {calls : List (Instant × SharedCall)} (hcalls : ∀ c ∈ calls, ∀ t ∈ c.2.tasks, t.Built) :
    (sys.runShared g calls).store.Queued :=
  (Store.queued_of_empty h).movesTo (sys.movesTo_runShared g hcalls)

end BoardActivity
