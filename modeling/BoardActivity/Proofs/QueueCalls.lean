import BoardActivity.Activity.Cards
import BoardActivity.Proofs.OutboxHistory
import BoardActivity.Worker.Execution

/-!
# Calls on the queue of a store

Producers enqueue tasks or commit transactions, workers claim and settle, stale claims are taken
back, cards are destroyed: a `QueueCall` is any of these, made at a time of its own. A run is a list
of calls in the order in which they take effect, whoever makes them. Every call is a history of
moves of the outbox, so that rows and claims of any run are those of a `Chronicle`.

A transaction is committed as a whole, with any writes staged in it; `taken` identifiers were taken
from the supply while it was under way.
-/

namespace BoardActivity

inductive QueueCall where
  | enqueue (task : NewTask)
  | commit (taken : Nat) (tx : Transaction)
  | claim (worker : String) (kinds : List TaskKind) (max : Nat)
  | complete (task : Task)
  | fail (task : Task) (error : String) (delay : Span)
  | reclaim (threshold : Span)
  | destroy (card : Ident)

def QueueCall.tasks : QueueCall → List NewTask
  | .enqueue t => [t]
  | .commit _ tx => tx.tasks
  | .claim .. | .complete _ | .fail .. | .reclaim _ | .destroy _ => []

namespace Store

def take (s : Store) (taken : Nat) : Store := { s with supply := ⟨s.supply.next + taken⟩ }

/-- The store after a call; one that breaks off leaves behind what it did before. -/
def call (s : Store) (now : Instant) : QueueCall → Store
  | .enqueue t => (s.enqueue t now).2
  | .commit taken tx => (s.take taken).commit tx now
  | .claim worker kinds max => (s.claim worker kinds max now).2
  | .complete t => (s.complete t).2
  | .fail t error delay => (s.fail t error delay now).2
  | .reclaim threshold =>
    match s.reclaim threshold now with
    | some (_, s') => s'
    | none => s
  | .destroy card => (Cards.destroy s now card).2

def claimsOf (s : Store) (now : Instant) : QueueCall → List Task
  | .claim worker kinds max => (s.claim worker kinds max now).1
  | .enqueue _ | .commit .. | .complete _ | .fail .. | .reclaim _ | .destroy _ => []

def runCalls (s : Store) : List (Instant × QueueCall) → Store
  | [] => s
  | (now, c) :: rest => (s.call now c).runCalls rest

/-- All claims handed out in a run, the latest last. -/
def claimsDuring (s : Store) : List (Instant × QueueCall) → List Task
  | [] => []
  | (now, c) :: rest => s.claimsOf now c ++ (s.call now c).claimsDuring rest

theorem runCalls_append (s : Store) (calls calls' : List (Instant × QueueCall)) :
    s.runCalls (calls ++ calls') = (s.runCalls calls).runCalls calls' := by
  induction calls generalizing s with
  | nil => rfl
  | cons c calls ih => exact ih (s.call c.1 c.2)

/-- Destroying a card removes it with all that belongs to it; an unknown card is refused. -/
theorem destroy_eq (s : Store) (now : Instant) (card : Ident) :
    Cards.destroy s now card = if s.cards.contains card = true then (.ok (), s.removeCards [card])
      else (.error (.notFound "card" card), s) := by
  have hd : (Work.start s).tx.deleteCard s card =
      if s.cards.contains card = true then (true, { Transaction.start with deleted := [card] })
      else (false, Transaction.start) :=
    rfl
  unfold Cards.destroy
  split_ifs at hd ⊢ with h
  · simp only [hd]
    rfl
  · simp only [hd]
    rfl

/-- Removing cards removes the tasks of their events and deliveries. -/
theorem removeCards_outbox (s : Store) (cards : List Ident) :
    ∃ subjects, (s.removeCards cards).outbox = s.outbox.removeSubjects subjects :=
  ⟨_, rfl⟩

theorem enqueue_of_has {s : Store} {t : NewTask} (h : s.outbox.has t.kind t.subject = true)
    (now : Instant) : s.enqueue t now = (false, s) := by
  simp [enqueue, h]

theorem enqueue_of_new {s : Store} {t : NewTask} (h : s.outbox.has t.kind t.subject = false)
    (now : Instant) : s.enqueue t now = (true, { s with
      outbox := s.outbox.insert t ⟨s.supply.next⟩ now, supply := ⟨s.supply.next + 1⟩ }) := by
  simp [enqueue, h, mint, Supply.mint]

/-- After enqueueing, the task is there whether it was there before or not. -/
theorem has_enqueue (s : Store) (t : NewTask) (now : Instant) (kind : TaskKind) (subject : Ident) :
    (s.enqueue t now).2.outbox.has kind subject = true ↔
      s.outbox.has kind subject = true ∨ t.kind = kind ∧ t.subject = subject := by
  cases hhas : s.outbox.has t.kind t.subject with
  | true =>
      have hin : t.kind = kind ∧ t.subject = subject → s.outbox.has kind subject = true := by
        rintro ⟨rfl, rfl⟩
        exact hhas
      rw [enqueue_of_has hhas]
      exact (or_iff_left_of_imp hin).symm
  | false =>
      rw [enqueue_of_new hhas, Outbox.has_insert, or_comm]

theorem next_le_enqueue (s : Store) (t : NewTask) (now : Instant) :
    s.supply.next ≤ (s.enqueue t now).2.supply.next := by
  cases h : s.outbox.has t.kind t.subject with
  | true => rw [enqueue_of_has h]
  | false =>
      rw [enqueue_of_new h]
      exact Nat.le_succ _

variable {allowed : NewTask → Prop}

theorem enqueue_moves (s : Store) {t : NewTask} (h : allowed t) (now : Instant) :
    Outbox.Moves allowed s.outbox s.supply.next [] (s.enqueue t now).2.outbox
      (s.enqueue t now).2.supply.next := by
  cases hk : s.outbox.has t.kind t.subject with
  | true =>
      rw [enqueue_of_has hk]
      exact .done _ _
  | false =>
      have hm : Outbox.Move allowed s.outbox s.supply.next []
          (s.outbox.insert t ⟨s.supply.next⟩ now) (s.supply.next + 1) :=
        .insert t now h hk le_rfl (Nat.lt_succ_self _)
      rw [enqueue_of_new hk]
      exact hm.single

theorem enqueueAll_cons (s : Store) (t : NewTask) (tasks : List NewTask) (now : Instant) :
    s.enqueueAll (t :: tasks) now = (s.enqueue t now).2.enqueueAll tasks now :=
  rfl

theorem has_enqueueAll (s : Store) (tasks : List NewTask) (now : Instant) (kind : TaskKind)
    (subject : Ident) : (s.enqueueAll tasks now).outbox.has kind subject = true ↔
      s.outbox.has kind subject = true ∨ ∃ t ∈ tasks, t.kind = kind ∧ t.subject = subject := by
  induction tasks generalizing s with
  | nil => simp [enqueueAll]
  | cons t tasks ih => rw [enqueueAll_cons, ih, has_enqueue, List.exists_mem_cons_iff, or_assoc]

theorem enqueueAll_moves (s : Store) {tasks : List NewTask} (h : ∀ t ∈ tasks, allowed t)
    (now : Instant) :
    Outbox.Moves allowed s.outbox s.supply.next [] (s.enqueueAll tasks now).outbox
      (s.enqueueAll tasks now).supply.next := by
  induction tasks generalizing s with
  | nil => exact .done _ _
  | cons t tasks ih =>
      rw [enqueueAll_cons]
      exact (s.enqueue_moves (h t List.mem_cons_self) now).trans
        (ih (s.enqueue t now).2 fun u hu => h u (List.mem_cons_of_mem t hu))

/-- The records of a transaction written, without its tasks and deletions. -/
def write (s : Store) (tx : Transaction) : Store :=
  { s with
    cards := s.cards.putAll tx.cards.rows
    comments := s.comments.putAll tx.comments.rows
    events := s.events.putAll tx.events }

theorem commit_eq (s : Store) (tx : Transaction) (now : Instant) :
    s.commit tx now = if tx.deleted.isEmpty = true then (s.write tx).enqueueAll tx.tasks now
      else ((s.write tx).enqueueAll tx.tasks now).removeCards tx.deleted :=
  rfl

theorem commit_moves (s : Store) {tx : Transaction} (h : ∀ t ∈ tx.tasks, allowed t)
    (now : Instant) :
    Outbox.Moves allowed s.outbox s.supply.next [] (s.commit tx now).outbox
      (s.commit tx now).supply.next := by
  have hm := (s.write tx).enqueueAll_moves h now
  rw [commit_eq]
  split_ifs
  · exact hm
  · exact hm.snoc (.remove _ _ _)

/-- Every call is a history of moves. -/
theorem call_moves (s : Store) (now : Instant) (c : QueueCall) (h : ∀ t ∈ c.tasks, allowed t) :
    Outbox.Moves allowed s.outbox s.supply.next (s.claimsOf now c) (s.call now c).outbox
      (s.call now c).supply.next := by
  cases c with
  | enqueue t => exact s.enqueue_moves (h t List.mem_cons_self) now
  | commit taken tx =>
      have hm : Outbox.Move allowed s.outbox s.supply.next [] (s.take taken).outbox
          (s.take taken).supply.next := .mint s.outbox (Nat.le_add_right _ _)
      exact hm.single.trans ((s.take taken).commit_moves h now)
  | claim worker kinds max => exact (Outbox.Move.claim _ _ worker kinds max now).single
  | complete t => exact (Outbox.Move.settle _ (s.outbox.complete_settled t)).single
  | fail t error delay =>
      exact (Outbox.Move.settle _ (s.outbox.fail_settled t error delay now)).single
  | reclaim threshold =>
      simp only [call, claimsOf, reclaim]
      cases hr : s.outbox.reclaim threshold now with
      | none => exact .done _ _
      | some p => exact (Outbox.Move.settle _ (Outbox.reclaim_settled hr)).single
  | destroy card =>
      simp only [call, claimsOf, destroy_eq]
      split_ifs
      · exact (Outbox.Move.remove _ _ _).single
      · exact .done _ _

theorem runCalls_moves (s : Store) (calls : List (Instant × QueueCall))
    (h : ∀ c ∈ calls, ∀ t ∈ c.2.tasks, allowed t) :
    Outbox.Moves allowed s.outbox s.supply.next (s.claimsDuring calls) (s.runCalls calls).outbox
      (s.runCalls calls).supply.next := by
  induction calls generalizing s with
  | nil => exact .done _ _
  | cons c calls ih =>
      exact (s.call_moves c.1 c.2 (h c List.mem_cons_self)).trans
        (ih (s.call c.1 c.2) fun d hd => h d (List.mem_cons_of_mem c hd))

end Store

end BoardActivity
