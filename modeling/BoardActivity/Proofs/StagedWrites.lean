import BoardActivity.Proofs.CallFrames
import BoardActivity.Proofs.CardRemoval

/-!
# Transactions show what they commit

A look-up in a transaction goes through what is staged, then through what is committed, and leaves
out what is deleted. Committing writes what is staged into the tables, inserts the tasks, and
removes what is deleted last. For cards and comments both come to the same, however the transaction
has come about (`Store.find?_card_commit`, `Store.find?_comment_commit`).

For tasks it matters how. A `Session` is a transaction beside the committed store, on whose queue
others may work meanwhile; calls that are refused are calls like the others. A task that was
accepted stays staged unless its event is dropped with a card, and is in the queue after the commit
whoever has put it there, unless its subject is removed with a card then.

Of the store it is assumed that its queue is in order: rows and index name the same tasks, and the
identifiers of its rows are in use.
-/

namespace BoardActivity

inductive TransactionCall where
  | insertEvent (event : Event)
  | enqueue (task : NewTask)
  | findCard (id : Ident)
  | saveCard (card : Card)
  | insertComment (comment : Comment)
  | findComment (id : Ident)
  | deleteCard (id : Ident)

inductive TransactionAnswer where
  | done
  | flag (yes : Bool)
  | card (card : Option Card)
  | comment (comment : Option Comment)
  | refused (error : Error)

namespace Transaction

/-- The answer to a call that writes; one that is refused changes nothing. -/
def settle (tx : Transaction) : Except Error Transaction → TransactionAnswer × Transaction
  | .ok tx' => (.done, tx')
  | .error e => (.refused e, tx)

/-- The answer to a call, beside a committed store, and the transaction after it. -/
def call (s : Store) (tx : Transaction) : TransactionCall → TransactionAnswer × Transaction
  | .insertEvent e => tx.settle (tx.insertEvent s e)
  | .enqueue t => (.flag (tx.enqueue s t).1, (tx.enqueue s t).2)
  | .findCard id => (.card (tx.findCard s id), tx)
  | .saveCard c => tx.settle (tx.saveCard c)
  | .insertComment c => tx.settle (tx.insertComment s c)
  | .findComment id => (.comment (tx.findComment s id), tx)
  | .deleteCard id => (.flag (tx.deleteCard s id).1, (tx.deleteCard s id).2)

/-- A staged event of that identifier is about the card, or about a comment staged on it. -/
def StagesOn (tx : Transaction) (card event : Ident) : Prop :=
  ∃ e ∈ tx.events, e.id = event ∧ (e.eventable = .card card ∨
    ∃ c ∈ tx.comments.rows, c.card = card ∧ e.eventable = .comment c.id)

variable {s : Store} {tx : Transaction}

theorem settle_frame {r : Except Error Transaction}
    (h : ∀ tx', r = .ok tx' → tx'.tasks = tx.tasks ∧ tx'.deleted = tx.deleted) :
    (tx.settle r).2.tasks = tx.tasks ∧ (tx.settle r).2.deleted = tx.deleted := by
  cases r with
  | error e => exact ⟨rfl, rfl⟩
  | ok tx' => exact h tx' rfl

/-- The calls about records leave tasks and deletions alone. -/
theorem call_frame (s : Store) (tx : Transaction) (c : TransactionCall) :
    (∃ t, c = .enqueue t) ∨ (∃ card, c = .deleteCard card) ∨
      (tx.call s c).2.tasks = tx.tasks ∧ (tx.call s c).2.deleted = tx.deleted := by
  cases c with
  | enqueue t => exact .inl ⟨t, rfl⟩
  | deleteCard card => exact .inr (.inl ⟨card, rfl⟩)
  | findCard | findComment => exact .inr (.inr ⟨rfl, rfl⟩)
  | insertEvent e =>
      refine .inr (.inr (settle_frame fun tx' h => ?_))
      rw [(insertEvent_ok h).2]
      exact ⟨rfl, rfl⟩
  | saveCard c =>
      refine .inr (.inr (settle_frame fun tx' h => ?_))
      rw [saveCard_ok h]
      exact ⟨rfl, rfl⟩
  | insertComment c =>
      refine .inr (.inr (settle_frame fun tx' h => ?_))
      rw [insertComment_ok h]
      exact ⟨rfl, rfl⟩

/-- An accepted task is staged. -/
theorem mem_tasks_enqueue {t : NewTask} (h : (tx.enqueue s t).1 = true) :
    t ∈ (tx.enqueue s t).2.tasks := by
  unfold enqueue at h ⊢
  split_ifs at h ⊢
  exact List.mem_append_right _ (List.mem_singleton_self t)

/-- Deleting a card drops no task but those of its staged events. -/
theorem mem_tasks_deleteCard {t : NewTask} (ht : t ∈ tx.tasks) (card : Ident) :
    t ∈ (tx.deleteCard s card).2.tasks ∨
      (tx.deleteCard s card).1 = true ∧ tx.StagesOn card t.subject := by
  unfold deleteCard
  split_ifs
  · simp only [List.mem_filter, decide_eq_true_eq, List.mem_map, true_and]
    by_cases hon : tx.StagesOn card t.subject
    · exact .inr hon
    · refine .inl ⟨ht, ?_⟩
      rintro ⟨e, ⟨he, habout⟩, hid⟩
      have hcomments : (tx.comments.rows.filter fun c => c.card == card) =
          tx.comments.rows.filter fun c => c.card ∈ [card] :=
        List.filter_congr fun c _ => by simp [Bool.beq_eq_decide_eq]
      rw [hcomments, isAbout_iff] at habout
      obtain ⟨card', hcard, hplace⟩ := habout
      cases List.mem_singleton.1 hcard
      exact hon ⟨e, he, hid, hplace⟩
  · exact .inl ht

/-- Only deleting a card drops tasks. -/
theorem mem_tasks_call {t : NewTask} (ht : t ∈ tx.tasks) (c : TransactionCall) :
    t ∈ (tx.call s c).2.tasks ∨ ∃ card, c = .deleteCard card ∧
      (tx.call s c).1 = .flag true ∧ tx.StagesOn card t.subject := by
  rcases tx.call_frame s c with ⟨u, rfl⟩ | ⟨card, rfl⟩ | ⟨htasks, -⟩
  · refine .inl ?_
    simp only [call, enqueue]
    split_ifs
    · exact ht
    · exact List.mem_append_left _ ht
  · rcases mem_tasks_deleteCard (s := s) ht card with hstays | ⟨hyes, hon⟩
    · exact .inl hstays
    · exact .inr ⟨card, rfl, congrArg TransactionAnswer.flag hyes, hon⟩
  · exact .inl (htasks ▸ ht)

/-- Only deleting a card adds to what is deleted. -/
theorem mem_deleted_call {card : Ident} {c : TransactionCall}
    (h : card ∈ (tx.call s c).2.deleted) :
    card ∈ tx.deleted ∨ c = .deleteCard card ∧ (tx.call s c).1 = .flag true := by
  rcases tx.call_frame s c with ⟨u, rfl⟩ | ⟨card', rfl⟩ | ⟨-, hdeleted⟩
  · simp only [call, enqueue] at h
    split_ifs at h
    · exact .inl h
    · exact .inl h
  · simp only [call, deleteCard] at h ⊢
    split_ifs at h ⊢
    · rcases List.mem_cons.1 h with rfl | h
      · exact .inr ⟨rfl, rfl⟩
      · exact .inl h
    · exact .inl h
  · exact .inl (hdeleted ▸ h)

end Transaction

namespace Store

variable {s : Store} {tx : Transaction}

/-- What is committed of cards and comments: what is written, but for what is deleted. -/
theorem commit_records (s : Store) (tx : Transaction) (now : Instant) :
    (s.commit tx now).cards = (s.write tx).cards.keep (fun c => c.id ∉ tx.deleted) ∧
      (s.commit tx now).comments = (s.write tx).comments.keep fun c => c.card ∉ tx.deleted := by
  obtain ⟨outbox, supply, hwritten⟩ := (s.write tx).enqueueAll_frame tx.tasks now
  rw [commit_eq, hwritten]
  split_ifs with hnone
  · rw [List.isEmpty_iff.1 hnone]
    constructor
    · exact Table.ext_rows (List.filter_eq_self.2 fun _ _ => by simp).symm
    · exact Table.ext_rows (List.filter_eq_self.2 fun _ _ => by simp).symm
  · exact ⟨rfl, rfl⟩

/-- The committed card is the one that a look-up would have found before. -/
theorem find?_card_commit (s : Store) (tx : Transaction) (now : Instant) (id : Ident) :
    (s.commit tx now).cards.find? id = tx.findCard s id := by
  have hwritten : (s.write tx).cards.find? id = (tx.cards.find? id).or (s.cards.find? id) :=
    Table.find?_putAll _ _ _
  rw [(s.commit_records tx now).1, Table.find?_keep, hwritten, Transaction.findCard]
  cases hf : (tx.cards.find? id).or (s.cards.find? id) with
  | none => simp
  | some c =>
      have hid : c.id = id := (Table.find?_eq_some_iff.1 (hwritten.trans hf)).2
      rw [Option.filter_some, hid]
      by_cases hd : id ∈ tx.deleted
      · simp [hd]
      · simp [hd]

/-- The committed comment is the one that a look-up would have found before. -/
theorem find?_comment_commit (s : Store) (tx : Transaction) (now : Instant) (id : Ident) :
    (s.commit tx now).comments.find? id = tx.findComment s id := by
  have hwritten : (s.write tx).comments.find? id =
      (tx.comments.find? id).or (s.comments.find? id) := Table.find?_putAll _ _ _
  rw [(s.commit_records tx now).2, Table.find?_keep, hwritten]
  rfl

/-- A staged task is in the queue after the commit, unless its subject goes with a deleted card; in
that case nothing about the subject is left in the queue. -/
theorem task_commit {t : NewTask} (ht : t ∈ tx.tasks) (now : Instant) :
    (s.commit tx now).outbox.has t.kind t.subject = true ∨
      (∃ card ∈ tx.deleted, (s.write tx).IsSubjectOn card t.subject) ∧
        ∀ r ∈ (s.commit tx now).outbox.rows.rows, r.subject ≠ t.subject := by
  have hhas : ((s.write tx).enqueueAll tx.tasks now).outbox.has t.kind t.subject = true :=
    (has_enqueueAll _ _ _ _ _).2 (.inr ⟨t, ht, rfl, rfl⟩)
  obtain ⟨outbox, supply, hwritten⟩ := (s.write tx).enqueueAll_frame tx.tasks now
  rw [hwritten] at hhas
  rw [commit_eq, hwritten]
  split_ifs
  · exact .inl hhas
  · let merged : Store := { s.write tx with outbox, supply }
    let subjects := merged.eventIdsOn tx.deleted ++ merged.deliveryIdsOn tx.deleted
    have hremoved : (merged.removeCards tx.deleted).outbox = outbox.removeSubjects subjects := rfl
    by_cases hon : t.subject ∈ subjects
    · refine .inr ⟨mem_subjectsOn.1 hon, fun r hr he => ?_⟩
      have hkept := of_decide_eq_true (List.mem_filter.1 hr).2
      exact hkept (he ▸ hon)
    · refine .inl ?_
      change (merged.removeCards tx.deleted).outbox.has t.kind t.subject = true
      rw [hremoved, Outbox.has_removeSubjects]
      exact ⟨hhas, hon⟩

end Store

structure Session where
  store : Store
  tx : Transaction

/-- What happens while a transaction is under way: one of its own calls, or a call of someone else
on the queue of the store. -/
inductive SessionStep where
  | own (call : TransactionCall)
  | other (call : QueueCall)

namespace Session

def start (s : Store) : Session := ⟨s, .start⟩

def answer (x : Session) (c : TransactionCall) : TransactionAnswer := (x.tx.call x.store c).1

def step (x : Session) (now : Instant) : SessionStep → Session
  | .own c => { x with tx := (x.tx.call x.store c).2 }
  | .other c => { x with store := x.store.call now c }

def run (x : Session) : List (Instant × SessionStep) → Session
  | [] => x
  | (now, a) :: rest => (x.step now a).run rest

/-- The store after the transaction is committed. -/
def commit (x : Session) (now : Instant) : Store := x.store.commit x.tx now

/-- The store after the transaction is rolled back, or dropped. -/
def abandon (x : Session) : Store := x.store

/-- The store with all that is staged, before what is deleted goes. -/
def merged (x : Session) : Store := x.store.write x.tx

def meanwhile (steps : List (Instant × SessionStep)) : List (Instant × QueueCall) :=
  steps.filterMap fun a =>
    match a with
    | (now, .other c) => some (now, c)
    | (_, .own _) => none

def Deletes (x : Session) (steps : List (Instant × SessionStep)) (card : Ident) : Prop :=
  ∃ before now after, steps = before ++ (now, .own (.deleteCard card)) :: after ∧
    (x.run before).answer (.deleteCard card) = .flag true

/-- One of the steps deletes a card that a staged event of that identifier is on by then. -/
def Drops (x : Session) (steps : List (Instant × SessionStep)) (event : Ident) : Prop :=
  ∃ before now card after, steps = before ++ (now, .own (.deleteCard card)) :: after ∧
    (x.run before).answer (.deleteCard card) = .flag true ∧
    (x.run before).tx.StagesOn card event

variable {x : Session} {t : NewTask}

theorem run_append (x : Session) (steps steps' : List (Instant × SessionStep)) :
    x.run (steps ++ steps') = (x.run steps).run steps' := by
  induction steps generalizing x with
  | nil => rfl
  | cons a steps ih => exact ih (x.step a.1 a.2)

/-- Nothing of a transaction reaches the store while it is under way. -/
theorem store_run (x : Session) (steps : List (Instant × SessionStep)) :
    (x.run steps).store = x.store.runCalls (meanwhile steps) := by
  induction steps generalizing x with
  | nil => rfl
  | cons a steps ih =>
      obtain ⟨now, own | other⟩ := a
      · exact ih _
      · exact ih _

/-- What is staged stays so unless it is dropped with a card. -/
theorem mem_tasks_run (ht : t ∈ x.tx.tasks) (steps : List (Instant × SessionStep)) :
    t ∈ (x.run steps).tx.tasks ∨ x.Drops steps t.subject := by
  induction steps generalizing x with
  | nil => exact .inl ht
  | cons a steps ih =>
      obtain ⟨now, a⟩ := a
      have hlater : t ∈ (x.step now a).tx.tasks →
          t ∈ (x.run ((now, a) :: steps)).tx.tasks ∨ x.Drops ((now, a) :: steps) t.subject := by
        intro hstays
        rcases ih hstays with hend | ⟨before, now', card, after, hsteps, hyes, hon⟩
        · exact .inl hend
        · exact .inr ⟨(now, a) :: before, now', card, after, congrArg _ hsteps, hyes, hon⟩
      cases a with
      | other c => exact hlater ht
      | own c =>
          rcases x.tx.mem_tasks_call (s := x.store) ht c with hstays | ⟨card, rfl, hyes, hon⟩
          · exact hlater hstays
          · exact .inr ⟨[], now, card, steps, rfl, hyes, hon⟩

theorem deletes_of_mem {card : Ident} (steps : List (Instant × SessionStep))
    (h : card ∈ (x.run steps).tx.deleted) : card ∈ x.tx.deleted ∨ x.Deletes steps card := by
  induction steps generalizing x with
  | nil => exact .inl h
  | cons a steps ih =>
      obtain ⟨now, a⟩ := a
      rcases ih h with hd | ⟨before, now', after, hsteps, hyes⟩
      · cases a with
        | other c => exact .inl hd
        | own c =>
            rcases Transaction.mem_deleted_call hd with hd | ⟨rfl, hyes⟩
            · exact .inl hd
            · exact .inr ⟨[], now, steps, rfl, hyes⟩
      · exact .inr ⟨(now, a) :: before, now', after, congrArg _ hsteps, hyes⟩

/-- A commit leaves the queue in order, whatever others have done to it. -/
theorem indexed_commit (hi : x.store.outbox.Indexed)
    (hb : x.store.outbox.Below x.store.supply.next) (steps : List (Instant × SessionStep))
    (now : Instant) : ((x.run steps).commit now).outbox.Indexed := by
  let y := x.run steps
  have hmeanwhile : Outbox.Moves (fun _ => True) x.store.outbox x.store.supply.next
      (x.store.claimsDuring (meanwhile steps)) y.store.outbox y.store.supply.next := by
    simp only [y, store_run]
    exact x.store.runCalls_moves _ fun _ _ _ _ => trivial
  have hcommit : Outbox.Moves (fun _ => True) y.store.outbox y.store.supply.next []
      (y.commit now).outbox (y.commit now).supply.next :=
    y.store.commit_moves (fun _ _ => trivial) now
  exact hcommit.indexed (hmeanwhile.rows_below hb) (hmeanwhile.indexed hb hi)

/-- While a transaction is under way the store is as others make it, and stays so if the transaction
is rolled back or dropped. If it is committed, every card and comment is then just what the
transaction has answered for it before. Every task that it has accepted has exactly one row then,
unless a card is deleted to which its subject belongs: as an event that was staged when the card was
deleted, or else as an event or delivery that goes with the card on commit, and then there is no
row. -/
theorem commits_what_it_shows {s : Store} (hi : s.outbox.Indexed)
    (hb : s.outbox.Below s.supply.next) (steps : List (Instant × SessionStep)) (now : Instant) :
    let x := (start s).run steps
    x.store = s.runCalls (meanwhile steps) ∧ x.abandon = s.runCalls (meanwhile steps) ∧
    (∀ id, x.answer (.findCard id) = .card ((x.commit now).cards.find? id)) ∧
    (∀ id, x.answer (.findComment id) = .comment ((x.commit now).comments.find? id)) ∧
    ∀ before time t after, steps = before ++ (time, .own (.enqueue t)) :: after →
      ((start s).run before).answer (.enqueue t) = .flag true →
      (∃! r, r ∈ (x.commit now).outbox.rows.rows ∧ r.kind = t.kind ∧ r.subject = t.subject) ∨
      ((start s).run (before ++ [(time, .own (.enqueue t))])).Drops after t.subject ∨
      (∃ card, (start s).Deletes steps card ∧ x.merged.IsSubjectOn card t.subject) ∧
        ∀ r ∈ (x.commit now).outbox.rows.rows, r.subject ≠ t.subject := by
  intro x
  have hstore : x.store = s.runCalls (meanwhile steps) := store_run _ steps
  refine ⟨hstore, hstore, fun id => ?_, fun id => ?_, fun before time t after hsteps hyes => ?_⟩
  · exact congrArg TransactionAnswer.card (x.store.find?_card_commit x.tx now id).symm
  · exact congrArg TransactionAnswer.comment (x.store.find?_comment_commit x.tx now id).symm
  · let y := (start s).run (before ++ [(time, .own (.enqueue t))])
    have hstaged : t ∈ y.tx.tasks := by
      simp only [y, run_append]
      exact Transaction.mem_tasks_enqueue (TransactionAnswer.flag.inj hyes)
    have hend : y.run after = x := by
      simp only [y, x]
      rw [← run_append, hsteps, List.append_assoc]
      rfl
    rcases mem_tasks_run hstaged after with hstays | hdrops
    · rw [hend] at hstays
      rcases x.store.task_commit hstays now with hhas | ⟨⟨card, hcard, hon⟩, hnone⟩
      · have hindexed : (x.commit now).outbox.Indexed := indexed_commit hi hb steps now
        obtain ⟨r, hr, hkind, hsubject⟩ := (hindexed.exists_row_iff t.kind t.subject).2 hhas
        refine .inl ⟨r, ⟨hr, hkind, hsubject⟩, fun r' ⟨hr', hkind', hsubject'⟩ => ?_⟩
        have hinj := List.inj_on_of_nodup_map hindexed.nodup_tasks
        exact hinj hr' hr (by rw [hkind, hkind', hsubject, hsubject'])
      · refine .inr (.inr ⟨⟨card, ?_, hon⟩, hnone⟩)
        exact (deletes_of_mem steps hcard).resolve_left List.not_mem_nil
    · exact .inr (.inl hdrops)

/-- A card is deleted and another one saved, and a task about an event of the latter accepted, while
a worker enqueues the same task: after the commit the task has one row, and of the cards only the
saved one is there, as the transaction has answered. -/
theorem commits_shared_task :
    let now : Instant := ⟨0, 0⟩
    let saved := Card.draft ⟨4⟩ ⟨9⟩ ⟨2⟩ ⟨7⟩ "plan" now
    let s := (Store.empty 10).addCard (.draft ⟨1⟩ ⟨9⟩ ⟨2⟩ ⟨7⟩ "old" now)
    let task := NewTask.create .notify ⟨5⟩
    let before : List (Instant × SessionStep) := [(now, .own (.deleteCard ⟨1⟩)),
      (now, .own (.saveCard saved)),
      (now, .own (.insertEvent ⟨⟨5⟩, ⟨9⟩, ⟨2⟩, ⟨7⟩, .card ⟨4⟩, "card_closed", [], now⟩))]
    let steps := before ++ [(now, .own (.enqueue task)), (now, .other (.enqueue task))]
    let x := (start s).run steps
    (∃! r, r ∈ (x.commit now).outbox.rows.rows ∧ r.kind = .notify ∧ r.subject = ⟨5⟩) ∧
      (x.commit now).cards.find? ⟨1⟩ = none ∧ (x.commit now).cards.find? ⟨4⟩ = some saved := by
  intro now saved s task before steps x
  have hi : s.outbox.Indexed := Outbox.indexed_empty
  have hb : s.outbox.Below s.supply.next := fun r hr => (List.not_mem_nil hr).elim
  have hrow : ∃ r ∈ (x.commit now).outbox.rows.rows, r.subject = ⟨5⟩ := by decide +kernel
  obtain ⟨-, -, hcards, -, htasks⟩ := commits_what_it_shows hi hb steps now
  refine ⟨?_, ?_, ?_⟩
  · rcases htasks before now task [(now, .other (.enqueue task))] rfl rfl with
      hone | ⟨_, time, card, _, hsteps, -⟩ | ⟨-, hnone⟩
    · exact hone
    · have hm : (time, SessionStep.own (.deleteCard card)) ∈
          [(now, SessionStep.other (.enqueue task))] := hsteps ▸ List.mem_append_right _ (by simp)
      simp at hm
    · obtain ⟨r, hr, hsubject⟩ := hrow
      exact (hnone r hr hsubject).elim
  · exact (TransactionAnswer.card.inj (hcards ⟨1⟩)).symm
  · exact (TransactionAnswer.card.inj (hcards ⟨4⟩)).symm

end Session

end BoardActivity
