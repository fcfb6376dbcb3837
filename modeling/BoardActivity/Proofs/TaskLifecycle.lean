import BoardActivity.Proofs.ClaimFencing

/-!
# The life of a task

A task waits, is claimed, and comes back or ends, at most as often as it may be attempted. Whatever
is called on the queue, rows and index name the same tasks, each row has been claimed exactly as
often as its attempt says, its status agrees with its attempts, and a row that is completed or dead
stays as it is until its card is destroyed. No row is lost: the rows there are, and those that were
removed, are those that were inserted.

Tasks are those that the constructors make, so that each may be attempted at least once.
-/

namespace BoardActivity

inductive NewTask.Built : NewTask → Prop
  | create (kind : TaskKind) (subject : Ident) : Built (.create kind subject)
  | withMaxAttempts {t : NewTask} (n : Nat) : Built t → Built (t.withMaxAttempts n)

theorem NewTask.Built.pos {t : NewTask} (h : t.Built) : 1 ≤ t.maxAttempts := by
  cases h with
  | create => exact Nat.succ_pos 4
  | withMaxAttempts n => exact Nat.le_max_right n 1

def QueueStats.total (q : QueueStats) : Nat := q.pending + q.claimed + q.completed + q.dead

def QueueCall.deletes : QueueCall → Bool
  | .commit _ tx => !tx.deleted.isEmpty
  | .destroy _ => true
  | .enqueue _ | .claim .. | .complete _ | .fail .. | .reclaim _ => false

namespace Outbox

variable {allowed : NewTask → Prop} {o o' : Outbox} {n n' : Nat} {ts claims : List Task}

theorem stats_total (o : Outbox) : o.stats.total = o.rows.rows.length := by
  simp only [stats, QueueStats.total, count]
  induction o.rows.rows with
  | nil => rfl
  | cons r rs ih =>
      simp only [List.filter_cons, List.length_cons, ← ih]
      cases r.status <;> simp <;> omega

/-- What never changes of a row is what it was before a move. -/
theorem Move.face_eq (h : Move allowed o n ts o' n') {id : Ident} (hid : id.value < n)
    {r' : TaskRow} (hf' : o'.rows.find? id = some r') :
    ∃ r, o.rows.find? id = some r ∧ r'.face = r.face := by
  cases hf : o.rows.find? id with
  | none =>
      rw [h.absent hf hid] at hf'
      cases hf'
  | some r =>
      rcases h.fate hf hid with hn | ⟨x, hx, hstep⟩
      · rw [hn] at hf'
        cases hf'
      · cases Option.some.inj (hx.symm.trans hf')
        rcases hstep with hs | ⟨-, worker, now, rfl⟩
        · exact ⟨r, rfl, hs.face_eq⟩
        · exact ⟨r, rfl, TaskRow.face_claim r worker now⟩

/-- A row that is completed or dead stays as it is, or goes. -/
theorem Move.final (h : Move allowed o n ts o' n') {id : Ident} (hid : id.value < n) {r : TaskRow}
    (hf : o.rows.find? id = some r) (hr : r.status = .completed ∨ r.status = .dead) :
    o'.rows.find? id = none ∨ o'.rows.find? id = some r := by
  have hc : r.status ≠ .claimed := by rcases hr with h | h <;> simp [h]
  have hp : r.status ≠ .pending := by rcases hr with h | h <;> simp [h]
  rcases h.fate hf hid with hn | ⟨x, hx, hs | ⟨hpend, -⟩⟩
  · exact .inl hn
  · rcases hs.eq_or with rfl | ⟨hclaimed, -⟩
    · exact .inr hx
    · exact (hc hclaimed).elim
  · exact (hp hpend).elim

theorem Moves.final (h : Moves allowed o n ts o' n') {id : Ident} (hid : id.value < n) {r : TaskRow}
    (hf : o.rows.find? id = some r) (hr : r.status = .completed ∨ r.status = .dead) :
    o'.rows.find? id = none ∨ o'.rows.find? id = some r := by
  induction h with
  | done => exact .inr hf
  | snoc hms hm ih =>
      have hid' := hid.trans_le hms.next_le
      rcases ih hid with hn | hs
      · exact .inl (hm.absent hn hid')
      · exact hm.final hid' hs hr

/-- No task was claimed more often than it may be attempted, even if it is gone by now. -/
def WithinBudget (o : Outbox) (claims : List Task) : Prop :=
  ∀ t ∈ claims, claimCount claims t.id ≤ t.maxAttempts ∧
    ∀ r, o.rows.find? t.id = some r → r.maxAttempts = t.maxAttempts

theorem maxAttempts_of_face {r r' : TaskRow} (h : r'.face = r.face) :
    r'.maxAttempts = r.maxAttempts := by
  simp only [TaskRow.face, Prod.mk.injEq] at h
  exact h.2.2.2.1

/-- A claim leaves each task within its budget, since the rows that it takes have attempts left. -/
theorem claimCount_claim_le (hc : o.Chronicle n claims) (hs : o.Sound) (worker : String)
    (kinds : List TaskKind) (max : Nat) (now : Instant) {r : TaskRow} (hr : r ∈ o.rows.rows)
    (hb : claimCount claims r.id ≤ r.maxAttempts) :
    claimCount (claims ++ (o.claim worker kinds max now).1) r.id ≤ r.maxAttempts := by
  rw [claimCount_append, claimCount_claim o worker kinds max now hr]
  split_ifs with hm
  · have hp := (find?_of_mem_claimable hm).2
    have hlt := hs.row r hr
    simp only [TaskRow.Sound, hp] at hlt
    rw [← hc.attempts r hr]
    exact hlt.1
  · exact hb

theorem claimCount_claim_of_absent (worker : String) (kinds : List TaskKind) (max : Nat)
    (now : Instant) {id : Ident} (h : o.rows.find? id = none) :
    claimCount (o.claim worker kinds max now).1 id = 0 := by
  apply claimCount_eq_zero
  intro t ht he
  obtain ⟨r, hr, rfl⟩ := mem_claim ht
  exact Table.find?_eq_none_iff.1 h r (mem_of_mem_claimable hr).1 he

theorem WithinBudget.claim (h : o.WithinBudget claims) (hc : o.Chronicle n claims) (hs : o.Sound)
    (worker : String) (kinds : List TaskKind) (max : Nat) (now : Instant) :
    (o.claim worker kinds max now).2.WithinBudget (claims ++ (o.claim worker kinds max now).1) := by
  have hm : Move (fun _ => True) o n (o.claim worker kinds max now).1
      (o.claim worker kinds max now).2 n := .claim o n worker kinds max now
  intro t ht
  rcases List.mem_append.1 ht with ht | ht
  · obtain ⟨hcount, hmax⟩ := h t ht
    refine ⟨?_, ?_⟩
    · cases hf : o.rows.find? t.id with
      | none =>
          rw [claimCount_append, claimCount_claim_of_absent worker kinds max now hf]
          exact hcount
      | some r =>
          obtain ⟨hr, hid⟩ := find?_id hf
          have hle := claimCount_claim_le hc hs worker kinds max now hr
          rw [hid, hmax r hf] at hle
          exact hle hcount
    · intro r' hf'
      obtain ⟨r, hf, hface⟩ := hm.face_eq (hc.claims_below t ht) hf'
      rw [maxAttempts_of_face hface, hmax r hf]
  · obtain ⟨r, hr, rfl⟩ := mem_claim ht
    have hrow := (mem_of_mem_claimable hr).1
    have hle : claimCount claims r.id ≤ r.maxAttempts := by
      rw [← hc.attempts r hrow]
      exact (hs.row r hrow).attempt_le
    have hnew := claimCount_claim_le hc hs worker kinds max now hrow hle
    refine ⟨hnew, ?_⟩
    intro r' hf'
    obtain ⟨x, hf, hface⟩ := hm.face_eq (hc.below r hrow) hf'
    rw [maxAttempts_of_face hface]
    cases Option.some.inj ((Table.mem_rows_iff.1 hrow).symm.trans hf)
    rfl

theorem Move.withinBudget (h : Move allowed o n ts o' n') (hb : o.WithinBudget claims)
    (hc : o.Chronicle n claims) (hs : o.Sound) : o'.WithinBudget (claims ++ ts) := by
  have hkeep : ∀ t ∈ claims, ∀ r', o'.rows.find? t.id = some r' →
      r'.maxAttempts = t.maxAttempts := by
    intro t ht r' hf'
    obtain ⟨r, hf, hface⟩ := h.face_eq (hc.claims_below t ht) hf'
    rw [maxAttempts_of_face hface, (hb t ht).2 r hf]
  cases h with
  | claim _ worker kinds max now => exact hb.claim hc hs worker kinds max now
  | mint | insert | settle | remove =>
      rw [List.append_nil]
      exact fun t ht => ⟨(hb t ht).1, hkeep t ht⟩

structure Lawful (o : Outbox) (n : Nat) (claims : List Task) : Prop where
  chronicle : o.Chronicle n claims
  sound : o.Sound
  budget : o.WithinBudget claims

theorem lawful_empty (n : Nat) : empty.Lawful n [] :=
  ⟨chronicle_empty n, sound_empty, by simp [WithinBudget]⟩

theorem Moves.lawful (h : Moves allowed o n ts o' n') (ha : ∀ t, allowed t → 1 ≤ t.maxAttempts)
    (hl : o.Lawful n claims) : o'.Lawful n' (claims ++ ts) := by
  induction h with
  | done => simpa using hl
  | snoc hms hm ih =>
      have hm' := ih hl
      rw [← List.append_assoc]
      exact ⟨hm.chronicle hm'.chronicle, hm.sound ha hm'.chronicle.below hm'.sound,
        hm.withinBudget hm'.budget hm'.chronicle hm'.sound⟩

end Outbox

namespace Store

/-- How many of the tasks are inserted, one after the other. -/
def scheduled (s : Store) (now : Instant) : List NewTask → Nat
  | [] => 0
  | t :: rest => (s.enqueue t now).1.toNat + (s.enqueue t now).2.scheduled now rest

/-- What a commit has written when it comes to its deletions. -/
def written (s : Store) (taken : Nat) (tx : Transaction) (now : Instant) : Store :=
  ((s.take taken).write tx).enqueueAll tx.tasks now

def inserted (s : Store) (now : Instant) : QueueCall → Nat
  | .enqueue t => s.scheduled now [t]
  | .commit taken tx => ((s.take taken).write tx).scheduled now tx.tasks
  | .claim .. | .complete _ | .fail .. | .reclaim _ | .destroy _ => 0

/-- How many rows go with the cards that are removed. -/
def tasksOfCards (s : Store) (cards : List Ident) : Nat :=
  (s.outbox.rows.rows.filter fun r => !(s.removeCards cards).outbox.rows.contains r.id).length

def removed (s : Store) (now : Instant) : QueueCall → Nat
  | .commit taken tx => (s.written taken tx now).tasksOfCards tx.deleted
  | .destroy card => if s.cards.contains card = true then s.tasksOfCards [card] else 0
  | .enqueue _ | .claim .. | .complete _ | .fail .. | .reclaim _ => 0

def insertedDuring (s : Store) : List (Instant × QueueCall) → Nat
  | [] => 0
  | (now, c) :: rest => s.inserted now c + (s.call now c).insertedDuring rest

def removedDuring (s : Store) : List (Instant × QueueCall) → Nat
  | [] => 0
  | (now, c) :: rest => s.removed now c + (s.call now c).removedDuring rest

theorem length_removeCards (s : Store) (cards : List Ident) :
    (s.removeCards cards).outbox.rows.rows.length + s.tasksOfCards cards =
      s.outbox.rows.rows.length := by
  obtain ⟨subjects, ho⟩ := s.removeCards_outbox cards
  have hgone : ∀ r ∈ s.outbox.rows.rows,
      (!(s.removeCards cards).outbox.rows.contains r.id) = !decide (r.subject ∉ subjects) := by
    intro r hr
    have hf : s.outbox.rows.find? r.id = some r := Table.mem_rows_iff.1 hr
    rw [Table.contains, ho, Outbox.find?_removeSubjects, hf]
    by_cases hs : r.subject ∈ subjects <;> simp [hs]
  rw [tasksOfCards, List.filter_congr hgone, ho]
  exact (List.length_eq_length_filter_add _).symm

theorem removeCards_nil (s : Store) : (s.removeCards []).outbox = s.outbox := by
  have hnone : (Transaction.isAbout [] []) = fun _ => false := by
    funext e
    simp only [Transaction.isAbout]
    cases e.eventable.kind <;> rfl
  simp only [removeCards, List.not_mem_nil, decide_false, List.filter_false, List.map_nil, hnone,
    List.append_nil]
  exact Outbox.removeSubjects_nil s.outbox

theorem length_enqueue {s : Store} (hb : s.outbox.Below s.supply.next) (t : NewTask)
    (now : Instant) : (s.enqueue t now).2.outbox.rows.rows.length =
      s.outbox.rows.rows.length + (s.enqueue t now).1.toNat := by
  cases hk : s.outbox.has t.kind t.subject with
  | true => rw [enqueue_of_has hk, Bool.toNat_false, Nat.add_zero]
  | false =>
      have hnone : s.outbox.rows.find? ⟨s.supply.next⟩ = none := hb.find?_eq_none le_rfl
      rw [enqueue_of_new hk]
      simp only [Outbox.insert_rows hnone, List.length_append, List.length_singleton,
        Bool.toNat_true]

theorem length_enqueueAll {s : Store} (hb : s.outbox.Below s.supply.next) (tasks : List NewTask)
    (now : Instant) : (s.enqueueAll tasks now).outbox.rows.rows.length =
      s.outbox.rows.rows.length + s.scheduled now tasks := by
  induction tasks generalizing s with
  | nil => rfl
  | cons t tasks ih =>
      have hm : Outbox.Moves (fun _ => True) s.outbox s.supply.next [] (s.enqueue t now).2.outbox
          (s.enqueue t now).2.supply.next := s.enqueue_moves trivial now
      rw [enqueueAll_cons, ih (hm.rows_below hb), length_enqueue hb, scheduled, Nat.add_assoc]

theorem commit_outbox (s : Store) (taken : Nat) (tx : Transaction) (now : Instant) :
    (s.call now (.commit taken tx)).outbox =
      ((s.written taken tx now).removeCards tx.deleted).outbox := by
  simp only [call, commit_eq]
  split_ifs with hd
  · rw [List.isEmpty_iff.1 hd, removeCards_nil]
    rfl
  · rfl

theorem length_of_settled {o o' : Outbox} (h : o.Settled o') :
    o'.rows.rows.length = o.rows.rows.length := by
  obtain ⟨f, hf, -, rfl⟩ := h
  exact List.length_map f

/-- A call neither loses nor makes up rows. -/
theorem length_call {s : Store} (hb : s.outbox.Below s.supply.next) (now : Instant)
    (c : QueueCall) : (s.call now c).outbox.rows.rows.length + s.removed now c =
      s.outbox.rows.rows.length + s.inserted now c := by
  cases c with
  | enqueue t =>
      simp only [removed, inserted, scheduled, Nat.add_zero]
      exact length_enqueue hb t now
  | commit taken tx =>
      have hb' : (s.take taken).outbox.Below (s.take taken).supply.next := fun r hr =>
        (hb r hr).trans_le (Nat.le_add_right _ taken)
      have hw : ((s.take taken).write tx).outbox.Below ((s.take taken).write tx).supply.next := hb'
      rw [commit_outbox, removed, length_removeCards, written, length_enqueueAll hw]
      rfl
  | claim worker kinds max =>
      change (s.outbox.claim worker kinds max now).2.rows.rows.length + 0 = _
      rw [Outbox.claim_eq_update]
      exact List.length_map _
  | complete t => exact length_of_settled (s.outbox.complete_settled t)
  | fail t error delay => exact length_of_settled (s.outbox.fail_settled t error delay now)
  | reclaim threshold =>
      simp only [call, reclaim, removed, inserted]
      cases hr : s.outbox.reclaim threshold now with
      | none => rfl
      | some p => exact length_of_settled (Outbox.reclaim_settled hr)
  | destroy card =>
      simp only [call, destroy_eq, removed, inserted]
      split_ifs with hd
      · exact s.length_removeCards [card]
      · rfl

theorem length_runCalls {s : Store} (hb : s.outbox.Below s.supply.next)
    (calls : List (Instant × QueueCall)) :
    (s.runCalls calls).outbox.rows.rows.length + s.removedDuring calls =
      s.outbox.rows.rows.length + s.insertedDuring calls := by
  induction calls generalizing s with
  | nil => rfl
  | cons c calls ih =>
      have hfirst := length_call hb c.1 c.2
      have hrest := ih ((s.call_history c.1 c.2).rows_below hb)
      simp only [runCalls, removedDuring, insertedDuring]
      omega

/-- Only a call that deletes cards makes rows go. -/
theorem call_keeps {s : Store} {now : Instant} {c : QueueCall} (hd : c.deletes = false) {id : Ident}
    (hid : id.value < s.supply.next) {r : TaskRow} (hf : s.outbox.rows.find? id = some r) :
    ∃ r', (s.call now c).outbox.rows.find? id = some r' := by
  have hsettled : ∀ o', s.outbox.Settled o' → ∃ r', o'.rows.find? id = some r' := by
    rintro _ ⟨f, hf', -, rfl⟩
    exact ⟨f r, by rw [Outbox.find?_update, hf, Option.map_some]⟩
  cases c with
  | enqueue t => exact ⟨r, (enqueue_find? s t now hid).trans hf⟩
  | commit taken tx =>
      have hempty : tx.deleted = [] := by simpa [QueueCall.deletes] using hd
      rw [commit_outbox, hempty, removeCards_nil]
      have hle : s.supply.next ≤ s.supply.next + taken := Nat.le_add_right _ taken
      exact ⟨r, (enqueueAll_find? _ tx.tasks now (hid.trans_le hle)).trans hf⟩
  | claim worker kinds max =>
      change ∃ r', (s.outbox.claim worker kinds max now).2.rows.find? id = some r'
      rw [Outbox.find?_claim, hf]
      exact ⟨_, rfl⟩
  | complete t => exact hsettled _ (s.outbox.complete_settled t)
  | fail t error delay => exact hsettled _ (s.outbox.fail_settled t error delay now)
  | reclaim threshold =>
      simp only [call, reclaim]
      cases hr : s.outbox.reclaim threshold now with
      | none => exact ⟨r, hf⟩
      | some p => exact hsettled _ (Outbox.reclaim_settled hr)
  | destroy card => cases hd

theorem runCalls_keeps {s : Store} {calls : List (Instant × QueueCall)}
    (hd : ∀ c ∈ calls, c.2.deletes = false) {id : Ident} (hid : id.value < s.supply.next)
    {r : TaskRow} (hf : s.outbox.rows.find? id = some r) :
    ∃ r', (s.runCalls calls).outbox.rows.find? id = some r' := by
  induction calls generalizing s r with
  | nil => exact ⟨r, hf⟩
  | cons c calls ih =>
      obtain ⟨r', hf'⟩ := call_keeps (hd c List.mem_cons_self) hid hf
      exact ih (fun d hm => hd d (List.mem_cons_of_mem c hm))
        (hid.trans_le (s.call_history c.1 c.2).next_le) hf'

structure Lifecycle (s : Store) (calls : List (Instant × QueueCall)) : Prop where
  index : ∀ kind subject id,
    (∃ e, (s.runCalls calls).outbox.index.find? (kind, subject) = some e ∧ e.task = id) ↔
      ∃ r, (s.runCalls calls).outbox.rows.find? id = some r ∧ r.kind = kind ∧ r.subject = subject
  seqs : ((s.runCalls calls).outbox.rows.rows.map TaskRow.seq).Nodup
  attempts : ∀ r ∈ (s.runCalls calls).outbox.rows.rows,
    r.attempt = Outbox.claimCount (s.claimsDuring calls) r.id
  row : ∀ r ∈ (s.runCalls calls).outbox.rows.rows, r.Sound
  budget : ∀ t ∈ s.claimsDuring calls,
    Outbox.claimCount (s.claimsDuring calls) t.id ≤ t.maxAttempts
  retry : ∀ t error delay now next wait,
    ((s.runCalls calls).fail t error delay now).1 = some (.ok (.willRetry next wait)) →
      ∃ r, (s.runCalls calls).outbox.rows.find? t.id = some r ∧ next ≤ r.maxAttempts
  final : ∀ before after, calls = before ++ after →
    ∀ r ∈ (s.runCalls before).outbox.rows.rows, r.status = .completed ∨ r.status = .dead →
      (s.runCalls calls).outbox.rows.find? r.id = some r ∨
        ((s.runCalls calls).outbox.rows.find? r.id = none ∧ ∃ c ∈ after, c.2.deletes = true)
  conserved : (s.runCalls calls).outbox.stats.total + s.removedDuring calls =
    s.insertedDuring calls

/-- The next attempt that a failure announces is one that the task has. -/
theorem willRetry_le {s s' : Store} {t : Task} {error : String} {delay wait : Span} {now : Instant}
    {next : Nat} (h : s.fail t error delay now = (some (.ok (.willRetry next wait)), s')) :
    ∃ r, s.outbox.rows.find? t.id = some r ∧ next ≤ r.maxAttempts := by
  cases hh : s.outbox.held t with
  | error e =>
      simp only [Store.fail, Outbox.fail_of_error hh, Prod.mk.injEq, Option.some.injEq,
        reduceCtorEq, false_and] at h
  | ok r =>
      refine ⟨r, (Outbox.held_eq_ok_iff.1 hh).1, ?_⟩
      rcases Outbox.fail_of_held hh error delay now with ⟨v, hm, -, he⟩ | ⟨-, -, he⟩ | ⟨-, he⟩
      · simp only [Store.fail, he, Prod.mk.injEq, Option.some.injEq, Except.ok.injEq,
          FailureOutcome.willRetry.injEq] at h
        omega
      · simp [Store.fail, he] at h
      · simp [Store.fail, he] at h

/-- Every run of calls on an empty queue keeps the life of its tasks in order. -/
theorem lifecycle_of_runCalls {s : Store} {calls : List (Instant × QueueCall)}
    (h : s.outbox = .empty) (hbuilt : ∀ c ∈ calls, ∀ t ∈ c.2.tasks, t.Built) :
    s.Lifecycle calls := by
  have hstart : s.outbox.Lawful s.supply.next [] := h ▸ Outbox.lawful_empty s.supply.next
  have hend := (s.runCalls_moves calls hbuilt).lawful (fun _ ht => ht.pos) hstart
  rw [List.nil_append] at hend
  refine ⟨hend.sound.index, hend.sound.seqs, hend.chronicle.attempts, hend.sound.row,
    fun t ht => (hend.budget t ht).1, ?_, ?_, ?_⟩
  · intro t error delay now next wait hr
    exact willRetry_le (Prod.ext hr rfl)
  · rintro before after rfl r hr hstatus
    have hmid := (s.runCalls_history before).rows_below hstart.chronicle.below
    have hid := hmid r hr
    have hf := Table.mem_rows_iff.1 hr
    rw [runCalls_append]
    rcases ((s.runCalls before).runCalls_history after).final hid hf hstatus with hn | hs
    · refine .inr ⟨hn, ?_⟩
      by_contra hno
      have hkeep : ∀ c ∈ after, c.2.deletes = false := by
        intro c hc
        by_contra ht
        exact hno ⟨c, hc, by simpa using ht⟩
      obtain ⟨r', hr'⟩ := runCalls_keeps hkeep hid hf
      rw [hn] at hr'
      cases hr'
    · exact .inl hs
  · have hlen := length_runCalls hstart.chronicle.below calls
    rw [Outbox.stats_total, hlen, h]
    exact Nat.zero_add _

/-- A task of two attempts that was claimed once. -/
theorem lifecycle_of_claimed_task :
    let calls : List (Instant × QueueCall) :=
      [(⟨0, 0⟩, .enqueue ((NewTask.create .notify ⟨7⟩).withMaxAttempts 2)),
       (⟨0, 0⟩, .claim "w" [.notify] 1)]
    (empty 1).Lifecycle calls ∧
      ((empty 1).runCalls calls).outbox.rows.rows.map TaskRow.attempt = [1] := by
  intro calls
  have hbuilt : ∀ c ∈ calls, ∀ t ∈ c.2.tasks, t.Built := by
    intro c hc t ht
    rcases List.mem_pair.1 hc with rfl | rfl
    · cases List.mem_singleton.1 ht
      exact .withMaxAttempts 2 (.create .notify ⟨7⟩)
    · cases ht
  exact ⟨lifecycle_of_runCalls rfl hbuilt, by decide +kernel⟩

end Store

end BoardActivity
