import BoardActivity.Proofs.ClaimedExecutions
import BoardActivity.Proofs.InstantOrder

/-!
# Executing any task

A task can be handed to an execution long after its claim was lost: another worker may hold the row
by then, or the row may be done or gone. The handler runs all the same, and leaves every row of the
outbox as it is; only a dispatch adds rows after them. What follows touches at most the row of the
task, and this only if the claim still holds it (`System.Executed`). So an execution that comes too
late can repeat what its handler does, but cannot settle the claim of someone else.

The retry policy has a delay before the next attempt, and the delay leads to a point of the
calendar; nothing else is assumed of it.
-/

namespace BoardActivity

/-- What the row of a task becomes when its handler has given an answer: done, or waiting for the
next attempt, or dead after the last one. -/
def TaskRow.answered (r : TaskRow) (visibleAt : Instant) : Except Error JobOutcome → TaskRow
  | .ok _ => { r with status := .completed, claimedBy := none }
  | .error e =>
    if r.attempt < r.maxAttempts then
      { r with
        status := .pending
        visibleAt
        claimedBy := none
        claimedAt := none
        lastError := some e.message }
    else
      { r with
        status := .dead
        claimedBy := none
        claimedAt := none
        lastError := some e.message }

namespace Outbox

structure ChangesOnly (o : Outbox) (id : Ident) (o' : Outbox) : Prop where
  ids : o'.rows.rows.map TaskRow.id = o.rows.rows.map TaskRow.id
  others : ∀ i, i ≠ id → o'.rows.find? i = o.rows.find? i
  index : o'.index = o.index
  seq : o'.seq = o.seq

variable {o o' : Outbox} {r : TaskRow}

theorem ChangesOnly.refl (o : Outbox) (id : Ident) : o.ChangesOnly id o :=
  ⟨rfl, fun _ _ => rfl, rfl, rfl⟩

theorem Yields.changesOnly (h : o.Yields r o') (hf : o.rows.find? r.id = some r) :
    o.ChangesOnly r.id o' := by
  have hothers : ∀ i, i ≠ r.id → o'.rows.find? i = o.rows.find? i := fun i hi =>
    h.find?_of_ne hi.symm
  obtain ⟨g, hg, -, -, rfl⟩ := h
  have hkey : o.rows.find? (Keyed.key (g r)) = some r := (congrArg o.rows.find? (hg r)).trans hf
  exact ⟨Table.map_put_of_present TaskRow.id hkey (hg r), hothers, rfl, rfl⟩

/-- What settling a claim does to an outbox: nothing if the claim is not held, and otherwise a
change of its row, which takes the claim from nobody else. -/
structure Concludes (o : Outbox) (t : Task) (o' : Outbox) : Prop where
  changes : o.ChangesOnly t.id o'
  lost : (∀ r, o.held t ≠ .ok r) → o' = o
  others : ∀ u r, o.held u = .ok r → o.held t ≠ .ok r → o'.held u = .ok r

theorem Concludes.of_yields {t : Task} (hlost : ∀ e, o.held t = .error e → o' = o)
    (hyields : ∀ r, o.held t = .ok r → o.Yields r o') : o.Concludes t o' := by
  cases hh : o.held t with
  | error e =>
      rw [hlost e hh]
      exact ⟨.refl o t.id, fun _ => rfl, fun u r hu _ => hu⟩
  | ok x =>
      obtain ⟨hf, hid, -⟩ := held_find? hh
      have hchanges : o.ChangesOnly t.id o' := hid ▸ (hyields x hh).changesOnly hf
      refine ⟨hchanges, fun hnot => (hnot x hh).elim, fun u r hu hne => ?_⟩
      obtain ⟨hfound, hheld⟩ := held_eq_ok_iff.1 hu
      have hother : u.id ≠ t.id := by
        intro he
        rw [he, (held_eq_ok_iff.1 hh).1] at hfound
        exact hne (hh.trans (congrArg _ (Option.some.inj hfound)))
      exact held_eq_ok_iff.2 ⟨(hchanges.others u.id hother).trans hfound, hheld⟩

theorem concludes_complete (o : Outbox) (t : Task) : o.Concludes t (o.complete t).2 :=
  .of_yields (fun _ h => congrArg Prod.snd (complete_of_error h)) fun _ h => yields_complete h

theorem concludes_fail (o : Outbox) (t : Task) (error : String) (delay : Span) (now : Instant) :
    o.Concludes t (o.fail t error delay now).2 :=
  .of_yields (fun _ h => congrArg Prod.snd (fail_of_error h error delay now))
    fun _ h => yields_fail h error delay now

/-- Rows that are added without a claim hold none. -/
theorem held_of_append {created : List TaskRow} (hrows : o'.rows.rows = o.rows.rows ++ created)
    (hnew : ∀ r ∈ created, r.status ≠ .claimed) (t : Task) (r : TaskRow) :
    o'.held t = .ok r ↔ o.held t = .ok r := by
  simp only [held_eq_ok_iff, Table.find?_eq_some_iff, hrows, List.mem_append]
  constructor
  · rintro ⟨⟨hr | hr, hid⟩, hheld⟩
    · exact ⟨⟨hr, hid⟩, hheld⟩
    · exact (hnew r hr (TaskRow.isHeldBy_iff.1 hheld).1).elim
  · rintro ⟨⟨hr, hid⟩, hheld⟩
    exact ⟨⟨.inl hr, hid⟩, hheld⟩

end Outbox

namespace System

variable {sys : System} {g : Setup} {t : Task} {now : Instant}

/-- What a handler leaves of the outbox: all rows as they were, and after them the tasks of new
deliveries, if it was a dispatch. -/
structure AddsTasks (g : Setup) (t : Task) (s s' : Store) (created : List TaskRow) : Prop where
  rows : s'.outbox.rows.rows = s.outbox.rows.rows ++ created
  new : ∀ r ∈ created, Store.IsDeliveryRow g.handlers.dispatcher.maxAttempts r
  dispatched : t.kind ≠ .dispatchWebhooks → created = []

theorem run_addsTasks (hq : sys.store.Queued) (g : Setup) (t : Task) (now : Instant) :
    ∃ created, AddsTasks g t sys.store (g.handlers.run sys t now).2.store created := by
  unfold Handlers.run
  cases hkind : t.kind with
  | notify =>
      obtain ⟨notifications, fault, supply, hframe⟩ :=
        Store.notify_frame g.handlers sys.store t.subject now
      refine ⟨[], ?_, fun _ hr => (List.not_mem_nil hr).elim, fun _ => rfl⟩
      rw [List.append_nil]
      exact (congrArg (fun s => s.outbox.rows.rows) hframe :)
  | dispatchWebhooks =>
      obtain ⟨created, hdispatches⟩ := Store.dispatches_dispatch hq g.handlers t.subject now
      exact ⟨created, hdispatches.rows, hdispatches.new, fun hne => (hne hkind).elim⟩
  | deliverWebhook =>
      obtain ⟨deliveries, webhooks, trackers, hframe⟩ := sys.deliver_frame g.handlers t.subject now
      refine ⟨[], ?_, fun _ hr => (List.not_mem_nil hr).elim, fun _ => rfl⟩
      rw [List.append_nil]
      exact (congrArg (fun s => s.outbox.rows.rows) hframe :)

theorem AddsTasks.held_iff {s s' : Store} {created : List TaskRow}
    (h : AddsTasks g t s s' created) (u : Task) (r : TaskRow) :
    s'.outbox.held u = .ok r ↔ s.outbox.held u = .ok r := by
  refine Outbox.held_of_append h.rows (fun x hx => ?_) u r
  obtain ⟨id, delivery, seq, time, rfl⟩ := h.new x hx
  exact fun hc => by cases hc

/-- What comes of executing a task, given what comes of its handler. A task that fails and has
attempts left is visible again at the time given. -/
structure Executed (g : Setup) (sys : System) (t : Task) (visibleAt : Instant)
    (handled : Option (Except Error JobOutcome) × System) (done : Conclusion × System) :
    Prop where
  adds : ∃ created, AddsTasks g t sys.store handled.2.store created
  /-- After the handler, at most the row of the task changes. -/
  settles : ∃ outbox, handled.2.store.outbox.ChangesOnly t.id outbox ∧
    done.2 = ⟨{ handled.2.store with outbox := outbox }, handled.2.transport⟩
  answered : ∀ r answer, sys.store.outbox.held t = .ok r → handled.1 = some answer →
    done.2.store.outbox.rows.find? t.id = some (r.answered visibleAt answer)
  /-- Without its claim, nothing follows the handler. -/
  lost : (∀ r, sys.store.outbox.held t ≠ .ok r) → done.2 = handled.2
  /-- Whoever else holds a row, holds it still. -/
  others : ∀ u r, sys.store.outbox.held u = .ok r → sys.store.outbox.held t ≠ .ok r →
    done.2.store.outbox.held u = .ok r
  returns : (∃ answer, handled.1 = some answer) → done.1 = .settled
  hangs : handled.1 = none → done = (.hanging, handled.2)
  answers : sys.transport.hangs = false → ∃ answer, handled.1 = some answer

theorem find?_complete {o : Outbox} {r : TaskRow} (h : o.held t = .ok r) (visibleAt : Instant)
    (outcome : JobOutcome) :
    (o.complete t).2.rows.find? t.id = some (r.answered visibleAt (.ok outcome)) := by
  rw [Outbox.complete_of_held h, ← (Outbox.held_find? h).2.1]
  exact Table.find?_put_self o.rows r.complete

/-- When the next attempt lies in the calendar, failing gives an answer, and the row is settled. -/
theorem fail_answers {delay : Span} {visibleAt : Instant}
    (hv : now.shift? delay.toOffset = some visibleAt) (o : Outbox) (t : Task) (e : Error) :
    (o.fail t e.message delay now).1.isSome = true ∧ ∀ r, o.held t = .ok r →
      (o.fail t e.message delay now).2.rows.find? t.id =
        some (r.answered visibleAt (.error e)) := by
  cases h : o.held t with
  | error err =>
      rw [Outbox.fail_of_error h]
      exact ⟨rfl, fun r hr => by cases hr⟩
  | ok r =>
      have hid := (Outbox.held_find? h).2.1
      rcases Outbox.fail_of_held h e.message delay now with
        ⟨v, hm, hsome, he⟩ | ⟨-, hnone, -⟩ | ⟨hm, he⟩
      · rw [he]
        refine ⟨rfl, fun x hx => ?_⟩
        cases hx
        cases hv.symm.trans hsome
        rw [← hid, TaskRow.answered, if_pos hm]
        exact Table.find?_put_self o.rows (r.postpone e.message visibleAt)
      · rw [hv] at hnone
        cases hnone
      · rw [he]
        refine ⟨rfl, fun x hx => ?_⟩
        cases hx
        rw [← hid, TaskRow.answered, if_neg (Nat.not_lt.2 hm)]
        exact Table.find?_put_self o.rows (r.bury e.message)

/-- What follows an answer of the handler, when it settles the claim. -/
theorem Executed.of_answer {visibleAt : Instant} {answer : Except Error JobOutcome} {sys₁ : System}
    {created : List TaskRow} {outbox : Outbox}
    (hadds : AddsTasks g t sys.store sys₁.store created)
    (hconcludes : sys₁.store.outbox.Concludes t outbox)
    (hrow : ∀ r, sys₁.store.outbox.held t = .ok r →
      outbox.rows.find? t.id = some (r.answered visibleAt answer)) :
    Executed g sys t visibleAt (some answer, sys₁)
      (.settled, ⟨{ sys₁.store with outbox := outbox }, sys₁.transport⟩) := by
  refine ⟨⟨created, hadds⟩, ⟨outbox, hconcludes.changes, rfl⟩, fun r x hr hx => ?_,
    fun hnot => ?_, fun u r hu hne => ?_, fun _ => rfl, fun hnone => (by cases hnone),
    fun _ => ⟨answer, rfl⟩⟩
  · cases hx
    exact hrow r ((hadds.held_iff t r).2 hr)
  · have hsame := hconcludes.lost fun r hr => hnot r ((hadds.held_iff t r).1 hr)
    simp only [hsame]
  · exact hconcludes.others u r ((hadds.held_iff u r).2 hu) fun hr =>
      hne ((hadds.held_iff t r).1 hr)

theorem executed {draw : Draw} {delay : Span} {visibleAt : Instant} (hq : sys.store.Queued)
    (hd : (g.config.retryPolicy t.kind).delay? (t.attempt + 1) draw = some delay)
    (hv : now.shift? delay.toOffset = some visibleAt) :
    Executed g sys t visibleAt (g.handlers.run sys t now)
      (sys.execute g.handlers g.config t draw now) := by
  obtain ⟨created, hadds⟩ := run_addsTasks hq g t now
  cases hrun : g.handlers.run sys t now with
  | mk answer sys₁ =>
      rw [hrun] at hadds
      cases answer with
      | none =>
          simp only [execute, hrun]
          refine ⟨⟨created, hadds⟩, ⟨sys₁.store.outbox, .refl _ _, rfl⟩, ?_, fun _ => rfl,
            fun u r hu _ => (hadds.held_iff u r).2 hu, ?_, fun _ => rfl, fun ht => ?_⟩
          · rintro r answer - hanswer
            cases hanswer
          · rintro ⟨answer, hanswer⟩
            cases hanswer
          · obtain ⟨_, hserves⟩ := run_serves hq ht g t now
            have hanswers := hserves.answers
            rw [hrun] at hanswers
            exact hanswers
      | some answer =>
          cases answer with
          | ok outcome =>
              simp only [execute, hrun]
              exact .of_answer hadds (Outbox.concludes_complete _ t)
                fun r hr => find?_complete hr visibleAt outcome
          | error e =>
              obtain ⟨hsome, hrow⟩ := fail_answers hv sys₁.store.outbox t e
              simp only [execute, hrun, settleFailure_of_delay hd, hsome, if_true]
              exact .of_answer hadds (Outbox.concludes_fail _ t e.message delay now) hrow

/-- In a store that any calls have led to, executing a task does what its handler does, and then
changes at most the row of the task. If the claim still holds the row, the row is done, or waits for
the delay with the error, or is dead with it; otherwise no row changes that was there, and whoever
holds the row keeps it. -/
theorem execute_settles_own_task (h : sys.store.outbox = .empty) (g : Setup)
    {calls : List (Instant × SharedCall)} (hcalls : ∀ c ∈ calls, ∀ t ∈ c.2.tasks, t.Built)
    (transport : Transport) (g' : Setup) (t : Task) {draw : Draw} {delay : Span}
    {now visibleAt : Instant}
    (hdelay : (g'.config.retryPolicy t.kind).delay? (t.attempt + 1) draw = some delay)
    (hoffset : delay.nanoseconds ≤ Span.offsetLimit)
    (hvisible : now.shift? delay.nanoseconds = some visibleAt) :
    Executed g' ⟨(sys.runShared g calls).store, transport⟩ t visibleAt
      (g'.handlers.run ⟨(sys.runShared g calls).store, transport⟩ t now)
      (execute ⟨(sys.runShared g calls).store, transport⟩ g'.handlers g'.config t draw now) :=
  executed (queued_runShared h g hcalls) hdelay (Span.toOffset_of_le hoffset ▸ hvisible)

/-- A notification fails and is put off for a minute. Had its claim been taken back before, and the
task been claimed by someone else, the same execution would have left that claim alone. -/
theorem execute_settles_own_task_late :
    let now : Instant := ⟨0, 0⟩
    let later : Instant := ⟨100, 0⟩
    let policy : RetryPolicy := .fixed (.ofSeconds 60) 3
    let config : FanoutConfig := { FanoutConfig.standard with notifyRetry := policy }
    let g : Setup := ⟨.ofConfig .standard config, .ofConfig config, config⟩
    let seed := (((Store.empty 10).addUser ⟨⟨1⟩, ⟨9⟩, "ada", .member⟩).addUser
      ⟨⟨2⟩, ⟨9⟩, "bob", .member⟩).addBoard ⟨⟨3⟩, ⟨9⟩, "ops", [⟨2⟩]⟩
    let sys : System := ⟨seed, .standard⟩
    let calls : List (Instant × SharedCall) :=
      [(now, .program (.createDraft ⟨3⟩ ⟨1⟩ "plan")),
       (now, .program (.changeCard ⟨10⟩ ⟨1⟩ .publish)),
       (now, .program (.claim "a" [.notify] 1)),
       (now, .program (.failNotificationsAfter 0))]
    let taken : List (Instant × SharedCall) :=
      [(later, .program (.reclaim .zero)), (later, .program (.claim "b" [.notify] 1))]
    let t : Task := ⟨⟨12⟩, .notify, ⟨11⟩, 1, 3, "a"⟩
    let s : System := ⟨(sys.runShared g calls).store, .standard⟩
    let s' : System := ⟨(sys.runShared g (calls ++ taken)).store, .standard⟩
    let done := s.execute g.handlers g.config t .middle later
    let done' := s'.execute g.handlers g.config t .middle later
    sys.store.outbox = .empty ∧ (∀ c ∈ calls ++ taken, ∀ t ∈ c.2.tasks, t.Built) ∧
      policy.delay? 2 .middle = some (.ofSeconds 60) ∧
      (Span.ofSeconds 60).nanoseconds ≤ Span.offsetLimit ∧
      later.shift? (Span.ofSeconds 60).nanoseconds = some ⟨160, 0⟩ ∧
      Executed g s t ⟨160, 0⟩ (g.handlers.run s t later) done ∧
      Executed g s' t ⟨160, 0⟩ (g.handlers.run s' t later) done' ∧
      (done.2.store.outbox.rows.find? ⟨12⟩).map (fun r => (r.status, r.attempt, r.visibleAt)) =
        some (.pending, 1, ⟨160, 0⟩) ∧
      (done'.2.store.outbox.rows.find? ⟨12⟩).map (fun r => (r.status, r.attempt, r.claimedBy)) =
        some (.claimed, 2, some "b") := by
  intro now later policy config g seed sys calls taken t s s' done done'
  have hempty : sys.store.outbox = .empty := rfl
  have hcalls : ∀ c ∈ calls ++ taken, ∀ t ∈ c.2.tasks, t.Built := by
    simp [calls, taken, SharedCall.tasks]
  have hbefore : ∀ c ∈ calls, ∀ t ∈ c.2.tasks, t.Built := fun c hc =>
    hcalls c (List.mem_append_left taken hc)
  have hdelay : (g.config.retryPolicy t.kind).delay? (t.attempt + 1) .middle =
      some (.ofSeconds 60) := by decide +kernel
  have hoffset : (Span.ofSeconds 60).nanoseconds ≤ Span.offsetLimit := by decide +kernel
  have hvisible : later.shift? (Span.ofSeconds 60).nanoseconds = some ⟨160, 0⟩ := by decide +kernel
  exact ⟨hempty, hcalls, hdelay, hoffset, hvisible,
    execute_settles_own_task hempty g hbefore .standard g t hdelay hoffset hvisible,
    execute_settles_own_task hempty g hcalls .standard g t hdelay hoffset hvisible,
    by decide +kernel, by decide +kernel⟩

end System

end BoardActivity
