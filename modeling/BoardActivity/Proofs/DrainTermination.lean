import BoardActivity.Proofs.ClaimedExecutions

/-!
# Draining the outbox

A worker claims tasks of all kinds, executes each, and claims again, until a claim gives nothing.
Executions can add tasks, and failed tasks come back, perhaps at once; but each execution uses up an
attempt of its task, and a task is added only for a webhook and an event without a delivery that has
one (`Store.unserved`). So the drain ends, after no more executions than the waiting tasks have
attempts left and the added ones come with (`System.drain_ends`).

Clock and jitter are arbitrary here, and so are worker and batch; an execution that breaks off
because its next attempt would lie beyond the calendar is followed by the next one. `System.drain`
is the case in which time stands still (`System.drain_eq`).
-/

namespace BoardActivity

/-- Who drains and how many tasks at a time, and what clock and jitter give, by the number of claims
and executions before. -/
structure Pace where
  worker : String
  batch : Nat
  clock : Nat → Instant
  draw : Nat → Draw

def Pace.still (worker : String) (batch : Nat) (draw : Draw) (now : Instant) : Pace :=
  ⟨worker, batch, fun _ => now, fun _ => draw⟩

structure Drained where
  executed : List Task
  system : System
  stopped : Instant

namespace System

/-- Executes tasks one after the other. -/
def executeInTurn (g : Setup) (p : Pace) : Nat → System → List Task → System
  | _, sys, [] => sys
  | n, sys, t :: ts =>
    executeInTurn g p (n + 1) (sys.execute g.handlers g.config t (p.draw n) (p.clock n)).2 ts

/-- Claims tasks and executes them until nothing is left to claim, if that happens within so many
rounds. -/
def drainFor (g : Setup) (p : Pace) : Nat → Nat → System → Option Drained
  | 0, _, _ => none
  | rounds + 1, n, sys =>
    match sys.store.claim p.worker TaskKind.all p.batch (p.clock n) with
    | ([], s) => some ⟨[], { sys with store := s }, p.clock n⟩
    | (ts, s) =>
      (drainFor g p rounds (n + 1 + ts.length)
        (executeInTurn g p (n + 1) { sys with store := s } ts)).map fun d =>
          { d with executed := ts ++ d.executed }

variable {g : Setup} {sys sys' sys'' : System} {r : TaskRow} {created : List TaskRow}

/-! ### A batch -/

/-- What comes of executing the tasks of a batch: new deliveries have added tasks, no claim of the
batch is left, and no more attempts are left than there were. -/
structure Batch (g : Setup) (sys : System) (ts : List Task) (sys' : System)
    (created : List TaskRow) : Prop where
  gains : sys.store.Gains g sys'.store created
  remaining : sys'.store.outbox.remaining ≤ sys.store.outbox.remaining +
    created.length * max g.handlers.dispatcher.maxAttempts 1 + (ts.map Task.left).sum
  others : ∀ id, id ∉ ts.map Task.id → ∀ x, sys.store.outbox.rows.find? id = some x →
    sys'.store.outbox.rows.find? id = some x
  claimed : ∀ x ∈ sys'.store.outbox.rows.rows, x.status = .claimed →
    x ∈ sys.store.outbox.rows.rows ∧ x.id ∉ ts.map Task.id
  unharmed : sys.store.notificationFault = none → sys'.store.notificationFault = none ∧
    ∀ t ∈ ts, ∃ x, sys'.store.outbox.rows.find? t.id = some x ∧ x.status = .completed ∧
      x.attempt = t.attempt

structure Workable (g : Setup) (sys : System) : Prop where
  queued : sys.store.Queued
  answering : sys.transport.hangs = false
  delays : ∀ kind attempt draw, (g.config.retryPolicy kind).delay? attempt draw ≠ none

theorem Workable.execute (h : Workable g sys) (t : Task) (draw : Draw) (now : Instant) :
    Workable g (sys.execute g.handlers g.config t draw now).2 :=
  ⟨h.queued.movesTo (movesBy_execute g.handlers g.config t draw now).movesTo,
    (hangs_execute sys g.handlers g.config t draw now).trans h.answering, h.delays⟩

theorem Workable.of_claim (h : Workable g sys) {worker : String} {kinds : List TaskKind} {max : Nat}
    {now : Instant} {ts : List Task} {o : Outbox}
    (hc : sys.store.outbox.claim worker kinds max now = (ts, o)) :
    Workable g ⟨{ sys.store with outbox := o }, sys.transport⟩ := by
  have hmoves := (sys.movesBy_call g now (.claim worker kinds max)).movesTo
  simp only [call, Store.answer, Store.claim, hc] at hmoves
  exact ⟨h.queued.movesTo hmoves, h.answering, h.delays⟩

theorem Workable.executeInTurn (h : Workable g sys) (p : Pace) (n : Nat) (ts : List Task) :
    Workable g (executeInTurn g p n sys ts) := by
  induction ts generalizing n sys with
  | nil => exact h
  | cons t ts ih => exact ih (h.execute t (p.draw n) (p.clock n)) (n + 1)

theorem batch_of_one (h : Workable g sys) {t : Task} (hr : sys.store.outbox.held t = .ok r)
    (hmax : r.maxAttempts = t.maxAttempts) (draw : Draw) (now : Instant) :
    ∃ created, Batch g sys [t] (sys.execute g.handlers g.config t draw now).2 created := by
  obtain ⟨r', created, he⟩ := execute_claimed h.queued h.answering h.delays hr draw now
  obtain ⟨hfound, hid, -⟩ := Outbox.held_find? hr
  have hattempt : r.attempt = t.attempt :=
    (TaskRow.isHeldBy_iff.1 (Outbox.held_eq_ok_iff.1 hr).2).2.1
  have hids : ∀ id, id ∉ [t].map Task.id ↔ id ≠ r.id := by
    intro id
    rw [hid, List.map_singleton, List.mem_singleton]
  refine ⟨created, he.gains hfound, ?_, fun id hn x hx => he.find?_of_ne ((hids id).1 hn) hx,
    fun x hx hc => ?_, fun hf => ?_⟩
  · have hle := he.remaining_le hfound
    simp only [List.map_singleton, List.sum_singleton, Task.left]
    omega
  · obtain ⟨hin, hne⟩ := he.of_claimed hx hc
    exact ⟨hin, (hids x.id).2 hne⟩
  · obtain ⟨hf', rfl⟩ := he.unharmed hf
    refine ⟨hf', fun t' ht' => ?_⟩
    cases List.mem_singleton.1 ht'
    exact ⟨r.complete, hid ▸ he.find?_self, rfl, hattempt⟩

theorem Batch.trans {ts us : List Task} {created' : List TaskRow}
    (h : Batch g sys ts sys' created) (h' : Batch g sys' us sys'' created')
    (hdisjoint : ∀ t ∈ ts, t.id ∉ us.map Task.id) :
    Batch g sys (ts ++ us) sys'' (created ++ created') := by
  refine ⟨h.gains.trans h'.gains, ?_, fun id hn x hx => ?_, fun x hx hc => ?_, fun hf => ?_⟩
  · have hle := h.remaining
    have hle' := h'.remaining
    rw [List.map_append, List.sum_append, List.length_append, Nat.add_mul]
    omega
  · rw [List.map_append, List.mem_append, not_or] at hn
    exact h'.others id hn.2 x (h.others id hn.1 x hx)
  · obtain ⟨hin', hn'⟩ := h'.claimed x hx hc
    obtain ⟨hin, hn⟩ := h.claimed x hin' hc
    rw [List.map_append, List.mem_append, not_or]
    exact ⟨hin, hn, hn'⟩
  · obtain ⟨hf', hdone⟩ := h.unharmed hf
    obtain ⟨hf'', hdone'⟩ := h'.unharmed hf'
    refine ⟨hf'', fun t ht => ?_⟩
    rcases List.mem_append.1 ht with ht | ht
    · obtain ⟨x, hx, hcompleted, hattempt⟩ := hdone t ht
      exact ⟨x, h'.others t.id (hdisjoint t ht) x hx, hcompleted, hattempt⟩
    · exact hdone' t ht

theorem batch_executeInTurn (h : Workable g sys) (p : Pace) (n : Nat) {ts : List Task}
    (hd : (ts.map Task.id).Nodup)
    (hheld : ∀ t ∈ ts, ∃ r, sys.store.outbox.held t = .ok r ∧ r.maxAttempts = t.maxAttempts) :
    ∃ created, Batch g sys ts (executeInTurn g p n sys ts) created := by
  induction ts generalizing n sys with
  | nil =>
      exact ⟨[], .refl sys.store, by simp [executeInTurn], fun _ _ _ hx => hx,
        fun x hx _ => ⟨hx, List.not_mem_nil⟩,
        fun hf => ⟨hf, fun t ht => (List.not_mem_nil ht).elim⟩⟩
  | cons t ts ih =>
      obtain ⟨hfresh, hd⟩ := List.nodup_cons.1 hd
      obtain ⟨r, hr, hmax⟩ := hheld t List.mem_cons_self
      obtain ⟨created, hone⟩ := batch_of_one h hr hmax (p.draw n) (p.clock n)
      -- The claims of the other tasks are not touched.
      have hrest : ∀ u ∈ ts, ∃ r,
          (sys.execute g.handlers g.config t (p.draw n) (p.clock n)).2.store.outbox.held u =
            .ok r ∧ r.maxAttempts = u.maxAttempts := by
        intro u hu
        obtain ⟨x, hx, hmax⟩ := hheld u (List.mem_cons_of_mem t hu)
        obtain ⟨hfound, hheldBy⟩ := Outbox.held_eq_ok_iff.1 hx
        have hother : u.id ∉ [t].map Task.id := by
          rw [List.map_singleton, List.mem_singleton]
          intro hsame
          exact hfresh (hsame ▸ List.mem_map_of_mem hu)
        exact ⟨x, Outbox.held_eq_ok_iff.2 ⟨hone.others u.id hother x hfound, hheldBy⟩, hmax⟩
      obtain ⟨created', hlater⟩ := ih (h.execute t _ _) (n + 1) hd hrest
      refine ⟨created ++ created', hone.trans hlater fun u hu => ?_⟩
      cases List.mem_singleton.1 hu
      exact hfresh

/-! ### Rounds -/

/-- What comes of rounds that execute tasks: each execution has used up an attempt; claims of others
are left alone; and what is done stays done and is not executed again. -/
structure Rounds (g : Setup) (sys : System) (executed : List Task) (sys' : System)
    (created : List TaskRow) : Prop where
  gains : sys.store.Gains g sys'.store created
  bounded : executed.length + sys'.store.outbox.remaining ≤
    sys.store.outbox.remaining + created.length * max g.handlers.dispatcher.maxAttempts 1
  claimed : ∀ x ∈ sys'.store.outbox.rows.rows, x.status = .claimed →
    x ∈ sys.store.outbox.rows.rows
  completed : ∀ x ∈ sys.store.outbox.rows.rows, x.status = .completed →
    x ∈ sys'.store.outbox.rows.rows ∧ x.id ∉ executed.map Task.id
  unharmed : sys.store.notificationFault = none → sys'.store.notificationFault = none ∧
    (executed.map Task.id).Nodup ∧ ∀ t ∈ executed, ∃ x ∈ sys'.store.outbox.rows.rows,
      x.id = t.id ∧ x.status = .completed ∧ x.attempt = t.attempt

theorem Rounds.refl (g : Setup) (sys : System) : Rounds g sys [] sys [] where
  gains := .refl sys.store
  bounded := by simp
  claimed x hx _ := hx
  completed x hx _ := ⟨hx, List.not_mem_nil⟩
  unharmed hf := ⟨hf, List.nodup_nil, fun t ht => (List.not_mem_nil ht).elim⟩

theorem Rounds.trans {ts us : List Task} {created' : List TaskRow}
    (h : Rounds g sys ts sys' created) (h' : Rounds g sys' us sys'' created') :
    Rounds g sys (ts ++ us) sys'' (created ++ created') := by
  refine ⟨h.gains.trans h'.gains, ?_, fun x hx hc => ?_, fun x hx hc => ?_, fun hf => ?_⟩
  · have hle := h.bounded
    have hle' := h'.bounded
    rw [List.length_append, List.length_append, Nat.add_mul]
    omega
  · exact h.claimed x (h'.claimed x hx hc) hc
  · obtain ⟨hin, hn⟩ := h.completed x hx hc
    obtain ⟨hin', hn'⟩ := h'.completed x hin hc
    rw [List.map_append, List.mem_append, not_or]
    exact ⟨hin', hn, hn'⟩
  · obtain ⟨hf', hd, hdone⟩ := h.unharmed hf
    obtain ⟨hf'', hd', hdone'⟩ := h'.unharmed hf'
    -- What the first rounds executed is done, so the later ones do not execute it.
    have hkept : ∀ t ∈ ts, ∃ x ∈ sys''.store.outbox.rows.rows, x.id = t.id ∧
        x.status = .completed ∧ x.attempt = t.attempt ∧ t.id ∉ us.map Task.id := by
      intro t ht
      obtain ⟨x, hx, hid, hcompleted, hattempt⟩ := hdone t ht
      obtain ⟨hin, hn⟩ := h'.completed x hx hcompleted
      exact ⟨x, hin, hid, hcompleted, hattempt, hid ▸ hn⟩
    refine ⟨hf'', ?_, fun t ht => ?_⟩
    · rw [List.map_append]
      refine List.nodup_append'.2 ⟨hd, hd', fun id hid hid' => ?_⟩
      obtain ⟨t, ht, rfl⟩ := List.mem_map.1 hid
      obtain ⟨x, -, -, -, -, hn⟩ := hkept t ht
      exact hn hid'
    · rcases List.mem_append.1 ht with ht | ht
      · obtain ⟨x, hx, hid, hcompleted, hattempt, -⟩ := hkept t ht
        exact ⟨x, hx, hid, hcompleted, hattempt⟩
      · exact hdone' t ht

/-- A claim and the executions of what it hands out are a round. -/
theorem rounds_of_batch {ts : List Task} {o : Outbox} (hc : sys.store.outbox.HandsOut ts o)
    (hb : Batch g { sys with store := { sys.store with outbox := o } } ts sys' created) :
    Rounds g sys ts sys' created := by
  have hupholds : sys.store.Upholds { sys.store with outbox := o } :=
    .of_index rfl rfl rfl hc.index
  have hgains : sys.store.Gains g { sys.store with outbox := o } [] :=
    ⟨hc.faces.trans (List.append_nil _).symm, fun _ hx => (List.not_mem_nil hx).elim,
      hupholds.unserved_le⟩
  refine ⟨hgains.trans hb.gains, ?_, fun x hx hclaimed => ?_, fun x hx hcompleted => ?_,
    fun hf => ?_⟩
  · have hle := hb.remaining
    have hcount := hc.remaining
    simp only at hle
    omega
  · obtain ⟨hin, hn⟩ := hb.claimed x hx hclaimed
    have hfound : o.rows.find? x.id = some x := Table.mem_rows_iff.1 hin
    rw [hc.others x.id hn] at hfound
    exact Table.mem_rows_iff.2 hfound
  · have hfound : sys.store.outbox.rows.find? x.id = some x := Table.mem_rows_iff.1 hx
    have hn : x.id ∉ ts.map Task.id := by
      intro hid
      obtain ⟨t, ht, hid⟩ := List.mem_map.1 hid
      obtain ⟨r, hr, hpending⟩ := hc.waiting t ht
      rw [hid, hfound] at hr
      cases hr
      rw [hpending] at hcompleted
      cases hcompleted
    refine ⟨?_, hn⟩
    rw [← hc.others x.id hn] at hfound
    exact Table.mem_rows_iff.2 (hb.others x.id hn x hfound)
  · obtain ⟨hf', hdone⟩ := hb.unharmed hf
    refine ⟨hf', hc.distinct, fun t ht => ?_⟩
    obtain ⟨x, hx, hcompleted, hattempt⟩ := hdone t ht
    obtain ⟨hin, hid⟩ := Table.find?_eq_some_iff.1 hx
    exact ⟨x, hin, hid, hcompleted, hattempt⟩

theorem round_of_claim (h : Workable g sys) (p : Pace) (n : Nat) {ts : List Task} {o : Outbox}
    (hc : sys.store.outbox.claim p.worker TaskKind.all p.batch (p.clock n) = (ts, o)) :
    Workable g (executeInTurn g p (n + 1) ⟨{ sys.store with outbox := o }, sys.transport⟩ ts) ∧
      ∃ created, Rounds g sys ts
        (executeInTurn g p (n + 1) ⟨{ sys.store with outbox := o }, sys.transport⟩ ts) created := by
  have hout : sys.store.outbox.HandsOut ts o := by
    have hclaim := Outbox.handsOut_claim h.queued.sound p.worker TaskKind.all p.batch (p.clock n)
    rw [hc] at hclaim
    exact hclaim
  have hwork := h.of_claim hc
  obtain ⟨created, hbatch⟩ := batch_executeInTurn hwork p (n + 1) hout.distinct hout.held
  exact ⟨hwork.executeInTurn p (n + 1) ts, created, rounds_of_batch hout hbatch⟩

/-! ### Drains -/

theorem drainFor_of_nil {p : Pace} {n : Nat} {o : Outbox}
    (hc : sys.store.outbox.claim p.worker TaskKind.all p.batch (p.clock n) = ([], o))
    (rounds : Nat) : drainFor g p (rounds + 1) n sys =
      some ⟨[], ⟨{ sys.store with outbox := o }, sys.transport⟩, p.clock n⟩ := by
  simp only [drainFor, Store.claim, hc]

theorem drainFor_of_cons {p : Pace} {n : Nat} {o : Outbox} {t : Task} {ts : List Task}
    (hc : sys.store.outbox.claim p.worker TaskKind.all p.batch (p.clock n) = (t :: ts, o))
    (rounds : Nat) : drainFor g p (rounds + 1) n sys =
      (drainFor g p rounds (n + 1 + (t :: ts).length) (executeInTurn g p (n + 1)
        ⟨{ sys.store with outbox := o }, sys.transport⟩ (t :: ts))).map fun d =>
          { d with executed := t :: ts ++ d.executed } := by
  simp only [drainFor, Store.claim, hc]

/-- A drain that ends within some rounds has the same end within more. -/
theorem drainFor_mono {p : Pace} {rounds n : Nat} {d : Drained}
    (hd : drainFor g p rounds n sys = some d) {rounds' : Nat} (hle : rounds ≤ rounds') :
    drainFor g p rounds' n sys = some d := by
  induction rounds generalizing n sys d rounds' with
  | zero => cases hd
  | succ rounds ih =>
      obtain ⟨rounds', rfl⟩ := Nat.exists_eq_add_of_le' (Nat.one_le_of_lt hle)
      cases hc : sys.store.outbox.claim p.worker TaskKind.all p.batch (p.clock n) with
      | mk ts o =>
          cases ts with
          | nil =>
              rw [drainFor_of_nil hc] at hd ⊢
              exact hd
          | cons t ts =>
              rw [drainFor_of_cons hc] at hd ⊢
              obtain ⟨d', hd', rfl⟩ := Option.map_eq_some_iff.1 hd
              rw [ih hd' (Nat.le_of_succ_le_succ hle)]
              rfl

/-- What was executed until the end, and that nothing visible waits then. -/
theorem rounds_of_drainFor (h : Workable g sys) {p : Pace} (hbatch : 1 ≤ p.batch) {rounds n : Nat}
    {d : Drained} (hd : drainFor g p rounds n sys = some d) :
    (∃ created, Rounds g sys d.executed d.system created) ∧
      ∀ r ∈ d.system.store.outbox.rows.rows, r.status = .pending → d.stopped < r.visibleAt := by
  induction rounds generalizing n sys d with
  | zero => cases hd
  | succ rounds ih =>
      cases hc : sys.store.outbox.claim p.worker TaskKind.all p.batch (p.clock n) with
      | mk ts o =>
          cases ts with
          | nil =>
              rw [drainFor_of_nil hc] at hd
              cases hd
              obtain ⟨hsame, hinvisible⟩ := Outbox.claim_nil hbatch (congrArg Prod.fst hc)
              rw [hc] at hsame
              change o = sys.store.outbox at hsame
              subst hsame
              exact ⟨⟨[], .refl g sys⟩, hinvisible⟩
          | cons t ts =>
              rw [drainFor_of_cons hc] at hd
              obtain ⟨d', hd', rfl⟩ := Option.map_eq_some_iff.1 hd
              obtain ⟨hwork, created, hround⟩ := round_of_claim h p n hc
              obtain ⟨⟨created', hrest⟩, hinvisible⟩ := ih hwork hd'
              exact ⟨⟨created ++ created', hround.trans hrest⟩, hinvisible⟩

/-! ### The end -/

/-- The attempts that waiting tasks have left, and those that come with the tasks that dispatches
can still add. -/
def potential (g : Setup) (sys : System) : Nat :=
  sys.store.outbox.remaining + sys.store.unserved * max g.handlers.dispatcher.maxAttempts 1

theorem potential_le (g : Setup) (sys : System) : sys.potential g ≤ sys.drainBound g.handlers :=
  Nat.add_le_add sys.store.outbox.remaining_le (Nat.mul_le_mul_right _ sys.store.unserved_le_size)

theorem Rounds.potential_le {executed : List Task} (h : Rounds g sys executed sys' created) :
    executed.length + sys'.potential g ≤ sys.potential g := by
  have hbounded := h.bounded
  have hunserved := Nat.mul_le_mul_right (max g.handlers.dispatcher.maxAttempts 1)
    h.gains.unserved
  rw [Nat.add_mul] at hunserved
  unfold potential
  omega

theorem drainFor_ends (h : Workable g sys) (p : Pace) {rounds : Nat} (n : Nat)
    (hlt : sys.potential g < rounds) : ∃ d, drainFor g p rounds n sys = some d := by
  induction rounds generalizing n sys with
  | zero => omega
  | succ rounds ih =>
      cases hc : sys.store.outbox.claim p.worker TaskKind.all p.batch (p.clock n) with
      | mk ts o =>
          cases ts with
          | nil => exact ⟨_, drainFor_of_nil hc rounds⟩
          | cons t ts =>
              obtain ⟨hwork, created, hround⟩ := round_of_claim h p n hc
              have hle := hround.potential_le
              simp only [List.length_cons] at hle
              have hless := (Nat.lt_add_of_pos_left (Nat.succ_pos ts.length)).trans_le hle
              obtain ⟨d, hd⟩ := ih hwork (n + 1 + (t :: ts).length)
                (hless.trans_le (Nat.le_of_lt_succ hlt))
              exact ⟨_, (drainFor_of_cons hc rounds).trans (congrArg _ hd)⟩

structure Drains (g : Setup) (p : Pace) (sys : System) (d : Drained) : Prop where
  /-- The end is reached within the rounds that a drain allows itself, and stays the same. -/
  ends : ∀ rounds, sys.drainBound g.handlers < rounds → drainFor g p rounds 0 sys = some d
  /-- No more tasks are executed than the waiting tasks have attempts left and the tasks of new
  deliveries, which are the only ones added, come with; a task comes with one at least. -/
  bounded : ∃ created : List TaskRow,
    d.system.store.outbox.rows.rows.map TaskRow.face =
        sys.store.outbox.rows.rows.map TaskRow.face ++ created.map TaskRow.face ∧
      (∀ r ∈ created, Store.IsDeliveryRow g.handlers.dispatcher.maxAttempts r) ∧
      d.executed.length ≤ sys.store.outbox.remaining +
        created.length * max g.handlers.dispatcher.maxAttempts 1
  /-- What is claimed in the end is as it was in the beginning. -/
  rows : ∀ r ∈ d.system.store.outbox.rows.rows, r.status = .completed ∨ r.status = .dead ∨
    (r.status = .claimed ∧ r ∈ sys.store.outbox.rows.rows) ∨
    (r.status = .pending ∧ d.stopped < r.visibleAt)
  /-- Without a fault, every task that is executed is executed once, and done. -/
  unharmed : sys.store.notificationFault = none → (d.executed.map Task.id).Nodup ∧
    ∀ t ∈ d.executed, ∃ r ∈ d.system.store.outbox.rows.rows,
      r.id = t.id ∧ r.status = .completed ∧ r.attempt = t.attempt

theorem drains_of_workable (h : Workable g sys) {p : Pace} (hbatch : 1 ≤ p.batch) :
    ∃ d, Drains g p sys d := by
  have hlt : sys.potential g < sys.drainBound g.handlers + 1 :=
    Nat.lt_succ_of_le (sys.potential_le g)
  obtain ⟨d, hd⟩ := drainFor_ends h p 0 hlt
  obtain ⟨⟨created, hrounds⟩, hinvisible⟩ := rounds_of_drainFor h hbatch hd
  refine ⟨d, fun rounds hle => drainFor_mono hd hle, ⟨created, hrounds.gains.faces,
    hrounds.gains.new, (Nat.le_add_right _ _).trans hrounds.bounded⟩, fun r hr => ?_,
    fun hf => (hrounds.unharmed hf).2⟩
  cases hs : r.status with
  | pending => exact .inr (.inr (.inr ⟨rfl, hinvisible r hr hs⟩))
  | claimed => exact .inr (.inr (.inl ⟨rfl, hrounds.claimed r hr hs⟩))
  | completed => exact .inl rfl
  | dead => exact .inr (.inl rfl)

/-! ### When time stands still -/

section Still

variable {worker : String} {batch : Nat} {draw : Draw} {now : Instant}

/-- Every delay leads to a time within the calendar. -/
def WithinCalendar (g : Setup) (draw : Draw) (now : Instant) : Prop :=
  ∀ kind attempt delay, (g.config.retryPolicy kind).delay? attempt draw = some delay →
    now.shift? delay.toOffset ≠ none

/-- No execution breaks off then. -/
theorem execute_settles (h : Workable g sys) (hc : WithinCalendar g draw now) (t : Task) :
    (sys.execute g.handlers g.config t draw now).1 = .settled := by
  obtain ⟨created, hs⟩ := run_serves h.queued h.answering g t now
  obtain ⟨result, hanswer⟩ := hs.answers
  cases hrun : g.handlers.run sys t now with
  | mk answer sys₁ =>
      rw [hrun] at hanswer
      change answer = some result at hanswer
      subst hanswer
      cases result with
      | ok o => simp only [execute, hrun]
      | error e =>
          obtain ⟨delay, hd⟩ :=
            Option.ne_none_iff_exists'.1 (h.delays t.kind (t.attempt + 1) draw)
          obtain ⟨visibleAt, hvisible⟩ := Option.ne_none_iff_exists'.1 (hc t.kind _ delay hd)
          have hfail : (sys₁.store.outbox.fail t e.message delay now).1.isSome = true := by
            unfold Outbox.fail
            cases sys₁.store.outbox.held t with
            | error e => rfl
            | ok r =>
                simp only [hvisible]
                split_ifs
                · rfl
                · rfl
          simp only [execute, hrun, settleFailure_of_delay hd, hfail, if_true]

theorem executeAll_eq (h : Workable g sys) (hc : WithinCalendar g draw now) (worker : String)
    (batch n : Nat) (ts : List Task) :
    executeAll g.handlers g.config draw now sys ts =
      (.settled, executeInTurn g (.still worker batch draw now) n sys ts) := by
  induction ts generalizing n sys with
  | nil => rfl
  | cons t ts ih =>
      have hsettled := execute_settles h hc t
      have hrest := ih (h.execute t draw now) (n + 1)
      unfold executeAll
      cases hx : sys.execute g.handlers g.config t draw now with
      | mk conclusion sys' =>
          rw [hx] at hsettled hrest
          change conclusion = .settled at hsettled
          subst hsettled
          refine hrest.trans ?_
          rw [executeInTurn]
          change _ = (Conclusion.settled, executeInTurn g _ (n + 1)
            (sys.execute g.handlers g.config t draw now).2 ts)
          rw [hx]

theorem drainRounds_eq (h : Workable g sys) (hc : WithinCalendar g draw now) {rounds n : Nat}
    {d : Drained} (hd : drainFor g (.still worker batch draw now) rounds n sys = some d) :
    drainRounds g.handlers g.config worker batch draw now rounds sys =
      (d.executed.length, .settled, d.system) := by
  induction rounds generalizing n sys d with
  | zero => cases hd
  | succ rounds ih =>
      cases hclaim : sys.store.outbox.claim worker TaskKind.all batch now with
      | mk ts o =>
          cases ts with
          | nil =>
              rw [drainFor_of_nil hclaim] at hd
              cases hd
              simp only [drainRounds, Store.claim, hclaim, List.length_nil]
          | cons t ts =>
              rw [drainFor_of_cons hclaim] at hd
              obtain ⟨d', hd', rfl⟩ := Option.map_eq_some_iff.1 hd
              obtain ⟨hwork, -⟩ := round_of_claim h (.still worker batch draw now) n hclaim
              have hall :=
                executeAll_eq (h.of_claim hclaim) hc worker batch (n + 1) (t :: ts)
              simp only [drainRounds, Store.claim, hclaim, hall, ih hwork hd', List.length_append]

/-- The drain in which time stands still. -/
theorem drain_eq (h : Workable g sys) (hc : WithinCalendar g draw now) {d : Drained}
    (hd : Drains g (.still worker batch draw now) sys d) :
    sys.drain g.handlers g.config worker batch draw now =
      (d.executed.length, .settled, d.system) :=
  drainRounds_eq h hc (hd.ends _ (Nat.lt_succ_self _))

end Still

end System

/-! ### Delays that can be computed -/

namespace Binary64

theorem powNat_one (k : Nat) : powNat one one k = one := by
  have hone : one.mul one = one := by decide
  induction k using Nat.strongRecOn with
  | ind k ih =>
      rw [powNat]
      simp only [hone, ite_self]
      split_ifs
      · rfl
      · rfl
      · exact ih (k / 2) (by omega)

theorem pow_one (k : Int) : pow one k = one := by
  have hrecip : one.recip = one := by decide
  simp only [pow, powNat_one, hrecip, ite_self]

end Binary64

namespace RetryPolicy

/-- The delay of a policy of equal delays does not depend on the attempt, or on jitter. -/
theorem delay?_fixed (interval : Span) (n attempt : Nat) (draw : Draw) :
    (fixed interval n).delay? attempt draw = if attempt ≤ 1 then some .zero else
      ((interval.toSeconds.mul .one).min interval.toSeconds).toSpan? := by
  have hzero : Binary64.zero.less .zero = false := by decide
  simp only [delay?, delaySeconds?, cappedSeconds, fixed, Binary64.pow_one, hzero, Bool.false_and,
    Bool.false_eq_true, if_false, Option.bind_some]

theorem delay?_fixed_zero (n attempt : Nat) (draw : Draw) :
    (fixed .zero n).delay? attempt draw = some .zero := by
  have hzero : ((Span.zero.toSeconds.mul .one).min Span.zero.toSeconds).toSpan? = some .zero := by
    decide
  rw [delay?_fixed, hzero, ite_self]

end RetryPolicy

namespace System

/-- From every store that runs of the program and of others at its queue lead to, a drain ends, with
any worker, clock and jitter, any batches, and whatever is answered to requests. -/
theorem drain_ends {sys : System} (h : sys.store.outbox = .empty) (g : Setup)
    {calls : List (Instant × SharedCall)} (hcalls : ∀ c ∈ calls, ∀ t ∈ c.2.tasks, t.Built)
    {transport : Transport} (ht : transport.hangs = false)
    (hdelay : ∀ kind attempt draw, (g.config.retryPolicy kind).delay? attempt draw ≠ none)
    {p : Pace} (hbatch : 1 ≤ p.batch) :
    ∃ d, Drains g p ⟨(sys.runShared g calls).store, transport⟩ d := by
  have hwork : Workable g ⟨(sys.runShared g calls).store, transport⟩ :=
    ⟨queued_runShared h g hcalls, ht, hdelay⟩
  exact drains_of_workable hwork hbatch

/-- Someone else has claimed the dispatch of an event, and a fault is armed: the notification fails
once, is tried again without delay, and is done. -/
theorem drain_ends_after_fault :
    let now : Instant := ⟨0, 0⟩
    let policy : RetryPolicy := .fixed .zero 3
    let config : FanoutConfig := { FanoutConfig.standard with
      notifyRetry := policy
      dispatchRetry := policy
      deliveryRetry := policy }
    let g : Setup := ⟨.ofConfig .standard config, .ofConfig config, config⟩
    let seed := (((Store.empty 10).addUser ⟨⟨1⟩, ⟨9⟩, "ada", .member⟩).addUser
      ⟨⟨2⟩, ⟨9⟩, "bob", .member⟩).addBoard ⟨⟨3⟩, ⟨9⟩, "ops", [⟨2⟩]⟩
    let calls : List (Instant × SharedCall) :=
      [(now, .program (.createDraft ⟨3⟩ ⟨1⟩ "plan")),
       (now, .program (.changeCard ⟨10⟩ ⟨1⟩ .publish)),
       (now, .queue (.enqueue (.create .notify ⟨11⟩))),
       (now, .queue (.claim "other" [.dispatchWebhooks] 1)),
       (now, .program (.failNotificationsAfter 0))]
    let sys : System := ⟨((⟨seed, .standard⟩ : System).runShared g calls).store, .standard⟩
    let p : Pace := .still "worker" 1 .middle now
    (drainFor g p 3 0 sys).map (fun d => (d.executed.map fun t => (t.id, t.attempt),
        d.system.store.outbox.rows.rows.map TaskRow.status)) =
        some ([(⟨12⟩, 1), (⟨12⟩, 2)], [.completed, .claimed]) ∧
      ∃ d, Drains g p sys d := by
  intro now policy config g seed calls sys p
  have hcalls : ∀ c ∈ calls, ∀ t ∈ c.2.tasks, t.Built := by
    intro c hc t ht
    simp only [calls, List.mem_cons, List.not_mem_nil, or_false] at hc
    rcases hc with rfl | rfl | rfl | rfl | rfl
    all_goals simp only [SharedCall.tasks, QueueCall.tasks, List.not_mem_nil] at ht
    exact List.mem_singleton.1 ht ▸ .create .notify ⟨11⟩
  have hdelay : ∀ kind attempt draw, (g.config.retryPolicy kind).delay? attempt draw ≠ none := by
    intro kind attempt draw
    have hsome := RetryPolicy.delay?_fixed_zero 3 attempt draw
    cases kind with
    | notify | dispatchWebhooks | deliverWebhook =>
        change policy.delay? attempt draw ≠ none
        rw [hsome]
        exact Option.some_ne_none _
  have hempty : (⟨seed, .standard⟩ : System).store.outbox = .empty := rfl
  exact ⟨by decide +kernel,
    drain_ends hempty g hcalls rfl hdelay le_rfl⟩

end System

end BoardActivity
