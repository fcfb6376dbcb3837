import BoardActivity.Proofs.ClaimOrder
import BoardActivity.Worker.Pool
import Mathlib.Data.List.Induction

/-!
# What pools do

A pool can be started and shut down in any order, and all the while its loops, the tasks in flight
and others go on (`WorkerPool.run`). Its signal is set by the first shutdown after the first start,
and never taken back. Until then a pool that is running has one poll loop, whose next poll takes what
waits as far as there are permits, unless the loop broke over an interval that is no span
(`WorkerPool.Sound`). From then on no loop that looks at the signal claims anything
(`WorkerPool.Muted`): neither while the pool is stopped nor when it has been started again, though it
is running then.
-/

namespace BoardActivity

namespace Outbox

theorem length_claim (o : Outbox) (worker : String) (kinds : List TaskKind) (max : Nat)
    (now : Instant) :
    (o.claim worker kinds max now).1.length = min max (o.waiting kinds now).length := by
  rw [claim_fst, List.length_map, claimable, List.length_take, List.length_mergeSort, waiting_eq]

end Outbox

namespace PollLoop

variable {c : PoolConfig} {l l' : PollLoop} {signal : Bool} {free taken limit : Nat}

/-- The loop goes on to another stage without a claim. -/
inductive Goes (signal : Bool) (free : Nat) (l : PollLoop) : PollLoop → Prop where
  | look : l.Goes signal free (l.look signal free)
  | miss : l.Goes signal free l.miss
  | wake (signalled : Bool) : l.Goes signal free (l.wake (signal && signalled))

/-- A loop that broke goes nowhere. -/
theorem Goes.eq_of_broken (h : l.Goes signal free l') (hbroken : l.stage = .broken) : l' = l := by
  cases h with
  | look => rw [PollLoop.look, if_neg (by rw [hbroken]; exact nofun)]
  | miss => rw [PollLoop.miss, hbroken]
  | wake => rw [PollLoop.wake, if_neg (by rw [hbroken]; exact nofun)]

structure Serves (c : PoolConfig) (l : PollLoop) : Prop where
  worker : l.poller.worker = c.worker
  kinds : l.poller.kinds = c.kinds
  config : l.poller.config = c.poller
  not_ended : l.stage ≠ .ended
  broken : l.stage = .broken → l.poller.longerInterval? = none

theorem serves_start (c : PoolConfig) : (start c).Serves c :=
  ⟨rfl, rfl, rfl, nofun, nofun⟩

theorem Serves.at_stage (h : l.Serves c) {stage : PollStage} (hover : stage.isOver = false) :
    ({ l with stage } : PollLoop).Serves c := by
  refine ⟨h.worker, h.kinds, h.config, ?_, ?_⟩ <;> rintro rfl <;> cases hover

theorem Serves.goes (h : l.Serves c) (hgo : l.Goes false free l') : l'.Serves c := by
  cases hgo with
  | look =>
      simp only [PollLoop.look, Bool.false_eq_true, if_false]
      split_ifs
      · exact h.at_stage rfl
      · exact h.at_stage rfl
      · exact h
  | miss =>
      unfold PollLoop.miss
      split
      · exact h.at_stage rfl
      · exact h
  | wake =>
      simp only [PollLoop.wake, Bool.false_and, Bool.false_eq_true, if_false]
      split_ifs
      · exact h.at_stage rfl
      · exact h

theorem Serves.afterClaim (h : l.Serves c) (claimed : Nat) : (l.afterClaim claimed).Serves c := by
  unfold PollLoop.afterClaim Poller.afterClaim
  by_cases hzero : claimed = 0
  · rw [if_pos hzero, if_pos hzero]
    cases hlonger : l.poller.longerInterval? with
    | none => exact ⟨h.worker, h.kinds, h.config, nofun, fun _ => hlonger⟩
    | some d => exact ⟨h.worker, h.kinds, h.config, nofun, nofun⟩
  · rw [if_neg hzero, if_neg hzero]
    exact ⟨h.worker, h.kinds, h.config, nofun, nofun⟩

/-! ### What a loop asks for -/

/-- If the loop is asking for tasks, then for some, and for no more than the permits that those
taken leave. -/
def Fits (l : PollLoop) (taken limit : Nat) : Prop :=
  ∀ n, l.stage = .claiming n → 0 < n ∧ taken + n ≤ limit

theorem Fits.goes (h : l.Fits taken limit) (htaken : taken ≤ limit)
    (hgo : l.Goes signal (limit - taken) l') : l'.Fits taken limit := by
  cases hgo with
  | look =>
      unfold PollLoop.look
      split_ifs with hlooking hsignal hfree
      · exact nofun
      · exact nofun
      · rintro n ⟨⟩
        omega
      · exact h
  | miss =>
      unfold PollLoop.miss
      split
      · exact nofun
      · exact h
  | wake =>
      unfold PollLoop.wake
      split_ifs
      · exact nofun
      · exact nofun
      · exact h

/-- The loop is not asking for tasks. -/
def IsSilent (l : PollLoop) : Prop := ∀ n, l.stage ≠ .claiming n

theorem IsSilent.fits (h : l.IsSilent) : l.Fits taken limit := fun n hn => absurd hn (h n)

theorem isSilent_start (c : PoolConfig) : (start c).IsSilent := nofun

theorem isSilent_of_broken (h : l.stage = .broken) : l.IsSilent := by
  intro n hn
  cases h.symm.trans hn

/-- On the signal no loop begins to ask. -/
theorem IsSilent.goes (h : l.IsSilent) (hgo : l.Goes true free l') : l'.IsSilent := by
  cases hgo with
  | look =>
      simp only [PollLoop.look, if_true]
      split_ifs
      · exact nofun
      · exact h
  | miss =>
      unfold PollLoop.miss
      split
      · exact nofun
      · exact h
  | wake =>
      intro n
      unfold PollLoop.wake
      split_ifs
      · exact nofun
      · exact nofun
      · exact h n

theorem isSilent_afterClaim (l : PollLoop) (claimed : Nat) : (l.afterClaim claimed).IsSilent := by
  unfold PollLoop.afterClaim
  split
  · exact nofun
  · intro n
    dsimp only
    split_ifs <;> exact nofun

end PollLoop

namespace WorkerPool

variable {c : PoolConfig} {p p' : WorkerPool} {l l' : PollLoop} {m : PoolMove}

/-! ### What a move can do -/

/-- What comes of a move that is not the owner's. -/
inductive Goes (p : WorkerPool) : WorkerPool → Prop where
  /-- Tasks end, stale claims are taken back, and others are at work. -/
  | beside {n reclaimers : Nat} {sys : System} (hle : n ≤ p.pool.inFlight) :
    p.Goes { p with pool := { p.pool with inFlight := n }, reclaimers, sys }
  /-- A loop goes on. -/
  | loop {i : Nat} {l l' : PollLoop} (hl : p.loops[i]? = some l)
      (hgo : l.Goes p.pool.signal p.free l') : p.Goes { p with loops := p.loops.set i l' }
  /-- A loop claims no more tasks than it asked for. -/
  | claim {i n claimed : Nat} {l : PollLoop} {sys : System} (hl : p.loops[i]? = some l)
      (hstage : l.stage = .claiming n) (hle : claimed ≤ n) :
    p.Goes { p with
      pool := { p.pool with inFlight := p.pool.inFlight + claimed }
      loops := p.loops.set i (l.afterClaim claimed)
      sys }

theorem goes_modify {f : PollLoop → PollLoop} (hf : ∀ l : PollLoop, l.Goes p.pool.signal p.free (f l))
    (i : Nat) : p.Goes { p with loops := p.loops.modify i f } := by
  rw [List.modify_eq_set_getElem?]
  cases hl : p.loops[i]? with
  | none => exact .beside le_rfl
  | some l => exact .loop hl (hf l)

theorem goes_claim (p : WorkerPool) (i : Nat) (now : Instant) : p.Goes (p.step (.claim i now)) := by
  simp only [step, claimOf]
  split
  · exact .beside le_rfl
  next tasks store heq =>
    split at heq
    next poller permits hl =>
      have htasks : (p.sys.store.claim poller.worker poller.kinds (poller.batchFor permits) now).1 =
          tasks := congrArg Prod.fst (Option.some.inj heq)
      have hle : tasks.length ≤ permits := by
        rw [← htasks]
        exact (Outbox.length_claim ..).trans_le
          ((Nat.min_le_left ..).trans (Nat.min_le_left ..))
      rw [List.modify_eq_set_getElem?, hl]
      exact .claim hl rfl hle
    next => cases heq

def IsOwners : PoolMove → Prop
  | .start | .shutdown | .join => True
  | _ => False

theorem goes_step (hm : ¬IsOwners m) (p : WorkerPool) : p.Goes (p.step m) := by
  cases m with
  | start | shutdown | join => exact absurd trivial hm
  | look i => exact goes_modify (fun _ => .look) i
  | claim i now => exact goes_claim p i now
  | miss i => exact goes_modify (fun _ => .miss) i
  | wake i signalled => exact goes_modify (fun _ => .wake signalled) i
  | reclaim now =>
      simp only [step]
      split_ifs
      · exact .beside le_rfl
      · split <;> exact .beside le_rfl
  | endReclaim =>
      simp only [step]
      split_ifs <;> exact .beside le_rfl
  | release => exact .beside (Nat.sub_le _ _)
  | alter sys => exact .beside le_rfl

/-- Only the owner changes signal and status, and only then a shutdown begins or ends. -/
theorem Goes.control (h : p.Goes p') : p'.pool.signal = p.pool.signal ∧
    p'.pool.status = p.pool.status ∧ p'.closing = p.closing ∧ p'.config = p.config := by
  cases h <;> exact ⟨rfl, rfl, rfl, rfl⟩

theorem start_cases (p : WorkerPool) :
    (p.closing = true ∨ p.pool.status = .running) ∧ p.step .start = p ∨
      p.closing = false ∧ p.pool.status ≠ .running ∧ p.step .start =
        { p with
          pool := { p.pool with status := .running }
          loops := p.loops ++ [.start p.config]
          reclaimers := p.reclaimers + p.newReclaimers } := by
  simp only [step, Pool.start]
  split_ifs with hclosing hrunning
  · exact .inl ⟨.inl hclosing, rfl⟩
  · exact .inl ⟨.inr hrunning, rfl⟩
  · exact .inr ⟨Bool.eq_false_iff.2 hclosing, hrunning, rfl⟩

theorem shutdown_cases (p : WorkerPool) :
    (p.closing = true ∨ p.pool.status = .stopped) ∧ p.step .shutdown = p ∨
      p.closing = false ∧ p.pool.status ≠ .stopped ∧ p.step .shutdown =
        { p with pool := ⟨.draining, true, p.pool.inFlight⟩, closing := true } := by
  by_cases hclosing : p.closing = true
  · exact .inl ⟨.inl hclosing, by simp only [step, hclosing, Bool.true_or, if_true]⟩
  · have hidle : p.closing = false := Bool.eq_false_iff.2 hclosing
    by_cases hstopped : p.pool.status = .stopped
    · refine .inl ⟨.inr hstopped, ?_⟩
      simp only [step, hstopped, decide_true, Bool.or_true, if_true]
    · refine .inr ⟨hidle, hstopped, ?_⟩
      simp only [step, Pool.beginShutdown, hidle, hstopped, decide_false, Bool.or_false,
        Bool.false_eq_true, if_false]

theorem join_cases (p : WorkerPool) :
    (p.closing && p.isJoined) = false ∧ p.step .join = p ∨
      (p.closing && p.isJoined) = true ∧ ∃ status,
        (p.pool.inFlight = 0 ∧ status = .stopped ∨
          0 < p.pool.inFlight ∧ status = p.pool.status) ∧
        p.step .join = { p with pool := { p.pool with status }, loops := [], closing := false } := by
  simp only [step, Pool.endShutdown]
  split_ifs with hjoined hzero
  · exact .inr ⟨hjoined, _, .inl ⟨hzero, rfl⟩, rfl⟩
  · exact .inr ⟨hjoined, _, .inr ⟨Nat.pos_of_ne_zero hzero, rfl⟩, rfl⟩
  · exact .inl ⟨Bool.eq_false_iff.2 hjoined, rfl⟩

/-! ### Pools that claim nothing more -/

theorem claimOf_of_silent (h : ∀ l ∈ p.loops, l.IsSilent) (i : Nat) (now : Instant) :
    p.claimOf i now = none := by
  unfold claimOf
  split
  · next poller permits hl => exact absurd rfl (h _ (List.mem_of_getElem? hl) permits)
  · rfl

theorem claims_of_silent (h : ∀ l ∈ p.loops, l.IsSilent) (m : PoolMove) : p.claims m = [] := by
  cases m with
  | claim i now => rw [claims, claimOf_of_silent h, Option.map_none, Option.getD_none]
  | _ => rfl

structure Muted (p : WorkerPool) : Prop where
  signal : p.pool.signal = true
  silent : ∀ l ∈ p.loops, l.IsSilent

theorem Muted.goes (h : p.Muted) (hgo : p.Goes p') : p'.Muted := by
  cases hgo with
  | beside => exact ⟨h.signal, h.silent⟩
  | @loop i l l' hl hgo =>
      have hsilent : l'.IsSilent := (h.silent l (List.mem_of_getElem? hl)).goes (h.signal ▸ hgo)
      refine ⟨h.signal, fun x hx => ?_⟩
      exact (List.mem_or_eq_of_mem_set hx).elim (h.silent x) fun heq => heq ▸ hsilent
  | claim hl hstage => exact absurd hstage (h.silent _ (List.mem_of_getElem? hl) _)

theorem Muted.step (h : p.Muted) (m : PoolMove) : (p.step m).Muted := by
  cases m with
  | start =>
      obtain ⟨-, heq⟩ | ⟨-, -, heq⟩ := p.start_cases
      · rwa [heq]
      · rw [heq]
        refine ⟨h.signal, List.forall_mem_append.2 ⟨h.silent, ?_⟩⟩
        exact List.forall_mem_singleton.2 (PollLoop.isSilent_start p.config)
  | shutdown =>
      obtain ⟨-, heq⟩ | ⟨-, -, heq⟩ := p.shutdown_cases
      · rwa [heq]
      · exact heq ▸ ⟨rfl, h.silent⟩
  | join =>
      obtain ⟨-, heq⟩ | ⟨-, _, -, heq⟩ := p.join_cases
      · rwa [heq]
      · exact heq ▸ ⟨h.signal, nofun⟩
  | _ => exact h.goes (goes_step id p)

structure Stuck (p : WorkerPool) : Prop where
  running : p.pool.status = .running
  idle : p.closing = false
  broken : ∀ l ∈ p.loops, l.stage = .broken

theorem Stuck.silent (h : p.Stuck) : ∀ l ∈ p.loops, l.IsSilent :=
  fun l hl => PollLoop.isSilent_of_broken (h.broken l hl)

theorem Stuck.goes (h : p.Stuck) (hgo : p.Goes p') : p'.Stuck := by
  cases hgo with
  | beside => exact ⟨h.running, h.idle, h.broken⟩
  | @loop i l l' hl hgo =>
      have hbroken : l.stage = .broken := h.broken l (List.mem_of_getElem? hl)
      have hsame : l' = l := hgo.eq_of_broken hbroken
      refine ⟨h.running, h.idle, fun x hx => ?_⟩
      refine (List.mem_or_eq_of_mem_set hx).elim (h.broken x) fun heq => ?_
      rw [heq, hsame, hbroken]
  | claim hl hstage => exact absurd hstage (h.silent _ (List.mem_of_getElem? hl) _)

/-- A stuck pool can only be shut down. -/
theorem Stuck.step (h : p.Stuck) (m : PoolMove) : (p.step m).Stuck ∨ (p.step m).Muted := by
  cases m with
  | start =>
      obtain ⟨-, heq⟩ | ⟨-, hnot, -⟩ := p.start_cases
      · rw [heq]
        exact .inl h
      · exact absurd h.running hnot
  | shutdown =>
      obtain ⟨-, heq⟩ | ⟨-, -, heq⟩ := p.shutdown_cases
      · rw [heq]
        exact .inl h
      · exact .inr (heq ▸ ⟨rfl, h.silent⟩)
  | join =>
      obtain ⟨-, heq⟩ | ⟨hjoined, -⟩ := p.join_cases
      · rw [heq]
        exact .inl h
      · rw [h.idle] at hjoined
        cases hjoined
  | _ => exact .inl (h.goes (goes_step id p))

/-! ### Reachable pools -/

structure Sound (c : PoolConfig) (p : WorkerPool) : Prop where
  config : p.config = c
  inFlight_le : p.pool.inFlight ≤ c.concurrency
  loops : p.loops = [] ∨ ∃ l, p.loops = [l] ∧ l.Fits p.pool.inFlight c.concurrency
  /-- Before the first effective shutdown. -/
  serving : p.pool.signal = false → p.closing = false ∧
    (p.pool.status = .stopped ∨ p.pool.status = .running ∧ ∃ l, p.loops = [l] ∧ l.Serves c)
  closing : p.closing = true → p.pool.status = .draining
  stopped : p.pool.status = .stopped → p.pool.inFlight = 0 ∧ p.loops = []
  left : p.pool.status = .draining → p.closing = false → p.loops = []
  silent : p.pool.signal = true → p.closing = false → ∀ l ∈ p.loops, l.IsSilent

theorem sound_create (c : PoolConfig) (sys : System) : (create c sys).Sound c where
  config := rfl
  inFlight_le := Nat.zero_le _
  loops := .inl rfl
  serving _ := ⟨rfl, .inl rfl⟩
  closing := nofun
  stopped _ := ⟨rfl, rfl⟩
  left := nofun
  silent := nofun

/-- There is no other loop than the one in some place. -/
theorem Sound.only (h : p.Sound c) {i : Nat} (hl : p.loops[i]? = some l) :
    p.loops = [l] ∧ i = 0 ∧ l.Fits p.pool.inFlight c.concurrency := by
  rcases h.loops with hnone | ⟨l₀, hone, hfits⟩
  · rw [hnone] at hl
    cases hl
  · rw [hone, List.getElem?_singleton] at hl
    split_ifs at hl with hzero
    cases hl
    exact ⟨hone, hzero, hfits⟩

/-- The pool after something happened to its loop. -/
theorem Sound.replace (h : p.Sound c) (hl : p.loops = [l]) {n : Nat} (sys : System)
    (hn : n ≤ c.concurrency) (hfits : l'.Fits n c.concurrency)
    (hserves : p.pool.signal = false → l.Serves c → l'.Serves c)
    (hsilent : p.pool.signal = true → l.IsSilent → l'.IsSilent) :
    ({ p with pool := { p.pool with inFlight := n }, loops := [l'], sys } : WorkerPool).Sound c := by
  have hpresent : p.loops ≠ [] := by
    rw [hl]
    exact List.cons_ne_nil _ _
  refine ⟨h.config, hn, .inr ⟨l', rfl, hfits⟩, fun hs => ⟨(h.serving hs).1, ?_⟩, h.closing,
    fun hs => absurd (h.stopped hs).2 hpresent, fun hs hc => absurd (h.left hs hc) hpresent,
    fun hs hc => List.forall_mem_singleton.2 ?_⟩
  · refine (h.serving hs).2.imp_right fun ⟨hrunning, l₀, hl₀, hserves₀⟩ => ?_
    cases hl.symm.trans hl₀
    exact ⟨hrunning, l', rfl, hserves hs hserves₀⟩
  · exact hsilent hs (h.silent hs hc l (hl ▸ List.mem_singleton_self l))

theorem Sound.goes (h : p.Sound c) (hgo : p.Goes p') : p'.Sound c := by
  cases hgo with
  | @beside n reclaimers sys hle =>
      refine ⟨h.config, hle.trans h.inFlight_le, ?_, h.serving, h.closing, fun hs => ?_, h.left,
        h.silent⟩
      · refine h.loops.imp_right fun ⟨l, hl, hfits⟩ => ⟨l, hl, fun n hn => ?_⟩
        have hfits := hfits n hn
        exact ⟨hfits.1, (Nat.add_le_add_right hle n).trans hfits.2⟩
      · have hzero : p.pool.inFlight = 0 := (h.stopped hs).1
        exact ⟨Nat.le_zero.1 (hle.trans_eq hzero), (h.stopped hs).2⟩
  | @loop i l l' hl hgo =>
      obtain ⟨hone, rfl, hfits⟩ := h.only hl
      have hset : p.loops.set 0 l' = [l'] := by rw [hone]; rfl
      have hgo' : l.Goes p.pool.signal (c.concurrency - p.pool.inFlight) l' := h.config ▸ hgo
      rw [hset]
      refine h.replace hone p.sys h.inFlight_le (hfits.goes h.inFlight_le hgo')
        (fun hs hserves => ?_) fun hs hsilent => ?_
      · exact hserves.goes (hs ▸ hgo)
      · exact hsilent.goes (hs ▸ hgo)
  | @claim i n claimed l sys hl hstage hle =>
      obtain ⟨hone, rfl, hfits⟩ := h.only hl
      have hset : p.loops.set 0 (l.afterClaim claimed) = [l.afterClaim claimed] := by
        rw [hone]
        rfl
      have hsilent := l.isSilent_afterClaim claimed
      rw [hset]
      exact h.replace hone sys ((Nat.add_le_add_left hle _).trans (hfits n hstage).2) hsilent.fits
        (fun _ hserves => hserves.afterClaim claimed) fun _ _ => hsilent

theorem Sound.signal_of_closing (h : p.Sound c) (hclosing : p.closing = true) :
    p.pool.signal = true := by
  by_contra hs
  rw [(h.serving (Bool.eq_false_iff.2 hs)).1] at hclosing
  cases hclosing

theorem Sound.step (h : p.Sound c) (m : PoolMove) : (p.step m).Sound c := by
  cases m with
  | start =>
      obtain ⟨-, heq⟩ | ⟨hidle, hnot, heq⟩ := p.start_cases
      · rwa [heq]
      · have hnone : p.loops = [] := by
          cases hs : p.pool.status with
          | running => exact absurd hs hnot
          | stopped => exact (h.stopped hs).2
          | draining => exact h.left hs hidle
        have hsilent := PollLoop.isSilent_start c
        rw [heq, hnone, h.config]
        refine ⟨rfl, h.inFlight_le, .inr ⟨_, rfl, hsilent.fits⟩,
          fun hs => ⟨hidle, .inr ⟨rfl, _, rfl, PollLoop.serves_start c⟩⟩, fun hclosing => ?_, nofun,
          nofun, fun _ _ => List.forall_mem_singleton.2 hsilent⟩
        cases hidle.symm.trans hclosing
  | shutdown =>
      obtain ⟨-, heq⟩ | ⟨-, -, heq⟩ := p.shutdown_cases
      · rwa [heq]
      · rw [heq]
        exact ⟨h.config, h.inFlight_le, h.loops, nofun, fun _ => rfl, nofun, nofun, nofun⟩
  | join =>
      obtain ⟨-, heq⟩ | ⟨hjoined, status, hend, heq⟩ := p.join_cases
      · rwa [heq]
      · have hclosing : p.closing = true := (Bool.and_eq_true_iff.1 hjoined).1
        have hsignal := h.signal_of_closing hclosing
        have hdraining := h.closing hclosing
        rw [heq]
        refine ⟨h.config, h.inFlight_le, .inl rfl, fun hs => ?_, nofun, fun hs => ⟨?_, rfl⟩,
          fun _ _ => rfl, fun _ _ => nofun⟩
        · cases hsignal.symm.trans hs
        · obtain ⟨hzero, -⟩ | ⟨-, rfl⟩ := hend
          · exact hzero
          · cases hdraining.symm.trans hs
  | _ => exact h.goes (goes_step id p)

/-! ### What the moves so far tell -/

/-- Among the moves is a call to shut down after one to start. -/
def IsSpent (moves : List PoolMove) : Prop :=
  ∃ before after, moves = before ++ .shutdown :: after ∧ .start ∈ before

def HasStarted (p : WorkerPool) : Prop := p.pool.signal = true ∨ p.pool.status ≠ .stopped

variable {moves : List PoolMove}

theorem isSpent_concat :
    IsSpent (moves ++ [m]) ↔ IsSpent moves ∨ m = .shutdown ∧ .start ∈ moves := by
  constructor
  · rintro ⟨before, after, heq, hstart⟩
    rcases List.eq_nil_or_concat after with rfl | ⟨after, last, rfl⟩
    · obtain ⟨rfl, hm⟩ := List.append_inj' heq rfl
      exact .inr ⟨List.singleton_inj.1 hm, hstart⟩
    · rw [List.concat_eq_append, ← List.cons_append, ← List.append_assoc] at heq
      exact .inl ⟨before, after, (List.append_inj' heq rfl).1, hstart⟩
  · rintro (⟨before, after, rfl, hstart⟩ | ⟨rfl, hstart⟩)
    · exact ⟨before, after ++ [m], by rw [List.append_assoc, List.cons_append], hstart⟩
    · exact ⟨moves, [], rfl, hstart⟩

/-- What one move adds to the history. -/
theorem Sound.history_step (h : p.Sound c) (m : PoolMove) :
    ((p.step m).HasStarted ↔ p.HasStarted ∨ m = .start) ∧
      ((p.step m).pool.signal = true ↔ p.pool.signal = true ∨ m = .shutdown ∧ p.HasStarted) := by
  by_cases hm : IsOwners m
  · cases m with
    | start =>
        have hstarted : (p.step .start).HasStarted := by
          obtain ⟨hclosing | hrunning, heq⟩ | ⟨-, -, heq⟩ := p.start_cases
          · rw [heq]
            exact .inl (h.signal_of_closing hclosing)
          · rw [heq]
            exact .inr (by rw [hrunning]; exact nofun)
          · exact heq ▸ .inr nofun
        have hsignal : (p.step .start).pool.signal = p.pool.signal := by
          obtain ⟨-, heq⟩ | ⟨-, -, heq⟩ := p.start_cases <;> rw [heq]
        simp only [hstarted, hsignal, or_true, reduceCtorEq, false_and, or_false, and_self]
    | shutdown =>
        have hstarted : ((p.step .shutdown).HasStarted ↔ p.HasStarted) ∧
            ((p.step .shutdown).pool.signal = true ↔ p.HasStarted) := by
          obtain ⟨hstill, heq⟩ | ⟨-, hnot, heq⟩ := p.shutdown_cases
          · rw [heq]
            refine ⟨.rfl, .inl, fun hstarted => ?_⟩
            rcases hstill with hclosing | hstopped
            · exact h.signal_of_closing hclosing
            · exact hstarted.resolve_right (not_not_intro hstopped)
          · rw [heq]
            exact ⟨iff_of_true (.inl rfl) (.inr hnot), iff_of_true rfl (.inr hnot)⟩
        simp only [hstarted, reduceCtorEq, or_false, true_and]
        exact ⟨.inr, fun hs => hs.elim .inl id⟩
    | join =>
        have hjoin : ((p.step .join).HasStarted ↔ p.HasStarted) ∧
            (p.step .join).pool.signal = p.pool.signal := by
          obtain ⟨-, heq⟩ | ⟨hjoined, _, -, heq⟩ := p.join_cases
          · exact heq.symm ▸ ⟨.rfl, rfl⟩
          · have hs := h.signal_of_closing (Bool.and_eq_true_iff.1 hjoined).1
            rw [heq]
            exact ⟨iff_of_true (.inl hs) (.inl hs), rfl⟩
        simp only [hjoin, reduceCtorEq, false_and, or_false, and_self]
    | _ => exact hm.elim
  · obtain ⟨hsignal, hstatus, -⟩ := (goes_step hm p).control
    have hstart : m ≠ .start := fun heq => hm (heq ▸ trivial)
    have hshutdown : m ≠ .shutdown := fun heq => hm (heq ▸ trivial)
    simp only [HasStarted, hsignal, hstatus, hstart, hshutdown, false_and, or_false, and_self]

theorem history (c : PoolConfig) (sys : System) (moves : List PoolMove) :
    ((create c sys).run moves).Sound c ∧
      (((create c sys).run moves).HasStarted ↔ .start ∈ moves) ∧
      (((create c sys).run moves).pool.signal = true ↔ IsSpent moves) := by
  induction moves using List.reverseRecOn with
  | nil =>
      refine ⟨sound_create c sys, ⟨?_, nofun⟩, ⟨nofun, ?_⟩⟩
      · rintro (hs | hs)
        · cases hs
        · exact absurd rfl hs
      · rintro ⟨before, after, heq, -⟩
        exact absurd heq.symm (List.append_ne_nil_of_right_ne_nil _ (List.cons_ne_nil _ _))
  | append_singleton moves m ih =>
      obtain ⟨hsound, hstarted, hspent⟩ := ih
      have hrun : (create c sys).run (moves ++ [m]) = ((create c sys).run moves).step m := by
        rw [run, List.foldl_append]
        rfl
      obtain ⟨hstarted', hspent'⟩ := hsound.history_step m
      rw [hrun, hstarted', hspent', hstarted, hspent, isSpent_concat, List.mem_append,
        List.mem_singleton, @eq_comm _ m .start]
      exact ⟨hsound.step m, .rfl, .rfl⟩

/-! ### Polls to come -/

def claimsDuring (p : WorkerPool) : List PoolMove → List Task
  | [] => []
  | m :: moves => p.claims m ++ (p.step m).claimsDuring moves

theorem Muted.claimsDuring (h : p.Muted) (moves : List PoolMove) : p.claimsDuring moves = [] := by
  induction moves generalizing p with
  | nil => rfl
  | cons m moves ih =>
      rw [WorkerPool.claimsDuring, claims_of_silent h.silent, ih (h.step m), List.append_nil]

theorem Stuck.claimsDuring (h : p.Stuck) (moves : List PoolMove) : p.claimsDuring moves = [] := by
  induction moves generalizing p with
  | nil => rfl
  | cons m moves ih =>
      have hrest : (p.step m).claimsDuring moves = [] :=
        (h.step m).elim ih fun hmuted => hmuted.claimsDuring moves
      rw [WorkerPool.claimsDuring, claims_of_silent h.silent, hrest, List.append_nil]

theorem Goes.loops_of_nil (hgo : p.Goes p') (h : p.loops = []) : p'.loops = [] := by
  cases hgo with
  | beside => exact h
  | loop hl => cases h ▸ List.mem_of_getElem? hl
  | claim hl => cases h ▸ List.mem_of_getElem? hl

theorem loops_step_of_nil (h : p.loops = []) (hm : m ≠ .start) : (p.step m).loops = [] := by
  cases m with
  | start => exact absurd rfl hm
  | shutdown =>
      obtain ⟨-, heq⟩ | ⟨-, -, heq⟩ := p.shutdown_cases
      · rwa [heq]
      · exact heq ▸ h
  | join =>
      obtain ⟨-, heq⟩ | ⟨-, _, -, heq⟩ := p.join_cases
      · rwa [heq]
      · exact heq ▸ rfl
  | _ => exact (goes_step id p).loops_of_nil h

/-- Without loops nothing is claimed before the next start. -/
theorem claimsDuring_of_nil (h : p.loops = []) (hmoves : .start ∉ moves) :
    p.claimsDuring moves = [] := by
  induction moves generalizing p with
  | nil => rfl
  | cons m moves ih =>
      have hm : m ≠ .start := fun heq => hmoves (heq ▸ List.mem_cons_self)
      have hrest : .start ∉ moves := fun hmem => hmoves (List.mem_cons_of_mem m hmem)
      have hsilent : ∀ l ∈ p.loops, l.IsSilent := h ▸ nofun
      rw [claimsDuring, claims_of_silent hsilent, ih (loops_step_of_nil h hm) hrest,
        List.append_nil]

/-- The tasks are what a poll with so many permits is to claim now: as many of the tasks that wait
as there are permits and places in a batch, those inserted first first. -/
def Polls (p : WorkerPool) (permits : Nat) (now : Instant) (tasks : List Task) : Prop :=
  tasks = (p.sys.store.claim p.config.worker p.config.kinds
      (min permits p.config.poller.batch) now).1 ∧
    tasks.length = min (min permits p.config.poller.batch)
      (p.sys.store.outbox.waiting p.config.kinds now).length

theorem polls_claim (hl : p.loops = [l]) (hserves : l.Serves p.config) {n : Nat}
    (hstage : l.stage = .claiming n) (now : Instant) : p.Polls n now (p.claims (.claim 0 now)) := by
  have hclaims : p.claims (.claim 0 now) = (p.sys.store.claim p.config.worker p.config.kinds
      (min n p.config.poller.batch) now).1 := by
    have hget : p.loops[0]? = some ⟨l.poller, .claiming n⟩ := by rw [hl, ← hstage]; rfl
    rw [claims, claimOf, hget, ← hserves.worker, ← hserves.kinds, ← hserves.config]
    rfl
  exact ⟨hclaims, by rw [hclaims]; exact Outbox.length_claim ..⟩

/-- A loop that is about to look or waits polls with the permits that are free. -/
theorem polls_next (hl : p.loops = [l]) (hserves : l.Serves p.config)
    (hsignal : p.pool.signal = false) (hstage : l.stage = .looking ∨ l.stage = .waiting)
    (hfree : 0 < p.free) (now : Instant) :
    p.Polls p.free now (p.claimsDuring [.wake 0 false, .look 0, .claim 0 now]) := by
  have hwake : l.wake false = ⟨l.poller, .looking⟩ := by
    unfold PollLoop.wake
    rcases hstage with hlooking | hwaiting
    · rw [if_neg (by rw [hlooking]; exact nofun), ← hlooking]
    · rw [if_pos hwaiting]
      rfl
  have hlook : (⟨l.poller, .looking⟩ : PollLoop).look false p.free =
      ⟨l.poller, .claiming p.free⟩ := by
    rw [PollLoop.look, if_pos rfl, if_neg Bool.false_ne_true, if_neg (Nat.pos_iff_ne_zero.1 hfree)]
  have hready : (p.step (.wake 0 false)).step (.look 0) =
      { p with loops := [⟨l.poller, .claiming p.free⟩] } := by
    simp only [step, hl, Bool.and_false, List.modify_zero_cons, hwake, hsignal]
    rw [← hlook]
    rfl
  have hclaims : p.claimsDuring [.wake 0 false, .look 0, .claim 0 now] =
      ((p.step (.wake 0 false)).step (.look 0)).claims (.claim 0 now) := List.append_nil _
  have hserves' : PollLoop.Serves p.config ⟨l.poller, .claiming p.free⟩ := hserves.at_stage rfl
  rw [hclaims, hready]
  exact polls_claim (p := { p with loops := [⟨l.poller, .claiming p.free⟩] }) rfl hserves' rfl now

/-! ### Calls that return -/

/-- A shutdown that reports success leaves a stopped pool without loops and tasks in flight. -/
theorem Sound.stopped_of_answer (h : p.Sound c) (hm : m ≠ .start)
    (hok : p.answer m = some (.ok ())) :
    (p.step m).pool.status = .stopped ∧ (p.step m).pool.inFlight = 0 ∧ (p.step m).loops = [] := by
  have hstopped : (p.step m).pool.status = .stopped := by
    cases m with
    | start => exact absurd rfl hm
    | shutdown =>
        simp only [answer] at hok
        split_ifs at hok with hclosing hstopped
        have hstill : (p.closing || decide (p.pool.status = .stopped)) = true :=
          Bool.or_eq_true_iff.2 (.inr (decide_eq_true hstopped))
        simp only [WorkerPool.step, hstill, if_true]
        exact hstopped
    | join =>
        simp only [answer, Pool.endShutdown] at hok
        split_ifs at hok with hjoined hzero
        · simp only [WorkerPool.step, hjoined, if_true, Pool.endShutdown, hzero]
        · cases hok
    | _ => cases hok
  exact ⟨hstopped, (h.step m).stopped hstopped⟩

/-- A shutdown that does not succeed waited too long for tasks in flight. -/
theorem timeout_of_answer {e : PoolError} (herror : p.answer .join = some (.error e)) :
    e = .shutdownTimeout ∧ 0 < p.pool.inFlight ∧ (p.step .join).pool.status = p.pool.status := by
  simp only [answer, Pool.endShutdown] at herror
  split_ifs at herror with hjoined hzero
  · cases herror
  · cases herror
    refine ⟨rfl, Nat.pos_of_ne_zero hzero, ?_⟩
    simp only [step, hjoined, if_true, Pool.endShutdown, hzero, if_false]

theorem start_answers (h : p.closing = false) :
    (p.pool.status = .running ∧ p.answer .start = some (.error .alreadyRunning) ∧
        p.step .start = p) ∨
      p.pool.status ≠ .running ∧ p.answer .start = some (.ok ()) ∧
        (p.step .start).pool.status = .running := by
  have hidle : ¬p.closing = true := Bool.eq_false_iff.1 h
  by_cases hrunning : p.pool.status = .running
  · refine .inl ⟨hrunning, ?_, ?_⟩
    · rw [answer, if_neg hidle, Pool.start, if_pos hrunning]
    · simp only [step, if_neg hidle, Pool.start, if_pos hrunning]
  · refine .inr ⟨hrunning, ?_, ?_⟩
    · rw [answer, if_neg hidle, Pool.start, if_neg hrunning]
    · simp only [step, if_neg hidle, Pool.start, if_neg hrunning]

/-- Whatever happens to a pool and to what it works on: its signal is set exactly if it was shut down
after it was first started. Until then, as long as it runs, it has one poll loop, whose next poll
claims what it is to claim; or the loop broke, as the product of its interval and the multiplier is
no span, and nothing is claimed ever again. A shutdown that reports success leaves the pool stopped,
with no task in flight, and nothing is claimed before the next start. Once the pool has been shut
down nothing is claimed after that start, either, though it succeeds and the pool is running then. A
start is refused only while the pool is running, and a shutdown fails only when tasks stay in
flight. -/
theorem pool_of_run (c : PoolConfig) (sys : System) (moves : List PoolMove) :
    let p := (create c sys).run moves
    (p.pool.signal = true ↔ IsSpent moves) ∧
    (p.pool.status = .running → ¬IsSpent moves → ∃ l, p.loops = [l] ∧
      (l.stage = .broken ∧ l.poller.longerInterval? = none ∧
          (∀ later, p.claimsDuring later = []) ∨
        (∃ n, l.stage = .claiming n ∧ 0 < n ∧ n ≤ p.free ∧
          ∀ now, p.Polls n now (p.claims (.claim 0 now))) ∨
        (l.stage = .looking ∨ l.stage = .waiting) ∧ (0 < p.free →
          ∀ now, p.Polls p.free now (p.claimsDuring [.wake 0 false, .look 0, .claim 0 now])))) ∧
    (∀ m, m ≠ .start → p.answer m = some (.ok ()) →
      (p.step m).pool.status = .stopped ∧ (p.step m).pool.inFlight = 0 ∧
        ∀ later, .start ∉ later → (p.step m).claimsDuring later = []) ∧
    (IsSpent moves → p.closing = false → ∀ later, p.claimsDuring later = []) ∧
    (p.closing = false →
      p.pool.status = .running ∧ p.answer .start = some (.error .alreadyRunning) ∧
          p.step .start = p ∨
        p.pool.status ≠ .running ∧ p.answer .start = some (.ok ()) ∧
          (p.step .start).pool.status = .running) ∧
    ∀ e, p.answer .join = some (.error e) → e = .shutdownTimeout ∧ 0 < p.pool.inFlight ∧
      (p.step .join).pool.status = p.pool.status := by
  intro p
  obtain ⟨hsound, -, hspent⟩ := history c sys moves
  refine ⟨hspent, fun hrunning hnot => ?_, fun m hm hok => ?_, fun hs hclosing => ?_, start_answers,
    fun e => timeout_of_answer⟩
  · have hsignal : p.pool.signal = false := Bool.eq_false_iff.2 (mt hspent.1 hnot)
    obtain ⟨hidle, hstopped | ⟨-, l, hl, hserves⟩⟩ := hsound.serving hsignal
    · cases hrunning.symm.trans hstopped
    · have hserves' : l.Serves p.config := hsound.config.symm ▸ hserves
      refine ⟨l, hl, ?_⟩
      cases hstage : l.stage with
      | ended => exact absurd hstage hserves.not_ended
      | broken =>
          have hstuck : p.Stuck := ⟨hrunning, hidle, hl ▸ List.forall_mem_singleton.2 hstage⟩
          exact .inl ⟨rfl, hserves.broken hstage, hstuck.claimsDuring⟩
      | claiming n =>
          refine .inr (.inl ⟨n, rfl, ?_⟩)
          rcases hsound.loops with hnone | ⟨l', hl', hfits⟩
          · cases hnone.symm.trans hl
          · cases hl.symm.trans hl'
            obtain ⟨hpos, hle⟩ := hfits n hstage
            refine ⟨hpos, ?_, polls_claim hl hserves' hstage⟩
            rw [free, hsound.config]
            exact Nat.le_sub_of_add_le' hle
      | looking => exact .inr (.inr ⟨.inl rfl, polls_next hl hserves' hsignal (.inl hstage)⟩)
      | waiting => exact .inr (.inr ⟨.inr rfl, polls_next hl hserves' hsignal (.inr hstage)⟩)
  · obtain ⟨hstopped, hnone, hloops⟩ := hsound.stopped_of_answer hm hok
    exact ⟨hstopped, hnone, fun later hlater => claimsDuring_of_nil hloops hlater⟩
  · have hmuted : p.Muted := ⟨hspent.2 hs, hsound.silent (hspent.2 hs) hclosing⟩
    exact hmuted.claimsDuring

/-- Two pools that are running, with a permit free and a task that waits, and claim nothing: one that
has been started again, and one whose intervals are to grow so much that a span cannot hold them. -/
theorem pool_of_run_idle :
    let sys : System := ⟨((Store.empty 10).enqueue (.create .notify ⟨1⟩) ⟨0, 0⟩).2, .standard⟩
    let steep : PoolConfig := { PoolConfig.standard with
      poller := PollerConfig.standard.withMultiplier (.ofDecimal false 1 300) }
    let restarted := (create .standard sys).run
      [.start, .shutdown, .look 0, .endReclaim, .join, .start]
    let broken := (create steep ⟨.empty 10, .standard⟩).run
      [.start, .look 0, .claim 0 ⟨0, 0⟩, .alter sys]
    (restarted.pool.status = .running ∧ 0 < restarted.free ∧
        restarted.sys.store.outbox.waiting TaskKind.all ⟨0, 0⟩ ≠ [] ∧
        ∀ later, restarted.claimsDuring later = []) ∧
      broken.pool.status = .running ∧ broken.pool.signal = false ∧ 0 < broken.free ∧
        broken.sys.store.outbox.waiting TaskKind.all ⟨0, 0⟩ ≠ [] ∧
        ∀ later, broken.claimsDuring later = [] := by
  intro sys steep restarted broken
  obtain ⟨-, -, -, hspent, -⟩ := pool_of_run .standard sys
    [.start, .shutdown, .look 0, .endReclaim, .join, .start]
  obtain ⟨hsignal, hserving, -⟩ := pool_of_run steep ⟨.empty 10, .standard⟩
    [.start, .look 0, .claim 0 ⟨0, 0⟩, .alter sys]
  have hunspent : broken.pool.signal = false := by decide +kernel
  have hstage : broken.loops.map PollLoop.stage = [.broken] := by decide +kernel
  refine ⟨⟨rfl, by decide +kernel, by decide +kernel, hspent ⟨[.start], _, rfl, ?_⟩ rfl⟩, ?_⟩
  · exact List.mem_cons_self
  · refine ⟨by decide +kernel, hunspent, by decide +kernel, by decide +kernel, ?_⟩
    obtain ⟨l, hl, hdoes⟩ := hserving (by decide +kernel)
      fun hs => Bool.false_ne_true (hunspent.symm.trans (hsignal.2 hs))
    have hbroken : l.stage = .broken :=
      (List.cons.inj ((congrArg (List.map PollLoop.stage) hl).symm.trans hstage)).1
    rw [hbroken] at hdoes
    obtain ⟨-, -, hnothing⟩ | ⟨n, hn, -⟩ | ⟨hn | hn, -⟩ := hdoes
    · exact hnothing
    all_goals cases hn

/-! ### Pools left running -/

/-- The other pool comes of this one by moves that are not the owner's. -/
def Reaches (p p' : WorkerPool) : Prop := ∃ moves, (∀ m ∈ moves, ¬IsOwners m) ∧ p' = p.run moves

theorem Reaches.refl (p : WorkerPool) : p.Reaches p := ⟨[], nofun, rfl⟩

theorem reaches_step (hm : ¬IsOwners m) (p : WorkerPool) : p.Reaches (p.step m) :=
  ⟨[m], List.forall_mem_singleton.2 hm, rfl⟩

theorem Reaches.trans {p p' p'' : WorkerPool} (h : p.Reaches p') (h' : p'.Reaches p'') :
    p.Reaches p'' := by
  obtain ⟨moves, hmoves, rfl⟩ := h
  obtain ⟨moves', hmoves', rfl⟩ := h'
  exact ⟨moves ++ moves', List.forall_mem_append.2 ⟨hmoves, hmoves'⟩, (List.foldl_append ..).symm⟩

theorem reaches_pollOut (now : Instant) (polls : Nat) (p : WorkerPool) :
    p.Reaches (pollOut now polls p).2 := by
  induction polls generalizing p with
  | zero => exact .refl p
  | succ polls ih =>
      have hclaim : p.Reaches ((p.step (.look 0)).step (.claim 0 now)) :=
        (reaches_step id p).trans (reaches_step id _)
      simp only [pollOut]
      split
      · exact hclaim
      · exact hclaim.trans (ih _)

theorem reaches_executeEach (h : Handlers) (draw : Draw) (now : Instant) (tasks : List Task)
    (p : WorkerPool) : p.Reaches (executeEach h draw now p tasks) := by
  induction tasks generalizing p with
  | nil => exact .refl p
  | cons t tasks ih =>
      rw [executeEach]
      split
      next conclusion sys _ =>
        have halter : p.Reaches (p.step (.alter sys)) := reaches_step id p
        refine Reaches.trans ?_ (ih _)
        split_ifs
        · exact halter
        · exact halter.trans (reaches_step id _)

theorem reaches_rounds (h : Handlers) (draw : Draw) (now : Instant) (n : Nat) (p : WorkerPool) :
    p.Reaches (rounds h draw now n p) := by
  induction n generalizing p with
  | zero => exact .refl p
  | succ n ih =>
      have hpoll : p.Reaches (pollOut now (p.config.concurrency + 1) (p.step (.wake 0 false))).2 :=
        (reaches_step id p).trans (reaches_pollOut now _ _)
      rw [rounds]
      split
      next p' heq =>
        rw [heq] at hpoll
        exact hpoll
      next tasks p' _ heq =>
        rw [heq] at hpoll
        exact (hpoll.trans (reaches_executeEach h draw now tasks p')).trans (ih _)

/-- A pool that is left running until it is idle makes moves of its loops and tasks only. -/
theorem reaches_runUntilIdle (p : WorkerPool) (h : Handlers) (draw : Draw) (now : Instant) :
    p.Reaches (p.runUntilIdle h draw now) := by
  have hpoll := reaches_pollOut now (p.config.concurrency + 1) p
  have hreclaim := hpoll.trans (reaches_step (m := .reclaim now) id _)
  exact (hreclaim.trans (reaches_executeEach h draw now _ _)).trans (reaches_rounds h draw now _ _)

end WorkerPool

end BoardActivity
