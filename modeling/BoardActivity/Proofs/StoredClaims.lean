import BoardActivity.Database.Outbox
import Mathlib.Tactic.SplitIfs

/-!
# Claims read back from the database

A count of attempts is written to a column of 32 bits with a sign, and is brought into range when
it is read. Below 2³¹ it comes back unchanged. From 2³¹ on the column holds a negative number: an
attempt comes back as zero, and a budget as one attempt (`granted`).

So the claim of a row holds its row unless the number of its attempt is 2³¹ or more, which the
claims of a task never reach. A budget of 2³¹ attempts or more, however, is lost: the task is dead
after its first claim that does not complete it (`budgets_of_columns`).
-/

namespace BoardActivity.Database

/-- The budget that a task is granted whose budget is stored in a column. -/
def granted (budget : Nat) : Nat := if budget < pow2 31 then budget else 1

/-- The number of an attempt as it is read from a column. -/
def recalled (attempt : Nat) : Nat := if attempt < pow2 31 then attempt else 0

variable {n a k : Nat}

theorem pow2_31 : pow2 31 = 2147483648 := rfl

theorem pow2_32 : pow2 32 = 2 * pow2 31 := rfl

/-- A count of 32 bits in its column: what is too large for the sign wraps around. -/
theorem storedCount_eq (h : n < pow2 32) :
    storedCount n = if n < pow2 31 then (n : Int) else n - pow2 32 := by
  rw [storedCount, Int.bmod_def, Int.emod_eq_of_lt (by omega) (by omega)]
  have h32 := pow2_32
  split_ifs <;> omega

theorem storedCount_of_lt (h : n < pow2 31) : storedCount n = n := by
  have h32 := pow2_32
  rw [storedCount_eq (by omega), if_pos h]

theorem toNat_storedCount (h : a < pow2 32) : (storedCount a).toNat = recalled a := by
  rw [storedCount_eq h]
  have h32 := pow2_32
  unfold recalled
  split_ifs <;> omega

theorem toNat_max_storedCount (h1 : 1 ≤ n) (h : n < pow2 32) :
    (max (storedCount n) 1).toNat = granted n := by
  rw [storedCount_eq h]
  have h32 := pow2_32
  unfold granted
  split_ifs <;> omega

theorem recalled_eq_iff : recalled a = a ↔ a < pow2 31 := by
  have h31 := pow2_31
  unfold recalled
  split_ifs <;> omega

theorem granted_eq_iff : granted n = n ↔ n < pow2 31 := by
  have h31 := pow2_31
  unfold granted
  split_ifs <;> omega

theorem granted_pos (h1 : 1 ≤ n) : 0 < granted n := by
  unfold granted
  split_ifs <;> omega

/-- The number read from a column is stored as what the column held, if it was in range. -/
theorem storedCount_recalled_iff (h : a < pow2 32) :
    storedCount a = storedCount (recalled a) ↔ a < pow2 31 := by
  have hr : recalled a < pow2 31 := by
    unfold recalled
    split_ifs with ha
    · exact ha
    · decide
  rw [storedCount_of_lt hr, storedCount_eq h]
  have h32 := pow2_32
  unfold recalled
  split_ifs <;> omega

theorem ofStored_name (kind : TaskKind) : TaskKind.ofStored kind.name = .ok kind := by
  cases kind <;> rfl

namespace ClaimRow

theorem read_of_kind {r : ClaimRow} (kind : TaskKind) (h : r.kind = kind.name) :
    r.read = .ok ⟨r.id, kind, r.subject, r.attempt.toNat, (max r.maxAttempts 1).toNat,
      r.claimedBy⟩ := by
  rw [read, h, ofStored_name]
  rfl

/-- A claim as it is read from the row it is stored as. -/
theorem read_ofTask {t : Task} (ha : t.attempt < pow2 32) (h1 : 1 ≤ t.maxAttempts)
    (hn : t.maxAttempts < pow2 32) :
    (ofTask t).read =
      .ok { t with attempt := recalled t.attempt, maxAttempts := granted t.maxAttempts } := by
  rw [read_of_kind t.kind rfl]
  simp only [ofTask, toNat_storedCount ha, toNat_max_storedCount h1 hn]

theorem read_ofTask_eq_iff {t : Task} (ha : t.attempt < pow2 32) (h1 : 1 ≤ t.maxAttempts)
    (hn : t.maxAttempts < pow2 32) :
    (ofTask t).read = .ok t ↔ t.attempt < pow2 31 ∧ t.maxAttempts < pow2 31 := by
  rw [read_ofTask ha h1 hn, ← recalled_eq_iff, ← granted_eq_iff]
  constructor
  · intro h
    have ht := Except.ok.inj h
    exact ⟨congrArg Task.attempt ht, congrArg Task.maxAttempts ht⟩
  · rintro ⟨hra, hgn⟩
    rw [hra, hgn]

end ClaimRow

inductive Loss where
  /-- Its worker settles it as failed. -/
  | failed (error : String) (delay : Span)
  /-- It is taken back, its worker being lost. -/
  | takenBack
deriving Repr, DecidableEq

namespace OutboxRow

/-- The row after a claim by the worker that ended so; nothing if there is no such claim. -/
def attempt? (r : OutboxRow) : String × Loss → Option OutboxRow
  | (worker, loss) => do
    let (c, r) ← r.claim? worker
    let t ← c.read.toOption
    match loss with
    | .failed error delay => (r.fail t error delay).toOption.map Prod.snd
    | .takenBack => return r.release

def attempts? (r : OutboxRow) : List (String × Loss) → Option OutboxRow
  | [] => some r
  | l :: ls => (r.attempt? l).bind fun r => r.attempts? ls

/-- The row of a task of a budget after a number of claims that did not complete it: as long as the
budget that the column grants is not used up, the task waits; then it is dead. -/
structure Tried (t : NewTask) (id : Ident) (k : Nat) (r : OutboxRow) : Prop where
  id_eq : r.id = id
  kind_eq : r.kind = t.kind.name
  subject_eq : r.subject = t.subject
  attempt_eq : r.attempt = k
  maxAttempts_eq : r.maxAttempts = storedCount t.maxAttempts
  status_eq : r.status =
    if k < granted t.maxAttempts then TaskStatus.pending.name else TaskStatus.dead.name

variable {t : NewTask} {id : Ident} {r r' : OutboxRow} {worker : String} {c : ClaimRow}

theorem tried_ofNew (id : Ident) (h1 : 1 ≤ t.maxAttempts) : Tried t id 0 (ofNew t id) where
  id_eq := rfl
  kind_eq := rfl
  subject_eq := rfl
  attempt_eq := by rw [ofNew, Int.natCast_zero]
  maxAttempts_eq := by rw [ofNew]
  status_eq := by rw [ofNew, if_pos (granted_pos h1)]

/-- Attempts are left by the column exactly if they are by the budget that it grants. -/
theorem attempt_lt_iff (hn : n < pow2 32) : (k + 1 : Int) < storedCount n ↔ k + 1 < granted n := by
  rw [storedCount_eq hn]
  have h32 := pow2_32
  unfold granted
  split_ifs <;> omega

def nextClaim (t : NewTask) (id : Ident) (k : Nat) (worker : String) : Task :=
  ⟨id, t.kind, t.subject, k + 1, granted t.maxAttempts, worker⟩

namespace Tried

variable (h : Tried t id k r)
include h

theorem claim?_eq_none (hk : ¬ k < granted t.maxAttempts) : r.claim? worker = none := by
  rw [claim?, h.status_eq, if_neg hk, if_neg (by decide)]

theorem claim?_eq (hk : k < granted t.maxAttempts) :
    r.claim? worker = some ((r.claim worker).toClaim worker, r.claim worker) := by
  rw [claim?, h.status_eq, if_pos hk, if_pos rfl]

/-- What the worker reads is the next claim of the task. -/
theorem read_toClaim (h1 : 1 ≤ t.maxAttempts) (hn : t.maxAttempts < pow2 32) :
    ((r.claim worker).toClaim worker).read = .ok (nextClaim t id k worker) := by
  rw [ClaimRow.read_of_kind t.kind h.kind_eq]
  simp only [toClaim, claim, nextClaim, h.id_eq, h.subject_eq, h.attempt_eq, h.maxAttempts_eq,
    toNat_max_storedCount h1 hn]
  congr 1

/-- That claim holds the row: the number of its attempt is in the range of the column. -/
theorem isHeldBy_nextClaim (worker : String) (hk : k < granted t.maxAttempts) :
    (r.claim worker).isHeldBy (nextClaim t id k worker) = true := by
  have hlt : k + 1 < pow2 31 := by
    have h31 := pow2_31
    unfold granted at hk
    split_ifs at hk <;> omega
  simp [isHeldBy, claim, nextClaim, h.id_eq, h.attempt_eq, storedCount_of_lt hlt]

theorem postpone (hk : k + 1 < granted t.maxAttempts) :
    Tried t id (k + 1) (r.claim worker).postpone where
  id_eq := h.id_eq
  kind_eq := h.kind_eq
  subject_eq := h.subject_eq
  attempt_eq := by simp [OutboxRow.postpone, claim, h.attempt_eq]
  maxAttempts_eq := h.maxAttempts_eq
  status_eq := by
    rw [if_pos hk]
    rfl

theorem bury (error : String) (hk : ¬ k + 1 < granted t.maxAttempts) :
    Tried t id (k + 1) ((r.claim worker).bury error) where
  id_eq := h.id_eq
  kind_eq := h.kind_eq
  subject_eq := h.subject_eq
  attempt_eq := by simp [OutboxRow.bury, claim, h.attempt_eq]
  maxAttempts_eq := h.maxAttempts_eq
  status_eq := by
    rw [if_neg hk]
    rfl

theorem withError (error : String) : Tried t id k { r with lastError := some error } :=
  ⟨h.id_eq, h.kind_eq, h.subject_eq, h.attempt_eq, h.maxAttempts_eq, h.status_eq⟩

/-- A claim that does not complete the task uses up one attempt. -/
theorem attempt?_eq_some (h1 : 1 ≤ t.maxAttempts) (hn : t.maxAttempts < pow2 32)
    (hk : k < granted t.maxAttempts) (l : String × Loss) :
    ∃ r', r.attempt? l = some r' ∧ Tried t id (k + 1) r' := by
  obtain ⟨worker, loss⟩ := l
  have hleft : (r.claim worker).attempt < (r.claim worker).maxAttempts ↔
      k + 1 < granted t.maxAttempts := by
    rw [← attempt_lt_iff hn]
    simp only [claim, h.attempt_eq, h.maxAttempts_eq]
  simp only [attempt?, h.claim?_eq hk, h.read_toClaim h1 hn, Except.toOption, Option.bind_eq_bind,
    Option.bind_some]
  cases loss with
  | failed error delay =>
      simp only [OutboxRow.fail, h.isHeldBy_nextClaim worker hk, if_true]
      by_cases hlt : k + 1 < granted t.maxAttempts
      · rw [if_pos (hleft.2 hlt)]
        exact ⟨_, rfl, (h.postpone hlt).withError error⟩
      · rw [if_neg (mt hleft.1 hlt)]
        exact ⟨_, rfl, h.bury error hlt⟩
  | takenBack =>
      refine ⟨_, rfl, ?_⟩
      by_cases hlt : k + 1 < granted t.maxAttempts
      · rw [release, if_neg (Int.not_le.2 (hleft.2 hlt))]
        exact h.postpone hlt
      · rw [release, if_pos (Int.not_lt.1 (mt hleft.1 hlt))]
        exact h.bury _ hlt

theorem attempt?_eq_none (hk : ¬ k < granted t.maxAttempts) (l : String × Loss) :
    r.attempt? l = none := by
  simp only [attempt?, h.claim?_eq_none hk, Option.bind_eq_bind, Option.bind_none]

end Tried

/-- As many claims are made as the budget grants, and each uses up one attempt. -/
theorem Tried.attempts? (h1 : 1 ≤ t.maxAttempts) (hn : t.maxAttempts < pow2 32)
    (losses : List (String × Loss)) (h : Tried t id k r) (hk : k ≤ granted t.maxAttempts) :
    ((∃ r', r.attempts? losses = some r') ↔ k + losses.length ≤ granted t.maxAttempts) ∧
      ∀ r', r.attempts? losses = some r' → Tried t id (k + losses.length) r' := by
  induction losses generalizing k r with
  | nil =>
      constructor
      · simpa only [OutboxRow.attempts?, List.length_nil, Nat.add_zero, hk, iff_true] using ⟨r, rfl⟩
      · intro r' hr
        exact Option.some.inj hr ▸ h
  | cons l losses ih =>
      rw [OutboxRow.attempts?, List.length_cons]
      by_cases hlt : k < granted t.maxAttempts
      · obtain ⟨r₁, hr₁, ht⟩ := h.attempt?_eq_some h1 hn hlt l
        have hlen : k + (losses.length + 1) = k + 1 + losses.length := by omega
        rw [hr₁, Option.bind_some, hlen]
        exact ih ht hlt
      · rw [h.attempt?_eq_none hlt, Option.bind_none]
        constructor
        · constructor
          · rintro ⟨r', hr⟩
            cases hr
          · omega
        · intro r' hr
          cases hr

end OutboxRow

open OutboxRow

def newTask (t : Task) : NewTask := (NewTask.create t.kind t.subject).withMaxAttempts t.maxAttempts

theorem maxAttempts_newTask {t : Task} (h1 : 1 ≤ t.maxAttempts) :
    (newTask t).maxAttempts = t.maxAttempts := Nat.max_eq_left h1

structure KeepsCounts (t : Task) : Prop where
  /-- The claim as it is read back. -/
  read : (ClaimRow.ofTask t).read =
    .ok { t with attempt := recalled t.attempt, maxAttempts := granted t.maxAttempts }
  /-- Which claims are read back as they were. -/
  same : (ClaimRow.ofTask t).read = .ok t ↔ t.attempt < pow2 31 ∧ t.maxAttempts < pow2 31
  /-- The claim that is read back holds the row of the claim if its attempt is in range. -/
  holds : ∀ (r : OutboxRow) (t' : Task), r.isHeldBy t = true → (ClaimRow.ofTask t).read = .ok t' →
    (r.isHeldBy t' = true ↔ t.attempt < pow2 31)
  /-- The claims that a new task gets while none completes it. -/
  claims : ∀ id losses, (∃ r, (ofNew (newTask t) id).attempts? losses = some r) ↔
    losses.length ≤ granted t.maxAttempts
  /-- Each of them is read as the next attempt of the granted budget, and holds its row. -/
  next : ∀ id losses r worker, (ofNew (newTask t) id).attempts? losses = some r →
    losses.length < granted t.maxAttempts →
    ∃ c r' next done, r.claim? worker = some (c, r') ∧ c.read = .ok next ∧
      next = ⟨id, t.kind, t.subject, losses.length + 1, granted t.maxAttempts, worker⟩ ∧
      r'.isHeldBy next = true ∧ r'.complete next = .ok done
  /-- After the last of them the task is dead. -/
  dead : ∀ id losses r, (ofNew (newTask t) id).attempts? losses = some r →
    losses.length = granted t.maxAttempts → r.status = TaskStatus.dead.name
  /-- Which budgets are granted as they are. -/
  budget : granted t.maxAttempts = t.maxAttempts ↔ t.maxAttempts < pow2 31

theorem isHeldBy_of_recalled {r : OutboxRow} {t : Task} (ha : t.attempt < pow2 32)
    (h : r.isHeldBy t = true) (m : Nat) :
    r.isHeldBy { t with attempt := recalled t.attempt, maxAttempts := m } = true ↔
      t.attempt < pow2 31 := by
  simp only [isHeldBy, Bool.and_eq_true, beq_iff_eq] at h ⊢
  obtain ⟨⟨⟨hid, hstatus⟩, hby⟩, hattempt⟩ := h
  simp only [hid, hstatus, hby, hattempt, true_and, storedCount_recalled_iff ha]

/-- Counts of 32 bits survive the columns exactly if they are below 2³¹: this is what every larger
one comes back as, which claims hold their row, and how many attempts a task is granted. -/
theorem budgets_of_columns (t : Task) (ha : t.attempt < pow2 32) (h1 : 1 ≤ t.maxAttempts)
    (hn : t.maxAttempts < pow2 32) : KeepsCounts t := by
  have hmax := maxAttempts_newTask h1
  rw [← hmax] at h1 hn
  have hrun := fun id losses => (tried_ofNew id h1).attempts? h1 hn losses (Nat.zero_le _)
  simp only [Nat.zero_add] at hrun
  rw [hmax] at h1 hn
  refine ⟨ClaimRow.read_ofTask ha h1 hn, ClaimRow.read_ofTask_eq_iff ha h1 hn, ?_,
    fun id losses => hmax ▸ (hrun id losses).1, ?_, ?_, granted_eq_iff⟩
  · intro r t' hr ht'
    rw [ClaimRow.read_ofTask ha h1 hn] at ht'
    rw [← Except.ok.inj ht']
    exact isHeldBy_of_recalled ha hr _
  · intro id losses r worker hr hk
    have ht := (hrun id losses).2 r hr
    rw [← hmax] at h1 hn hk ⊢
    have hheld := ht.isHeldBy_nextClaim worker hk
    exact ⟨_, _, _, _, ht.claim?_eq hk, ht.read_toClaim h1 hn, rfl, hheld, if_pos hheld⟩
  · intro id losses r hr hk
    rw [((hrun id losses).2 r hr).status_eq, hmax, if_neg (by omega)]

/-- The largest budget of 32 bits is stored as minus one, and one attempt is granted of it. -/
theorem budgets_of_columns_wrapped :
    (2147483648 < pow2 32 ∧ 1 ≤ 4294967295 ∧ 4294967295 < pow2 32) ∧
      KeepsCounts ⟨⟨1⟩, .notify, ⟨2⟩, 2147483648, 4294967295, "w"⟩ ∧
      storedCount 4294967295 = -1 ∧ granted 4294967295 = 1 ∧ recalled 2147483648 = 0 :=
  ⟨⟨by decide, by decide, by decide⟩,
    budgets_of_columns ⟨⟨1⟩, .notify, ⟨2⟩, 2147483648, 4294967295, "w"⟩ (by decide) (by decide)
      (by decide), by decide, by decide, by decide⟩

end BoardActivity.Database
