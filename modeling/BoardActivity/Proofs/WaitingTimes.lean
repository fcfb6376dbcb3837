import BoardActivity.Proofs.InstantOrder
import BoardActivity.Proofs.SharedQueue

/-!
# Waiting times

Two times are waited for in the outbox: a claim is taken back when it is older than a threshold, and
a failed task is handed out again when its delay is over. The longer either of them is, the later
this happens. A higher threshold takes back nothing that a lower one leaves, and none takes back a
claim that is younger; a task put off is not handed out by any claim made before its time, whatever
calls come in between, unless a later one has handed it out already (`Outbox.PutOff`).

Thresholds and delays are offsets between instants, up to `Span.offsetLimit`. Beyond, they count as
none at all: such a threshold takes back every claim made before, and such a delay is over at once.
-/

namespace BoardActivity

namespace TaskRow

variable {r : TaskRow} {cutoff cutoff' : Instant}

theorem isStale_iff : r.isStale cutoff = true ↔
    r.status = .claimed ∧ ∃ claimedAt, r.claimedAt = some claimedAt ∧ claimedAt < cutoff := by
  rw [isStale, Bool.and_eq_true, beq_iff_eq, Option.any_eq_true]
  rfl

theorem isStale_mono (h : cutoff ≤ cutoff') (hs : r.isStale cutoff = true) :
    r.isStale cutoff' = true := by
  obtain ⟨hc, claimedAt, hat, hlt⟩ := isStale_iff.1 hs
  exact isStale_iff.2 ⟨hc, claimedAt, hat, Instant.lt_of_lt_of_le hlt h⟩

theorem status_release (r : TaskRow) (now : Instant) :
    (r.release now).status = .pending ∨ (r.release now).status = .dead := by
  unfold release
  split_ifs
  · exact .inr rfl
  · exact .inl rfl

end TaskRow

namespace Outbox

/-- The row gives up its claim, and waits again or is dead. -/
def TakenBack (o o' : Outbox) (r : TaskRow) : Prop :=
  r ∈ o.rows.rows ∧ r.status = .claimed ∧
    ∃ r', o'.rows.find? r.id = some r' ∧ (r'.status = .pending ∨ r'.status = .dead)

/-- The task, if it is there, waits, and is not visible before its time. -/
def PutOff (o : Outbox) (id : Ident) (v : Instant) : Prop :=
  ∀ r, o.rows.find? id = some r → r.status = .pending ∧ v ≤ r.visibleAt

variable {allowed : NewTask → Prop} {o o' : Outbox} {n n' : Nat} {ts : List Task} {id : Ident}
  {v now : Instant} {r : TaskRow} {threshold : Span}

theorem find?_reclaim {cutoff : Instant} {k : Nat}
    (h : o.reclaim threshold now = some (k, o'))
    (hc : now.shift? (-threshold.toOffset) = some cutoff) (hr : r ∈ o.rows.rows) :
    o'.rows.find? r.id = some (if r.isStale cutoff then r.release now else r) := by
  obtain ⟨cutoff', hc', rfl⟩ := reclaim_eq_some h
  cases hc.symm.trans hc'
  have hf : o.rows.find? r.id = some r := Table.mem_rows_iff.1 hr
  rw [find?_update, hf]
  rfl

/-- Exactly the claims made before the cutoff are taken back. -/
theorem takenBack_iff {cutoff : Instant} {k : Nat} (h : o.reclaim threshold now = some (k, o'))
    (hc : now.shift? (-threshold.toOffset) = some cutoff) :
    o.TakenBack o' r ↔ r ∈ o.rows.rows ∧ r.isStale cutoff = true := by
  constructor
  · rintro ⟨hr, hclaimed, r', hf, hstatus⟩
    refine ⟨hr, ?_⟩
    rw [find?_reclaim h hc hr] at hf
    split_ifs at hf with hs
    · exact hs
    · cases hf
      rw [hclaimed] at hstatus
      rcases hstatus with hstatus | hstatus
      all_goals cases hstatus
  · rintro ⟨hr, hs⟩
    have hf := find?_reclaim h hc hr
    rw [if_pos hs] at hf
    exact ⟨hr, TaskRow.status_of_isStale hs, _, hf, r.status_release now⟩

theorem Move.putOff (h : Move allowed o n ts o' n') (hid : id.value < n)
    (hts : ∀ t ∈ ts, t.id ≠ id) (hp : o.PutOff id v) : o'.PutOff id v := by
  intro r' hr'
  cases hf : o.rows.find? id with
  | none =>
      rw [h.absent hf hid] at hr'
      cases hr'
  | some r =>
      obtain ⟨hpending, hv⟩ := hp r hf
      rcases h.fate_claim hf hid with hn | ⟨x, hx, hs | ⟨-, worker, time, rfl, hclaim⟩⟩
      · rw [hn] at hr'
        cases hr'
      · cases hx.symm.trans hr'
        rcases hs.eq_or with rfl | ⟨hclaimed, -⟩
        · exact ⟨hpending, hv⟩
        · rw [hpending] at hclaimed
          cases hclaimed
      · exact (hts _ hclaim (find?_id hf).2).elim

theorem Moves.putOff (h : Moves allowed o n ts o' n') (hid : id.value < n)
    (hts : ∀ t ∈ ts, t.id ≠ id) (hp : o.PutOff id v) : o'.PutOff id v := by
  induction h with
  | done => exact hp
  | snoc hms hm ih =>
      exact hm.putOff (hid.trans_le hms.next_le)
        (fun t ht => hts t (List.mem_append_right _ ht))
        (ih hid fun t ht => hts t (List.mem_append_left _ ht))

/-- A task that is to be tried again is put off until its delay is over. -/
theorem fail_willRetry {t : Task} {error : String} {delay delay' : Span} {attempt : Nat}
    (h : o.fail t error delay now = (some (.ok (.willRetry attempt delay')), o')) :
    ∃ r v, o.held t = .ok r ∧ now.shift? delay.toOffset = some v ∧
      o'.rows.find? t.id = some (r.postpone error v) := by
  cases hh : o.held t with
  | error e =>
      rw [fail_of_error hh] at h
      cases h
  | ok r =>
      rcases fail_of_held hh error delay now with ⟨v, -, hv, he⟩ | ⟨-, -, he⟩ | ⟨-, he⟩
      · rw [he] at h
        cases h
        refine ⟨r, v, rfl, hv, ?_⟩
        rw [← (held_find? hh).2.1]
        exact Table.find?_put_self o.rows (r.postpone error v)
      · rw [he] at h
        cases h
      · rw [he] at h
        cases h

/-- A claim of a task put off is not made before its time. -/
theorem PutOff.le_of_mem_claim (h : o.PutOff id v) {worker : String} {kinds : List TaskKind}
    {max : Nat} {t : Task} (ht : t ∈ (o.claim worker kinds max now).1) (hid : t.id = id) :
    v ≤ now := by
  obtain ⟨r, hr, rfl⟩ := mem_claim ht
  obtain ⟨hrow, hclaimable⟩ := mem_of_mem_claimable hr
  obtain ⟨-, hvisible, -⟩ := TaskRow.isClaimable_iff.1 hclaimable
  have hf : o.rows.find? id = some r := hid ▸ Table.mem_rows_iff.1 hrow
  exact Instant.le_trans (h r hf).2 hvisible

end Outbox

/-! ### One call -/

namespace Store

variable {s s₁ s₂ : Store} {now : Instant}

theorem outbox_of_reclaim {threshold : Span} {k : Nat}
    (h : s.reclaim threshold now = some (k, s₁)) :
    s.outbox.reclaim threshold now = some (k, s₁.outbox) := by
  obtain ⟨⟨k, outbox⟩, hr, heq⟩ := Option.map_eq_some_iff.1 h
  cases heq
  exact hr

theorem outbox_of_fail {t : Task} {error : String} {delay : Span}
    {answer : Option (Except Error FailureOutcome)} (h : s.fail t error delay now = (answer, s₁)) :
    s.outbox.fail t error delay now = (answer, s₁.outbox) ∧ s₁.supply = s.supply := by
  obtain ⟨hanswer, rfl⟩ := Prod.mk.inj h
  exact ⟨Prod.ext hanswer rfl, rfl⟩

/-- What a longer threshold takes back, a shorter one takes back as well, with the same result. -/
theorem takenBack_of_longer {low high : Span} {k k' : Nat} (hclock : now.nanos < 2000000000)
    (hle : low ≤ high) (hhigh : high.nanoseconds ≤ Span.offsetLimit)
    (hlow : s.reclaim low now = some (k, s₁)) (hrun : s.reclaim high now = some (k', s₂))
    {r : TaskRow} (hr : s.outbox.TakenBack s₂.outbox r) : s.outbox.TakenBack s₁.outbox r ∧
      s₁.outbox.rows.find? r.id = s₂.outbox.rows.find? r.id := by
  have hs := outbox_of_reclaim hlow
  have hs' := outbox_of_reclaim hrun
  obtain ⟨cutoff, hcut, -⟩ := Outbox.reclaim_eq_some hs
  obtain ⟨cutoff', hcut', -⟩ := Outbox.reclaim_eq_some hs'
  have hearlier : cutoff' ≤ cutoff := by
    rw [← (Instant.shift?_eq_some_iff.1 hcut).1, ← (Instant.shift?_eq_some_iff.1 hcut').1]
    exact Instant.shift_mono hclock (Int.neg_le_neg (Span.toOffset_mono hle hhigh))
  obtain ⟨hrow, hstale'⟩ := (Outbox.takenBack_iff hs' hcut').1 hr
  have hstale := TaskRow.isStale_mono hearlier hstale'
  refine ⟨(Outbox.takenBack_iff hs hcut).2 ⟨hrow, hstale⟩, ?_⟩
  rw [Outbox.find?_reclaim hs hcut hrow, Outbox.find?_reclaim hs' hcut' hrow, if_pos hstale,
    if_pos hstale']

/-- What is taken back was claimed longer ago than the threshold. -/
theorem aged_of_takenBack {threshold : Span} {k : Nat}
    (hfits : threshold.nanoseconds ≤ Span.offsetLimit)
    (hrun : s.reclaim threshold now = some (k, s₁)) {r : TaskRow}
    (hr : s.outbox.TakenBack s₁.outbox r) : ∃ claimedAt cutoff,
      r.claimedAt = some claimedAt ∧ now.shift? (-threshold.nanoseconds) = some cutoff ∧
      claimedAt < cutoff ∧ (now.nanos < 1000000000 → claimedAt.nanos < 1000000000 →
        threshold.nanoseconds < now.since claimedAt) := by
  have hs := outbox_of_reclaim hrun
  obtain ⟨cutoff, hcut, -⟩ := Outbox.reclaim_eq_some hs
  obtain ⟨-, hstale⟩ := (Outbox.takenBack_iff hs hcut).1 hr
  obtain ⟨-, claimedAt, hclaimed, hlt⟩ := TaskRow.isStale_iff.1 hstale
  rw [Span.toOffset_of_le hfits] at hcut
  refine ⟨claimedAt, cutoff, hclaimed, hcut, hlt, fun hnow hat => ?_⟩
  rw [← (Instant.shift?_eq_some_iff.1 hcut).1] at hlt
  exact Instant.lt_since_of_lt_shift hnow hat hlt

/-- A threshold that is no offset takes back what was claimed at all before now. -/
theorem takenBack_iff_of_limit {threshold : Span} {k : Nat} (hclock : now.nanos < 2000000000)
    (hlimit : Span.offsetLimit < threshold.nanoseconds)
    (hrun : s.reclaim threshold now = some (k, s₁)) (r : TaskRow) :
    s.outbox.TakenBack s₁.outbox r ↔ r ∈ s.outbox.rows.rows ∧
      r.status = .claimed ∧ ∃ claimedAt, r.claimedAt = some claimedAt ∧ claimedAt < now := by
  have hs := outbox_of_reclaim hrun
  obtain ⟨cutoff, hcut, -⟩ := Outbox.reclaim_eq_some hs
  rw [Outbox.takenBack_iff hs hcut, TaskRow.isStale_iff]
  rw [Span.toOffset_of_lt hlimit] at hcut
  rw [Instant.eq_of_shift?_zero hclock hcut]

/-- A failed task that is to be tried again is put off, under an identifier that was given out. -/
theorem putOff_of_fail (hq : s.Queued) {t : Task} {error : String} {delay delay' : Span}
    {attempt : Nat}
    (h : s.fail t error delay now = (some (.ok (.willRetry attempt delay')), s₁)) :
    ∃ v, now.shift? delay.toOffset = some v ∧ s₁.outbox.PutOff t.id v ∧
      t.id.value < s₁.supply.next := by
  obtain ⟨houtbox, hsupply⟩ := outbox_of_fail h
  obtain ⟨r, v, hheld, hv, hfound⟩ := Outbox.fail_willRetry houtbox
  refine ⟨v, hv, fun x hx => ?_, ?_⟩
  · cases hfound.symm.trans hx
    exact ⟨rfl, Instant.le_refl v⟩
  · obtain ⟨hrow, hid⟩ := Outbox.find?_id (Outbox.held_eq_ok_iff.1 hheld).1
    rw [hsupply, ← hid]
    exact hq.below r hrow

end Store

/-! ### Runs -/

namespace System

def claimsDuring (sys : System) (g : Setup) :
    List (Instant × SharedCall) → List (Instant × Task)
  | [] => []
  | (now, c) :: rest =>
    (sys.claimsOf now c).map (fun t => (now, t)) ++ (sys.callShared g now c).claimsDuring g rest

variable {sys : System} {g : Setup} {id : Ident} {v now : Instant}

theorem le_of_mem_claimsOf (h : sys.store.outbox.PutOff id v) {c : SharedCall} {t : Task}
    (ht : t ∈ sys.claimsOf now c) (hid : t.id = id) : v ≤ now := by
  cases c with
  | program c =>
      cases c with
      | claim worker kinds max => exact h.le_of_mem_claim ht hid
      | createDraft | changeCard | destroyCard | comment | saveWebhook | resubscribe | deactivate
        | markRead | failNotificationsAfter | complete | fail | reclaim | notify | dispatch
        | deliver | execute => exact (List.not_mem_nil ht).elim
  | queue c =>
      cases c with
      | claim worker kinds max => exact h.le_of_mem_claim ht hid
      | enqueue | commit | complete | fail | reclaim | destroy => exact (List.not_mem_nil ht).elim

/-- As long as a task put off is not handed out, it stays put off. -/
theorem putOff_callShared (h : sys.store.outbox.PutOff id v)
    (hid : id.value < sys.store.supply.next) (g : Setup) (now : Instant) {c : SharedCall}
    (hc : ∀ t ∈ c.tasks, t.Built)
    (hts : ∀ t ∈ sys.claimsOf now c, t.id ≠ id) :
    (sys.callShared g now c).store.outbox.PutOff id v ∧
      id.value < (sys.callShared g now c).store.supply.next := by
  have hm := sys.movesBy_callShared g now hc
  exact ⟨Outbox.Moves.putOff hm hid hts h, hid.trans_le (Outbox.Moves.next_le hm)⟩

/-- The first claim to hand out a task put off is not made before its time. -/
theorem le_of_first_claim (h : sys.store.outbox.PutOff id v)
    (hid : id.value < sys.store.supply.next) (g : Setup) {after : List (Instant × SharedCall)}
    (hafter : ∀ c ∈ after, ∀ t ∈ c.2.tasks, t.Built) {later : Instant} {t : Task}
    (hfirst : (sys.claimsDuring g after).find? (fun x => x.2.id == id) = some (later, t)) :
    v ≤ later := by
  induction after generalizing sys with
  | nil => cases hfirst
  | cons c after ih =>
      rw [claimsDuring, List.find?_append] at hfirst
      cases hnow : ((sys.claimsOf c.1 c.2).map fun t => (c.1, t)).find? fun x => x.2.id == id with
      | some x =>
          rw [hnow, Option.some_or] at hfirst
          cases hfirst
          obtain ⟨u, hu, heq⟩ := List.mem_map.1 (List.mem_of_find?_eq_some hnow)
          cases heq
          exact le_of_mem_claimsOf h hu (by simpa using List.find?_some hnow)
      | none =>
          rw [hnow, Option.none_or] at hfirst
          have hts : ∀ t ∈ sys.claimsOf c.1 c.2, t.id ≠ id := fun t ht => by
            simpa using List.find?_eq_none.1 hnow _ (List.mem_map_of_mem ht)
          obtain ⟨hstill, hid'⟩ :=
            putOff_callShared h hid g c.1 (hafter c List.mem_cons_self) hts
          exact ih hstill hid' (fun d hd => hafter d (List.mem_cons_of_mem c hd)) hfirst

theorem time_of_mem_claimsDuring (sys : System) (g : Setup) {after : List (Instant × SharedCall)}
    {x : Instant × Task} (hx : x ∈ sys.claimsDuring g after) : ∃ c ∈ after, c.1 = x.1 := by
  induction after generalizing sys with
  | nil => cases hx
  | cons c after ih =>
      rcases List.mem_append.1 hx with hx | hx
      · obtain ⟨t, -, rfl⟩ := List.mem_map.1 hx
        exact ⟨c, List.mem_cons_self, rfl⟩
      · obtain ⟨d, hd, htime⟩ := ih _ hx
        exact ⟨d, List.mem_cons_of_mem c hd, htime⟩

/-- When clocks do not go back, no claim at all is made of the task before its time. -/
theorem le_of_claim (h : sys.store.outbox.PutOff id v) (hid : id.value < sys.store.supply.next)
    (g : Setup) {after : List (Instant × SharedCall)}
    (hafter : ∀ c ∈ after, ∀ t ∈ c.2.tasks, t.Built)
    (hclock : after.Pairwise fun c d => c.1 ≤ d.1) {x : Instant × Task}
    (hx : x ∈ sys.claimsDuring g after) (hxid : x.2.id = id) : v ≤ x.1 := by
  induction after generalizing sys with
  | nil => cases hx
  | cons c after ih =>
      obtain ⟨hlater, hrest⟩ := List.pairwise_cons.1 hclock
      by_cases hts : ∀ t ∈ sys.claimsOf c.1 c.2, t.id ≠ id
      · obtain ⟨hstill, hid'⟩ := putOff_callShared h hid g c.1 (hafter c List.mem_cons_self) hts
        rcases List.mem_append.1 hx with hx | hx
        · obtain ⟨t, ht, rfl⟩ := List.mem_map.1 hx
          exact (hts t ht hxid).elim
        · exact ih hstill hid' (fun d hd => hafter d (List.mem_cons_of_mem c hd)) hrest hx
      · -- Handed out by now, and everything else is later.
        push Not at hts
        obtain ⟨t, ht, htid⟩ := hts
        have hnow := le_of_mem_claimsOf h ht htid
        obtain ⟨d, hd, htime⟩ := time_of_mem_claimsDuring sys g hx
        rw [← htime]
        rcases List.mem_cons.1 hd with rfl | hd
        · exact hnow
        · exact Instant.le_trans hnow (hlater d hd)

structure Waits (sys : System) (now : Instant) : Prop where
  /-- What a higher threshold takes back, a lower one takes back as well, with the same result. -/
  lower : ∀ low high k k' s s', low ≤ high → high.nanoseconds ≤ Span.offsetLimit →
    sys.store.reclaim low now = some (k, s) → sys.store.reclaim high now = some (k', s') →
    ∀ r, sys.store.outbox.TakenBack s'.outbox r → sys.store.outbox.TakenBack s.outbox r ∧
      s.outbox.rows.find? r.id = s'.outbox.rows.find? r.id
  /-- What is taken back was claimed longer ago than the threshold. -/
  aged : ∀ threshold k s, threshold.nanoseconds ≤ Span.offsetLimit →
    sys.store.reclaim threshold now = some (k, s) →
    ∀ r, sys.store.outbox.TakenBack s.outbox r → ∃ claimedAt cutoff,
      r.claimedAt = some claimedAt ∧ now.shift? (-threshold.nanoseconds) = some cutoff ∧
      claimedAt < cutoff ∧ (now.nanos < 1000000000 → claimedAt.nanos < 1000000000 →
        threshold.nanoseconds < now.since claimedAt)
  /-- A task put off is not handed out before its time: not by the first claim that hands it out,
  and by none at all when clocks do not go back. -/
  putOff : ∀ t error delay attempt delay' s,
    sys.store.fail t error delay now = (some (.ok (.willRetry attempt delay')), s) →
    delay.nanoseconds ≤ Span.offsetLimit →
    ∃ v, now.shift? delay.nanoseconds = some v ∧ ∀ g transport after,
      (∀ c ∈ after, ∀ t ∈ c.2.tasks, t.Built) →
      (∀ later u, (claimsDuring ⟨s, transport⟩ g after).find? (fun x => x.2.id == t.id) =
        some (later, u) → v ≤ later) ∧
      ((after.Pairwise fun c d => c.1 ≤ d.1) →
        ∀ x ∈ claimsDuring ⟨s, transport⟩ g after, x.2.id = t.id → v ≤ x.1)
  /-- A threshold that is no offset takes back what was claimed at all before now. -/
  unbounded : ∀ threshold k s, Span.offsetLimit < threshold.nanoseconds →
    sys.store.reclaim threshold now = some (k, s) →
    ∀ r, sys.store.outbox.TakenBack s.outbox r ↔ r ∈ sys.store.outbox.rows.rows ∧
      r.status = .claimed ∧ ∃ claimedAt, r.claimedAt = some claimedAt ∧ claimedAt < now
  /-- A delay that is no offset is over at once. -/
  atOnce : ∀ t error delay attempt delay' s,
    sys.store.fail t error delay now = (some (.ok (.willRetry attempt delay')), s) →
    Span.offsetLimit < delay.nanoseconds →
    ∃ r, s.outbox.rows.find? t.id = some r ∧ r.status = .pending ∧ r.visibleAt = now

theorem waits_of_queued (hq : sys.store.Queued) (hclock : now.nanos < 2000000000) :
    sys.Waits now := by
  refine ⟨fun low high k k' s s' hle hhigh hlow hrun r hr => ?_,
    fun threshold k s hfits hrun r hr => ?_,
    fun t error delay attempt delay' s hfail hfits => ?_,
    fun threshold k s hlimit hrun r => ?_, fun t error delay attempt delay' s hfail hlimit => ?_⟩
  · exact Store.takenBack_of_longer hclock hle hhigh hlow hrun hr
  · exact Store.aged_of_takenBack hfits hrun hr
  · obtain ⟨v, hv, hputOff, hbelow⟩ := Store.putOff_of_fail hq hfail
    rw [Span.toOffset_of_le hfits] at hv
    refine ⟨v, hv, fun g transport after hafter => ?_⟩
    have hstart : (⟨s, transport⟩ : System).store.outbox.PutOff t.id v := hputOff
    exact ⟨fun later u hfirst => le_of_first_claim hstart hbelow g hafter hfirst,
      fun hclocks x hx hxid => le_of_claim hstart hbelow g hafter hclocks hx hxid⟩
  · exact Store.takenBack_iff_of_limit hclock hlimit hrun r
  · obtain ⟨r, v, -, hv, hfound⟩ := Outbox.fail_willRetry (Store.outbox_of_fail hfail).1
    rw [Span.toOffset_of_lt hlimit] at hv
    exact ⟨_, hfound, rfl, Instant.eq_of_shift?_zero hclock hv⟩

/-- In a store that any calls have led to, longer waits do not end sooner: a higher threshold takes
back no claim that a lower one leaves, nor one that is younger, and a task put off is not handed out
before its delay is over, as long as threshold and delay are offsets between instants. Beyond, they
count as none at all. Of the clock it is only assumed that its seconds are no longer than two. -/
theorem waits_of_runShared (h : sys.store.outbox = .empty) (g : Setup)
    {calls : List (Instant × SharedCall)} (hcalls : ∀ c ∈ calls, ∀ t ∈ c.2.tasks, t.Built)
    (hclock : now.nanos < 2000000000) : (sys.runShared g calls).Waits now :=
  waits_of_queued (queued_runShared h g hcalls) hclock

/-- A claim made a hundred seconds ago is older than ninety-nine seconds and not than a hundred, and
a failed task waits for its minute. The largest number of milliseconds is not waited for at all. -/
theorem waits_of_runShared_claimed :
    let start : Instant := ⟨0, 0⟩
    let now : Instant := ⟨100, 0⟩
    let never : Span := .ofMillis (pow2 64 - 1)
    let sys : System := ⟨Store.empty 10, .standard⟩
    let g : Setup := ⟨.standard, ⟨.standard, .standard, .standard⟩, .standard⟩
    let calls : List (Instant × SharedCall) :=
      [(start, .queue (.enqueue (.create .notify ⟨1⟩))),
       (start, .program (.claim "a" [.notify] 1))]
    let s := (sys.runShared g calls).store
    let t : Task := ⟨⟨10⟩, .notify, ⟨1⟩, 1, 5, "a"⟩
    let again : Task := ⟨⟨10⟩, .notify, ⟨1⟩, 2, 5, "b"⟩
    let failed (delay : Span) : Store := (s.fail t "down" delay now).2
    sys.store.outbox = .empty ∧ (∀ c ∈ calls, ∀ t ∈ c.2.tasks, t.Built) ∧
      now.nanos < 2000000000 ∧ (sys.runShared g calls).Waits now ∧
      (s.reclaim (.ofSeconds 99) now).map Prod.fst = some 1 ∧
      (s.reclaim (.ofSeconds 100) now).map Prod.fst = some 0 ∧
      (s.reclaim never now).map Prod.fst = some 1 ∧
      ((failed (.ofSeconds 60)).claim "b" [.notify] 1 ⟨159, 999999999⟩).1 = [] ∧
      ((failed (.ofSeconds 60)).claim "b" [.notify] 1 ⟨160, 0⟩).1 = [again] ∧
      ((failed never).claim "b" [.notify] 1 now).1 = [again] := by
  intro start now never sys g calls s t again failed
  have hempty : sys.store.outbox = .empty := rfl
  have hcalls : ∀ c ∈ calls, ∀ t ∈ c.2.tasks, t.Built := by
    simp [calls, SharedCall.tasks, QueueCall.tasks, NewTask.Built.create]
  have hclock : now.nanos < 2000000000 := by decide
  exact ⟨hempty, hcalls, hclock, waits_of_runShared hempty g hcalls hclock, by decide +kernel,
    by decide +kernel, by decide +kernel, by decide +kernel, by decide +kernel, by decide +kernel⟩

end System

end BoardActivity
