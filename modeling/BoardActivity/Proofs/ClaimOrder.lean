import BoardActivity.Proofs.SharedQueue

/-!
# Claims in the order of insertion

A claim takes the tasks that wait, are visible and of its kinds, those inserted first first. Rows
are found in whatever order the table lists them and sorted by the number under which they were
inserted; retries and claims taken back leave this number alone. So the table can be thought of as
standing in the order of insertion (`Outbox.InSequence`), and a claim takes the first rows of a
filter of it, however the rows are listed.
-/

namespace BoardActivity

theorem TaskRow.seq_of_face {r r' : TaskRow} (h : r'.face = r.face) : r'.seq = r.seq := by
  simp only [face, Prod.mk.injEq] at h
  exact h.2.2.2.2

namespace Outbox

structure InSequence (o : Outbox) : Prop where
  ascending : o.rows.rows.Pairwise fun r r' => r.seq < r'.seq
  seq_le : ∀ r ∈ o.rows.rows, r.seq ≤ o.seq

variable {allowed : NewTask → Prop} {o o' : Outbox} {n n' : Nat} {ts : List Task}

theorem inSequence_empty : empty.InSequence :=
  ⟨.nil, fun _ hr => (List.not_mem_nil hr).elim⟩

theorem InSequence.update (h : o.InSequence) {f : TaskRow → TaskRow} (hf : ∀ r, (f r).id = r.id)
    (hface : ∀ r ∈ o.rows.rows, (f r).face = r.face) : (o.update f hf).InSequence := by
  constructor
  · refine List.pairwise_map.2 (h.ascending.imp_of_mem fun ha hb hlt => ?_)
    rwa [TaskRow.seq_of_face (hface _ ha), TaskRow.seq_of_face (hface _ hb)]
  · intro r' hr'
    obtain ⟨r, hr, rfl⟩ := List.mem_map.1 hr'
    exact TaskRow.seq_of_face (hface r hr) ▸ h.seq_le r hr

theorem InSequence.insert (h : o.InSequence) (t : NewTask) {id : Ident}
    (hid : o.rows.find? id = none) (now : Instant) : (o.insert t id now).InSequence := by
  have hrows := insert_rows hid t now
  constructor
  · rw [hrows, List.pairwise_append]
    refine ⟨h.ascending, List.pairwise_singleton _ _, fun r hr r' hr' => ?_⟩
    cases List.mem_singleton.1 hr'
    exact Nat.lt_succ_of_le (h.seq_le r hr)
  · intro r hr
    rw [hrows] at hr
    rcases List.mem_append.1 hr with hr | hr
    · exact (h.seq_le r hr).trans (Nat.le_succ o.seq)
    · cases List.mem_singleton.1 hr
      exact le_rfl

theorem Move.inSequence (h : Move allowed o n ts o' n') (hb : o.Below n) (hs : o.InSequence) :
    o'.InSequence := by
  cases h with
  | mint => exact hs
  | insert t now _ _ hn _ => exact hs.insert t (hb.find?_eq_none hn) now
  | settle _ hset =>
      obtain ⟨f, hf, hstep, rfl⟩ := hset
      exact hs.update hf fun r hr => (hstep r hr).face_eq
  | claim _ worker kinds max now =>
      rw [claim_eq_update]
      exact hs.update _ fun r _ => o.face_claimed worker kinds max now r
  | remove _ subjects =>
      exact ⟨hs.ascending.sublist List.filter_sublist,
        fun r hr => hs.seq_le r (List.mem_filter.1 hr).1⟩

theorem Moves.inSequence (h : Moves allowed o n ts o' n') (hb : o.Below n) (hs : o.InSequence) :
    o'.InSequence := by
  induction h with
  | done => exact hs
  | snoc hms hm ih => exact hm.inSequence (hms.rows_below hb) (ih hb)

/-- The row was there before, or it has come since, under a number that had not been given out. -/
def KeptOrNew (o : Outbox) (n : Nat) (r' : TaskRow) : Prop :=
  (∃ r ∈ o.rows.rows, r'.face = r.face) ∨ (n ≤ r'.id.value ∧ o.seq < r'.seq)

theorem Move.seq_le (h : Move allowed o n ts o' n') : o.seq ≤ o'.seq := by
  cases h with
  | insert => exact Nat.le_succ o.seq
  | settle _ hset =>
      obtain ⟨f, hf, -, rfl⟩ := hset
      exact le_rfl
  | mint | claim | remove => exact le_rfl

theorem Move.keptOrNew (h : Move allowed o n ts o' n') (hb : o.Below n) {r' : TaskRow}
    (hr' : r' ∈ o'.rows.rows) : o.KeptOrNew n r' := by
  cases h with
  | mint => exact .inl ⟨r', hr', rfl⟩
  | insert t now _ _ hn _ =>
      rw [insert_rows (hb.find?_eq_none hn)] at hr'
      rcases List.mem_append.1 hr' with hr | hr
      · exact .inl ⟨r', hr, rfl⟩
      · cases List.mem_singleton.1 hr
        exact .inr ⟨hn, Nat.lt_succ_self o.seq⟩
  | settle _ hset =>
      obtain ⟨f, hf, hstep, rfl⟩ := hset
      obtain ⟨r, hr, rfl⟩ := List.mem_map.1 hr'
      exact .inl ⟨r, hr, (hstep r hr).face_eq⟩
  | claim _ worker kinds max now =>
      rw [claim_eq_update] at hr'
      obtain ⟨r, hr, rfl⟩ := List.mem_map.1 hr'
      exact .inl ⟨r, hr, o.face_claimed worker kinds max now r⟩
  | remove _ subjects => exact .inl ⟨r', (List.mem_filter.1 hr').1, rfl⟩

theorem Moves.seq_le (h : Moves allowed o n ts o' n') : o.seq ≤ o'.seq := by
  induction h with
  | done => exact le_rfl
  | snoc _ hm ih => exact ih.trans hm.seq_le

theorem Moves.keptOrNew (h : Moves allowed o n ts o' n') (hb : o.Below n) {r' : TaskRow}
    (hr' : r' ∈ o'.rows.rows) : o.KeptOrNew n r' := by
  induction h generalizing r' with
  | done => exact .inl ⟨r', hr', rfl⟩
  | snoc hms hm ih =>
      rcases hm.keptOrNew (hms.rows_below hb) hr' with ⟨r, hr, hface⟩ | ⟨hid, hseq⟩
      · rcases ih hb hr with ⟨r₀, hr₀, hface₀⟩ | ⟨hid, hseq⟩
        · exact .inl ⟨r₀, hr₀, hface.trans hface₀⟩
        · rw [← TaskRow.id_of_face_eq hface] at hid
          rw [← TaskRow.seq_of_face hface] at hseq
          exact .inr ⟨hid, hseq⟩
      · exact .inr ⟨hms.next_le.trans hid, hms.seq_le.trans_lt hseq⟩

/-- A row that stands before one that was there was there itself. -/
theorem KeptOrNew.of_lt {r r' : TaskRow} (hs : o.InSequence) (hb : o.Below n) (h : o.KeptOrNew n r)
    (hlt : r.seq < r'.seq) (h' : o.KeptOrNew n r') (hin : o.rows.contains r'.id = true) :
    o.rows.contains r.id = true := by
  obtain ⟨x', hx'⟩ := Table.contains_iff.1 hin
  obtain ⟨hrow', hid'⟩ := find?_id hx'
  rcases h with ⟨x, hx, hface⟩ | ⟨-, hseq⟩
  · rw [TaskRow.id_of_face_eq hface]
    exact Table.contains_iff.2 ⟨x, Table.mem_rows_iff.1 hx⟩
  · rcases h' with ⟨x, hx, hface⟩ | ⟨hid, -⟩
    · have hle := hs.seq_le x hx
      rw [← TaskRow.seq_of_face hface] at hle
      omega
    · have hlow := hb x' hrow'
      rw [hid'] at hlow
      omega

/-! ### One claim -/

def waiting (o : Outbox) (kinds : List TaskKind) (now : Instant) : List TaskRow :=
  o.rows.rows.filter fun r =>
    decide (r.status = .pending ∧ r.kind ∈ kinds ∧ r.visibleAt ≤ now)

variable {kinds : List TaskKind} {max : Nat} {now : Instant}

theorem waiting_eq (o : Outbox) (kinds : List TaskKind) (now : Instant) :
    (o.rows.rows.filter fun r => r.isClaimable kinds now) = o.waiting kinds now := by
  refine List.filter_congr fun r _ => Bool.eq_iff_iff.2 ?_
  rw [TaskRow.isClaimable_iff, decide_eq_true_eq]
  exact and_congr_right fun _ => and_comm

/-- However the rows are listed, a claim takes the first of those that wait. -/
theorem InSequence.claimable_eq (h : o.InSequence) (hperm : o'.rows.rows.Perm o.rows.rows)
    (kinds : List TaskKind) (now : Instant) (max : Nat) :
    o'.claimable kinds now max = (o.waiting kinds now).take max := by
  have hascending : (o.waiting kinds now).Pairwise fun r r' => r.seq < r'.seq :=
    h.ascending.sublist List.filter_sublist
  have hsame : ((o'.waiting kinds now).mergeSort fun a b => decide (a.seq ≤ b.seq)).Perm
      (o.waiting kinds now) :=
    (List.mergeSort_perm _ _).trans (hperm.filter _)
  have hsorted : ((o'.waiting kinds now).mergeSort fun a b => decide (a.seq ≤ b.seq)).Pairwise
      fun a b => a.seq ≤ b.seq := by
    refine (List.pairwise_mergeSort (fun a b c hab hbc => ?_) (fun a b => ?_) _).imp
      of_decide_eq_true
    · exact decide_eq_true ((of_decide_eq_true hab).trans (of_decide_eq_true hbc))
    · rw [Bool.or_eq_true, decide_eq_true_eq, decide_eq_true_eq]
      exact Nat.le_total a.seq b.seq
  have hapart : ((o.waiting kinds now).map TaskRow.seq).Nodup :=
    List.pairwise_map.2 (hascending.imp Nat.ne_of_lt)
  unfold claimable
  rw [waiting_eq]
  refine congrArg (List.take max) (hsame.eq_of_pairwise (fun r r' hr hr' hle hge => ?_) hsorted
    (hascending.imp Nat.le_of_lt))
  exact List.inj_on_of_nodup_map hapart (hsame.mem_iff.1 hr) hr' (hle.antisymm hge)

/-- What a claim does: it takes the first of the rows that wait, and changes nothing else. -/
structure ClaimsFirst (o : Outbox) (worker : String) (kinds : List TaskKind) (max : Nat)
    (now : Instant) : Prop where
  tasks : (o.claim worker kinds max now).1 = ((o.waiting kinds now).take max).map fun r =>
    ⟨r.id, r.kind, r.subject, r.attempt + 1, r.maxAttempts, worker⟩
  count : (o.claim worker kinds max now).1.length = min max (o.waiting kinds now).length
  rows : (o.claim worker kinds max now).2.rows.rows = o.rows.rows.map fun r =>
    if r ∈ (o.waiting kinds now).take max then
      { r with
        status := .claimed
        attempt := r.attempt + 1
        claimedBy := some worker
        claimedAt := some now }
    else r
  frame : ∃ rows, (o.claim worker kinds max now).2 = { o with rows := rows }
  /-- In whatever order the rows are listed. -/
  listed : ∀ o' : Outbox, o'.rows.rows.Perm o.rows.rows →
    (o'.claim worker kinds max now).1 = (o.claim worker kinds max now).1 ∧
      (o'.claim worker kinds max now).2.rows.rows.Perm (o.claim worker kinds max now).2.rows.rows
  /-- In whatever order the kinds are asked for, and however often. -/
  asked : ∀ kinds', (∀ kind, kind ∈ kinds' ↔ kind ∈ kinds) →
    o.claim worker kinds' max now = o.claim worker kinds max now

theorem InSequence.claimsFirst (h : o.InSequence) (worker : String) (kinds : List TaskKind)
    (max : Nat) (now : Instant) : o.ClaimsFirst worker kinds max now := by
  have hfirst := h.claimable_eq (.refl _) kinds now max
  refine ⟨?_, ?_, ?_, ⟨_, rfl⟩, fun o' hperm => ⟨?_, ?_⟩, fun kinds' hkinds => ?_⟩
  · rw [claim_fst, hfirst]
    rfl
  · rw [claim_fst, hfirst, List.length_map, List.length_take]
  · rw [claim_eq_update, ← hfirst]
    rfl
  · rw [claim_fst, claim_fst, h.claimable_eq hperm, hfirst]
  · rw [claim_eq_update, claim_eq_update]
    have hsame : o'.claimed worker kinds max now = o.claimed worker kinds max now := by
      funext r
      rw [claimed, claimed, h.claimable_eq hperm, hfirst]
    change (o'.rows.rows.map _).Perm (o.rows.rows.map _)
    rw [hsame]
    exact hperm.map _
  · have hclaimable : o.claimable kinds' now max = o.claimable kinds now max := by
      unfold claimable TaskRow.isClaimable
      simp only [hkinds]
    unfold claim
    rw [hclaimable]

end Outbox

namespace System

variable {sys : System}

structure ClaimedInOrder (sys : System) (g : Setup) (calls : List (Instant × SharedCall))
    (worker : String) (kinds : List TaskKind) (max : Nat) (now : Instant) (s : Store) :
    Prop where
  /-- The rows that wait are in the order of their numbers. -/
  numbered : (s.outbox.waiting kinds now).Pairwise fun r r' => r.seq < r'.seq
  /-- A row that was there at some point of the run comes before all that were not. -/
  inserted : ∀ before after, calls = before ++ after →
    (s.outbox.waiting kinds now).Pairwise fun r r' =>
      (sys.runShared g before).store.outbox.rows.contains r'.id = true →
        (sys.runShared g before).store.outbox.rows.contains r.id = true
  claims : s.outbox.ClaimsFirst worker kinds max now
  frame : s.claim worker kinds max now = ((s.outbox.claim worker kinds max now).1,
    { s with outbox := (s.outbox.claim worker kinds max now).2 })

theorem inSequence_runShared (h : sys.store.outbox = .empty) (g : Setup)
    {calls : List (Instant × SharedCall)} (hcalls : ∀ c ∈ calls, ∀ t ∈ c.2.tasks, t.Built) :
    (sys.runShared g calls).store.outbox.InSequence := by
  obtain ⟨claims, hm⟩ := sys.movesTo_runShared g hcalls
  exact hm.inSequence (Store.queued_of_empty h).below (h ▸ Outbox.inSequence_empty)

/-- After whatever has been done to a store that began without tasks, a claim takes the first of the
rows that wait, in the order in which they were inserted, and changes only these. -/
theorem claims_in_order (h : sys.store.outbox = .empty) (g : Setup)
    {calls : List (Instant × SharedCall)} (hcalls : ∀ c ∈ calls, ∀ t ∈ c.2.tasks, t.Built)
    (worker : String) (kinds : List TaskKind) (max : Nat) (now : Instant) :
    sys.ClaimedInOrder g calls worker kinds max now (sys.runShared g calls).store := by
  have hs := inSequence_runShared h g hcalls
  refine ⟨hs.ascending.sublist List.filter_sublist, fun before after hsplit => ?_,
    hs.claimsFirst worker kinds max now, rfl⟩
  have hbefore : ∀ c ∈ before, ∀ t ∈ c.2.tasks, t.Built := fun c hc =>
    hcalls c (hsplit ▸ List.mem_append_left after hc)
  have hafter : ∀ c ∈ after, ∀ t ∈ c.2.tasks, t.Built := fun c hc =>
    hcalls c (hsplit ▸ List.mem_append_right before hc)
  have hs₁ := inSequence_runShared h g hbefore
  have hb₁ := (queued_runShared h g hbefore).below
  obtain ⟨claims, hm⟩ := (sys.runShared g before).movesTo_runShared g hafter
  rw [← runShared_append, ← hsplit] at hm
  refine (hs.ascending.imp_of_mem fun hr hr' hlt => ?_).sublist List.filter_sublist
  exact (hm.keptOrNew hb₁ hr).of_lt hs₁ hb₁ hlt (hm.keptOrNew hb₁ hr')

/-- Of four tasks, the first was claimed, and failed after the others had come; the second is of
another kind, and the fourth is not visible yet. The first keeps its place before the third. -/
theorem claims_in_order_retried :
    let now : Instant := ⟨0, 0⟩
    let later : Instant := ⟨60, 0⟩
    let sys : System := ⟨Store.empty 10, .standard⟩
    let g : Setup := ⟨.standard, ⟨.standard, .standard, .standard⟩, .standard⟩
    let calls : List (Instant × SharedCall) :=
      [(now, .queue (.enqueue (.create .notify ⟨1⟩))),
       (now, .program (.claim "a" [.notify] 1)),
       (now, .queue (.enqueue (.create .dispatchWebhooks ⟨2⟩))),
       (now, .queue (.enqueue (.create .notify ⟨3⟩))),
       (later, .queue (.enqueue (.create .deliverWebhook ⟨4⟩))),
       (now, .program (.fail ⟨⟨10⟩, .notify, ⟨1⟩, 1, 5, "a"⟩ "down" .zero))]
    let s := (sys.runShared g calls).store
    sys.store.outbox = .empty ∧ (∀ c ∈ calls, ∀ t ∈ c.2.tasks, t.Built) ∧
      sys.ClaimedInOrder g calls "b" [.deliverWebhook, .notify, .notify] 3 now s ∧
      (s.outbox.claim "b" [.deliverWebhook, .notify, .notify] 3 now).1 =
        [⟨⟨10⟩, .notify, ⟨1⟩, 2, 5, "b"⟩, ⟨⟨12⟩, .notify, ⟨3⟩, 1, 5, "b"⟩] := by
  intro now later sys g calls s
  have hcalls : ∀ c ∈ calls, ∀ t ∈ c.2.tasks, t.Built := by
    simp [calls, SharedCall.tasks, QueueCall.tasks, NewTask.Built.create]
  have hempty : sys.store.outbox = .empty := rfl
  have hclaimed := claims_in_order hempty g hcalls "b" [.deliverWebhook, .notify, .notify] 3 now
  exact ⟨hempty, hcalls, hclaimed, hclaimed.claims.tasks.trans (by decide +kernel)⟩

end System

end BoardActivity
