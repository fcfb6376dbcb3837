import BoardActivity.Proofs.QueueCalls

/-!
# Claims are fenced

A claim is known by its task and its attempt. It stays good until its row is settled, taken back
from its worker, or removed; from then on it is lost for good, whoever claims the task again.
`EndsDuring` says which calls of a run end the claim of a row, in terms of what they answer and of
the rows that they find; the claim can still be settled exactly as long as there was no such call.

A failure whose next attempt lies beyond the calendar has no result, though its claim was good.
-/

namespace BoardActivity

/-- The claim that a call is made to settle. -/
def QueueCall.settles? : QueueCall → Option Task
  | .complete t | .fail t _ _ => some t
  | .enqueue _ | .commit .. | .claim .. | .reclaim _ | .destroy _ => none

namespace Store

/-- The claims that a call settles. One that breaks off has settled its claim all the same. -/
def settledBy (s : Store) (now : Instant) : QueueCall → List Task
  | .complete t =>
    match (s.complete t).1 with
    | .ok () => [t]
    | .error _ => []
  | .fail t error delay =>
    match (s.fail t error delay now).1 with
    | some (.error _) => []
    | some (.ok _) | none => [t]
  | .enqueue _ | .commit .. | .claim .. | .reclaim _ | .destroy _ => []

def settledDuring (s : Store) : List (Instant × QueueCall) → List Task
  | [] => []
  | (now, c) :: rest => s.settledBy now c ++ (s.call now c).settledDuring rest

/-- The call takes a row back from its worker. -/
def TakesBack (s : Store) (now : Instant) (id : Ident) : QueueCall → Prop
  | .reclaim threshold => ∃ cutoff r, now.shift? (-threshold.toOffset) = some cutoff ∧
      s.outbox.rows.find? id = some r ∧ r.isStale cutoff = true
  | .enqueue _ | .commit .. | .claim .. | .complete _ | .fail .. | .destroy _ => False

/-- The call removes a row. -/
def Removes (s : Store) (now : Instant) (id : Ident) (c : QueueCall) : Prop :=
  s.outbox.rows.contains id = true ∧ (s.call now c).outbox.rows.contains id = false

/-- The call ends the claim of a row. -/
def Ends (s : Store) (now : Instant) (id : Ident) (c : QueueCall) : Prop :=
  (∃ t ∈ s.settledBy now c, t.id = id) ∨ s.TakesBack now id c ∨ s.Removes now id c

def EndsDuring (s : Store) (id : Ident) : List (Instant × QueueCall) → Prop
  | [] => False
  | (now, c) :: rest => s.Ends now id c ∨ (s.call now c).EndsDuring id rest

def lossOf (s : Store) (t : Task) : Error :=
  if s.outbox.rows.contains t.id = true then .claimLost t.id else .notFound "task" t.id

/-- What a claim can do after the calls that followed it. It is settled if and only if none of them
ended it, and is refused without any change otherwise. -/
structure Fenced (s : Store) (t : Task) (after : List (Instant × QueueCall)) : Prop where
  complete_ok : ((s.runCalls after).complete t).1 = .ok () ↔ ¬ s.EndsDuring t.id after
  fail_ok : ∀ error delay now,
    (∃ outcome, ((s.runCalls after).fail t error delay now).1 = some (.ok outcome)) ↔
      ¬ s.EndsDuring t.id after ∧
        (t.attempt < t.maxAttempts → (now.shift? delay.toOffset).isSome)
  fail_breaks_off : ∀ error delay now, ((s.runCalls after).fail t error delay now).1 = none ↔
    ¬ s.EndsDuring t.id after ∧ t.attempt < t.maxAttempts ∧ now.shift? delay.toOffset = none
  lost : s.EndsDuring t.id after →
    (s.runCalls after).complete t =
      (.error ((s.runCalls after).lossOf t), s.runCalls after) ∧
    ∀ error delay now, (s.runCalls after).fail t error delay now =
      (some (.error ((s.runCalls after).lossOf t)), s.runCalls after)

end Store

namespace Outbox

/-- The claim cannot be settled any more: its row is gone, or in a later attempt, or not claimed. -/
def Lost (o : Outbox) (t : Task) : Prop := ∀ r, o.rows.find? t.id = some r →
  t.attempt < r.attempt ∨ (t.attempt = r.attempt ∧ r.status ≠ .claimed)

/-- The row of a task, if it is there, has come to the attempt of the claim. -/
def Reached (o : Outbox) (t : Task) : Prop :=
  ∀ r, o.rows.find? t.id = some r → t.attempt ≤ r.attempt

variable {allowed : NewTask → Prop} {o o' : Outbox} {n n' : Nat} {ts : List Task} {t : Task}

theorem Move.reached (h : Move allowed o n ts o' n') (ht : t.id.value < n) (hr : o.Reached t) :
    o'.Reached t := by
  intro r' hr'
  cases hf : o.rows.find? t.id with
  | none =>
      rw [h.absent hf ht] at hr'
      cases hr'
  | some r =>
      have hle := hr r hf
      rcases h.fate hf ht with hn | ⟨x, hx, hstep⟩
      · rw [hn] at hr'
        cases hr'
      · cases Option.some.inj (hx.symm.trans hr')
        rcases hstep with hs | ⟨-, worker, now, rfl⟩
        · rwa [hs.attempt_eq]
        · exact hle.trans (Nat.le_succ r.attempt)

/-- A claim that is lost stays lost: only a new attempt makes its row claimed again. -/
theorem Move.lost (h : Move allowed o n ts o' n') (ht : t.id.value < n) (hl : o.Lost t) :
    o'.Lost t := by
  intro r' hr'
  cases hf : o.rows.find? t.id with
  | none =>
      rw [h.absent hf ht] at hr'
      cases hr'
  | some r =>
      have hr := hl r hf
      rcases h.fate hf ht with hn | ⟨x, hx, hstep⟩
      · rw [hn] at hr'
        cases hr'
      · cases Option.some.inj (hx.symm.trans hr')
        rcases hstep with hs | ⟨-, worker, now, rfl⟩
        · rw [hs.attempt_eq]
          rcases hs.eq_or with rfl | ⟨-, hc⟩
          · exact hr
          · rcases hr with hlt | ⟨he, -⟩
            · exact .inl hlt
            · exact .inr ⟨he, hc⟩
        · refine .inl ?_
          have hle : t.attempt ≤ r.attempt := hr.elim le_of_lt fun he => he.1.le
          exact Nat.lt_succ_of_le hle

theorem Moves.reached (h : Moves allowed o n ts o' n') (ht : t.id.value < n) (hr : o.Reached t) :
    o'.Reached t := by
  induction h with
  | done => exact hr
  | snoc hms hm ih => exact hm.reached (lt_of_lt_of_le ht hms.next_le) (ih ht)

theorem Moves.lost (h : Moves allowed o n ts o' n') (ht : t.id.value < n) (hl : o.Lost t) :
    o'.Lost t := by
  induction h with
  | done => exact hl
  | snoc hms hm ih => exact hm.lost (lt_of_lt_of_le ht hms.next_le) (ih ht)

/-- A row that was just settled or taken back is lost to every claim that it had come to. -/
theorem lost_of_step {r r' : TaskRow} (hs : r.Step r') (hf : o.rows.find? t.id = some r)
    (hf' : o'.rows.find? t.id = some r') (hc : r'.status ≠ .claimed) (hr : o.Reached t) :
    o'.Lost t := by
  intro x hx
  cases Option.some.inj (hf'.symm.trans hx)
  rw [hs.attempt_eq]
  rcases Nat.lt_or_eq_of_le (hr r hf) with hlt | he
  · exact .inl hlt
  · exact .inr ⟨he, hc⟩

theorem lost_of_absent (h : o.rows.find? t.id = none) : o.Lost t := by
  intro r hr
  rw [h] at hr
  cases hr

variable {id : Ident}

theorem complete_find?_of_ne (h : t.id ≠ id) :
    (o.complete t).2.rows.find? id = o.rows.find? id := by
  cases hh : o.held t with
  | error e => rw [complete_of_error hh]
  | ok r => exact (yields_complete hh).find?_of_ne ((held_find? hh).2.1 ▸ h)

theorem fail_find?_of_ne (h : t.id ≠ id) (error : String) (delay : Span) (now : Instant) :
    (o.fail t error delay now).2.rows.find? id = o.rows.find? id := by
  cases hh : o.held t with
  | error e => rw [fail_of_error hh]
  | ok r => exact (yields_fail hh error delay now).find?_of_ne ((held_find? hh).2.1 ▸ h)

/-- A claim that is lost is refused. -/
theorem Lost.held_eq (h : o.Lost t) : o.held t =
    .error (if o.rows.contains t.id = true then .claimLost t.id else .notFound "task" t.id) := by
  cases hh : o.held t with
  | ok r =>
      obtain ⟨hf, hheld⟩ := held_eq_ok_iff.1 hh
      obtain ⟨hc, ha, -⟩ := TaskRow.isHeldBy_iff.1 hheld
      rcases h r hf with hlt | ⟨-, hne⟩
      · omega
      · exact (hne hc).elim
  | error e =>
      rcases held_eq_error hh with ⟨hf, rfl⟩ | ⟨r, hf, -, rfl⟩
      · simp [Table.contains, hf]
      · simp [Table.contains, hf]

end Outbox

namespace Store

variable {s : Store} {now : Instant} {c : QueueCall} {id : Ident} {t : Task} {r : TaskRow}

theorem settledBy_eq (s : Store) (now : Instant) (c : QueueCall) :
    s.settledBy now c = (c.settles?.filter fun t => (s.outbox.held t).isOk).toList := by
  cases c with
  | complete t =>
      cases h : s.outbox.held t with
      | error e =>
          simp [settledBy, QueueCall.settles?, Store.complete, Outbox.complete_of_error h, h,
            Option.filter_some, Except.isOk, Except.toBool]
      | ok r =>
          simp [settledBy, QueueCall.settles?, Store.complete, Outbox.complete_of_held h, h,
            Option.filter_some, Except.isOk, Except.toBool]
  | fail t error delay =>
      cases h : s.outbox.held t with
      | error e =>
          simp [settledBy, QueueCall.settles?, Store.fail, Outbox.fail_of_error h, h,
            Option.filter_some, Except.isOk, Except.toBool]
      | ok r =>
          rcases Outbox.fail_of_held h error delay now with ⟨v, -, -, he⟩ | ⟨-, -, he⟩ | ⟨-, he⟩
          all_goals
            simp [settledBy, QueueCall.settles?, Store.fail, he, h, Option.filter_some, Except.isOk,
              Except.toBool]
  | enqueue | commit | claim | reclaim | destroy => rfl

/-- Exactly the claims that are held are settled. -/
theorem mem_settledBy :
    t ∈ s.settledBy now c ↔ c.settles? = some t ∧ ∃ r, s.outbox.held t = .ok r := by
  have hok : (s.outbox.held t).isOk = true ↔ ∃ r, s.outbox.held t = .ok r := by
    cases s.outbox.held t <;> simp [Except.isOk, Except.toBool]
  rw [settledBy_eq, Option.mem_toList, Option.filter_eq_some_iff, hok]

/-- A call settles one claim at most. -/
theorem settledBy_cases (s : Store) (now : Instant) (c : QueueCall) :
    s.settledBy now c = [] ∨ ∃ t, s.settledBy now c = [t] := by
  rw [settledBy_eq]
  cases c.settles?.filter fun t => (s.outbox.held t).isOk with
  | none => exact .inl rfl
  | some t => exact .inr ⟨t, rfl⟩

/-- The row of a claim that is settled is not claimed any more. -/
theorem settled_step (h : t ∈ s.settledBy now c) : ∃ r r', s.outbox.rows.find? t.id = some r ∧
    r.Step r' ∧ r'.status ≠ .claimed ∧ r.attempt = t.attempt ∧
    (s.call now c).outbox.rows.find? t.id = some r' := by
  obtain ⟨hc, r, hr⟩ := mem_settledBy.1 h
  obtain ⟨hf, hheld⟩ := Outbox.held_eq_ok_iff.1 hr
  have ha := (TaskRow.isHeldBy_iff.1 hheld).2.1
  have hyields : s.outbox.Yields r (s.call now c).outbox := by
    cases c with
    | complete u =>
        cases hc
        exact Outbox.yields_complete hr
    | fail u error delay =>
        cases hc
        exact Outbox.yields_fail hr error delay now
    | enqueue | commit | claim | reclaim | destroy => cases hc
  obtain ⟨r', hs, hn, hf'⟩ := hyields.find?_self
  exact ⟨r, r', hf, hs, hn, ha, (Outbox.held_find? hr).2.1 ▸ hf'⟩

theorem call_history (s : Store) (now : Instant) (c : QueueCall) :
    Outbox.Moves (fun _ => True) s.outbox s.supply.next (s.claimsOf now c) (s.call now c).outbox
      (s.call now c).supply.next :=
  s.call_moves now c fun _ _ => trivial

theorem call_reclaim {threshold : Span} {cutoff : Instant}
    (h : now.shift? (-threshold.toOffset) = some cutoff) (id : Ident) :
    (s.call now (.reclaim threshold)).outbox.rows.find? id =
      (s.outbox.rows.find? id).map fun r => if r.isStale cutoff then r.release now else r := by
  have ho : (s.call now (.reclaim threshold)).outbox = s.outbox.update
      (fun r => if r.isStale cutoff then r.release now else r)
      (fun r => by split_ifs <;> simp [Outbox.id_release]) := by
    simp only [call, reclaim, Outbox.reclaim, h, Option.map_some]
    rfl
  rw [ho, Outbox.find?_update]

/-- Whatever ends the claim of a row leaves it lost. -/
theorem Ends.lost (h : s.Ends now t.id c) (hr : s.outbox.Reached t) :
    (s.call now c).outbox.Lost t := by
  rcases h with ⟨u, hu, hid⟩ | ht | ⟨-, hg⟩
  · obtain ⟨r, r', hf, hs, hn, -, hf'⟩ := settled_step hu
    rw [hid] at hf hf'
    exact Outbox.lost_of_step hs hf hf' hn hr
  · cases c with
    | reclaim threshold =>
        obtain ⟨cutoff, r, hcut, hf, hst⟩ := ht
        have hc := TaskRow.status_of_isStale hst
        have hf' := (call_reclaim hcut t.id).trans (by rw [hf, Option.map_some, if_pos hst])
        have hn : (r.release now).status ≠ .claimed := by
          unfold TaskRow.release
          split_ifs <;> simp [TaskRow.bury]
        exact Outbox.lost_of_step (.release now hc) hf hf' hn hr
    | enqueue | commit | claim | complete | fail | destroy => exact ht.elim
  · exact Outbox.lost_of_absent (by simpa [Table.contains] using hg)

theorem enqueue_find? (s : Store) (u : NewTask) (now : Instant) (h : id.value < s.supply.next) :
    (s.enqueue u now).2.outbox.rows.find? id = s.outbox.rows.find? id := by
  cases hk : s.outbox.has u.kind u.subject with
  | true => rw [enqueue_of_has hk]
  | false =>
      rw [enqueue_of_new hk]
      refine (Outbox.find?_insert s.outbox u _ now id).trans (if_neg ?_)
      rintro rfl
      exact absurd h (lt_irrefl _)

theorem enqueueAll_find? (s : Store) (tasks : List NewTask) (now : Instant)
    (h : id.value < s.supply.next) :
    (s.enqueueAll tasks now).outbox.rows.find? id = s.outbox.rows.find? id := by
  induction tasks generalizing s with
  | nil => rfl
  | cons u tasks ih =>
      rw [enqueueAll_cons, ih _ (lt_of_lt_of_le h (s.next_le_enqueue u now)),
        enqueue_find? s u now h]

/-- Removing cards leaves every row alone that it does not remove. -/
theorem removeCards_find? (s : Store) (cards : List Ident) (hf : s.outbox.rows.find? id = some r) :
    (s.removeCards cards).outbox.rows.find? id = none ∨
      (s.removeCards cards).outbox.rows.find? id = some r := by
  obtain ⟨subjects, ho⟩ := s.removeCards_outbox cards
  rw [ho, Outbox.find?_removeSubjects, hf]
  by_cases hs : r.subject ∈ subjects
  · exact .inl (by simp [hs])
  · exact .inr (by simp [hs])

theorem not_removed (h : ¬ s.Removes now id c) (hf : s.outbox.rows.find? id = some r) :
    (s.call now c).outbox.rows.find? id ≠ none := by
  intro hn
  exact h ⟨by simp [Table.contains, hf], by simp [Table.contains, hn]⟩

theorem complete_keeps {u : Task} (hu : u.id = id → ∀ x, s.outbox.held u ≠ .ok x)
    (hf : s.outbox.rows.find? id = some r) : (s.outbox.complete u).2.rows.find? id = some r := by
  by_cases huid : u.id = id
  · cases hh : s.outbox.held u with
    | ok x => exact (hu huid x hh).elim
    | error e => rw [Outbox.complete_of_error hh, hf]
  · exact (Outbox.complete_find?_of_ne huid).trans hf

theorem fail_keeps {u : Task} (hu : u.id = id → ∀ x, s.outbox.held u ≠ .ok x)
    (hf : s.outbox.rows.find? id = some r) (error : String) (delay : Span) (now : Instant) :
    (s.outbox.fail u error delay now).2.rows.find? id = some r := by
  by_cases huid : u.id = id
  · cases hh : s.outbox.held u with
    | ok x => exact (hu huid x hh).elim
    | error e => rw [Outbox.fail_of_error hh, hf]
  · exact (Outbox.fail_find?_of_ne huid error delay now).trans hf

theorem claim_keeps (hc : r.status = .claimed) (hf : s.outbox.rows.find? id = some r)
    (worker : String) (kinds : List TaskKind) (max : Nat) (now : Instant) :
    (s.outbox.claim worker kinds max now).2.rows.find? id = some r := by
  have hn : r ∉ s.outbox.claimable kinds now max := by
    intro hm
    have hp := (Outbox.find?_of_mem_claimable hm).2
    rw [hc] at hp
    cases hp
  rw [Outbox.find?_claim, hf, Option.map_some, Outbox.claimed, if_neg hn]

/-- A row that is claimed stays as it is until its claim is ended. -/
theorem claimed_of_not_ends (h : ¬ s.Ends now id c) (hid : id.value < s.supply.next)
    (hf : s.outbox.rows.find? id = some r) (hc : r.status = .claimed) :
    (s.call now c).outbox.rows.find? id = some r := by
  simp only [Ends, not_or, not_exists, not_and] at h
  obtain ⟨hset, hback, hrem⟩ := h
  have hgone := not_removed hrem hf
  have hrow := Outbox.find?_id hf
  cases c with
  | enqueue u => exact (enqueue_find? s u now hid).trans hf
  | commit taken tx =>
      have hkeep : (((s.take taken).write tx).enqueueAll tx.tasks now).outbox.rows.find? id =
          some r :=
        (enqueueAll_find? _ tx.tasks now (hid.trans_le (Nat.le_add_right _ taken))).trans hf
      simp only [call, commit_eq] at hgone ⊢
      split_ifs at hgone ⊢ with hd
      · exact hkeep
      · exact (removeCards_find? _ tx.deleted hkeep).resolve_left hgone
  | claim worker kinds max => exact claim_keeps hc hf worker kinds max now
  | complete u => exact complete_keeps (fun hu x hh => hset u (mem_settledBy.2 ⟨rfl, x, hh⟩) hu) hf
  | fail u error delay =>
      exact fail_keeps (fun hu x hh => hset u (mem_settledBy.2 ⟨rfl, x, hh⟩) hu) hf error delay now
  | reclaim threshold =>
      cases hcut : now.shift? (-threshold.toOffset) with
      | none =>
          simp only [call, reclaim, Outbox.reclaim, hcut, Option.map_none]
          exact hf
      | some cutoff =>
          have hst : ¬ r.isStale cutoff = true := fun hs => hback ⟨cutoff, r, hcut, hf, hs⟩
          rw [call_reclaim hcut, hf, Option.map_some, if_neg hst]
  | destroy card =>
      simp only [call, destroy_eq] at hgone ⊢
      split_ifs at hgone ⊢ with hd
      · exact (removeCards_find? _ [card] hf).resolve_left hgone
      · exact hf

theorem runCalls_history (s : Store) (calls : List (Instant × QueueCall)) :
    Outbox.Moves (fun _ => True) s.outbox s.supply.next (s.claimsDuring calls)
      (s.runCalls calls).outbox (s.runCalls calls).supply.next :=
  s.runCalls_moves calls fun _ _ _ _ => trivial

theorem claimed_of_not_endsDuring {calls : List (Instant × QueueCall)}
    (h : ¬ s.EndsDuring id calls) (hid : id.value < s.supply.next)
    (hf : s.outbox.rows.find? id = some r) (hc : r.status = .claimed) :
    (s.runCalls calls).outbox.rows.find? id = some r := by
  induction calls generalizing s with
  | nil => exact hf
  | cons c calls ih =>
      obtain ⟨hfirst, hrest⟩ := not_or.1 h
      exact ih hrest (hid.trans_le (s.call_history c.1 c.2).next_le)
        (claimed_of_not_ends hfirst hid hf hc)

theorem EndsDuring.lost {calls : List (Instant × QueueCall)} (h : s.EndsDuring t.id calls)
    (hid : t.id.value < s.supply.next) (hr : s.outbox.Reached t) :
    (s.runCalls calls).outbox.Lost t := by
  induction calls generalizing s with
  | nil => exact h.elim
  | cons c calls ih =>
      have hm := s.call_history c.1 c.2
      have hid' := hid.trans_le hm.next_le
      rcases h with hfirst | hrest
      · exact ((s.call c.1 c.2).runCalls_history calls).lost hid' (hfirst.lost hr)
      · exact ih hrest hid' (hm.reached hid hr)

/-- A claim holds the row that it was handed out for. -/
theorem held_of_claim {worker : String} {kinds : List TaskKind} {max : Nat} {now : Instant}
    (h : t ∈ (s.claim worker kinds max now).1) :
    ∃ r, (s.call now (.claim worker kinds max)).outbox.rows.find? t.id = some r ∧
      r.isHeldBy t = true ∧ r.maxAttempts = t.maxAttempts := by
  obtain ⟨r, hr, rfl⟩ := Outbox.mem_claim h
  have hf := (Outbox.find?_of_mem_claimable hr).1
  refine ⟨r.claim worker now, ?_, ?_, rfl⟩
  · change (s.outbox.claim worker kinds max now).2.rows.find? r.id = _
    rw [Outbox.find?_claim, hf, Option.map_some, Outbox.claimed, if_pos hr]
  · exact TaskRow.isHeldBy_iff.2 ⟨rfl, rfl, rfl⟩

/-- A claim that holds its row is fenced from then on. -/
theorem fenced_of_held (hid : t.id.value < s.supply.next)
    (hf : s.outbox.rows.find? t.id = some r) (hheld : r.isHeldBy t = true)
    (hmax : r.maxAttempts = t.maxAttempts) (after : List (Instant × QueueCall)) :
    s.Fenced t after := by
  obtain ⟨hc, hatt, -⟩ := TaskRow.isHeldBy_iff.1 hheld
  have hreached : s.outbox.Reached t := by
    intro x hx
    cases Option.some.inj (hf.symm.trans hx)
    exact hatt.ge
  have hgood : ¬ s.EndsDuring t.id after → (s.runCalls after).outbox.held t = .ok r := fun h =>
    Outbox.held_eq_ok_iff.2 ⟨claimed_of_not_endsDuring h hid hf hc, hheld⟩
  have hlost : s.EndsDuring t.id after →
      (s.runCalls after).outbox.held t = .error ((s.runCalls after).lossOf t) := fun h =>
    (h.lost hid hreached).held_eq
  have hcomplete : s.EndsDuring t.id after → (s.runCalls after).complete t =
      (.error ((s.runCalls after).lossOf t), s.runCalls after) := by
    intro h
    simp only [Store.complete, Outbox.complete_of_error (hlost h)]
  have hfail : s.EndsDuring t.id after → ∀ error delay now,
      (s.runCalls after).fail t error delay now =
        (some (.error ((s.runCalls after).lossOf t)), s.runCalls after) := by
    intro h error delay now
    simp only [Store.fail, Outbox.fail_of_error (hlost h)]
  have hcases := fun h => Outbox.fail_of_held (hgood h)
  refine ⟨?_, ?_, ?_, fun h => ⟨hcomplete h, hfail h⟩⟩
  · constructor
    · intro h he
      rw [hcomplete he] at h
      cases h
    · intro h
      exact congrArg Prod.fst (Outbox.complete_of_held (hgood h))
  · intro error delay now
    by_cases h : s.EndsDuring t.id after
    · simp [hfail h, h]
    · rcases hcases h error delay now with ⟨v, hm, hv, he⟩ | ⟨hm, hv, he⟩ | ⟨hm, he⟩
      · simp [Store.fail, he, h, hv]
      · simp [Store.fail, he, h, hv, ← hmax, ← hatt, hm]
      · simp [Store.fail, he, h, ← hmax, ← hatt, not_lt.2 hm]
  · intro error delay now
    by_cases h : s.EndsDuring t.id after
    · simp [hfail h, h]
    · rcases hcases h error delay now with ⟨v, hm, hv, he⟩ | ⟨hm, hv, he⟩ | ⟨hm, he⟩
      · simp [Store.fail, he, hv]
      · simp [Store.fail, he, h, hv, ← hmax, ← hatt, hm]
      · simp [Store.fail, he, ← hmax, ← hatt, not_lt.2 hm]

/-- A claim that is lost is not settled, neither at once nor later. -/
theorem settled_ne_lost {u : Task} (h : t ∈ s.settledBy now c) (hl : s.outbox.Lost u) :
    (t.id, t.attempt) ≠ (u.id, u.attempt) := by
  intro he
  obtain ⟨hid, hatt⟩ := Prod.mk.inj he
  obtain ⟨-, r, hr⟩ := mem_settledBy.1 h
  obtain ⟨hf, hheld⟩ := Outbox.held_eq_ok_iff.1 hr
  obtain ⟨hc, ha, -⟩ := TaskRow.isHeldBy_iff.1 hheld
  rcases hl r (hid ▸ hf) with hlt | ⟨-, hne⟩
  · omega
  · exact hne hc

theorem settledDuring_ne_lost {calls : List (Instant × QueueCall)} {u : Task}
    (hid : u.id.value < s.supply.next) (hl : s.outbox.Lost u) (h : t ∈ s.settledDuring calls) :
    (t.id, t.attempt) ≠ (u.id, u.attempt) := by
  induction calls generalizing s with
  | nil => cases h
  | cons c calls ih =>
      have hm := s.call_history c.1 c.2
      rcases List.mem_append.1 h with hfirst | hrest
      · exact settled_ne_lost hfirst hl
      · exact ih (hid.trans_le hm.next_le) (hm.lost hid hl) hrest

theorem lost_of_settled (h : t ∈ s.settledBy now c) : (s.call now c).outbox.Lost t := by
  obtain ⟨r, r', hf, hs, hn, ha, hf'⟩ := settled_step h
  refine Outbox.lost_of_step hs hf hf' hn ?_
  intro x hx
  cases Option.some.inj (hf.symm.trans hx)
  exact ha.ge

/-- No attempt of a task is settled twice. -/
theorem settledDuring_distinct (calls : List (Instant × QueueCall))
    (hb : s.outbox.Below s.supply.next) :
    ((s.settledDuring calls).map fun t => (t.id, t.attempt)).Nodup := by
  induction calls generalizing s with
  | nil => exact List.nodup_nil
  | cons c calls ih =>
      have hm := s.call_history c.1 c.2
      have hrest := ih (hm.rows_below hb)
      rw [settledDuring]
      rcases s.settledBy_cases c.1 c.2 with he | ⟨t, he⟩
      · rw [he]
        exact hrest
      · have ht : t ∈ s.settledBy c.1 c.2 := he ▸ List.mem_singleton_self t
        obtain ⟨r, -, hf, -⟩ := settled_step ht
        have hid : t.id.value < s.supply.next :=
          (Outbox.find?_id hf).2 ▸ hb r (Outbox.find?_id hf).1
        rw [he, List.singleton_append, List.map_cons]
        refine List.nodup_cons.2 ⟨?_, hrest⟩
        intro hmem
        obtain ⟨u, hu, hkey⟩ := List.mem_map.1 hmem
        exact settledDuring_ne_lost (hid.trans_le hm.next_le) (lost_of_settled ht) hu hkey

/-- Claims are fenced: no attempt of a task is handed out twice or settled twice, and a claim can be
settled exactly as long as it was not settled, its row not taken back and not removed. -/
theorem claims_fenced (h : s.outbox = .empty) :
    (∀ calls, ((s.claimsDuring calls).map fun t => (t.id, t.attempt)).Nodup) ∧
      (∀ calls, ((s.settledDuring calls).map fun t => (t.id, t.attempt)).Nodup) ∧
      ∀ before now worker kinds max after, ∀ t ∈ ((s.runCalls before).claim worker kinds max now).1,
        ((s.runCalls before).call now (.claim worker kinds max)).Fenced t after := by
  have hstart : s.outbox.Chronicle s.supply.next [] := h ▸ Outbox.chronicle_empty s.supply.next
  refine ⟨?_, fun calls => settledDuring_distinct calls hstart.below, ?_⟩
  · intro calls
    exact ((s.runCalls_history calls).chronicle hstart).distinct
  · intro before now worker kinds max after t ht
    have hm := (s.runCalls before).call_history now (.claim worker kinds max)
    have hc := hm.chronicle ((s.runCalls_history before).chronicle hstart)
    obtain ⟨r, hf, hheld, hmax⟩ := held_of_claim ht
    have hid : t.id.value < ((s.runCalls before).call now (.claim worker kinds max)).supply.next :=
      (Outbox.find?_id hf).2 ▸ hc.below r (Outbox.find?_id hf).1
    exact fenced_of_held hid hf hheld hmax after

/-- A worker whose claim was taken back cannot complete it, though the same worker claims again. -/
theorem claims_fenced_from_reclaimed_worker :
    let start : Instant := ⟨0, 0⟩
    let later : Instant := ⟨600, 0⟩
    let first : Task := ⟨⟨1⟩, .notify, ⟨7⟩, 1, 5, "w"⟩
    let queued := (empty 1).runCalls [(start, .enqueue (.create .notify ⟨7⟩))]
    let after : List (Instant × QueueCall) :=
      [(later, .reclaim (.ofSeconds 300)), (later, .claim "w" [.notify] 1)]
    (queued.claim "w" [.notify] 1 start).1 = [first] ∧
      (((queued.call start (.claim "w" [.notify] 1)).runCalls after).complete first).1 ≠
        .ok () := by
  intro start later first queued after
  have hclaim : (queued.claim "w" [.notify] 1 start).1 = [first] := by decide +kernel
  have hmem : first ∈ (queued.claim "w" [.notify] 1 start).1 := hclaim ▸ List.mem_singleton_self _
  have hfence : (queued.call start (.claim "w" [.notify] 1)).Fenced first after :=
    (claims_fenced rfl).2.2 [(start, .enqueue (.create .notify ⟨7⟩))] start "w" [.notify] 1 after
      first hmem
  refine ⟨hclaim, fun hok => hfence.complete_ok.1 hok (.inl (.inr (.inl ?_)))⟩
  have hrow : (queued.call start (.claim "w" [.notify] 1)).outbox.rows.find? first.id =
      some ⟨⟨1⟩, .notify, ⟨7⟩, .claimed, 1, 5, 1, start, some "w", some start, none⟩ := by
    decide +kernel
  exact ⟨⟨300, 0⟩, _, by decide, hrow, by decide⟩

end Store

end BoardActivity
