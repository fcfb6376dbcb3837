import BoardActivity.Proofs.DispatchedTasks
import BoardActivity.Proofs.SequentialDeliveries

/-!
# Executing claimed tasks

What a claim takes from the outbox, and what the execution of a claimed task leaves of it: the row
of the task, settled one way or another, and at the end the tasks of deliveries that a dispatch has
added. Everything is said of a single claim and a single execution, with the attempts counted that
waiting tasks have left (`Outbox.remaining`).

Of the store, only the order of its outbox is assumed (`Store.Queued`). Requests are answered, and
the delays of the retry policies can be computed; nothing is assumed of what is answered, of faults,
or of the time that a delay leads to.
-/

namespace BoardActivity

/-- The attempts that a task has left while it waits. -/
def TaskRow.remaining (r : TaskRow) : Nat :=
  if r.status = .pending then r.maxAttempts - r.attempt else 0

/-- The attempts that are left after the one that the task was claimed for. -/
def Task.left (t : Task) : Nat := t.maxAttempts - t.attempt

/-- No attempt is given back. -/
theorem TaskRow.Step.remaining_le {r r' : TaskRow} (h : r.Step r') :
    r'.remaining ≤ r.maxAttempts - r.attempt := by
  have hface := h.face_eq
  simp only [face, Prod.mk.injEq] at hface
  unfold remaining
  rw [hface.2.2.2.1, h.attempt_eq]
  split_ifs
  · exact le_rfl
  · exact Nat.zero_le _

namespace Outbox

variable {o o' : Outbox}

def remaining (o : Outbox) : Nat := (o.rows.rows.map TaskRow.remaining).sum

/-- Of the attempts that tasks have left, some belong to waiting tasks. -/
theorem remaining_le (o : Outbox) : o.remaining ≤ o.attemptsLeft := by
  unfold remaining attemptsLeft
  induction o.rows.rows with
  | nil => exact le_rfl
  | cons r rows ih =>
      have hr : r.remaining ≤ r.maxAttempts - r.attempt := by
        unfold TaskRow.remaining
        split_ifs
        · exact le_rfl
        · exact Nat.zero_le _
      simp only [List.map_cons, List.sum_cons, List.foldr_cons]
      exact Nat.add_le_add hr ih

theorem remaining_putRow {r r' : TaskRow} (h : o.rows.find? r'.id = some r) :
    (o.putRow r').remaining + r.remaining = o.remaining + r'.remaining :=
  Table.sum_put h TaskRow.remaining

/-! ### Claims -/

structure HandsOut (o : Outbox) (ts : List Task) (o' : Outbox) : Prop where
  distinct : (ts.map Task.id).Nodup
  waiting : ∀ t ∈ ts, ∃ r, o.rows.find? t.id = some r ∧ r.status = .pending
  held : ∀ t ∈ ts, ∃ r, o'.held t = .ok r ∧ r.maxAttempts = t.maxAttempts
  others : ∀ id, id ∉ ts.map Task.id → o'.rows.find? id = o.rows.find? id
  index : o'.index = o.index
  faces : o'.rows.rows.map TaskRow.face = o.rows.rows.map TaskRow.face
  remaining : o'.remaining + (ts.map Task.left).sum + ts.length = o.remaining

section Claimed

variable {worker : String} {kinds : List TaskKind} {max : Nat} {now : Instant} {r : TaskRow}

theorem map_id_claim : (o.claim worker kinds max now).1.map Task.id =
    (o.claimable kinds now max).map TaskRow.id := by
  rw [claim_fst, List.map_map]
  rfl

theorem held_claim (hr : r ∈ o.claimable kinds now max) :
    (o.claim worker kinds max now).2.held ((r.claim worker now).toTask worker) =
      .ok (r.claim worker now) := by
  refine held_eq_ok_iff.2 ⟨?_, TaskRow.isHeldBy_iff.2 ⟨rfl, rfl, rfl⟩⟩
  rw [find?_claim]
  change (o.rows.find? r.id).map _ = _
  rw [(find?_of_mem_claimable hr).1, Option.map_some, claimed, if_pos hr]

theorem find?_claim_of_not_mem {id : Ident}
    (hid : id ∉ (o.claim worker kinds max now).1.map Task.id) :
    (o.claim worker kinds max now).2.rows.find? id = o.rows.find? id := by
  rw [find?_claim]
  cases hf : o.rows.find? id with
  | none => rfl
  | some r =>
      have hnot : r ∉ o.claimable kinds now max := by
        intro hr
        refine hid ?_
        rw [map_id_claim, ← (find?_id hf).2]
        exact List.mem_map_of_mem hr
      rw [Option.map_some, claimed, if_neg hnot]

/-- A task that is handed out has used up one of its attempts. -/
theorem remaining_of_mem_claimable (h : o.Sound) (hr : r ∈ o.claimable kinds now max) :
    r.remaining =
      (r.claim worker now).remaining + ((r.claim worker now).toTask worker).left + 1 := by
  have hpending := (find?_of_mem_claimable hr).2
  have hsound := h.row r (mem_of_mem_claimable hr).1
  simp only [TaskRow.Sound, hpending] at hsound
  have hlt := hsound.1
  simp only [TaskRow.remaining, hpending, if_true, Task.left, TaskRow.toTask, TaskRow.claim,
    reduceCtorEq, if_false]
  omega

theorem remaining_claim (h : o.Sound) :
    (o.claim worker kinds max now).2.remaining +
      ((o.claim worker kinds max now).1.map Task.left).sum +
      (o.claim worker kinds max now).1.length = o.remaining := by
  have hsum := Table.sum_putAll_map o.rows (o.claimable kinds now max)
    (fun r => r.claim worker now) (fun _ => rfl) (fun _ hr => (mem_of_mem_claimable hr).1)
    (o.nodup_claimable kinds now max) TaskRow.remaining
  have hone : ∀ r ∈ o.claimable kinds now max, r.remaining =
      (r.claim worker now).remaining + ((r.claim worker now).toTask worker).left + 1 :=
    fun r hr => remaining_of_mem_claimable h hr
  have hused : ((o.claimable kinds now max).map TaskRow.remaining).sum =
      ((o.claimable kinds now max).map fun r => (r.claim worker now).remaining).sum +
        ((o.claim worker kinds max now).1.map Task.left).sum +
        (o.claim worker kinds max now).1.length := by
    rw [claim_fst]
    generalize o.claimable kinds now max = rows at hone
    induction rows with
    | nil => rfl
    | cons r rows ih =>
        have hrest := ih fun x hx => hone x (List.mem_cons_of_mem r hx)
        have hfirst := hone r List.mem_cons_self
        simp only [List.map_cons, List.sum_cons, List.length_cons]
        omega
  change ((o.rows.putAll _).rows.map TaskRow.remaining).sum + _ + _ = _
  simp only [remaining]
  omega

theorem handsOut_claim (h : o.Sound) (worker : String) (kinds : List TaskKind) (max : Nat)
    (now : Instant) :
    o.HandsOut (o.claim worker kinds max now).1 (o.claim worker kinds max now).2 where
  distinct := map_id_claim ▸ o.nodup_claimable kinds now max
  waiting := fun t ht => by
    obtain ⟨r, hr, rfl⟩ := mem_claim ht
    exact ⟨r, find?_of_mem_claimable hr⟩
  held := fun t ht => by
    obtain ⟨r, hr, rfl⟩ := mem_claim ht
    exact ⟨r.claim worker now, held_claim hr, rfl⟩
  others := fun _ hid => find?_claim_of_not_mem hid
  index := rfl
  faces := by
    rw [claim_eq_update]
    change (o.rows.rows.map _).map TaskRow.face = _
    rw [List.map_map]
    exact List.map_congr_left fun r _ => o.face_claimed worker kinds max now r
  remaining := remaining_claim h

end Claimed

/-- When nothing is handed out, although any task could be, no task is waiting that is visible. -/
theorem claim_nil {worker : String} {max : Nat} {now : Instant} (hmax : 1 ≤ max)
    (h : (o.claim worker TaskKind.all max now).1 = []) :
    (o.claim worker TaskKind.all max now).2 = o ∧
      ∀ r ∈ o.rows.rows, r.status = .pending → now < r.visibleAt := by
  rw [claim_fst, List.map_eq_nil_iff] at h
  refine ⟨?_, fun r hr hpending => ?_⟩
  · simp only [claim, h, List.map_nil]
    rfl
  · by_contra hvisible
    have hall : r.kind ∈ TaskKind.all := by cases r.kind <;> decide
    have hle : r.visibleAt ≤ now := Bool.eq_false_iff.2 hvisible
    have hin : r ∈ (o.rows.rows.filter fun r => r.isClaimable TaskKind.all now).mergeSort
        fun a b => decide (a.seq ≤ b.seq) :=
      List.mem_mergeSort.2
        (List.mem_filter.2 ⟨hr, TaskRow.isClaimable_iff.2 ⟨hpending, hle, hall⟩⟩)
    rcases List.take_eq_nil_iff.1 h with hzero | hnil
    · omega
    · rw [hnil] at hin
      cases hin

end Outbox

namespace Store

variable {s s' s'' : Store} {g : Setup}

/-- An outcome can be counted when its webhook is there. -/
theorem trackDelinquency_ok {webhook : Ident} {w : Webhook}
    (hw : s.webhooks.find? webhook = some w) (h : Handlers) (outcome : Outcome) (now : Instant) :
    ∃ s', h.trackDelinquency s webhook outcome now = (.ok (), s') := by
  cases hdue : ((s.delinquency webhook).record outcome now).isDelinquent h.delinquency now with
  | true =>
      simp only [Handlers.trackDelinquency, recordOutcome, hdue, if_true, deactivateWebhook, hw]
      exact ⟨_, rfl⟩
  | false =>
      simp only [Handlers.trackDelinquency, recordOutcome, hdue, Bool.false_eq_true, if_false]
      exact ⟨_, rfl⟩

theorem endDelivery_ok {d d' : Delivery} {w : Webhook} (hd : d ∈ s.deliveries.rows)
    (hroute : d'.route = d.route) (hw : s.webhooks.find? d'.webhook = some w) (h : Handlers)
    (outcome : Outcome) (now : Instant) :
    (h.endDelivery s d' outcome now).1 = .ok (.delivered d'.id outcome.isSuccess) := by
  have hupdate := updateDelivery_of_mem (d'.finish outcome now) hd
    ((d'.route_finish outcome now).trans hroute)
  obtain ⟨s', htrack⟩ := trackDelinquency_ok
    (s := { s with deliveries := s.deliveries.put (d'.finish outcome now) }) hw h outcome now
  simp only [Handlers.endDelivery, hupdate, htrack]

/-- The tasks that there are have grown by those of deliveries that a dispatch has added, whatever
has become of the others. -/
structure Gains (g : Setup) (s s' : Store) (created : List TaskRow) : Prop where
  faces : s'.outbox.rows.rows.map TaskRow.face =
    s.outbox.rows.rows.map TaskRow.face ++ created.map TaskRow.face
  new : ∀ r ∈ created, IsDeliveryRow g.handlers.dispatcher.maxAttempts r
  unserved : s'.unserved + created.length ≤ s.unserved

theorem Gains.refl (s : Store) : Gains g s s [] :=
  ⟨(List.append_nil _).symm, fun _ hr => (List.not_mem_nil hr).elim, le_rfl⟩

theorem Gains.trans {created created' : List TaskRow} (h : Gains g s s' created)
    (h' : Gains g s' s'' created') : Gains g s s'' (created ++ created') := by
  refine ⟨?_, fun r hr => (List.mem_append.1 hr).elim (h.new r) (h'.new r), ?_⟩
  · rw [h'.faces, h.faces, List.map_append, List.append_assoc]
  · have hle := h.unserved
    have hle' := h'.unserved
    rw [List.length_append]
    omega

end Store

theorem Transport.hangs_send {t t' : Transport} {r : Request} {o : Outcome}
    (h : t.send r = some (o, t')) : t'.hangs = t.hangs := by
  unfold send at h
  split_ifs at h
  split at h
  · cases h
    rfl
  · cases h
    rfl

namespace System

variable {sys : System} {g : Setup}

/-! ### Handlers -/

theorem hangs_deliver (h : Handlers) (sys : System) (delivery : Ident) (now : Instant) :
    (h.deliver sys delivery now).2.transport.hangs = sys.transport.hangs := by
  unfold Handlers.deliver
  rcases sys.store.beginDelivery_cases delivery now with
    ⟨result, he⟩ | ⟨d, -, -, he | ⟨request, he⟩⟩
  · rw [he]
  · rw [he]
  · rw [he]
    simp only
    split
    · rfl
    · next hsend => exact Transport.hangs_send hsend

theorem hangs_execute (sys : System) (h : Handlers) (config : FanoutConfig) (t : Task) (draw : Draw)
    (now : Instant) :
    (sys.execute h config t draw now).2.transport.hangs = sys.transport.hangs := by
  obtain ⟨outbox, heq⟩ := sys.execute_eq h config t draw now
  rw [heq]
  unfold Handlers.run
  split
  · rfl
  · rfl
  · exact hangs_deliver h sys t.subject now

/-- Sending a delivery never fails: what is missing or over is skipped. -/
theorem deliver_ok (ht : sys.transport.hangs = false) (h : Handlers) (delivery : Ident)
    (now : Instant) : ∃ o, (h.deliver sys delivery now).1 = some (.ok o) := by
  cases hf : sys.store.findDelivery delivery with
  | none =>
      rw [deliver_of_unknown hf]
      exact ⟨.skipped, rfl⟩
  | some d =>
      cases hopen : d.state.isFinished with
      | true =>
          rw [deliver_of_finished hf hopen]
          exact ⟨.skipped, rfl⟩
      | false =>
          cases hw : sys.store.webhooks.find? d.webhook with
          | none =>
              rw [deliver_of_orphan hf hopen (.inl hw)]
              exact ⟨.skipped, rfl⟩
          | some w =>
              cases hactive : w.active with
              | false =>
                  rw [deliver_of_inactive hf hopen hw hactive]
                  exact ⟨.skipped, rfl⟩
              | true =>
                  cases he : sys.store.events.find? d.event with
                  | none =>
                      rw [deliver_of_orphan hf hopen (.inr ⟨w, hw, hactive, he⟩)]
                      exact ⟨.skipped, rfl⟩
                  | some e =>
                      obtain ⟨outcome, script, hsend⟩ :=
                        Transport.send_of_answering ht (sys.store.requestFor d w e)
                      have hend := Store.endDelivery_ok (sys.store.mem_begun d now) rfl hw h
                        outcome now
                      rw [deliver_of_active hf hopen hw he hactive hsend, hend]
                      exact ⟨_, rfl⟩

structure Serves (g : Setup) (sys : System) (result : Option (Except Error JobOutcome))
    (sys' : System) (created : List TaskRow) : Prop where
  dispatches : sys.store.Dispatches g.handlers.dispatcher.maxAttempts sys'.store created
  answers : ∃ r, result = some r
  /-- Only a fault makes a handler fail. -/
  unharmed : sys.store.notificationFault = none →
    sys'.store.notificationFault = none ∧ ∃ o, result = some (.ok o)

theorem run_serves (hq : sys.store.Queued) (ht : sys.transport.hangs = false) (g : Setup)
    (t : Task) (now : Instant) :
    ∃ created, Serves g sys (g.handlers.run sys t now).1 (g.handlers.run sys t now).2 created := by
  unfold Handlers.run
  cases t.kind with
  | notify =>
      obtain ⟨notifications, fault, supply, hframe⟩ :=
        Store.notify_frame g.handlers sys.store t.subject now
      have hupholds : sys.store.Upholds (g.handlers.notify sys.store t.subject now).2 :=
        .of_index (congrArg Store.webhooks hframe :) (congrArg Store.events hframe :)
          (congrArg Store.deliveries hframe :) (congrArg (fun s => s.outbox.index) hframe :)
      refine ⟨[], hupholds.dispatches (congrArg (fun s => s.outbox.rows.rows) hframe :) _, ⟨_, rfl⟩,
        fun hf => ?_⟩
      rcases g.handlers.notify_unarmed sys.store t.subject now hf with
        ⟨-, hrun⟩ | ⟨e, users, -, -, -, hrun⟩
      · simp only [hrun]
        exact ⟨hf, _, rfl⟩
      · simp only [hrun]
        exact ⟨rfl, _, rfl⟩
  | dispatchWebhooks =>
      obtain ⟨created, hdispatches⟩ :=
        Store.dispatches_dispatch hq g.handlers t.subject now
      obtain ⟨deliveries, outbox, supply, hframe⟩ :=
        Store.dispatch_frame g.handlers sys.store t.subject now
      refine ⟨created, hdispatches, ⟨_, rfl⟩, fun hf => ⟨?_, ?_⟩⟩
      · exact (congrArg Store.notificationFault hframe).trans hf
      · simp only [Handlers.dispatch]
        split
        · exact ⟨_, rfl⟩
        · exact ⟨_, rfl⟩
  | deliverWebhook =>
      obtain ⟨o, hok⟩ := deliver_ok ht g.handlers t.subject now
      obtain ⟨deliveries, webhooks, trackers, hframe⟩ := sys.deliver_frame g.handlers t.subject now
      refine ⟨[], (upholds_deliver g.handlers sys t.subject now).dispatches
        (congrArg (fun s => s.outbox.rows.rows) hframe :) _, ⟨_, hok⟩, fun hf => ⟨?_, o, hok⟩⟩
      exact (congrArg Store.notificationFault hframe).trans hf

/-! ### Executions -/

/-- What comes of executing a task whose row is claimed: the tasks of new deliveries are added at
the end, and then the row is settled. -/
structure Execution (g : Setup) (sys : System) (r : TaskRow) (sys' : System) (r' : TaskRow)
    (created : List TaskRow) : Prop where
  handled : ∃ s, sys.store.Dispatches g.handlers.dispatcher.maxAttempts s created ∧
    sys'.store = { s with outbox := s.outbox.putRow r' }
  step : r.Step r'
  released : r'.status ≠ .claimed
  /-- Without a fault, the task is done. -/
  unharmed : sys.store.notificationFault = none →
    sys'.store.notificationFault = none ∧ r' = r.complete

/-- A claim is settled after an error by the delay before the next attempt. -/
theorem settleFailure_of_delay {config : FanoutConfig} {t : Task} {e : Error} {draw : Draw}
    {now : Instant} {delay : Span}
    (hd : (config.retryPolicy t.kind).delay? (t.attempt + 1) draw = some delay) :
    sys.settleFailure config t e draw now =
      (if (sys.store.outbox.fail t e.message delay now).1.isSome then .settled else .stranded,
        ⟨{ sys.store with outbox := (sys.store.outbox.fail t e.message delay now).2 },
          sys.transport⟩) := by
  simp only [settleFailure, hd, Store.fail]
  cases sys.store.outbox.fail t e.message delay now with
  | mk answer outbox =>
      cases answer with
      | none => rfl
      | some answer => rfl

theorem execute_claimed (hq : sys.store.Queued) (ht : sys.transport.hangs = false)
    (hdelay : ∀ kind attempt draw, (g.config.retryPolicy kind).delay? attempt draw ≠ none)
    {t : Task} {r : TaskRow} (hr : sys.store.outbox.held t = .ok r) (draw : Draw) (now : Instant) :
    ∃ r' created,
      Execution g sys r (sys.execute g.handlers g.config t draw now).2 r' created := by
  obtain ⟨created, hs⟩ := run_serves hq ht g t now
  obtain ⟨result, hanswer⟩ := hs.answers
  obtain ⟨hfound, hheld⟩ := Outbox.held_eq_ok_iff.1 hr
  have hclaimed : r.status = .claimed := (TaskRow.isHeldBy_iff.1 hheld).1
  -- The handler leaves the claim in place.
  have hr' : (g.handlers.run sys t now).2.store.outbox.held t = .ok r := by
    refine Outbox.held_eq_ok_iff.2 ⟨?_, hheld⟩
    obtain ⟨hrow, hid⟩ := Table.find?_eq_some_iff.1 hfound
    refine Table.find?_eq_some_iff.2 ⟨?_, hid⟩
    rw [hs.dispatches.rows]
    exact List.mem_append_left _ hrow
  cases hrun : g.handlers.run sys t now with
  | mk answer sys₁ =>
      rw [hrun] at hs hanswer hr'
      change answer = some result at hanswer
      subst hanswer
      cases result with
      | ok o =>
          refine ⟨r.complete, created, ⟨sys₁.store, hs.dispatches, ?_⟩, .complete hclaimed,
            by simp [TaskRow.complete], fun hf => ⟨?_, rfl⟩⟩
          all_goals simp only [execute, hrun, Store.complete]
          · rw [Outbox.complete_of_held hr']
          · exact (hs.unharmed hf).1
      | error e =>
          obtain ⟨delay, hd⟩ := Option.ne_none_iff_exists'.1 (hdelay t.kind (t.attempt + 1) draw)
          have hharmed : sys.store.notificationFault ≠ none := by
            intro hf
            obtain ⟨-, o, ho⟩ := hs.unharmed hf
            cases ho
          obtain ⟨f, hf, hstep, hreleased, houtbox⟩ := Outbox.yields_fail hr' e.message delay now
          refine ⟨f r, created, ⟨sys₁.store, hs.dispatches, ?_⟩, hstep, hreleased,
            fun hf => (hharmed hf).elim⟩
          simp only [execute, hrun, settleFailure_of_delay hd, houtbox]

/-- The attempts that a task of a new delivery comes with. -/
theorem sum_remaining_of_new {maxAttempts : Nat} {created : List TaskRow}
    (h : ∀ r ∈ created, Store.IsDeliveryRow maxAttempts r) :
    (created.map TaskRow.remaining).sum = created.length * max maxAttempts 1 := by
  induction created with
  | nil => exact (Nat.zero_mul _).symm
  | cons r created ih =>
      obtain ⟨id, delivery, seq, now, rfl⟩ := h r List.mem_cons_self
      have hrest := ih fun x hx => h x (List.mem_cons_of_mem _ hx)
      simp only [List.map_cons, List.sum_cons, List.length_cons, hrest, Nat.add_mul, Nat.one_mul]
      exact Nat.add_comm _ _

namespace Execution

variable {sys' : System} {r r' : TaskRow} {created : List TaskRow}

theorem id_eq (h : Execution g sys r sys' r' created) : r'.id = r.id :=
  TaskRow.id_of_face_eq h.step.face_eq

theorem find?_self (h : Execution g sys r sys' r' created) :
    sys'.store.outbox.rows.find? r.id = some r' := by
  obtain ⟨s, -, hs⟩ := h.handled
  rw [hs, ← h.id_eq]
  exact Table.find?_put_self s.outbox.rows r'

theorem find?_of_ne (h : Execution g sys r sys' r' created) {id : Ident} (hid : id ≠ r.id)
    {x : TaskRow} (hx : sys.store.outbox.rows.find? id = some x) :
    sys'.store.outbox.rows.find? id = some x := by
  obtain ⟨s, hd, hs⟩ := h.handled
  have hother : r'.id ≠ id := fun he => hid (he.symm.trans h.id_eq)
  obtain ⟨hin, hk⟩ := Table.find?_eq_some_iff.1 hx
  rw [hs]
  refine ((Table.find?_put s.outbox.rows r' id).trans (if_neg hother)).trans ?_
  exact Table.find?_eq_some_iff.2 ⟨hd.rows ▸ List.mem_append_left _ hin, hk⟩

/-- The claims after an execution are the others before it. -/
theorem of_claimed (h : Execution g sys r sys' r' created) {x : TaskRow}
    (hx : x ∈ sys'.store.outbox.rows.rows) (hc : x.status = .claimed) :
    x ∈ sys.store.outbox.rows.rows ∧ x.id ≠ r.id := by
  obtain ⟨s, hd, hs⟩ := h.handled
  rw [hs] at hx
  rcases Table.mem_rows_put.1 hx with rfl | ⟨hin, hk⟩
  · exact (h.released hc).elim
  · rcases List.mem_append.1 (hd.rows ▸ hin) with hin | hnew
    · exact ⟨hin, fun he => hk (he.trans h.id_eq.symm)⟩
    · obtain ⟨id, delivery, seq, now, rfl⟩ := hd.new x hnew
      cases hc

/-- The tasks of new deliveries are added before the row is settled. -/
theorem settles (h : Execution g sys r sys' r' created)
    (hr : sys.store.outbox.rows.find? r.id = some r) :
    ∃ s, sys.store.Dispatches g.handlers.dispatcher.maxAttempts s created ∧
      sys'.store = { s with outbox := s.outbox.putRow r' } ∧
      s.outbox.rows.find? r'.id = some r := by
  obtain ⟨s, hd, hs⟩ := h.handled
  obtain ⟨hin, hk⟩ := Table.find?_eq_some_iff.1 hr
  exact ⟨s, hd, hs, Table.find?_eq_some_iff.2
    ⟨hd.rows ▸ List.mem_append_left _ hin, hk.trans h.id_eq.symm⟩⟩

theorem gains (h : Execution g sys r sys' r' created)
    (hr : sys.store.outbox.rows.find? r.id = some r) : sys.store.Gains g sys'.store created := by
  obtain ⟨s, hd, hs, hfound⟩ := h.settles hr
  have hupholds : s.Upholds { s with outbox := s.outbox.putRow r' } :=
    .of_index rfl rfl rfl rfl
  rw [hs]
  refine ⟨?_, hd.new, (Nat.add_le_add_right hupholds.unserved_le _).trans hd.unserved⟩
  rw [← List.map_append, ← hd.rows]
  exact Table.map_put_of_present TaskRow.face hfound h.step.face_eq

theorem remaining_le (h : Execution g sys r sys' r' created)
    (hr : sys.store.outbox.rows.find? r.id = some r) :
    sys'.store.outbox.remaining ≤ sys.store.outbox.remaining +
      created.length * max g.handlers.dispatcher.maxAttempts 1 + (r.maxAttempts - r.attempt) := by
  obtain ⟨s, hd, hs, hfound⟩ := h.settles hr
  have hput := Outbox.remaining_putRow hfound
  have hgrown : s.outbox.remaining = sys.store.outbox.remaining +
      created.length * max g.handlers.dispatcher.maxAttempts 1 := by
    rw [Outbox.remaining, hd.rows, List.map_append, List.sum_append, sum_remaining_of_new hd.new]
    rfl
  have hle := h.step.remaining_le
  rw [hs]
  change (s.outbox.putRow r').remaining ≤ _
  omega

end Execution

end System

end BoardActivity
