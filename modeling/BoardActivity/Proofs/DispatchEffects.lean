import BoardActivity.Proofs.CallFrames

/-!
# What dispatching an event does to the store

Dispatching makes sure of a delivery to each webhook that the event concerns, and of the task that
sends it. Either may be there already, from a dispatch that stopped half way or one that was
finished long ago, in any state; what is missing is added, and nothing else is touched. So the
store after a dispatch has a closed form, and dispatching again gives the same deliveries and
changes nothing (`Store.dispatch_effects`).

Of the store it is supposed that new identifiers are new and that tasks and their index agree
(`Store.Numbered`). References may be broken, and the event need not be stored.
-/

namespace BoardActivity

namespace Store

structure Numbered (s : Store) : Prop where
  distinct : (s.deliveries.rows.map Delivery.id).Nodup
  below : ∀ d ∈ s.deliveries.rows, d.id.value < s.supply.next
  tasks : s.outbox.Below s.supply.next
  index : s.outbox.Indexed

/-- The deliveries `ds` of an event, and their tasks, have been made sure of: those that were
missing stand at the end. -/
structure Ensures (maxAttempts : Nat) (event : Ident) (now : Instant) (s : Store)
    (ds : List Delivery) (s' : Store) : Prop where
  stored : ∀ d ∈ ds, s'.deliveries.find? (d.webhook, event) = some d
  deliveries : s'.deliveries.rows = s.deliveries.rows ++
    ds.filter fun d => !s.deliveries.contains (d.webhook, event)
  /-- A delivery that was missing waits to be sent, under an identifier not used before. -/
  created : ∀ d ∈ ds, s.deliveries.contains (d.webhook, event) = false →
    s.supply.next ≤ d.id.value ∧ d.state = .pending ∧ d = .create d.id d.webhook event now
  /-- Each delivery without a task gets one that waits to be tried, once at least. -/
  tasks : ∃ added, s'.outbox.rows.rows = s.outbox.rows.rows ++ added ∧
    added.map TaskRow.subject =
      (ds.filter fun d => !s.outbox.has .deliverWebhook d.id).map Delivery.id ∧
    ∀ r ∈ added, s.supply.next ≤ r.id.value ∧ r.status = .pending ∧ 1 ≤ r.maxAttempts ∧
      ∃ seq, r = .ofNew (deliveryTask r.subject maxAttempts) r.id seq now
  has : ∀ kind subject, s'.outbox.has kind subject = true ↔
    s.outbox.has kind subject = true ∨ kind = .deliverWebhook ∧ subject ∈ ds.map Delivery.id
  next_le : s.supply.next ≤ s'.supply.next
  numbered : s'.Numbered

variable {s s' s'' : Store} {maxAttempts : Nat} {event : Ident} {now : Instant}

/-! ### One webhook -/

theorem ensureDelivery_of_present {webhook : Ident} {d : Delivery}
    (h : s.deliveries.find? (webhook, event) = some d) (now : Instant) :
    s.ensureDelivery webhook event now = (d, s) := by
  simp only [ensureDelivery, h]

theorem ensureDelivery_of_absent {webhook : Ident}
    (h : s.deliveries.find? (webhook, event) = none) (now : Instant) :
    s.ensureDelivery webhook event now = (.create ⟨s.supply.next⟩ webhook event now, { s with
      deliveries := s.deliveries.put (.create ⟨s.supply.next⟩ webhook event now)
      supply := ⟨s.supply.next + 1⟩ }) := by
  simp only [ensureDelivery, h, mint, Supply.mint]

/-- The delivery to a webhook is the one that was there, or it is added at the end. -/
theorem Numbered.ensureDelivery (h : s.Numbered) (webhook event : Ident) (now : Instant) :
    ∃ d s₁, s.ensureDelivery webhook event now = (d, s₁) ∧ d.webhook = webhook ∧
      s₁.deliveries.find? (webhook, event) = some d ∧
      s₁.deliveries.rows = s.deliveries.rows ++
        [d].filter (fun d => !s.deliveries.contains (d.webhook, event)) ∧
      (s.deliveries.contains (webhook, event) = false →
        s.supply.next ≤ d.id.value ∧ d.state = .pending ∧
          d = .create d.id webhook event now) ∧
      s₁.outbox = s.outbox ∧ s.supply.next ≤ s₁.supply.next ∧ s₁.Numbered := by
  cases hf : s.deliveries.find? (webhook, event) with
  | some d =>
      have hwebhook : d.webhook = webhook :=
        congrArg Prod.fst (Table.find?_eq_some_iff.1 hf).2
      have hthere : s.deliveries.contains (webhook, event) = true := Table.contains_iff.2 ⟨d, hf⟩
      refine ⟨d, s, ensureDelivery_of_present hf now, hwebhook, hf, ?_, ?_, rfl, le_rfl, h⟩
      · simp [hwebhook, hthere]
      · simp [hthere]
  | none =>
      let d := Delivery.create ⟨s.supply.next⟩ webhook event now
      have hmissing : s.deliveries.contains (webhook, event) = false := by
        simp [Table.contains, hf]
      have hrows : (s.deliveries.put d).rows = s.deliveries.rows ++ [d] :=
        Table.rows_put_of_absent hf
      have hkeep : [d].filter (fun d => !s.deliveries.contains (d.webhook, event)) = [d] := by
        simp [d, Delivery.create, hmissing]
      refine ⟨d, _, ensureDelivery_of_absent hf now, rfl, Table.find?_put_self _ _,
        hrows.trans (by rw [hkeep]), fun _ => ⟨le_rfl, rfl, rfl⟩, rfl, Nat.le_succ _, ?_, ?_, ?_,
        h.index⟩
      · rw [hrows, List.map_append, List.nodup_append]
        refine ⟨h.distinct, List.nodup_singleton _, ?_⟩
        rintro id hid id' hid' rfl
        obtain ⟨x, hx, rfl⟩ := List.mem_map.1 hid
        have hlt := h.below x hx
        rw [List.mem_singleton.1 hid'] at hlt
        exact Nat.lt_irrefl _ hlt
      · intro x hx
        rw [hrows] at hx
        rcases List.mem_append.1 hx with hx | hx
        · exact (h.below x hx).trans (Nat.lt_succ_self _)
        · cases List.mem_singleton.1 hx
          exact Nat.lt_succ_self _
      · exact fun r hr => (h.tasks r hr).trans (Nat.lt_succ_self _)

/-- A task is enqueued at the end, unless there is one of its kind and subject. -/
theorem Numbered.enqueue (h : s.Numbered) (t : NewTask) (now : Instant) :
    ∃ outbox supply added, (s.enqueue t now).2 = { s with outbox, supply } ∧
      outbox.rows.rows = s.outbox.rows.rows ++ added ∧
      added.map TaskRow.subject =
        [t.subject].filter (fun subject => !s.outbox.has t.kind subject) ∧
      (∀ r ∈ added, s.supply.next ≤ r.id.value ∧ ∃ seq, r = .ofNew t r.id seq now) ∧
      s.supply.next ≤ supply.next ∧ (s.enqueue t now).2.Numbered := by
  cases hhas : s.outbox.has t.kind t.subject with
  | true =>
      rw [enqueue_of_has hhas]
      exact ⟨s.outbox, s.supply, [], rfl, by simp, by simp [hhas], by simp, le_rfl, h⟩
  | false =>
      have habsent : s.outbox.rows.find? ⟨s.supply.next⟩ = none := h.tasks.find?_eq_none le_rfl
      have hrows := Outbox.insert_rows habsent t now
      rw [enqueue_of_new hhas]
      refine ⟨_, _, _, rfl, hrows, by simp [hhas, TaskRow.ofNew], ?_, Nat.le_succ _, h.distinct,
        ?_, ?_, h.index.insert hhas habsent now⟩
      · intro r hr
        cases List.mem_singleton.1 hr
        exact ⟨le_rfl, _, rfl⟩
      · exact fun d hd => (h.below d hd).trans (Nat.lt_succ_self _)
      · intro r hr
        rw [hrows] at hr
        rcases List.mem_append.1 hr with hr | hr
        · exact (h.tasks r hr).trans (Nat.lt_succ_self _)
        · cases List.mem_singleton.1 hr
          exact Nat.lt_succ_self _

theorem Numbered.deliverToOne (h : s.Numbered) (maxAttempts : Nat) (event : Ident) (now : Instant)
    (w : Webhook) : ∃ d s', s.deliverToAll maxAttempts event now [w] = ([d], s') ∧
      d.webhook = w.id ∧ s.Ensures maxAttempts event now [d] s' := by
  obtain ⟨d, s₁, hensure, hwebhook, hstored, hrows, hcreated, houtbox, hle, hnumbered⟩ :=
    h.ensureDelivery w.id event now
  let t := deliveryTask d.id maxAttempts
  obtain ⟨outbox, supply, added, htask, htasks, hsubjects, hadded, hle', hnumbered'⟩ :=
    hnumbered.enqueue t now
  refine ⟨d, (s₁.enqueue t now).2, ?_, hwebhook, ?_⟩
  · simp only [deliverToAll, hensure]
    rfl
  · refine ⟨?_, ?_, ?_, ⟨added, ?_, ?_, ?_⟩, ?_, ?_, hnumbered'⟩
    · intro x hx
      cases List.mem_singleton.1 hx
      rw [htask, hwebhook]
      exact hstored
    · rw [htask]
      exact hrows
    · intro x hx
      cases List.mem_singleton.1 hx
      rw [hwebhook]
      exact hcreated
    · rw [htask, ← houtbox]
      exact htasks
    · have hkind : s₁.outbox.has t.kind t.subject = s.outbox.has .deliverWebhook d.id := by
        rw [houtbox]
        rfl
      rw [hsubjects, List.filter_singleton, List.filter_singleton, hkind]
      cases s.outbox.has .deliverWebhook d.id <;> rfl
    · intro r hr
      obtain ⟨hnew, seq, hrow⟩ := hadded r hr
      have hsubject : r.subject = d.id := by
        rw [hrow]
        rfl
      refine ⟨hle.trans hnew, ?_, ?_, seq, ?_⟩
      · rw [hrow]
        rfl
      · rw [hrow]
        exact Nat.le_max_right _ _
      · rw [hsubject]
        exact hrow
    · intro kind subject
      rw [has_enqueue, houtbox, List.map_singleton, List.mem_singleton]
      have htaskOf : t.kind = kind ∧ t.subject = subject ↔
          kind = .deliverWebhook ∧ subject = d.id :=
        and_congr eq_comm eq_comm
      rw [htaskOf]
    · rw [htask]
      exact hle.trans hle'

/-! ### Webhooks one after the other -/

theorem Ensures.nil (h : s.Numbered) (maxAttempts : Nat) (event : Ident) (now : Instant) :
    s.Ensures maxAttempts event now [] s where
  stored := by simp
  deliveries := by simp
  created := by simp
  tasks := ⟨[], by simp⟩
  has := by simp
  next_le := le_rfl
  numbered := h

/-- A delivery that was there is there still. -/
theorem Ensures.find? {ds : List Delivery} (h : s.Ensures maxAttempts event now ds s')
    {k : Ident × Ident} {d : Delivery} (hd : s.deliveries.find? k = some d) :
    s'.deliveries.find? k = some d := by
  obtain ⟨hrow, hkey⟩ := Table.find?_eq_some_iff.1 hd
  refine Table.find?_eq_some_iff.2 ⟨?_, hkey⟩
  rw [h.deliveries]
  exact List.mem_append_left _ hrow

/-- Which deliveries are there after. -/
theorem Ensures.contains_iff {ds : List Delivery} (h : s.Ensures maxAttempts event now ds s')
    (webhook : Ident) : s'.deliveries.contains (webhook, event) = true ↔
      s.deliveries.contains (webhook, event) = true ∨ webhook ∈ ds.map Delivery.webhook := by
  constructor
  · intro hthere
    obtain ⟨d, hd⟩ := Table.contains_iff.1 hthere
    obtain ⟨hrow, hkey⟩ := Table.find?_eq_some_iff.1 hd
    rw [h.deliveries] at hrow
    rcases List.mem_append.1 hrow with hrow | hrow
    · exact .inl (Table.contains_iff.2 ⟨d, Table.find?_eq_some_iff.2 ⟨hrow, hkey⟩⟩)
    · exact .inr (List.mem_map.2 ⟨d, List.mem_of_mem_filter hrow, congrArg Prod.fst hkey⟩)
  · rintro (hthere | hmem)
    · obtain ⟨d, hd⟩ := Table.contains_iff.1 hthere
      exact Table.contains_iff.2 ⟨d, h.find? hd⟩
    · obtain ⟨d, hd, rfl⟩ := List.mem_map.1 hmem
      exact Table.contains_iff.2 ⟨d, h.stored d hd⟩

theorem Ensures.trans {ds ds' : List Delivery} (h : s.Ensures maxAttempts event now ds s')
    (h' : s'.Ensures maxAttempts event now ds' s'')
    (hapart : ∀ d ∈ ds', d.webhook ∉ ds.map Delivery.webhook) :
    s.Ensures maxAttempts event now (ds ++ ds') s'' := by
  -- The deliveries of the second part were missing before the first if they are so after it.
  have hcontains : ∀ d ∈ ds', s'.deliveries.contains (d.webhook, event) =
      s.deliveries.contains (d.webhook, event) := by
    intro d hd
    rw [Bool.eq_iff_iff, h.contains_iff, or_iff_left (hapart d hd)]
  have hids : ∀ d ∈ ds', d.id ∉ ds.map Delivery.id := by
    intro d hd hid
    obtain ⟨x, hx, hsame⟩ := List.mem_map.1 hid
    have hrow := (Table.find?_eq_some_iff.1 (h'.find? (h.stored x hx))).1
    have hrow' := (Table.find?_eq_some_iff.1 (h'.stored d hd)).1
    have heq : x = d := List.inj_on_of_nodup_map h'.numbered.distinct hrow hrow' hsame
    exact hapart d hd (heq ▸ List.mem_map_of_mem hx)
  have hhas : ∀ d ∈ ds', s'.outbox.has .deliverWebhook d.id =
      s.outbox.has .deliverWebhook d.id := by
    intro d hd
    rw [Bool.eq_iff_iff, h.has, or_iff_left fun hin => hids d hd hin.2]
  refine ⟨fun d hd => ?_, ?_, fun d hd hmissing => ?_, ?_, fun kind subject => ?_,
    h.next_le.trans h'.next_le, h'.numbered⟩
  · rcases List.mem_append.1 hd with hd | hd
    · exact h'.find? (h.stored d hd)
    · exact h'.stored d hd
  · rw [h'.deliveries, h.deliveries, List.filter_append, List.append_assoc]
    congr 2
    exact List.filter_congr fun d hd => by rw [hcontains d hd]
  · rcases List.mem_append.1 hd with hd | hd
    · exact h.created d hd hmissing
    · obtain ⟨hnew, hrow⟩ := h'.created d hd ((hcontains d hd).trans hmissing)
      exact ⟨h.next_le.trans hnew, hrow⟩
  · obtain ⟨added, hrows, hsubjects, hadded⟩ := h.tasks
    obtain ⟨added', hrows', hsubjects', hadded'⟩ := h'.tasks
    refine ⟨added ++ added', ?_, ?_, fun r hr => ?_⟩
    · rw [hrows', hrows, List.append_assoc]
    · rw [List.map_append, hsubjects, hsubjects', List.filter_append, List.map_append]
      congr 2
      exact List.filter_congr fun d hd => by rw [hhas d hd]
    · rcases List.mem_append.1 hr with hr | hr
      · exact hadded r hr
      · exact ⟨h.next_le.trans (hadded' r hr).1, (hadded' r hr).2⟩
  · rw [h'.has, h.has, List.map_append, List.mem_append]
    tauto

theorem Numbered.deliverToAll (h : s.Numbered) (maxAttempts : Nat) (event : Ident) (now : Instant)
    {webhooks : List Webhook} (hw : (webhooks.map Webhook.id).Nodup) :
    ∃ ds s', s.deliverToAll maxAttempts event now webhooks = (ds, s') ∧
      ds.map Delivery.webhook = webhooks.map Webhook.id ∧
      s.Ensures maxAttempts event now ds s' := by
  induction webhooks generalizing s with
  | nil => exact ⟨[], s, rfl, rfl, .nil h maxAttempts event now⟩
  | cons w webhooks ih =>
      obtain ⟨hfirst, hrest⟩ := List.nodup_cons.1 hw
      obtain ⟨d, s₁, hone, hwebhook, hensures⟩ := h.deliverToOne maxAttempts event now w
      obtain ⟨ds, s₂, hall, hwebhooks, hensures'⟩ := ih hensures.numbered hrest
      refine ⟨d :: ds, s₂, ?_, ?_, hensures.trans hensures' fun x hx hin => ?_⟩
      · have hsplit : s.deliverToAll maxAttempts event now (w :: webhooks) =
            (d :: (s₁.deliverToAll maxAttempts event now webhooks).1,
              (s₁.deliverToAll maxAttempts event now webhooks).2) := by
          obtain ⟨hd, hs₁⟩ := Prod.mk.inj hone
          cases hs₁
          cases hd
          rfl
        rw [hsplit, hall]
      · rw [List.map_cons, List.map_cons, hwebhook, hwebhooks]
      · rw [List.map_singleton, List.mem_singleton, hwebhook] at hin
        exact hfirst (hwebhooks ▸ hin ▸ List.mem_map_of_mem hx)

/-- Where all deliveries are there, and their tasks, nothing is left to do. -/
theorem deliverToAll_of_served (maxAttempts : Nat) (now : Instant) {webhooks : List Webhook}
    {ds : List Delivery} (hw : ds.map Delivery.webhook = webhooks.map Webhook.id)
    (hserved : ∀ d ∈ ds, s.deliveries.find? (d.webhook, event) = some d ∧
      s.outbox.has .deliverWebhook d.id = true) :
    s.deliverToAll maxAttempts event now webhooks = (ds, s) := by
  induction webhooks generalizing ds with
  | nil =>
      cases List.map_eq_nil_iff.1 hw
      rfl
  | cons w webhooks ih =>
      obtain ⟨d, ds, rfl, hwebhook, hrest⟩ := List.map_eq_cons_iff.1 hw
      obtain ⟨hfound, hhas⟩ := hserved d List.mem_cons_self
      have hkeep : s.enqueue (deliveryTask d.id maxAttempts) now = (false, s) :=
        enqueue_of_has hhas now
      rw [deliverToAll, ensureDelivery_of_present (hwebhook ▸ hfound) now]
      rw [deliveryTask] at hkeep
      simp only [hkeep, ih hrest fun x hx => hserved x (List.mem_cons_of_mem d hx)]

/-! ### The whole dispatch -/

theorem pairwise_activeWebhooks (s : Store) (board : Ident) :
    ((s.activeWebhooks board).map Webhook.id).Pairwise (· < ·) := by
  have hsorted : (s.activeWebhooks board).Pairwise fun a b => a.id.value ≤ b.id.value := by
    refine (List.pairwise_mergeSort (fun a b c hab hbc => ?_) (fun a b => ?_) _).imp
      of_decide_eq_true
    · exact decide_eq_true (Nat.le_trans (of_decide_eq_true hab) (of_decide_eq_true hbc))
    · simpa using Nat.le_total a.id.value b.id.value
  have hdistinct : (s.activeWebhooks board).Pairwise fun a b => a.id ≠ b.id := by
    refine List.pairwise_map.1 ?_
    refine ((List.mergeSort_perm _ _).map Webhook.id).nodup_iff.2 ?_
    exact (List.filter_sublist.map Webhook.id).nodup s.webhooks.distinct
  refine List.pairwise_map.2 ((hsorted.and hdistinct).imp fun {a b} hab => ?_)
  exact Nat.lt_of_le_of_ne hab.1 fun he => hab.2 (congrArg Ident.mk he)

theorem pairwise_concernedWebhooks (s : Store) (p : Dispatcher) (e : Event) :
    ((s.concernedWebhooks p e).map Webhook.id).Pairwise (· < ·) := by
  unfold concernedWebhooks
  split_ifs
  · exact (s.pairwise_activeWebhooks e.board).sublist (List.filter_sublist.map Webhook.id)
  · exact .nil

structure Dispatched (p : Dispatcher) (e : Event) (now : Instant) (s : Store)
    (ds : List Delivery) (s' : Store) : Prop extends s.Ensures p.maxAttempts e.id now ds s' where
  /-- The deliveries are given by webhook, one for each webhook that the event concerns. -/
  sorted : (ds.map Delivery.webhook).Pairwise (· < ·)
  concerned : ∀ webhook, webhook ∈ ds.map Delivery.webhook ↔
    ∃ w, s.webhooks.find? webhook = some w ∧ p.concerns w e = true
  /-- A delivery that was there is given as it is, in whatever state. -/
  kept : ∀ d ∈ ds, ∀ d', s.deliveries.find? (d.webhook, e.id) = some d' → d = d'
  /-- A delivery had its task if there was one, done or not. -/
  tasked : ∀ d ∈ ds, s.outbox.has .deliverWebhook d.id = true ↔
    ∃ r ∈ s.outbox.rows.rows, r.kind = .deliverWebhook ∧ r.subject = d.id
  frame : ∃ deliveries outbox supply, s' = { s with deliveries, outbox, supply }

/-- Dispatching an event gives one delivery for each webhook that it concerns, by webhook, and none
for others. What was missing of the deliveries and their tasks is added, nothing else changes, and
dispatching again, at whatever time, gives the same deliveries and changes nothing. -/
theorem dispatch_effects (h : s.Numbered) (p : Dispatcher) (e : Event) (now : Instant) :
    ∃ ds s', s.dispatch p e now = (ds, s') ∧ s.Dispatched p e now ds s' ∧
      ∀ later, s'.dispatch p e later = (ds, s') := by
  have hsorted := s.pairwise_concernedWebhooks p e
  obtain ⟨ds, s', heq, hwebhooks, hensures⟩ :=
    h.deliverToAll p.maxAttempts e.id now (Ident.nodup_of_pairwise hsorted)
  obtain ⟨deliveries, outbox, supply, hframe⟩ :=
    s.deliverToAll_frame p.maxAttempts e.id now (s.concernedWebhooks p e)
  rw [heq] at hframe
  refine ⟨ds, s', heq, ?_, fun later => ?_⟩
  · refine ⟨hensures, hwebhooks ▸ hsorted, fun webhook => ?_, fun d hd d' hd' => ?_,
      fun d _ => (h.index.exists_row_iff _ _).symm, deliveries, outbox, supply, hframe⟩
    · rw [hwebhooks, List.mem_map]
      constructor
      · rintro ⟨w, hw, rfl⟩
        obtain ⟨hrow, hconcerns⟩ := mem_concernedWebhooks.1 hw
        exact ⟨w, Table.mem_rows_iff.1 hrow, hconcerns⟩
      · rintro ⟨w, hw, hconcerns⟩
        obtain ⟨hrow, rfl⟩ := Table.find?_eq_some_iff.1 hw
        exact ⟨w, mem_concernedWebhooks.2 ⟨hrow, hconcerns⟩, rfl⟩
    · exact Option.some.inj ((hensures.stored d hd).symm.trans (hensures.find? hd'))
  · have hsame : s'.concernedWebhooks p e = s.concernedWebhooks p e := by
      rw [show s' = _ from hframe]
      rfl
    unfold dispatch
    rw [hsame]
    refine deliverToAll_of_served _ _ hwebhooks fun d hd => ⟨hensures.stored d hd, ?_⟩
    exact (hensures.has _ _).2 (.inr ⟨rfl, List.mem_map_of_mem hd⟩)

/-- An earlier dispatch stopped half way: one delivery has its task, another one, failed since, has
none, and a third one is missing. A fourth webhook is not active. -/
theorem dispatch_effects_resumed :
    let now : Instant := ⟨0, 0⟩
    let webhook (id : Nat) (active : Bool) : Webhook :=
      ⟨⟨id⟩, ⟨9⟩, ⟨2⟩, "hook", "https://example.com", active, .ofList ["card_published"], now⟩
    let first : Delivery := .create ⟨10⟩ ⟨7⟩ ⟨3⟩ now
    let second : Delivery := (Delivery.create ⟨12⟩ ⟨5⟩ ⟨3⟩ now).finish (.responded 500) now
    let s : Store := { Store.empty 13 with
      webhooks := .ofList [webhook 5 true, webhook 6 false, webhook 7 true, webhook 8 true]
      deliveries := .ofList [first, second]
      outbox := Outbox.empty.insert (deliveryTask ⟨10⟩ 1) ⟨11⟩ now }
    let e : Event := ⟨⟨3⟩, ⟨9⟩, ⟨2⟩, ⟨1⟩, ⟨.card, ⟨4⟩⟩, "card_published", [], now⟩
    s.Numbered ∧
      (s.dispatch .standard e now).1 = [second, first, .create ⟨14⟩ ⟨8⟩ ⟨3⟩ now] ∧
      ∃ ds s', s.dispatch .standard e now = (ds, s') ∧ s.Dispatched .standard e now ds s' ∧
        ∀ later, s'.dispatch .standard e later = (ds, s') := by
  intro now webhook first second s e
  have hs : s.Numbered :=
    ⟨by decide, by decide, by unfold Outbox.Below; decide, Outbox.indexed_empty.insert rfl rfl now⟩
  have hconcerned : s.concernedWebhooks .standard e =
      [webhook 5 true, webhook 7 true, webhook 8 true] := by
    unfold concernedWebhooks activeWebhooks
    rw [List.mergeSort_of_pairwise (by decide)]
    decide
  have hgiven : (s.dispatch .standard e now).1 = [second, first, .create ⟨14⟩ ⟨8⟩ ⟨3⟩ now] := by
    unfold dispatch
    rw [hconcerned]
    decide
  exact ⟨hs, hgiven, dispatch_effects hs .standard e now⟩

end Store

end BoardActivity
