import BoardActivity.Proofs.StoreWrites

/-!
# References over runs

Every write keeps `Store.Linked`, so every call of the program does, and every run that starts from
users, boards and webhooks.
-/

namespace BoardActivity

namespace Store

variable {s : Store}

structure Seeded (s : Store) : Prop where
  cards : s.cards = .empty
  comments : s.comments = .empty
  events : s.events = .empty
  notifications : s.notifications = .empty
  deliveries : s.deliveries = .empty
  outbox : s.outbox = .empty

theorem Seeded.linked (h : s.Seeded) : s.Linked := by
  obtain ⟨hcards, hcomments, hevents, hnotifications, hdeliveries, houtbox⟩ := h
  have hnone : s.minted = [] := by
    simp only [minted, cardIds, commentIds, eventIds, notificationIds, deliveryIds, taskIds, hcards,
      hcomments, hevents, hnotifications, hdeliveries, houtbox]
    rfl
  refine ⟨⟨?_, ?_⟩, houtbox ▸ Outbox.sound_empty, ?_, ?_, ?_, ?_, ?_⟩
  · exact hnone ▸ List.nodup_nil
  · intro id hm
    rw [hnone] at hm
    cases hm
  · intro n hm
    rw [hnotifications] at hm
    cases hm
  · intro d hm
    rw [hdeliveries] at hm
    cases hm
  · intro e hm
    rw [hevents] at hm
    cases hm
  · intro c hm
    rw [hcomments] at hm
    cases hm
  · intro kind subject
    have hnot : ¬s.Owes kind subject := by
      unfold Owes
      split
      all_goals
        simp only [eventIds, deliveryIds, hevents, hdeliveries]
        exact List.not_mem_nil
    rw [houtbox]
    exact iff_of_false Bool.false_ne_true hnot

end Store

namespace Outbox

theorem Sound.exists_row_iff {o : Outbox} (h : o.Sound) (kind : TaskKind) (subject : Ident) :
    (∃ r ∈ o.rows.rows, r.kind = kind ∧ r.subject = subject) ↔ o.has kind subject = true :=
  h.indexed.exists_row_iff kind subject

theorem Sound.nodup_tasks {o : Outbox} (h : o.Sound) :
    (o.rows.rows.map fun r => (r.kind, r.subject)).Nodup :=
  h.indexed.nodup_tasks

end Outbox

namespace System

variable {sys : System}

/-- No call leaves a reference behind that points nowhere, or forgets a task. -/
theorem linked_call (h : sys.store.Linked) (g : Setup) (now : Instant) (c : SystemCall) :
    (sys.call g now c).store.Linked := by
  have hw : Store.Writes g (fun _ => True) sys.store (sys.call g now c).store :=
    call_writes h now c fun _ _ => trivial
  exact h.writes hw

theorem run_linked (h : sys.store.Linked) (g : Setup) (calls : List (Instant × SystemCall)) :
    (sys.run g calls).store.Linked :=
  run_induction (P := fun sys => sys.store.Linked) (fun _ now c hl => linked_call hl g now c) h
    calls

theorem linked_run (h : sys.store.Seeded) (g : Setup) (calls : List (Instant × SystemCall)) :
    (sys.run g calls).store.Linked :=
  run_linked h.linked g calls

/-- Over every run from users, boards and webhooks: the tasks are exactly those owed to events and
deliveries, whether looked up or listed; every reference leads to a record that is there;
notifications and deliveries are known by the event and user, or webhook and event, that they name;
and no two records share an identifier. -/
theorem references_of_run {sys : System} (h : sys.store.Seeded) (g : Setup)
    (calls : List (Instant × SystemCall)) :
    let s := (sys.run g calls).store
    (∀ kind subject, s.outbox.has kind subject = true ↔ s.Owes kind subject) ∧
      (∀ kind subject, (∃ r ∈ s.outbox.rows.rows, r.kind = kind ∧ r.subject = subject) ↔
        s.Owes kind subject) ∧
      (s.outbox.rows.rows.map fun r => (r.kind, r.subject)).Nodup ∧
      (∀ n ∈ s.notifications.rows, n.event ∈ s.eventIds) ∧
      (∀ d ∈ s.deliveries.rows, d.event ∈ s.eventIds ∧ d.webhook ∈ s.webhookIds) ∧
      (∀ e ∈ s.events.rows, s.HasEventable e.eventable) ∧
      (∀ c ∈ s.comments.rows, c.card ∈ s.cardIds) ∧
      (∀ k n, s.notifications.find? k = some n ↔ n ∈ s.notifications.rows ∧ (n.event, n.user) = k) ∧
      (∀ k d, s.deliveries.find? k = some d ↔ d ∈ s.deliveries.rows ∧ (d.webhook, d.event) = k) ∧
      s.minted.Nodup ∧ s.webhookIds.Nodup := by
  have hend : (sys.run g calls).store.Linked := linked_run h g calls
  refine ⟨hend.scheduled, fun kind subject => ?_, hend.sound.nodup_tasks, hend.notified,
    hend.delivered, hend.eventables, hend.commented, fun _ _ => Table.find?_eq_some_iff,
    fun _ _ => Table.find?_eq_some_iff, hend.counted.distinct, Table.distinct _⟩
  exact (hend.sound.exists_row_iff kind subject).trans (hend.scheduled kind subject)

/-- A card is published and its event dispatched to the one webhook of the board: the outbox has the
two tasks of the event and the task of the delivery. -/
theorem references_of_published_card :
    let board : Board := ⟨⟨2⟩, ⟨9⟩, "ops", [⟨1⟩]⟩
    let webhook : Webhook := ⟨⟨3⟩, ⟨9⟩, ⟨2⟩, "hook", "https://example.com", true,
      .ofList ["card_published"], ⟨0, 0⟩⟩
    let seed := ((Store.empty 10).addUser ⟨⟨1⟩, ⟨9⟩, "ada", .member⟩).addBoard board
    let sys : System := ⟨seed.saveWebhook webhook, .standard⟩
    let calls : List (Instant × SystemCall) :=
      [(⟨0, 0⟩, .createDraft ⟨2⟩ ⟨1⟩ "plan"), (⟨0, 0⟩, .changeCard ⟨10⟩ ⟨1⟩ .publish),
       (⟨0, 0⟩, .dispatch ⟨11⟩)]
    let s := (sys.run ⟨.standard, .ofConfig .standard, .standard⟩ calls).store
    (s.outbox.rows.rows.map fun r => (r.kind, r.subject)) =
        [(.notify, ⟨11⟩), (.dispatchWebhooks, ⟨11⟩), (.deliverWebhook, ⟨14⟩)] ∧
      (∀ kind subject, s.outbox.has kind subject = true ↔ s.Owes kind subject) ∧
      s.minted.Nodup := by
  intro board webhook seed sys calls s
  have hseed : sys.store.Seeded := ⟨rfl, rfl, rfl, rfl, rfl, rfl⟩
  obtain ⟨hscheduled, -, -, -, -, -, -, -, -, hminted, -⟩ :=
    references_of_run hseed ⟨.standard, .ofConfig .standard, .standard⟩ calls
  exact ⟨by decide +kernel, hscheduled, hminted⟩

end System

end BoardActivity
