import BoardActivity.Proofs.WireValues

/-!
# Records read back

What is written of a record is read as that record again, and so is whatever a record was read from,
once it is written: reading forgets nothing but the spelling (`Wire.records_read_back`). Spellings
differ by members of other names, by a member left out that has a default, by the digits of an
identifier or an instant, or by an array in the place of the object.

`Fits` says of each record which of its values the program has: identifiers of 128 bits, instants in
the calendar, counters and status codes of the width of their words. Names, texts and the
particulars of an event are any at all. Whatever is read fits.
-/

namespace BoardActivity

namespace Wire

/-! ### One member after the other

Readers are chains of `>>=`. Were that rewritten to `Option.bind`, the rest of a reader would be
visited again at each member; hence these forms of the lemmas. -/

theorem none_bind {α β : Type} (f : α → Option β) : (none >>= f) = none := rfl

theorem bind_none {α β : Type} (x : Option α) : (x >>= fun _ => (none : Option β)) = none :=
  Option.bind_fun_none x

theorem bind_eq_some_iff {α β : Type} {x : Option α} {f : α → Option β} {b : β} :
    (x >>= f) = some b ↔ ∃ a, x = some a ∧ f a = some b :=
  Option.bind_eq_some_iff

/-! ### Forms of records -/

variable {α : Type} [Wire α]

/-- How a record is read. Its form is an object, members of other names are ignored, and a member
that has a default may be left out; null is no value for a member whose default is another one. -/
structure RecordForm (Fits : α → Prop) (defaults : List (String × Json)) : Prop where
  reads_written : ∀ a : α, Fits a → decode? (encode a) = some a
  reads_again : ∀ (j : Json) (a : α), decode? j = some a → Fits a ∧ decode? (encode a) = some a
  is_object : ∀ a : α, ∃ ms, encode a = .object ms
  ignores : ∀ (a : α) (ms ms' : List (String × Json)), encode a = .object ms →
    (decode? (.object (ms'.filter fun m => m.1 ∈ ms.map Prod.fst)) : Option α) =
      decode? (.object ms')
  completes : ∀ d ∈ defaults, ∀ ms : List (String × Json), ms.lookup d.1 = none →
    (decode? (.object (d :: ms)) : Option α) = decode? (.object ms)
  refuses : ∀ d ∈ defaults, d.2 ≠ .null → ∀ ms : List (String × Json),
    ms.lookup d.1 = some .null → (decode? (.object ms) : Option α) = none

theorem RecordForm.of_alike {Fits : α → Prop} {defaults : List (String × Json)}
    (names : List String) (hα : Lawful Fits)
    (hnames : ∀ a : α, ∃ ms, encode a = .object ms ∧ ms.map Prod.fst = names)
    (hdefaults : ∀ d ∈ defaults, defaults.lookup d.1 = some d.2)
    (halike : ∀ {ms ms' : List (String × Json)}, Json.Alike names defaults ms ms' →
      (decode? (.object ms) : Option α) = decode? (.object ms'))
    (hrefuses : ∀ d ∈ defaults, d.2 ≠ .null → ∀ ms : List (String × Json),
      ms.lookup d.1 = some .null → (decode? (.object ms) : Option α) = none) :
    RecordForm Fits defaults where
  reads_written _ ha := hα.decode?_encode ha
  reads_again _ _ h := ⟨hα.fits h, hα.decode?_encode (hα.fits h)⟩
  is_object a := by
    obtain ⟨ms, hms, -⟩ := hnames a
    exact ⟨ms, hms⟩
  ignores a ms ms' h := by
    obtain ⟨ms₀, hms, hnames⟩ := hnames a
    obtain rfl : ms₀ = ms := Json.object.inj (hms.symm.trans h)
    rw [hnames]
    exact halike (Json.Alike.filter names defaults ms')
  completes d hd ms h := halike (Json.Alike.cons (hdefaults d hd) h)
  refuses := hrefuses

end Wire

/-! ### The values of each record -/

structure EventableRef.Fits (r : EventableRef) : Prop where
  id : r.id.Fits

structure Event.Fits (e : Event) : Prop where
  id : e.id.Fits
  account : e.account.Fits
  board : e.board.Fits
  creator : e.creator.Fits
  eventable : e.eventable.Fits
  createdAt : e.createdAt.Valid

structure EventableSummary.Fits (s : EventableSummary) : Prop where
  eventable : s.eventable.Fits

structure User.Fits (u : User) : Prop where
  id : u.id.Fits
  account : u.account.Fits

structure Board.Fits (b : Board) : Prop where
  id : b.id.Fits
  account : b.account.Fits
  watchers : ∀ u ∈ b.watchers, u.Fits

structure Card.Fits (c : Card) : Prop where
  id : c.id.Fits
  account : c.account.Fits
  board : c.board.Fits
  creator : c.creator.Fits
  assignees : ∀ u ∈ c.assignees, u.Fits
  watchers : ∀ u ∈ c.watchers, u.Fits
  mentionees : ∀ u ∈ c.mentionees, u.Fits
  lastActiveAt : c.lastActiveAt.Valid
  createdAt : c.createdAt.Valid

structure Comment.Fits (c : Comment) : Prop where
  id : c.id.Fits
  account : c.account.Fits
  board : c.board.Fits
  card : c.card.Fits
  creator : c.creator.Fits
  mentionees : ∀ u ∈ c.mentionees, u.Fits
  createdAt : c.createdAt.Valid

structure Notification.Fits (n : Notification) : Prop where
  id : n.id.Fits
  user : n.user.Fits
  event : n.event.Fits
  creator : n.creator.Fits
  createdAt : n.createdAt.Valid
  readAt : ∀ t, n.readAt = some t → t.Valid

structure Webhook.Fits (w : Webhook) : Prop where
  id : w.id.Fits
  account : w.account.Fits
  board : w.board.Fits
  createdAt : w.createdAt.Valid

structure Delivery.Fits (d : Delivery) : Prop where
  id : d.id.Fits
  webhook : d.webhook.Fits
  event : d.event.Fits
  responseCode : ∀ n, d.responseCode = some n → n < pow2 16
  createdAt : d.createdAt.Valid
  updatedAt : d.updatedAt.Valid

structure DelinquencyTracker.Fits (t : DelinquencyTracker) : Prop where
  webhook : t.webhook.Fits
  failures : t.failures < pow2 32
  firstFailureAt : ∀ i, t.firstFailureAt = some i → i.Valid

structure PayloadParty.Fits (p : PayloadParty) : Prop where
  id : p.id.Fits

structure WebhookPayload.Fits (p : WebhookPayload) : Prop where
  id : p.id.Fits
  createdAt : p.createdAt.Valid
  eventable : p.eventable.Fits
  board : p.board.Fits
  creator : p.creator.Fits

structure DelinquencyPolicy.Fits (p : DelinquencyPolicy) : Prop where
  threshold : p.threshold < pow2 32
  window : p.window.Fits

namespace Wire

/-! ### Each record -/

theorem lawful_eventableRef : Lawful EventableRef.Fits where
  decode?_encode {r} h := by
    have hkind := lawful_eventableKind.field "type" (a := r.kind) trivial
    have hid := lawful_ident.field "id" h.id
    delta instWireEventableRef
    simp only [Json.record?_object_bind]
    rw [hkind, hid]
    all_goals rfl
  fits {j r} h := by
    delta instWireEventableRef at h
    simp only [bind_eq_some_iff, Option.pure_def, Option.some.injEq] at h
    obtain ⟨j', -, kind, -, id, hid, rfl⟩ := h
    exact ⟨lawful_ident.of_field hid⟩

theorem lawful_event : Lawful Event.Fits where
  decode?_encode {e} h := by
    have hid := lawful_ident.field "id" h.id
    have haccount := lawful_ident.field "account_id" h.account
    have hboard := lawful_ident.field "board_id" h.board
    have hcreator := lawful_ident.field "creator_id" h.creator
    have heventable := lawful_eventableRef.field "eventable" h.eventable
    have haction := lawful_string.field "action" (a := e.action) trivial
    have hcreatedAt := lawful_instant.field "created_at" h.createdAt
    delta instWireEvent
    simp only [Json.record?_object_bind]
    rw [hid, haccount, hboard, hcreator, heventable, haction, hcreatedAt]
    all_goals rfl
  fits {j e} h := by
    delta instWireEvent at h
    simp only [bind_eq_some_iff, Option.pure_def, Option.some.injEq] at h
    obtain ⟨j', -, id, hid, account, haccount, board, hboard, creator, hcreator, eventable,
      heventable, action, -, particulars, -, createdAt, hcreatedAt, rfl⟩ := h
    exact {
      id := lawful_ident.of_field hid
      account := lawful_ident.of_field haccount
      board := lawful_ident.of_field hboard
      creator := lawful_ident.of_field hcreator
      eventable := lawful_eventableRef.of_field heventable
      createdAt := lawful_instant.of_field hcreatedAt }

theorem form_event : RecordForm Event.Fits [("particulars", .object [])] := by
  refine .of_alike ["id", "account_id", "board_id", "creator_id", "eventable", "action",
    "particulars", "created_at"] lawful_event
    (fun _ => ⟨_, rfl, rfl⟩) (by decide) ?_ ?_
  · intro ms ms' h
    delta instWireEvent
    simp (disch := decide) only [Json.record?_object_bind, h.field, h.withDefault]
  · simp only [List.forall_mem_singleton]
    intro _ ms hnull
    simp only [decode?, Json.record?_object_bind, Json.withDefault_of_lookup hnull, Json.object?,
      none_bind, bind_none]

theorem lawful_eventableSummary : Lawful EventableSummary.Fits where
  decode?_encode {s} h := by
    have heventable := lawful_eventableRef.field "eventable" h.eventable
    have htitle := lawful_string.field "title" (a := s.title) trivial
    delta instWireEventableSummary
    simp only [Json.record?_object_bind]
    rw [heventable, htitle]
    all_goals rfl
  fits {j s} h := by
    delta instWireEventableSummary at h
    simp only [bind_eq_some_iff, Option.pure_def, Option.some.injEq] at h
    obtain ⟨j', -, eventable, heventable, title, -, rfl⟩ := h
    exact ⟨lawful_eventableRef.of_field heventable⟩

theorem form_eventableSummary : RecordForm EventableSummary.Fits [] := by
  refine .of_alike ["eventable", "title"] lawful_eventableSummary
    (fun _ => ⟨_, rfl, rfl⟩) (by decide) ?_ ?_
  · intro ms ms' h
    delta instWireEventableSummary
    simp (disch := decide) only [Json.record?_object_bind, h.field]
  · simp

theorem lawful_user : Lawful User.Fits where
  decode?_encode {u} h := by
    have hid := lawful_ident.field "id" h.id
    have haccount := lawful_ident.field "account_id" h.account
    have hname := lawful_string.field "name" (a := u.name) trivial
    have hrole := lawful_userRole.field "role" (a := u.role) trivial
    delta instWireUser
    simp only [Json.record?_object_bind]
    rw [hid, haccount, hname, hrole]
    all_goals rfl
  fits {j u} h := by
    delta instWireUser at h
    simp only [bind_eq_some_iff, Option.pure_def, Option.some.injEq] at h
    obtain ⟨j', -, id, hid, account, haccount, name, -, role, -, rfl⟩ := h
    exact ⟨lawful_ident.of_field hid, lawful_ident.of_field haccount⟩

theorem form_user : RecordForm User.Fits [] := by
  refine .of_alike ["id", "account_id", "name", "role"] lawful_user
    (fun _ => ⟨_, rfl, rfl⟩) (by decide) ?_ ?_
  · intro ms ms' h
    delta instWireUser
    simp (disch := decide) only [Json.record?_object_bind, h.field]
  · simp

theorem lawful_board : Lawful Board.Fits where
  decode?_encode {b} h := by
    have hids := lawful_list lawful_ident
    have hid := lawful_ident.field "id" h.id
    have haccount := lawful_ident.field "account_id" h.account
    have hname := lawful_string.field "name" (a := b.name) trivial
    have hwatchers := hids.withDefault "watcher_ids" h.watchers
    delta instWireBoard
    simp only [Json.record?_object_bind]
    rw [hid, haccount, hname, hwatchers]
    all_goals rfl
  fits {j b} h := by
    delta instWireBoard at h
    simp only [bind_eq_some_iff, Option.pure_def, Option.some.injEq] at h
    obtain ⟨j', -, id, hid, account, haccount, name, -, watchers, hwatchers, rfl⟩ := h
    have hids := lawful_list lawful_ident
    exact ⟨lawful_ident.of_field hid, lawful_ident.of_field haccount,
      hids.of_withDefault (List.forall_mem_nil _) hwatchers⟩

theorem form_board : RecordForm Board.Fits [("watcher_ids", .array [])] := by
  refine .of_alike ["id", "account_id", "name", "watcher_ids"] lawful_board
    (fun _ => ⟨_, rfl, rfl⟩) (by decide) ?_ ?_
  · intro ms ms' h
    delta instWireBoard
    simp (disch := decide) only [Json.record?_object_bind, h.field, h.withDefault]
  · simp only [List.forall_mem_singleton]
    intro _ ms hnull
    simp only [decode?, Json.record?_object_bind, Json.withDefault_of_lookup hnull, Json.items?,
      Json.array?, Option.bind_none, none_bind, bind_none]

theorem lawful_card : Lawful Card.Fits where
  decode?_encode {c} h := by
    have hids := lawful_list lawful_ident
    have hid := lawful_ident.field "id" h.id
    have haccount := lawful_ident.field "account_id" h.account
    have hboard := lawful_ident.field "board_id" h.board
    have htitle := lawful_string.field "title" (a := c.title) trivial
    have hstatus := lawful_cardStatus.field "status" (a := c.status) trivial
    have hcreator := lawful_ident.field "creator_id" h.creator
    have hassignees := hids.withDefault "assignee_ids" h.assignees
    have hwatchers := hids.withDefault "watcher_ids" h.watchers
    have hmentionees := hids.withDefault "mentionee_ids" h.mentionees
    have hlastActiveAt := lawful_instant.field "last_active_at" h.lastActiveAt
    have hcreatedAt := lawful_instant.field "created_at" h.createdAt
    delta instWireCard
    simp only [Json.record?_object_bind]
    rw [hid, haccount, hboard, htitle, hstatus, hcreator, hassignees, hwatchers, hmentionees,
      hlastActiveAt, hcreatedAt]
    all_goals rfl
  fits {j c} h := by
    delta instWireCard at h
    simp only [bind_eq_some_iff, Option.pure_def, Option.some.injEq] at h
    obtain ⟨j', -, id, hid, account, haccount, board, hboard, title, -, status, -, creator,
      hcreator, assignees, hassignees, watchers, hwatchers, mentionees, hmentionees, lastActiveAt,
      hlastActiveAt, createdAt, hcreatedAt, rfl⟩ := h
    have hids := lawful_list lawful_ident
    exact {
      id := lawful_ident.of_field hid
      account := lawful_ident.of_field haccount
      board := lawful_ident.of_field hboard
      creator := lawful_ident.of_field hcreator
      assignees := hids.of_withDefault (List.forall_mem_nil _) hassignees
      watchers := hids.of_withDefault (List.forall_mem_nil _) hwatchers
      mentionees := hids.of_withDefault (List.forall_mem_nil _) hmentionees
      lastActiveAt := lawful_instant.of_field hlastActiveAt
      createdAt := lawful_instant.of_field hcreatedAt }

theorem form_card : RecordForm Card.Fits [("assignee_ids", .array []), ("watcher_ids", .array []),
    ("mentionee_ids", .array [])] := by
  refine .of_alike ["id", "account_id", "board_id", "title", "status", "creator_id", "assignee_ids",
    "watcher_ids", "mentionee_ids", "last_active_at", "created_at"] lawful_card
    (fun _ => ⟨_, rfl, rfl⟩) (by decide) ?_ ?_
  · intro ms ms' h
    delta instWireCard
    simp (disch := decide) only [Json.record?_object_bind, h.field, h.withDefault]
  · simp only [List.forall_mem_cons]
    refine ⟨?_, ?_, ?_, List.forall_mem_nil _⟩
    all_goals
      intro _ ms hnull
      simp only [decode?, Json.record?_object_bind, Json.withDefault_of_lookup hnull, Json.items?,
        Json.array?, Option.bind_none, none_bind, bind_none]

theorem lawful_comment : Lawful Comment.Fits where
  decode?_encode {c} h := by
    have hids := lawful_list lawful_ident
    have hid := lawful_ident.field "id" h.id
    have haccount := lawful_ident.field "account_id" h.account
    have hboard := lawful_ident.field "board_id" h.board
    have hcard := lawful_ident.field "card_id" h.card
    have hcreator := lawful_ident.field "creator_id" h.creator
    have hbody := lawful_string.field "body" (a := c.body) trivial
    have hsystem := lawful_bool.field "system" (a := c.system) trivial
    have hmentionees := hids.withDefault "mentionee_ids" h.mentionees
    have hcreatedAt := lawful_instant.field "created_at" h.createdAt
    delta instWireComment
    simp only [Json.record?_object_bind]
    rw [hid, haccount, hboard, hcard, hcreator, hbody, hsystem, hmentionees, hcreatedAt]
    all_goals rfl
  fits {j c} h := by
    delta instWireComment at h
    simp only [bind_eq_some_iff, Option.pure_def, Option.some.injEq] at h
    obtain ⟨j', -, id, hid, account, haccount, board, hboard, card, hcard, creator, hcreator, body,
      -, system, -, mentionees, hmentionees, createdAt, hcreatedAt, rfl⟩ := h
    have hids := lawful_list lawful_ident
    exact {
      id := lawful_ident.of_field hid
      account := lawful_ident.of_field haccount
      board := lawful_ident.of_field hboard
      card := lawful_ident.of_field hcard
      creator := lawful_ident.of_field hcreator
      mentionees := hids.of_withDefault (List.forall_mem_nil _) hmentionees
      createdAt := lawful_instant.of_field hcreatedAt }

theorem form_comment : RecordForm Comment.Fits [("mentionee_ids", .array [])] := by
  refine .of_alike ["id", "account_id", "board_id", "card_id", "creator_id", "body", "system",
    "mentionee_ids", "created_at"] lawful_comment
    (fun _ => ⟨_, rfl, rfl⟩) (by decide) ?_ ?_
  · intro ms ms' h
    delta instWireComment
    simp (disch := decide) only [Json.record?_object_bind, h.field, h.withDefault]
  · simp only [List.forall_mem_singleton]
    intro _ ms hnull
    simp only [decode?, Json.record?_object_bind, Json.withDefault_of_lookup hnull, Json.items?,
      Json.array?, Option.bind_none, none_bind, bind_none]

theorem lawful_notification : Lawful Notification.Fits where
  decode?_encode {n} h := by
    have hid := lawful_ident.field "id" h.id
    have huser := lawful_ident.field "user_id" h.user
    have hevent := lawful_ident.field "event_id" h.event
    have hcreator := lawful_ident.field "creator_id" h.creator
    have hcreatedAt := lawful_instant.field "created_at" h.createdAt
    have hreadAt := lawful_instant.optional rfl "read_at" h.readAt
    delta instWireNotification
    simp only [Json.record?_object_bind]
    rw [hid, huser, hevent, hcreator, hcreatedAt, hreadAt]
    all_goals rfl
  fits {j n} h := by
    delta instWireNotification at h
    simp only [bind_eq_some_iff, Option.pure_def, Option.some.injEq] at h
    obtain ⟨j', -, id, hid, user, huser, event, hevent, creator, hcreator, createdAt, hcreatedAt,
      readAt, hreadAt, rfl⟩ := h
    exact {
      id := lawful_ident.of_field hid
      user := lawful_ident.of_field huser
      event := lawful_ident.of_field hevent
      creator := lawful_ident.of_field hcreator
      createdAt := lawful_instant.of_field hcreatedAt
      readAt := lawful_instant.of_optional hreadAt }

theorem form_notification : RecordForm Notification.Fits [("read_at", .null)] := by
  refine .of_alike ["id", "user_id", "event_id", "creator_id", "created_at",
    "read_at"] lawful_notification
    (fun _ => ⟨_, rfl, rfl⟩) (by decide) ?_ ?_
  · intro ms ms' h
    delta instWireNotification
    simp (disch := decide) only [Json.record?_object_bind, h.field, h.optional]
  · simp

theorem lawful_webhook : Lawful Webhook.Fits where
  decode?_encode {w} h := by
    have hid := lawful_ident.field "id" h.id
    have haccount := lawful_ident.field "account_id" h.account
    have hboard := lawful_ident.field "board_id" h.board
    have hname := lawful_string.field "name" (a := w.name) trivial
    have hurl := lawful_string.field "url" (a := w.url) trivial
    have hactive := lawful_bool.field "active" (a := w.active) trivial
    have hsubscribed := lawful_actionSet.field "subscribed_actions" (a := w.subscribed) trivial
    have hcreatedAt := lawful_instant.field "created_at" h.createdAt
    delta instWireWebhook
    simp only [Json.record?_object_bind]
    rw [hid, haccount, hboard, hname, hurl, hactive, hsubscribed, hcreatedAt]
    all_goals rfl
  fits {j w} h := by
    delta instWireWebhook at h
    simp only [bind_eq_some_iff, Option.pure_def, Option.some.injEq] at h
    obtain ⟨j', -, id, hid, account, haccount, board, hboard, name, -, url, -, active, -,
      subscribed, -, createdAt, hcreatedAt, rfl⟩ := h
    exact {
      id := lawful_ident.of_field hid
      account := lawful_ident.of_field haccount
      board := lawful_ident.of_field hboard
      createdAt := lawful_instant.of_field hcreatedAt }

theorem form_webhook : RecordForm Webhook.Fits [] := by
  refine .of_alike ["id", "account_id", "board_id", "name", "url", "active", "subscribed_actions",
    "created_at"] lawful_webhook
    (fun _ => ⟨_, rfl, rfl⟩) (by decide) ?_ ?_
  · intro ms ms' h
    delta instWireWebhook
    simp (disch := decide) only [Json.record?_object_bind, h.field]
  · simp

theorem lawful_delivery : Lawful Delivery.Fits where
  decode?_encode {d} h := by
    have hid := lawful_ident.field "id" h.id
    have hwebhook := lawful_ident.field "webhook_id" h.webhook
    have hevent := lawful_ident.field "event_id" h.event
    have hstate := lawful_deliveryState.field "state" (a := d.state) trivial
    have hresponseCode := Json.optional_below? "response_code" h.responseCode
    have herror := lawful_string.optional rfl "error" (a := d.error) fun _ _ => trivial
    have hcreatedAt := lawful_instant.field "created_at" h.createdAt
    have hupdatedAt := lawful_instant.field "updated_at" h.updatedAt
    delta instWireDelivery
    simp only [Json.record?_object_bind]
    rw [hid, hwebhook, hevent, hstate, hresponseCode, herror, hcreatedAt, hupdatedAt]
    all_goals rfl
  fits {j d} h := by
    delta instWireDelivery at h
    simp only [bind_eq_some_iff, Option.pure_def, Option.some.injEq] at h
    obtain ⟨j', -, id, hid, webhook, hwebhook, event, hevent, state, -, responseCode, hresponseCode,
      error, -, createdAt, hcreatedAt, updatedAt, hupdatedAt, rfl⟩ := h
    exact {
      id := lawful_ident.of_field hid
      webhook := lawful_ident.of_field hwebhook
      event := lawful_ident.of_field hevent
      responseCode := Json.lt_of_optional_below? hresponseCode
      createdAt := lawful_instant.of_field hcreatedAt
      updatedAt := lawful_instant.of_field hupdatedAt }

theorem form_delivery : RecordForm Delivery.Fits [("response_code", .null), ("error", .null)] := by
  refine .of_alike ["id", "webhook_id", "event_id", "state", "response_code", "error", "created_at",
    "updated_at"] lawful_delivery
    (fun _ => ⟨_, rfl, rfl⟩) (by decide) ?_ ?_
  · intro ms ms' h
    delta instWireDelivery
    simp (disch := decide) only [Json.record?_object_bind, h.field, h.optional]
  · simp

theorem lawful_delinquencyTracker : Lawful DelinquencyTracker.Fits where
  decode?_encode {t} h := by
    have hwebhook := lawful_ident.field "webhook_id" h.webhook
    have hfailures := Json.required_below? "consecutive_failures" h.failures
    have hfirstFailureAt := lawful_instant.optional rfl "first_failure_at" h.firstFailureAt
    delta instWireDelinquencyTracker
    simp only [Json.record?_object_bind]
    rw [hwebhook, hfailures, hfirstFailureAt]
    all_goals rfl
  fits {j t} h := by
    delta instWireDelinquencyTracker at h
    simp only [bind_eq_some_iff, Option.pure_def, Option.some.injEq] at h
    obtain ⟨j', -, webhook, hwebhook, failures, hfailures, firstFailureAt, hfirstFailureAt,
      rfl⟩ := h
    exact ⟨lawful_ident.of_field hwebhook, Json.lt_of_required_below? hfailures,
      lawful_instant.of_optional hfirstFailureAt⟩

theorem form_delinquencyTracker : RecordForm DelinquencyTracker.Fits [
    ("first_failure_at", .null)] := by
  refine .of_alike ["webhook_id", "consecutive_failures",
    "first_failure_at"] lawful_delinquencyTracker
    (fun _ => ⟨_, rfl, rfl⟩) (by decide) ?_ ?_
  · intro ms ms' h
    delta instWireDelinquencyTracker
    simp (disch := decide) only [Json.record?_object_bind, h.field, h.required, h.optional]
  · simp

theorem lawful_payloadParty : Lawful PayloadParty.Fits where
  decode?_encode {p} h := by
    have hid := lawful_ident.field "id" h.id
    have hname := lawful_string.optional rfl "name" (a := p.name) fun _ _ => trivial
    delta instWirePayloadParty
    simp only [Json.record?_object_bind]
    rw [hid, hname]
    all_goals rfl
  fits {j p} h := by
    delta instWirePayloadParty at h
    simp only [bind_eq_some_iff, Option.pure_def, Option.some.injEq] at h
    obtain ⟨j', -, id, hid, name, -, rfl⟩ := h
    exact ⟨lawful_ident.of_field hid⟩

theorem lawful_webhookPayload : Lawful WebhookPayload.Fits where
  decode?_encode {p} h := by
    have hid := lawful_ident.field "id" h.id
    have haction := lawful_string.field "action" (a := p.action) trivial
    have hcreatedAt := lawful_instant.field "created_at" h.createdAt
    have heventable := lawful_eventableRef.field "eventable" h.eventable
    have hboard := lawful_payloadParty.field "board" h.board
    have hcreator := lawful_payloadParty.field "creator" h.creator
    delta instWireWebhookPayload
    simp only [Json.record?_object_bind]
    rw [hid, haction, hcreatedAt, heventable, hboard, hcreator]
    all_goals rfl
  fits {j p} h := by
    delta instWireWebhookPayload at h
    simp only [bind_eq_some_iff, Option.pure_def, Option.some.injEq] at h
    obtain ⟨j', -, id, hid, action, -, createdAt, hcreatedAt, particulars, -, eventable, heventable,
      board, hboard, creator, hcreator, rfl⟩ := h
    exact {
      id := lawful_ident.of_field hid
      createdAt := lawful_instant.of_field hcreatedAt
      eventable := lawful_eventableRef.of_field heventable
      board := lawful_payloadParty.of_field hboard
      creator := lawful_payloadParty.of_field hcreator }

theorem form_webhookPayload : RecordForm WebhookPayload.Fits [] := by
  refine .of_alike ["id", "action", "created_at", "particulars", "eventable", "board",
    "creator"] lawful_webhookPayload
    (fun _ => ⟨_, rfl, rfl⟩) (by decide) ?_ ?_
  · intro ms ms' h
    delta instWireWebhookPayload
    simp (disch := decide) only [Json.record?_object_bind, h.field, h.required]
  · simp

theorem lawful_delinquencyPolicy : Lawful DelinquencyPolicy.Fits where
  decode?_encode {p} h := by
    have hthreshold := Json.required_below? "threshold" h.threshold
    have hwindow := lawful_span.field "window" h.window
    delta instWireDelinquencyPolicy
    simp only [Json.record?_object_bind]
    rw [hthreshold, hwindow]
    all_goals rfl
  fits {j p} h := by
    delta instWireDelinquencyPolicy at h
    simp only [bind_eq_some_iff, Option.pure_def, Option.some.injEq] at h
    obtain ⟨j', -, threshold, hthreshold, window, hwindow, rfl⟩ := h
    exact ⟨Json.lt_of_required_below? hthreshold, lawful_span.of_field hwindow⟩

theorem form_delinquencyPolicy : RecordForm DelinquencyPolicy.Fits [] := by
  refine .of_alike ["threshold", "window"] lawful_delinquencyPolicy
    (fun _ => ⟨_, rfl, rfl⟩) (by decide) ?_ ?_
  · intro ms ms' h
    delta instWireDelinquencyPolicy
    simp (disch := decide) only [Json.record?_object_bind, h.field, h.required]
  · simp

/-- Every record is read back from its form, and has the same form of its own however it was spelled
when it was read. Lists of users and the particulars of an event may be left out and are empty then,
but they are never null; what may be null may be left out. -/
theorem records_read_back :
    RecordForm Event.Fits [("particulars", .object [])] ∧
    RecordForm EventableSummary.Fits [] ∧
    RecordForm User.Fits [] ∧
    RecordForm Board.Fits [("watcher_ids", .array [])] ∧
    RecordForm Card.Fits
      [("assignee_ids", .array []), ("watcher_ids", .array []), ("mentionee_ids", .array [])] ∧
    RecordForm Comment.Fits [("mentionee_ids", .array [])] ∧
    RecordForm Notification.Fits [("read_at", .null)] ∧
    RecordForm Webhook.Fits [] ∧
    RecordForm Delivery.Fits [("response_code", .null), ("error", .null)] ∧
    RecordForm DelinquencyTracker.Fits [("first_failure_at", .null)] ∧
    RecordForm WebhookPayload.Fits [] ∧
    RecordForm DelinquencyPolicy.Fits [] :=
  ⟨form_event, form_eventableSummary, form_user, form_board, form_card, form_comment,
    form_notification, form_webhook, form_delivery, form_delinquencyTracker, form_webhookPayload,
    form_delinquencyPolicy⟩

/-- An event within a leap second, with particulars, and a policy of five failures in a minute. -/
theorem records_read_back_leap_second :
    let e : Event := ⟨⟨7⟩, ⟨1⟩, ⟨2⟩, ⟨3⟩, .card ⟨4⟩, Action.cardAssigned, .ofAssignees [⟨3⟩],
      ⟨1483228799, 1500000000⟩⟩
    let p : DelinquencyPolicy := ⟨5, .ofMillis 60000⟩
    (e.Fits ∧ decode? (encode e) = some e) ∧ p.Fits ∧ decode? (encode p) = some p := by
  intro e p
  have hsmall {n : Nat} (hn : n < 8) : Ident.Fits ⟨n⟩ := hn.trans (by decide)
  have he : e.Fits := {
    id := hsmall (by decide)
    account := hsmall (by decide)
    board := hsmall (by decide)
    creator := hsmall (by decide)
    eventable := ⟨hsmall (by decide)⟩
    createdAt := ⟨by decide, .inr (by decide)⟩ }
  have hp : p.Fits := ⟨by decide, 60000, by decide, rfl⟩
  obtain ⟨hevent, -, -, -, -, -, -, -, -, -, -, hpolicy⟩ := records_read_back
  exact ⟨⟨he, hevent.reads_written e he⟩, hp, hpolicy.reads_written p hp⟩

end Wire

end BoardActivity
