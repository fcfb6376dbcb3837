import BoardActivity.Proofs.CallFrames
import BoardActivity.Proofs.CardRemoval
import BoardActivity.Proofs.ReferenceRuns
import Mathlib.Data.List.Induction

/-!
# What becomes known of a draft

Whether an event is recorded is up to what the event is about. A card has none recorded while it is
a draft; a comment has its event recorded if a member has made it, whatever card it is on. So a
draft can become known before it is published: by the comments that members make on it
(`System.draft_known_by_comment`).

`System.drafts_of_run` says that this is the only way. There is no event about a draft itself and
no comment that the program has generated on it, and whatever there is of notifications, deliveries
and tasks leads back to the comment of a member.
-/

namespace BoardActivity

namespace Store

/-- The event tells of a member's comment on the card. -/
def TellsRemark (s : Store) (card : Ident) (e : Event) : Prop :=
  ∃ x ∈ s.comments.rows, x.card = card ∧ x.system = false ∧
    e = (Eventable.ofComment x).event e.id "created" [] x.creator e.createdAt

/-- Nothing is told of drafts, all comments on them were posted by someone, and what is told of any
comment is that a member has made it. -/
structure Discreet (posted : Comment → Prop) (s : Store) : Prop where
  untold : ∀ c ∈ s.cards.rows, c.status = .drafted →
    ∀ e ∈ s.events.rows, e.eventable ≠ .card c.id
  posted : ∀ c ∈ s.cards.rows, c.status = .drafted →
    ∀ x ∈ s.comments.rows, x.card = c.id → posted x
  remarks : ∀ e ∈ s.events.rows, ∀ x ∈ s.comments.rows, e.eventable = .comment x.id →
    x.system = false ∧ e = (Eventable.ofComment x).event e.id "created" [] x.creator e.createdAt

structure KnownByRemarks (s : Store) (card : Ident) : Prop where
  events : ∀ e ∈ s.events.rows, s.IsOn card e → s.TellsRemark card e
  notifications : ∀ n ∈ s.notifications.rows, s.HasEventOn card n.event →
    ∃ e ∈ s.events.rows, s.TellsRemark card e ∧ n.event = e.id
  deliveries : ∀ d ∈ s.deliveries.rows, s.HasEventOn card d.event →
    ∃ e ∈ s.events.rows, s.TellsRemark card e ∧ d.event = e.id
  tasks : ∀ r ∈ s.outbox.rows.rows, s.IsSubjectOn card r.subject →
    ∃ e ∈ s.events.rows, s.TellsRemark card e ∧
      (r.subject = e.id ∨ ∃ d ∈ s.deliveries.rows, d.event = e.id ∧ r.subject = d.id)

variable {posted posted' : Comment → Prop} {s s' : Store}

theorem Discreet.imp (h : s.Discreet posted) (hp : ∀ x, posted x → posted' x) :
    s.Discreet posted' :=
  ⟨h.untold, fun c hc hd x hx hon => hp x (h.posted c hc hd x hx hon), h.remarks⟩

/-- Rows may go. -/
theorem Discreet.subset (h : s.Discreet posted) (hcards : s'.cards.rows ⊆ s.cards.rows)
    (hcomments : s'.comments.rows ⊆ s.comments.rows) (hevents : s'.events.rows ⊆ s.events.rows) :
    s'.Discreet posted where
  untold c hc hd e he := h.untold c (hcards hc) hd e (hevents he)
  posted c hc hd x hx := h.posted c (hcards hc) hd x (hcomments hx)
  remarks e he x hx := h.remarks e (hevents he) x (hcomments hx)

/-- A card is written of which nothing is told if it is a draft. -/
theorem Discreet.putCard (h : s.Discreet posted) {c : Card} {supply : Supply}
    (huntold : c.status = .drafted → ∀ e ∈ s.events.rows, e.eventable ≠ .card c.id)
    (hposted : c.status = .drafted → ∀ x ∈ s.comments.rows, x.card = c.id → posted x) :
    ({ s with cards := s.cards.put c, supply } : Store).Discreet posted := by
  refine ⟨fun d hd => ?_, fun d hd => ?_, h.remarks⟩
  · rcases Table.mem_rows_put.1 hd with rfl | ⟨hd, -⟩
    · exact huntold
    · exact h.untold d hd
  · rcases Table.mem_rows_put.1 hd with rfl | ⟨hd, -⟩
    · exact hposted
    · exact h.posted d hd

/-- An identifier that is still to be taken is referred to by no event and no comment. -/
theorem Linked.unused (h : s.Linked) (id : Ident) (hid : s.supply.next ≤ id.value) :
    (∀ e ∈ s.events.rows, e.eventable ≠ .card id ∧ e.eventable ≠ .comment id) ∧
      ∀ x ∈ s.comments.rows, x.card ≠ id ∧ x.id ≠ id := by
  have hcard : id ∉ s.cardIds := fun hm => absurd (h.counted.below_of_mem (.inl hm)) (by omega)
  have hcomment : id ∉ s.commentIds := fun hm =>
    absurd (h.counted.below_of_mem (.inr (.inl hm))) (by omega)
  refine ⟨fun e he => ⟨fun habout => ?_, fun habout => ?_⟩, fun x hx => ⟨?_, ?_⟩⟩
  · have hthere := h.eventables e he
    rw [habout] at hthere
    exact hcard hthere
  · have hthere := h.eventables e he
    rw [habout] at hthere
    exact hcomment hthere
  · rintro rfl
    exact hcard (h.commented x hx)
  · rintro rfl
    exact hcomment (List.mem_map_of_mem hx)

/-- An event is recorded with the comments that come of it, all of them on the card that is
written. -/
theorem Discreet.recorded (h : s.Discreet posted) (hl : s.Linked) {t : Tracker} {now : Instant}
    {e : Event} {card : Card} {comments : List Comment}
    (huntold : card.status = .drafted →
      e.eventable ≠ .card card.id ∧ ∀ e' ∈ s.events.rows, e'.eventable ≠ .card card.id)
    (hposted : card.status = .drafted →
      (∀ x ∈ comments, posted x) ∧ ∀ x ∈ s.comments.rows, x.card = card.id → posted x)
    (habout : ∀ id, e.eventable = .card id → id = card.id)
    (hcomments : ∀ x ∈ comments, x.card = card.id ∧ s.supply.next ≤ x.id.value)
    (hremark : ∀ id, e.eventable = .comment id → s.supply.next ≤ id.value ∧
      ∀ x ∈ comments, x.system = false ∧
        e = (Eventable.ofComment x).event e.id "created" [] x.creator e.createdAt) :
    (s.recorded t now e card comments).Discreet posted := by
  refine ⟨fun d hd hdraft e' he' => ?_, fun d hd hdraft x hx hon => ?_,
    fun e' he' x hx hon => ?_⟩
  · rcases Table.mem_rows_put.1 hd with rfl | ⟨hd, hne⟩
    · rcases Table.mem_rows_put.1 he' with rfl | ⟨he', -⟩
      · exact (huntold hdraft).1
      · exact (huntold hdraft).2 e' he'
    · rcases Table.mem_rows_put.1 he' with rfl | ⟨he', -⟩
      · exact fun hon => hne (habout d.id hon)
      · exact h.untold d hd hdraft e' he'
  · rcases Table.mem_rows_put.1 hd with rfl | ⟨hd, hne⟩
    · rcases Table.mem_rows_putAll hx with hx | hx
      · exact (hposted hdraft).2 x hx hon
      · exact (hposted hdraft).1 x hx
    · rcases Table.mem_rows_putAll hx with hx | hx
      · exact h.posted d hd hdraft x hx hon
      · exact (hne (hon.symm.trans (hcomments x hx).1)).elim
  · -- Old events tell of old comments, and the new one of a new comment if of any.
    rcases Table.mem_rows_put.1 he' with rfl | ⟨he', -⟩
    · obtain ⟨hid, hnew⟩ := hremark x.id hon
      rcases Table.mem_rows_putAll hx with hx | hx
      · exact ((hl.unused x.id hid).2 x hx).2.elim rfl
      · exact hnew x hx
    · rcases Table.mem_rows_putAll hx with hx | hx
      · exact h.remarks e' he' x hx hon
      · exact (((hl.unused x.id (hcomments x hx).2).1 e' he').2 hon).elim

theorem Discreet.removeCards (h : s.Discreet posted) (cards : List Ident) :
    (s.removeCards cards).Discreet posted :=
  h.subset (List.filter_subset_self _) (List.filter_subset_self _) (List.filter_subset_self _)

theorem KnownByRemarks.of_events {card : Ident}
    (h : ∀ e ∈ s.events.rows, s.IsOn card e → s.TellsRemark card e) : s.KnownByRemarks card := by
  have hback : ∀ event, s.HasEventOn card event →
      ∃ e ∈ s.events.rows, s.TellsRemark card e ∧ event = e.id := by
    rintro event ⟨e, he, hon, hid⟩
    exact ⟨e, he, h e he hon, hid.symm⟩
  refine ⟨h, fun n _ => hback n.event, fun d _ => hback d.event, fun r _ hsubject => ?_⟩
  rcases hsubject with hevent | ⟨d, hd, hevent, hid⟩
  · obtain ⟨e, he, htells, hid⟩ := hback r.subject hevent
    exact ⟨e, he, htells, .inl hid⟩
  · obtain ⟨e, he, htells, hevent⟩ := hback d.event hevent
    exact ⟨e, he, htells, .inr ⟨d, hd, hevent, hid.symm⟩⟩

end Store

namespace System

def Posts (sys : System) (g : Setup) (now : Instant) (c : SystemCall) (x : Comment) : Prop :=
  ∃ card creator body mentionees, c = .comment card creator body mentionees ∧
    (Comments.create g.tracker sys.store now card creator body mentionees).1 = .ok x

/-- One of the calls posts the comment when its turn comes. -/
def Posted (sys : System) (g : Setup) (calls : List (Instant × SystemCall)) (x : Comment) : Prop :=
  ∃ before now c after, calls = before ++ (now, c) :: after ∧ (sys.run g before).Posts g now c x

variable {posted : Comment → Prop} {sys : System} {g : Setup}

theorem discreet_createDraft (h : sys.store.Discreet posted) (hl : sys.store.Linked)
    (now : Instant) (board creator : Ident) (title : String) :
    (Cards.createDraft sys.store now board creator title).2.Discreet posted := by
  rcases Store.error_or_ok (Cards.createDraft sys.store now board creator title)
    Cards.createDraft_error with ⟨e, hr⟩ | ⟨c, s', hr⟩
  · rw [hr]
    exact h
  · obtain ⟨b, -, rfl, rfl⟩ := Cards.createDraft_ok hr
    obtain ⟨hevents, hcomments⟩ := hl.unused ⟨sys.store.supply.next⟩ le_rfl
    rw [hr]
    exact h.putCard (fun _ e he => (hevents e he).1)
      fun _ x hx hon => ((hcomments x hx).1 hon).elim

theorem discreet_changeCard (h : sys.store.Discreet posted) (hl : sys.store.Linked)
    (t : Tracker) (now : Instant) (card creator : Ident) (o : CardOperation) :
    (Cards.perform t sys.store now card creator o).2.Discreet posted := by
  rcases Store.error_or_ok (Cards.perform t sys.store now card creator o) Cards.perform_error with
    ⟨e, hr⟩ | ⟨r, s', hr⟩
  · rw [hr]
    exact h
  · obtain ⟨c, hf, hcases⟩ := Cards.perform_ok hl.fresh hr
    have hrow := (Table.find?_eq_some_iff.1 hf).1
    rw [hr]
    rcases hcases with
      ⟨-, -, rfl⟩ | ⟨p, hc, hd, rfl⟩ | ⟨c', p, e, hc, hd, he, -, -, rfl, rfl⟩
    · exact h
    · -- A card that is a draft after the change was one before.
      have hchanges := CardOperation.changes_of_change hc
      obtain ⟨hdraft, -⟩ := hchanges.of_drafted hd
      have hid : r.id = c.id := congrArg Prod.fst hchanges.origin
      refine h.putCard (fun _ => ?_) fun _ => ?_
      · rw [hid]
        exact h.untold c hrow hdraft
      · rw [hid]
        exact h.posted c hrow hdraft
    · have href : e.eventable = .card c'.id := congrArg Event.eventable he
      refine h.recorded hl (fun hdraft => (hd hdraft).elim) (fun hdraft => (hd hdraft).elim)
        (fun id hid => ?_) (fun x hx => ?_) fun id hid => ?_
      · exact (EventableRef.mk.inj (hid.symm.trans href)).2
      · rcases t.commenter.told_eq sys.store e ⟨sys.store.supply.next + 1⟩ c'.id with
          ht | ⟨y, ht, hy, hcard, -⟩
        · rw [ht] at hx
          cases hx
        · rw [ht] at hx
          cases List.mem_singleton.1 hx
          exact ⟨hcard, hy ▸ Nat.le_succ _⟩
      · cases (EventableRef.mk.inj (hid.symm.trans href)).1

theorem discreet_comment (h : sys.store.Discreet posted) (hl : sys.store.Linked)
    (t : Tracker) (now : Instant) (card creator : Ident) (body : String) (mentionees : List Ident)
    (hposted : ∀ x, (Comments.create t sys.store now card creator body mentionees).1 = .ok x →
      posted x) :
    (Comments.create t sys.store now card creator body mentionees).2.Discreet posted := by
  rcases Store.error_or_ok (Comments.create t sys.store now card creator body mentionees)
    Comments.create_error with ⟨e, hr⟩ | ⟨x, s', hr⟩
  · rw [hr]
    exact h
  · obtain ⟨c, u, hf, -, hx, hcases⟩ := Comments.create_ok hl.fresh hr
    have hrow := (Table.find?_eq_some_iff.1 hf).1
    have hid : x.id = ⟨sys.store.supply.next⟩ := congrArg Comment.id hx
    have hcard : x.card = c.id := congrArg Comment.card hx
    have hnew : posted x := hposted x (by rw [hr])
    rw [hr]
    rcases hcases with ⟨-, rfl⟩ | ⟨hsystem, e, he, -, rfl⟩
    · refine ⟨h.untold, fun d hd hdraft y hy hon => ?_, fun e he y hy hon => ?_⟩
      · rcases Table.mem_rows_put.1 hy with rfl | ⟨hy, -⟩
        · exact hnew
        · exact h.posted d hd hdraft y hy hon
      · rcases Table.mem_rows_put.1 hy with rfl | ⟨hy, -⟩
        · exact (((hl.unused y.id (hid ▸ le_rfl)).1 e he).2 hon).elim
        · exact h.remarks e he y hy hon
    · have href : e.eventable = .comment x.id := congrArg Event.eventable he
      refine h.recorded hl (fun hdraft => ⟨?_, h.untold c hrow hdraft⟩)
        (fun hdraft => ⟨?_, h.posted c hrow hdraft⟩) (fun id habout => ?_) (fun y hy => ?_)
        fun id habout => ⟨?_, fun y hy => ?_⟩
      · rw [href]
        intro habout
        cases (EventableRef.mk.inj habout).1
      · intro y hy
        cases List.mem_singleton.1 hy
        exact hnew
      · cases (EventableRef.mk.inj (habout.symm.trans href)).1
      · cases List.mem_singleton.1 hy
        exact ⟨hcard, hid ▸ le_rfl⟩
      · rw [(EventableRef.mk.inj (habout.symm.trans href)).2, hid]
      · cases List.mem_singleton.1 hy
        have hmember : x.system = u.isSystem := congrArg Comment.system hx
        have hcreator : x.creator = creator := congrArg Comment.creator hx
        refine ⟨hmember.trans hsystem, ?_⟩
        rw [he, hcreator]
        rfl

/-- Nothing becomes known of a draft by a call but that a member comments on it. -/
theorem discreet_call (h : sys.store.Discreet posted) (hl : sys.store.Linked) (g : Setup)
    (now : Instant) (c : SystemCall) (hposted : ∀ x, sys.Posts g now c x → posted x) :
    (sys.call g now c).store.Discreet posted := by
  cases hc : c.isOperation with
  | false =>
      have hactivity := sys.call_activity g now hc
      obtain ⟨hcards, hrest⟩ := Prod.mk.inj hactivity
      obtain ⟨hcomments, hevents⟩ := Prod.mk.inj hrest
      exact h.subset (hcards ▸ List.Subset.refl _) (hcomments ▸ List.Subset.refl _)
        (hevents ▸ List.Subset.refl _)
  | true =>
      cases c with
      | createDraft board creator title =>
          simp only [call, Store.answer]
          exact discreet_createDraft h hl now board creator title
      | changeCard card creator o => exact discreet_changeCard h hl g.tracker now card creator o
      | destroyCard card =>
          simp only [call, Store.answer]
          rw [Store.destroy_eq]
          split_ifs
          · exact h.removeCards [card]
          · exact h
      | comment card creator body mentionees =>
          simp only [call, Store.answer]
          exact discreet_comment h hl g.tracker now card creator body mentionees
            fun x hx => hposted x ⟨card, creator, body, mentionees, rfl, hx⟩
      | _ => cases hc

theorem discreet_run (h : sys.store.Seeded) (g : Setup) (calls : List (Instant × SystemCall)) :
    (sys.run g calls).store.Discreet (sys.Posted g calls) := by
  induction calls using List.reverseRecOn with
  | nil =>
      change sys.store.Discreet _
      refine ⟨?_, ?_, ?_⟩
      · rw [h.cards]
        exact fun _ hm => (List.not_mem_nil hm).elim
      · rw [h.cards]
        exact fun _ hm => (List.not_mem_nil hm).elim
      · rw [h.events]
        exact fun _ hm => (List.not_mem_nil hm).elim
  | append_singleton calls call ih =>
      obtain ⟨now, c⟩ := call
      have hbefore : (sys.run g calls).store.Discreet (sys.Posted g (calls ++ [(now, c)])) := by
        refine ih.imp fun x hx => ?_
        obtain ⟨before, now', c', after, hcalls, hposts⟩ := hx
        refine ⟨before, now', c', after ++ [(now, c)], ?_, hposts⟩
        rw [hcalls, List.append_assoc]
        rfl
      rw [run_append]
      exact discreet_call hbefore (linked_run h g calls) g now c
        fun x hposts => ⟨calls, now, c, [], rfl, hposts⟩

/-- Over every run from users, boards and webhooks, while a card is a draft: no event is about the
card, every comment on it is the answer to a call that comments on it, and so none is generated,
and the events on it and whatever comes of them tell of comments that members have made on it. -/
theorem drafts_of_run {sys : System} (h : sys.store.Seeded) (g : Setup)
    (calls : List (Instant × SystemCall)) :
    let s := (sys.run g calls).store
    ∀ c ∈ s.cards.rows, c.status = .drafted →
      (∀ e ∈ s.events.rows, e.eventable ≠ .card c.id) ∧
      (∀ x ∈ s.comments.rows, x.card = c.id → sys.Posted g calls x) ∧
      s.KnownByRemarks c.id := by
  intro s c hc hd
  have hall := discreet_run h g calls
  refine ⟨hall.untold c hc hd, hall.posted c hc hd, .of_events fun e he hon => ?_⟩
  rcases hon with habout | ⟨x, hx, hcard, habout⟩
  · exact (hall.untold c hc hd e he habout).elim
  · obtain ⟨hsystem, htold⟩ := hall.remarks e he x hx habout
    exact ⟨x, hx, hcard, hsystem, htold⟩

/-- A member and the system user comment on a draft: both comments were posted, and the one event on
the draft tells of the member's. -/
theorem drafts_of_run_commented :
    let users := ((Store.empty 10).addUser ⟨⟨1⟩, ⟨9⟩, "ada", .member⟩).addUser (.newSystem ⟨6⟩ ⟨9⟩)
    let sys : System := ⟨users.addBoard ⟨⟨2⟩, ⟨9⟩, "ops", []⟩, .standard⟩
    let g : Setup := ⟨.standard, .ofConfig .standard, .standard⟩
    let calls : List (Instant × SystemCall) := [(⟨0, 0⟩, .createDraft ⟨2⟩ ⟨1⟩ "plan"),
      (⟨1, 0⟩, .comment ⟨10⟩ ⟨1⟩ "look" []), (⟨2, 0⟩, .comment ⟨10⟩ ⟨6⟩ "done" []),
      (⟨3, 0⟩, .changeCard ⟨10⟩ ⟨1⟩ (.rename "plan b"))]
    let s := (sys.run g calls).store
    (s.comments.rows.map fun x => (x.creator, x.system)) = [(⟨1⟩, false), (⟨6⟩, true)] ∧
      (∀ x ∈ s.comments.rows, sys.Posted g calls x) ∧
      s.eventIds = [⟨12⟩] ∧ ∀ e ∈ s.events.rows, s.TellsRemark ⟨10⟩ e := by
  intro users sys g calls s
  have hseed : sys.store.Seeded := ⟨rfl, rfl, rfl, rfl, rfl, rfl⟩
  have hrow : ((⟨10⟩ : Ident), CardStatus.drafted) ∈
      s.cards.rows.map fun c => (c.id, c.status) := by decide +kernel
  have hcomments : (s.comments.rows.map fun x => (x.creator, x.system)) =
      [(⟨1⟩, false), (⟨6⟩, true)] := by decide +kernel
  have honcard : ∀ x ∈ s.comments.rows, x.card = ⟨10⟩ := by decide +kernel
  have hevents : s.eventIds = [⟨12⟩] := by decide +kernel
  have hon : ∀ e ∈ s.events.rows, s.IsOn ⟨10⟩ e := by decide +kernel
  have hall := drafts_of_run hseed g calls
  have hrun : (sys.run g calls).store = s := rfl
  rw [hrun] at hall
  clear_value s
  obtain ⟨c, hc, heq⟩ := List.mem_map.1 hrow
  obtain ⟨hid, hdraft⟩ := Prod.mk.inj heq
  obtain ⟨-, hposted, hknown⟩ := hall c hc hdraft
  rw [hid] at hposted hknown
  exact ⟨hcomments, fun x hx => hposted x hx (honcard x hx), hevents,
    fun e he => hknown.events e he (hon e he)⟩

/-- A member's comment on a draft is recorded and told: there is an event on the draft, with its two
tasks and a notification of whoever watches the draft. -/
theorem draft_known_by_comment :
    let users := ((Store.empty 10).addUser ⟨⟨1⟩, ⟨9⟩, "ada", .member⟩).addUser
      ⟨⟨5⟩, ⟨9⟩, "bob", .member⟩
    let sys : System := ⟨users.addBoard ⟨⟨2⟩, ⟨9⟩, "ops", []⟩, .standard⟩
    let calls : List (Instant × SystemCall) := [(⟨0, 0⟩, .createDraft ⟨2⟩ ⟨1⟩ "plan"),
      (⟨1, 0⟩, .comment ⟨10⟩ ⟨5⟩ "look" []), (⟨2, 0⟩, .notify ⟨12⟩)]
    let s := (sys.run ⟨.standard, .ofConfig .standard, .standard⟩ calls).store
    sys.store.Seeded ∧
      (s.cards.rows.map fun c => (c.id, c.status)) = [(⟨10⟩, .drafted)] ∧
      s.HasEventOn ⟨10⟩ ⟨12⟩ ∧
      (s.outbox.rows.rows.map fun r => (r.kind, r.subject)) =
        [(.notify, ⟨12⟩), (.dispatchWebhooks, ⟨12⟩)] ∧
      (s.notifications.rows.map fun n => (n.user, n.event)) = [(⟨1⟩, ⟨12⟩)] := by
  refine ⟨⟨rfl, rfl, rfl, rfl, rfl, rfl⟩, ?_⟩
  decide +kernel

end System

end BoardActivity
