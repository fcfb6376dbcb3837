import BoardActivity.Proofs.CallFrames
import BoardActivity.Proofs.CardHistory
import BoardActivity.Proofs.CardRemoval
import Mathlib.Data.List.DropRight

/-!
# The form of a card

What holds of every card at all times, whichever operations have written it: its title is trimmed
and not empty, nobody is assigned to it or watches it twice, its creator and its assignees watch it,
its board belongs to its account, and it was last active when the latest event on it or on one of
its comments was created. Where it comes from is said of runs: there is a call that has put it on
its board, and it has kept its origin since.

Operations write a card together with the event of the change, and the reaction to that event writes
it once more; neither may lose what the other has written. Titles are checked before anything is
written, so single writes do not tell that a title is in order; this part is shown call by call, the
rest write by write.
-/

namespace BoardActivity

namespace Text

/-- What is trimmed already stays as it is. -/
theorem trim_trim (s : String) : trim (trim s) = trim s := by
  have hstart : trimStart (trimEnd (trimStart s.toList)) = trimEnd (trimStart s.toList) := by
    refine List.dropWhile_eq_self_iff.2 fun hpos => ?_
    have hprefix : trimEnd (trimStart s.toList) <+: trimStart s.toList := List.rdropWhile_prefix _ _
    have hpos' : 0 < (trimStart s.toList).length := hpos.trans_le hprefix.length_le
    have hfirst : (trimEnd (trimStart s.toList))[0] = (trimStart s.toList)[0] :=
      hprefix.getElem hpos
    rw [hfirst]
    exact List.dropWhile_get_zero_not _ _ hpos'
  have hend : trimEnd (trimEnd (trimStart s.toList)) = trimEnd (trimStart s.toList) :=
    List.rdropWhile_idempotent _ _
  simp only [trim, String.toList_ofList, hstart, hend]

end Text

namespace Card

def IsTitle (title : String) : Prop := title ≠ "" ∧ Text.trim title = title

theorem isTitle_of_checkedTitle {title checked : String} (h : checkedTitle title = .ok checked) :
    checked = Text.trim title ∧ IsTitle checked := by
  simp only [checkedTitle] at h
  split_ifs at h with hempty
  cases h
  exact ⟨rfl, fun heq => hempty (String.isEmpty_iff.2 heq), Text.trim_trim title⟩

structure Tidy (c : Card) : Prop where
  assignees : c.assignees.Nodup
  watchers : c.watchers.Nodup
  creator : c.creator ∈ c.watchers
  watching : ∀ u ∈ c.assignees, u ∈ c.watchers

theorem tidy_draft (id account board creator : Ident) (title : String) (now : Instant) :
    (draft id account board creator title now).Tidy :=
  ⟨List.nodup_nil, List.nodup_singleton _, List.mem_singleton_self _,
    fun _ hu => (List.not_mem_nil hu).elim⟩

theorem nodup_watchers_watch {c : Card} (h : c.watchers.Nodup) (u : Ident) :
    (c.watch u).watchers.Nodup := by
  unfold watch
  split_ifs with hu
  · exact h
  · exact List.nodup_append.2 ⟨h, List.nodup_singleton u,
      fun a ha b hb heq => hu (List.mem_singleton.1 hb ▸ heq ▸ ha)⟩

theorem nodup_watchers_assign {c : Card} (h : c.watchers.Nodup) (added : List Ident) :
    (c.assign added).watchers.Nodup := by
  unfold assign
  induction added generalizing c with
  | nil => exact h
  | cons u added ih =>
      let d : Card := { c with assignees := c.assignees ++ [u] }
      have hone : (d.watch u).watchers.Nodup := nodup_watchers_watch (c := d) h u
      exact ih hone

/-- Assigning users who are new to the card, each once. -/
theorem Tidy.assign {c : Card} (h : c.Tidy) {added : List Ident} (hnodup : added.Nodup)
    (hnew : ∀ u ∈ added, u ∉ c.assignees) : (c.assign added).Tidy := by
  refine ⟨?_, nodup_watchers_assign h.watchers added, ?_, fun u hu => mem_watchers_assign.2 ?_⟩
  · rw [assign_assignees]
    exact List.nodup_append.2 ⟨h.assignees, hnodup, fun a ha b hb heq => hnew b hb (heq ▸ ha)⟩
  · have hcreator : (c.assign added).creator = c.creator := by rw [assign_eq]
    rw [hcreator]
    exact mem_watchers_assign.2 (.inr h.creator)
  · rw [assign_assignees] at hu
    rcases List.mem_append.1 hu with hu | hu
    · exact .inr (h.watching u hu)
    · exact .inl hu

theorem Tidy.unassign {c : Card} (h : c.Tidy) (removed : List Ident) : (c.unassign removed).Tidy :=
  ⟨h.assignees.filter _, h.watchers, h.creator,
    fun u hu => h.watching u (List.mem_filter.1 hu).1⟩

end Card

namespace CardOperation

variable {s : Store} {o : CardOperation} {c c' : Card} {p : Particulars}

theorem Changes.tidy (h : o.Changes s c c' p) (hc : c.Tidy) : c'.Tidy := by
  cases h with
  | @assign users =>
      exact hc.assign (Ident.nodup_of_pairwise (Ident.pairwise_sortDistinct _))
        fun u hu => (Card.mem_toAssign.1 hu).2
  | unassign => exact hc.unassign _
  | publish | close | reopen | postpone | rename | move =>
      obtain ⟨hassignees, hwatchers, hcreator, hwatching⟩ := hc
      exact ⟨hassignees, hwatchers, hcreator, hwatching⟩

/-- It is recording, not the change itself, that makes a card active. -/
theorem Changes.lastActiveAt (h : o.Changes s c c' p) : c'.lastActiveAt = c.lastActiveAt := by
  cases h with
  | assign => rw [Card.assign_eq]
  | publish | close | reopen | postpone | unassign | rename | move => rfl

theorem Changes.hasBoard (h : o.Changes s c c' p) (hc : s.HasBoard c.account c.board) :
    s.HasBoard c'.account c'.board := by
  rw [h.account]
  cases h with
  | assign =>
      rw [Card.assign_eq]
      exact hc
  | move _ hnew _ haccount => exact ⟨_, hnew, haccount⟩
  | publish | close | reopen | postpone | unassign | rename => exact hc

/-- Only renaming gives a card another title. -/
theorem Changes.title (h : o.Changes s c c' p) :
    c'.title = c.title ∨ ∃ title, o = .rename title ∧ c'.title = Text.trim title := by
  cases h with
  | @rename title => exact .inr ⟨title, rfl, rfl⟩
  | assign =>
      rw [Card.assign_eq]
      exact .inl rfl
  | publish | close | reopen | postpone | unassign | move => exact .inl rfl

end CardOperation

namespace Store

variable {s s' : Store} {g : Setup} {saved : Webhook → Prop}

/-- The events on the card and on its comments, in the order of the table. -/
def eventsOn (s : Store) (card : Ident) : List Event := s.events.rows.filter fun e => s.IsOn card e

/-- When the latest event on the card was created, or the card if there is none. -/
def lastActivity (s : Store) (c : Card) : Instant :=
  ((s.eventsOn c.id).getLast?.map Event.createdAt).getD c.createdAt

structure Keeps (s : Store) (c : Card) : Prop where
  board : s.HasBoard c.account c.board
  tidy : c.Tidy
  active : c.lastActiveAt = s.lastActivity c

structure Kept (s : Store) : Prop where
  ordered : s.events.rows.Pairwise fun a b => a.id < b.id
  cards : ∀ c ∈ s.cards.rows, s.Keeps c

theorem Keeps.of_eventsOn {c : Card} (h : s.Keeps c) (hboards : s'.boards = s.boards)
    (hon : s'.eventsOn c.id = s.eventsOn c.id) : s'.Keeps c := by
  obtain ⟨hboard, htidy, hactive⟩ := h
  refine ⟨?_, htidy, ?_⟩
  · unfold HasBoard at hboard ⊢
    rw [hboards]
    exact hboard
  · rw [hactive, lastActivity, lastActivity, hon]

theorem Kept.frame (h : s.Kept) (hboards : s'.boards = s.boards) (hcards : s'.cards = s.cards)
    (hcomments : s'.comments = s.comments) (hevents : s'.events = s.events) : s'.Kept := by
  refine ⟨hevents ▸ h.ordered, fun c hc => (h.cards c (hcards ▸ hc)).of_eventsOn hboards ?_⟩
  rw [eventsOn, eventsOn, hevents]
  exact List.filter_congr fun e _ => decide_eq_decide.2 (by rw [IsOn, IsOn, hcomments])

/-- A card is written, with no new event. -/
theorem Kept.putCard (h : s.Kept) {c : Card} {supply : Supply} (hc : s.Keeps c) :
    ({ s with cards := s.cards.put c, supply } : Store).Kept := by
  refine ⟨h.ordered, fun d hd => ?_⟩
  rcases Table.mem_rows_put.1 hd with rfl | ⟨hd, -⟩
  · exact hc.of_eventsOn rfl rfl
  · exact (h.cards d hd).of_eventsOn rfl rfl

/-- Nothing happened yet on what is not there. -/
theorem Linked.eventsOn_eq_nil (h : s.Linked) {id : Ident} (hid : id ∉ s.cardIds) :
    s.eventsOn id = [] := by
  refine List.filter_eq_nil_iff.2 fun e he hon => hid ?_
  rcases of_decide_eq_true hon with habout | ⟨x, hx, hcard, -⟩
  · have hthere := h.eventables e he
    rw [habout] at hthere
    exact hthere
  · exact hcard ▸ h.commented x hx

/-- A new comment has no events yet. -/
theorem Linked.isOn_iff (h : s.Linked) {added : List Comment}
    (hcomments : s'.comments.rows = s.comments.rows ++ added)
    (hnew : ∀ x ∈ added, s.supply.next ≤ x.id.value) {e : Event} (he : e ∈ s.events.rows)
    (card : Ident) : s'.IsOn card e ↔ s.IsOn card e := by
  unfold IsOn
  rw [hcomments]
  constructor
  · rintro (habout | ⟨x, hx, hcard, habout⟩)
    · exact .inl habout
    · rcases List.mem_append.1 hx with hx | hx
      · exact .inr ⟨x, hx, hcard, habout⟩
      · have hthere := h.eventables e he
        rw [habout] at hthere
        have hlt : x.id.value < s.supply.next := h.counted.below_of_mem (.inr (.inl hthere))
        exact (Nat.not_le.2 hlt (hnew x hx)).elim
  · rintro (habout | ⟨x, hx, hcard, habout⟩)
    · exact .inl habout
    · exact .inr ⟨x, List.mem_append_left _ hx, hcard, habout⟩

/-- An event is recorded on a card, which is written as active from then on. -/
theorem Kept.recorded (h : s.Kept) (hl : s.Linked) {t : Tracker} {now : Instant} {e : Event}
    {card : Card} {comments : List Comment} (hnew : s.supply.next ≤ e.id.value)
    (hcreated : e.createdAt = now) (habsent : ∀ x ∈ comments, s.supply.next ≤ x.id.value)
    (hnodup : (comments.map Comment.id).Nodup)
    (hon : ∀ id, (s.recorded t now e card comments).IsOn id e ↔ id = card.id)
    (hboard : s.HasBoard card.account card.board) (htidy : card.Tidy)
    (hactive : card.lastActiveAt = now) : (s.recorded t now e card comments).Kept := by
  have hrows : (s.events.put e).rows = s.events.rows ++ [e] :=
    Table.rows_put_of_absent (hl.fresh.find?_event hnew)
  have hcomments : (s.comments.putAll comments).rows = s.comments.rows ++ comments :=
    Table.rows_putAll_of_absent (fun x hx => hl.fresh.find?_comment (habsent x hx)) hnodup
  have hevents : ∀ id, (s.recorded t now e card comments).eventsOn id =
      s.eventsOn id ++ if id = card.id then [e] else [] := by
    intro id
    have hold : (s.events.rows.filter fun x => (s.recorded t now e card comments).IsOn id x) =
        s.events.rows.filter fun x => s.IsOn id x :=
      List.filter_congr fun x hx => decide_eq_decide.2 (hl.isOn_iff hcomments habsent hx id)
    change (s.events.put e).rows.filter _ = _
    rw [hrows, List.filter_append, hold, List.filter_singleton, eventsOn]
    simp only [hon, Bool.cond_decide]
  refine ⟨hl.fresh.ordered_put hnew h.ordered, fun d hd => ?_⟩
  rcases Table.mem_rows_put.1 hd with rfl | ⟨hd, hne⟩
  · refine ⟨hboard, htidy, ?_⟩
    rw [lastActivity, hevents, if_pos rfl, List.getLast?_concat, hactive, ← hcreated]
    rfl
  · have hother : d.id ≠ card.id := hne
    refine (h.cards d hd).of_eventsOn rfl ?_
    rw [hevents, if_neg hother, List.append_nil]

theorem eventsOn_removeCards {cards : List Ident} {id : Ident} (hid : id ∉ cards) :
    (s.removeCards cards).eventsOn id = s.eventsOn id := by
  have hon : ∀ e, (s.removeCards cards).IsOn id e ↔ s.IsOn id e := by
    intro e
    unfold IsOn
    simp only [Store.removeCards, Table.keep, List.mem_filter, decide_eq_true_eq]
    refine or_congr_right (exists_congr fun x => ⟨?_, ?_⟩)
    · rintro ⟨⟨hx, -⟩, hcard, habout⟩
      exact ⟨hx, hcard, habout⟩
    · rintro ⟨hx, hcard, habout⟩
      exact ⟨⟨hx, hcard ▸ hid⟩, hcard, habout⟩
  have hkept : ∀ e, s.IsOn id e → ¬∃ card ∈ cards, s.IsOn card e := by
    rintro e (habout | ⟨x, hx, hcard, habout⟩) ⟨card, hin, habout' | ⟨y, hy, hcard', habout'⟩⟩
    · cases habout.symm.trans habout'
      exact hid hin
    · cases habout.symm.trans habout'
    · cases habout.symm.trans habout'
    · have hsame : x.id = y.id := (EventableRef.mk.inj (habout.symm.trans habout')).2
      cases Table.eq_of_key_eq hx hy hsame
      exact hid (hcard ▸ hcard' ▸ hin)
  change (s.events.rows.filter _).filter _ = s.events.rows.filter _
  rw [List.filter_filter]
  refine List.filter_congr fun e _ => ?_
  rw [Bool.eq_iff_iff, Bool.and_eq_true, decide_eq_true_eq, decide_eq_true_eq, Bool.not_eq_true',
    ← Bool.not_eq_true, isAbout_iff_isOn]
  exact ⟨fun hboth => (hon e).1 hboth.1, fun hone => ⟨(hon e).2 hone, hkept e hone⟩⟩

theorem Kept.draft (h : s.Kept) (hl : s.Linked) {board creator : Ident} {b : Board}
    (hb : s.boards.find? board = some b) (title : String) (now : Instant) : ({ s with
      cards := s.cards.put (.draft ⟨s.supply.next⟩ b.account b.id creator title now)
      supply := ⟨s.supply.next + 1⟩ } : Store).Kept := by
  have hid : (⟨s.supply.next⟩ : Ident) ∉ s.cardIds := fun hin =>
    Nat.lt_irrefl _ (hl.counted.below_of_mem (.inl hin))
  have hkey : b.id = board := (Table.find?_eq_some_iff.1 hb).2
  have hboard : s.boards.find? b.id = some b := hkey ▸ hb
  refine h.putCard ⟨⟨b, hboard, rfl⟩, Card.tidy_draft .., ?_⟩
  exact (congrArg (fun events => ((List.getLast? events).map Event.createdAt).getD now)
    (hl.eventsOn_eq_nil hid)).symm

theorem Kept.recordChange (h : s.Kept) (hl : s.Linked) {o : CardOperation} {c c' : Card}
    {p : Particulars} {creator : Ident} {now : Instant} {e : Event} (ha : s.Alters o c c' p)
    (he : e = (Eventable.ofCard c').event ⟨s.supply.next⟩ o.verb p creator now)
    (hboard : s.HasBoard c.account c'.board) (t : Tracker) :
    (s.recorded t now e { c' with lastActiveAt := now }
      (t.commenter.told s e ⟨s.supply.next + 1⟩ c'.id)).Kept := by
  obtain ⟨-, htidy, -⟩ := h.cards c (Table.find?_eq_some_iff.1 ha.found).1
  obtain ⟨hassignees, hwatchers, hmember, hwatching⟩ := ha.changes.tidy htidy
  have href : e.eventable = .card c'.id := congrArg Event.eventable he
  refine h.recorded hl (he ▸ le_rfl) (congrArg Event.createdAt he) (fun x hx => ?_)
    (Commenter.nodup_told ..) (fun id => ?_) ?_ ⟨hassignees, hwatchers, hmember, hwatching⟩ rfl
  · rw [Commenter.id_of_mem_told hx]
    exact Nat.le_succ _
  · rw [IsOn, href]
    constructor
    · rintro (habout | ⟨x, -, -, habout⟩)
      · exact (EventableRef.mk.inj habout).2.symm
      · cases habout
    · rintro rfl
      exact .inl rfl
  · exact ha.changes.account ▸ hboard

theorem Kept.recordComment (h : s.Kept) (hl : s.Linked) {c : Card} {x : Comment} {now : Instant}
    {e : Event} (hr : s.Remarks c x)
    (he : e = (Eventable.ofComment x).event ⟨s.supply.next + 1⟩ "created" [] x.creator now)
    (t : Tracker) : (s.recorded t now e { c with lastActiveAt := now } [x]).Kept := by
  obtain ⟨hboard, htidy, -⟩ := h.cards c (Table.find?_eq_some_iff.1 hr.found).1
  obtain ⟨hassignees, hwatchers, hmember, hwatching⟩ := htidy
  have href : e.eventable = .comment x.id := congrArg Event.eventable he
  have hx : x ∈ (s.comments.put x).rows := Table.mem_rows_put.2 (.inl rfl)
  refine h.recorded hl (he ▸ Nat.le_succ _) (congrArg Event.createdAt he) (fun y hy => ?_)
    (List.nodup_singleton _) (fun id => ?_) hboard
    ⟨hassignees, hwatchers, hmember, hwatching⟩ rfl
  · rw [List.mem_singleton.1 hy, hr.id]
  · rw [IsOn, href]
    constructor
    · rintro (habout | ⟨y, hy, hcard, habout⟩)
      · cases habout
      · have hsame : x.id = y.id := (EventableRef.mk.inj habout).2
        cases Table.eq_of_key_eq hx hy hsame
        exact hcard.symm.trans hr.card
    · rintro rfl
      exact .inr ⟨x, hx, hr.card, rfl⟩

/-- No write loses what another has written of a card. -/
theorem Kept.write (h : s.Kept) (hl : s.Linked) (hw : s.Write g saved s') : s'.Kept := by
  cases hw with
  | draft title now hb => exact h.draft hl hb title now
  | @edit o c c' p ha hd =>
      obtain ⟨hboard, htidy, hactive⟩ := h.cards c (Table.find?_eq_some_iff.1 ha.found).1
      refine h.putCard ⟨ha.changes.hasBoard hboard, ha.changes.tidy htidy, ?_⟩
      have hcreated : c'.createdAt = c.createdAt := congrArg (fun x => x.2.2.2) ha.changes.origin
      rw [ha.changes.lastActiveAt, hactive, lastActivity, lastActivity, ha.card_id, hcreated]
  | change ha _ he _ hboard => exact h.recordChange hl ha he hboard g.tracker
  | @remark c x hr =>
      have hnone : s.comments.find? x.id = none := hl.fresh.find?_comment (hr.id ▸ le_rfl)
      have hrows : (s.comments.put x).rows = s.comments.rows ++ [x] :=
        Table.rows_put_of_absent hnone
      refine ⟨h.ordered, fun d hd => (h.cards d hd).of_eventsOn rfl ?_⟩
      refine List.filter_congr fun e he =>
        decide_eq_decide.2 (hl.isOn_iff hrows (fun y hy => ?_) he _)
      rw [List.mem_singleton.1 hy, hr.id]
  | comment hr he => exact h.recordComment hl hr he g.tracker
  | removal cards =>
      refine ⟨h.ordered.sublist List.filter_sublist, fun c hc => ?_⟩
      obtain ⟨hc, hkeep⟩ := List.mem_filter.1 hc
      exact (h.cards c hc).of_eventsOn rfl (eventsOn_removeCards (of_decide_eq_true hkeep))
  | saving | subscription | notice | reading | arming | delivery | sending | counting | settlement
  | claim => exact h.frame rfl rfl rfl rfl

/-- The latest event on a card, if there is any, was created when the card was last active. -/
theorem Kept.last_active (h : s.Kept) {c : Card} (hc : c ∈ s.cards.rows) :
    (∀ e ∈ s.events.rows, ¬s.IsOn c.id e) ∧ c.lastActiveAt = c.createdAt ∨
      ∃ e ∈ s.events.rows, s.IsOn c.id e ∧
        (∀ e' ∈ s.events.rows, s.IsOn c.id e' → e'.id ≤ e.id) ∧ c.lastActiveAt = e.createdAt := by
  have hmem : ∀ e, e ∈ s.eventsOn c.id ↔ e ∈ s.events.rows ∧ s.IsOn c.id e := fun e => by
    rw [eventsOn, List.mem_filter, decide_eq_true_eq]
  have hordered : (s.eventsOn c.id).Pairwise fun a b => a.id < b.id :=
    h.ordered.sublist List.filter_sublist
  have hactive := (h.cards c hc).active
  rw [lastActivity] at hactive
  rcases List.eq_nil_or_concat' (s.eventsOn c.id) with hnil | ⟨earlier, e, hlast⟩
  · refine .inl ⟨fun e he hon => ?_, ?_⟩
    · have hin := (hmem e).2 ⟨he, hon⟩
      rw [hnil] at hin
      cases hin
    · rw [hnil] at hactive
      exact hactive
  · rw [hlast, List.getLast?_concat] at hactive
    have hin : e ∈ s.eventsOn c.id := hlast ▸ List.mem_append_right _ (List.mem_singleton_self e)
    obtain ⟨he, hon⟩ := (hmem e).1 hin
    refine .inr ⟨e, he, hon, fun e' he' hon' => ?_, hactive⟩
    have hin' := (hmem e').2 ⟨he', hon'⟩
    rw [hlast] at hin' hordered
    rcases List.mem_append.1 hin' with hin' | hin'
    · have hlt := (List.pairwise_append.1 hordered).2.2 e' hin' e (List.mem_singleton_self e)
      exact Nat.le_of_lt hlt
    · exact List.mem_singleton.1 hin' ▸ Nat.le_refl _

/-- A card of the same origin is there, with the same title unless that of the card was checked. -/
def HasForerunner (s : Store) (c : Card) : Prop :=
  ∃ c₀ ∈ s.cards.rows, c₀.origin = c.origin ∧ (c.title = c₀.title ∨ Card.IsTitle c.title)

theorem hasForerunner_of_mem {c : Card} (hc : c ∈ s.cards.rows) : s.HasForerunner c :=
  ⟨c, hc, rfl, .inl rfl⟩

end Store

namespace Cards

variable {t : Tracker} {s s' : Store} {now : Instant} {card creator : Ident} {title : String}
  {r c : Card}

theorem createDraft_title {board : Ident}
    (h : createDraft s now board creator title = (.ok r, s')) : Card.IsTitle r.title := by
  obtain ⟨w, hw, -⟩ := Store.perform_ok h
  simp only [bind_ok_iff, guard_ok_iff] at hw
  obtain ⟨checked, hchecked, -⟩ := hw
  obtain ⟨b, -, hr, -⟩ := createDraft_ok h
  obtain ⟨heq, htitle⟩ := Card.isTitle_of_checkedTitle hchecked
  have hrtitle : r.title = Text.trim title := congrArg Card.title hr
  rw [hrtitle, ← heq]
  exact htitle

theorem mem_createDraft {board : Ident}
    (hc : c ∈ (createDraft s now board creator title).2.cards.rows) :
    c ∈ s.cards.rows ∨ (createDraft s now board creator title).1 = .ok c := by
  rcases Store.error_or_ok (createDraft s now board creator title) createDraft_error with
    ⟨e, hr⟩ | ⟨r, s', hr⟩
  · rw [hr] at hc
    exact .inl hc
  · obtain ⟨b, -, -, rfl⟩ := createDraft_ok hr
    rw [hr] at hc ⊢
    rcases Table.mem_rows_put.1 hc with rfl | ⟨hc, -⟩
    · exact .inr rfl
    · exact .inl hc

theorem rename_title (h : perform t s now card creator (.rename title) = (.ok r, s')) :
    Card.IsTitle (Text.trim title) := by
  simp only [perform, rename] at h
  split at h
  · cases h
  · next checked hchecked =>
      obtain ⟨heq, htitle⟩ := Card.isTitle_of_checkedTitle hchecked
      exact heq ▸ htitle

/-- Whatever an operation makes of a card, the card keeps its origin. -/
theorem hasForerunner_of_change {o : CardOperation} {d d' : Card} {p : Particulars}
    (h : perform t s now card creator o = (.ok r, s')) (hf : s.cards.find? card = some d)
    (hd : o.change s d = .ok (some (d', p))) (horigin : c.origin = d'.origin)
    (htitle : c.title = d'.title) : s.HasForerunner c := by
  have hchanges := CardOperation.changes_of_change hd
  refine ⟨d, (Table.find?_eq_some_iff.1 hf).1, (horigin.trans hchanges.origin).symm, ?_⟩
  rcases hchanges.title with heq | ⟨title, rfl, heq⟩
  · exact .inl (htitle.trans heq)
  · exact .inr ((htitle.trans heq) ▸ rename_title h)

theorem mem_perform (hfresh : s.Fresh) {o : CardOperation}
    (hc : c ∈ (perform t s now card creator o).2.cards.rows) : s.HasForerunner c := by
  rcases Store.error_or_ok (perform t s now card creator o) perform_error with
    ⟨e, hr⟩ | ⟨r, s', hr⟩
  · rw [hr] at hc
    exact Store.hasForerunner_of_mem hc
  · obtain ⟨d, hf, hcases⟩ := perform_ok hfresh hr
    rw [hr] at hc
    rcases hcases with ⟨-, -, rfl⟩ | ⟨p, hd, -, rfl⟩ | ⟨d', p, e, hd, -, -, -, -, rfl, rfl⟩
    · exact Store.hasForerunner_of_mem hc
    all_goals
      rcases Table.mem_rows_put.1 hc with rfl | ⟨hc, -⟩
      · exact hasForerunner_of_change hr hf hd rfl rfl
      · exact Store.hasForerunner_of_mem hc

theorem mem_destroy (hc : c ∈ (destroy s now card).2.cards.rows) : c ∈ s.cards.rows := by
  rw [Store.destroy_eq] at hc
  split_ifs at hc
  · exact (List.mem_filter.1 hc).1
  · exact hc

end Cards

theorem Comments.mem_create {t : Tracker} {s : Store} {now : Instant} {card creator : Ident}
    {body : String} {mentionees : List Ident} {c : Card} (hfresh : s.Fresh)
    (hc : c ∈ (create t s now card creator body mentionees).2.cards.rows) : s.HasForerunner c := by
  rcases Store.error_or_ok (create t s now card creator body mentionees) create_error with
    ⟨e, hr⟩ | ⟨x, s', hr⟩
  · rw [hr] at hc
    exact Store.hasForerunner_of_mem hc
  · obtain ⟨d, u, hf, -, -, hcases⟩ := create_ok hfresh hr
    rw [hr] at hc
    rcases hcases with ⟨-, rfl⟩ | ⟨-, e, -, -, rfl⟩
    · exact Store.hasForerunner_of_mem hc
    · rcases Table.mem_rows_put.1 hc with rfl | ⟨hc, -⟩
      · exact ⟨d, (Table.find?_eq_some_iff.1 hf).1, rfl, .inl rfl⟩
      · exact Store.hasForerunner_of_mem hc

namespace System

variable {sys : System}

def Drafts (sys : System) (now : Instant) (c : SystemCall) (card : Card) : Prop :=
  ∃ board creator title, c = .createDraft board creator title ∧
    (Cards.createDraft sys.store now board creator title).1 = .ok card

theorem Drafts.isTitle {now : Instant} {c : SystemCall} {card : Card} (h : sys.Drafts now c card) :
    Card.IsTitle card.title := by
  obtain ⟨board, creator, title, -, hcard⟩ := h
  exact Cards.createDraft_title (Prod.ext hcard rfl)

/-- A card after a call was there before, or the call has drafted it. -/
theorem card_of_call (h : sys.store.Linked) (g : Setup) (now : Instant) (c : SystemCall)
    {card : Card} (hc : card ∈ (sys.call g now c).store.cards.rows) :
    sys.store.HasForerunner card ∨ sys.Drafts now c card := by
  cases hop : c.isOperation with
  | false =>
      have hcards : (sys.call g now c).store.cards = sys.store.cards :=
        congrArg Prod.fst (sys.call_activity g now hop)
      rw [hcards] at hc
      exact .inl (Store.hasForerunner_of_mem hc)
  | true =>
      cases c with
      | createDraft board creator title =>
          simp only [call, Store.answer] at hc
          rcases Cards.mem_createDraft hc with hc | hnew
          · exact .inl (Store.hasForerunner_of_mem hc)
          · exact .inr ⟨board, creator, title, rfl, hnew⟩
      | changeCard =>
          simp only [call, Store.answer] at hc
          exact .inl (Cards.mem_perform h.fresh hc)
      | destroyCard =>
          simp only [call, Store.answer] at hc
          exact .inl (Store.hasForerunner_of_mem (Cards.mem_destroy hc))
      | comment =>
          simp only [call, Store.answer] at hc
          exact .inl (Comments.mem_create h.fresh hc)
      | _ => cases hop

/-- Every card of a run was drafted by one of its calls, and has a title in order. -/
theorem drafted_of_run (h : sys.store.Seeded) (g : Setup) (calls : List (Instant × SystemCall))
    {card : Card} (hc : card ∈ (sys.run g calls).store.cards.rows) :
    Card.IsTitle card.title ∧ ∃ before now c after drafted,
      calls = before ++ (now, c) :: after ∧ (sys.run g before).Drafts now c drafted ∧
        drafted.origin = card.origin := by
  induction calls using List.reverseRecOn generalizing card with
  | nil =>
      change card ∈ sys.store.cards.rows at hc
      rw [h.cards] at hc
      exact (List.not_mem_nil hc).elim
  | append_singleton calls c ih =>
      rw [run_append] at hc
      rcases card_of_call (linked_run h g calls) g c.1 c.2 hc with
        ⟨card₀, hc₀, horigin, htitle⟩ | hdrafts
      · obtain ⟨htitle₀, before, now, c', after, drafted, rfl, hdrafts, horigin'⟩ := ih hc₀
        refine ⟨?_, before, now, c', after ++ [c], drafted, by simp, hdrafts,
          horigin'.trans horigin⟩
        rcases htitle with heq | htitle
        · exact heq ▸ htitle₀
        · exact htitle
      · exact ⟨hdrafts.isTitle, calls, c.1, c.2, [], card, rfl, hdrafts, rfl⟩

theorem kept_of_run (h : sys.store.Seeded) (g : Setup) (calls : List (Instant × SystemCall)) :
    (sys.run g calls).store.Kept := by
  have hseed : sys.store.Kept := by
    refine ⟨?_, ?_⟩
    · rw [h.events]
      exact .nil
    · rw [h.cards]
      exact fun _ hm => (List.not_mem_nil hm).elim
  exact (run_keeps (g := g) (fun _ => True) (fun _ _ hl hw hk => hk.write hl hw) h.linked hseed
    calls fun _ _ _ _ => trivial).2

/-- Over every run from users, boards and webhooks, every card has a title that is trimmed and not
empty, nobody twice among its assignees or among its watchers, and its creator and its assignees
among its watchers; its board belongs to its account; one of the calls has put it on a board as a
draft, from which it still has its identifier, account, creator and time of creation; and it was
last active when the event with the greatest identifier of those on it and on its comments was
created, or the card itself if there is none. -/
theorem form_of_run {sys : System} (h : sys.store.Seeded) (g : Setup)
    (calls : List (Instant × SystemCall)) :
    let s := (sys.run g calls).store
    ∀ c ∈ s.cards.rows,
      (c.title ≠ "" ∧ Text.trim c.title = c.title) ∧
      (c.assignees.Nodup ∧ c.watchers.Nodup ∧ c.creator ∈ c.watchers ∧
        ∀ u ∈ c.assignees, u ∈ c.watchers) ∧
      (∃ b, s.boards.find? c.board = some b ∧ b.account = c.account) ∧
      (∃ before now board creator title after drafted,
        calls = before ++ (now, .createDraft board creator title) :: after ∧
        (Cards.createDraft (sys.run g before).store now board creator title).1 = .ok drafted ∧
        c.id = drafted.id ∧ c.account = drafted.account ∧ c.creator = drafted.creator ∧
        c.createdAt = drafted.createdAt) ∧
      ((∀ e ∈ s.events.rows, ¬s.IsOn c.id e) ∧ c.lastActiveAt = c.createdAt ∨
        ∃ e ∈ s.events.rows, s.IsOn c.id e ∧
          (∀ e' ∈ s.events.rows, s.IsOn c.id e' → e'.id ≤ e.id) ∧
          c.lastActiveAt = e.createdAt) := by
  intro s c hc
  have hkept : s.Kept := kept_of_run h g calls
  obtain ⟨htitle, before, now, _, after, drafted, hcalls, ⟨board, creator, title, rfl, hdrafted⟩,
    horigin⟩ := drafted_of_run h g calls hc
  obtain ⟨hboard, htidy, -⟩ := hkept.cards c hc
  obtain ⟨hid, hrest⟩ := Prod.mk.inj horigin
  obtain ⟨haccount, hrest⟩ := Prod.mk.inj hrest
  obtain ⟨hcreator, hcreated⟩ := Prod.mk.inj hrest
  exact ⟨htitle, ⟨htidy.assignees, htidy.watchers, htidy.creator, htidy.watching⟩, hboard,
    ⟨before, now, board, creator, title, after, drafted, hcalls, hdrafted, hid.symm, haccount.symm,
      hcreator.symm, hcreated.symm⟩, hkept.last_active hc⟩

/-- A draft with blanks around its title is assigned to a user, published, assigned to the same user
again, in vain, and commented on under a clock that has gone back: the card was last active at the
comment. -/
theorem form_of_commented_card :
    let users := ((Store.empty 10).addUser ⟨⟨1⟩, ⟨9⟩, "ada", .member⟩).addUser
      ⟨⟨5⟩, ⟨9⟩, "bob", .member⟩
    let sys : System := ⟨users.addBoard ⟨⟨2⟩, ⟨9⟩, "ops", []⟩, .standard⟩
    let calls : List (Instant × SystemCall) :=
      [(⟨1, 0⟩, .createDraft ⟨2⟩ ⟨1⟩ " plan "), (⟨2, 0⟩, .changeCard ⟨10⟩ ⟨1⟩ (.assign [⟨5⟩])),
       (⟨9, 0⟩, .changeCard ⟨10⟩ ⟨1⟩ .publish), (⟨9, 0⟩, .changeCard ⟨10⟩ ⟨1⟩ (.assign [⟨5⟩])),
       (⟨3, 0⟩, .comment ⟨10⟩ ⟨5⟩ "done?" [])]
    let s := (sys.run ⟨.standard, .ofConfig .standard, .standard⟩ calls).store
    ∃ c ∈ s.cards.rows, c.title = "plan" ∧ Text.trim c.title = c.title ∧ c.assignees = [⟨5⟩] ∧
      c.watchers = [⟨1⟩, ⟨5⟩] ∧ c.lastActiveAt = ⟨3, 0⟩ ∧
      ∃ e ∈ s.events.rows, s.IsOn c.id e ∧
        (∀ e' ∈ s.events.rows, s.IsOn c.id e' → e'.id ≤ e.id) ∧ c.lastActiveAt = e.createdAt := by
  intro users sys calls s
  have hseed : sys.store.Seeded := ⟨rfl, rfl, rfl, rfl, rfl, rfl⟩
  have hrow : ∃ c ∈ s.cards.rows, (c.title = "plan" ∧ c.assignees = [⟨5⟩] ∧
      c.watchers = [⟨1⟩, ⟨5⟩] ∧ c.lastActiveAt = ⟨3, 0⟩) ∧ ∃ e ∈ s.events.rows, s.IsOn c.id e := by
    decide +kernel
  have hall := form_of_run hseed ⟨.standard, .ofConfig .standard, .standard⟩ calls
  have hrun : (sys.run ⟨.standard, .ofConfig .standard, .standard⟩ calls).store = s := rfl
  rw [hrun] at hall
  clear_value s
  obtain ⟨c, hc, ⟨htitle, hassignees, hwatchers, hactive⟩, e, he, hon⟩ := hrow
  obtain ⟨⟨-, htrim⟩, -, -, -, ⟨hnone, -⟩ | hlast⟩ := hall c hc
  · exact (hnone e he hon).elim
  · exact ⟨c, hc, htitle, htrim, hassignees, hwatchers, hactive, hlast⟩

end System

end BoardActivity
