import BoardActivity.Proofs.RecordedEvents

/-!
# Effects of operations

Every operation on cards and comments either fails and leaves the store as it is, or succeeds in one
of five ways: a draft is added, nothing changes, a draft is changed, a comment of the system user is
added, or an event is recorded with everything that belongs to it. `Operation.Effect` says for each
way what the new store is, row by row; nothing else is written.

All changes of cards go through one pipeline. A `CardOperation` is characterised by its verb, by the
users whom it needs in the account, and by what it makes of a card; moving a card between boards and
giving it another title, which check more than that, are shown to fit in.
-/

namespace BoardActivity

namespace Ident

theorem mem_eraseReps_loop {u v : Ident} {ids acc : List Ident} :
    u ∈ List.eraseRepsBy.loop (fun x y => x == y) v ids acc ↔ u ∈ acc ∨ u = v ∨ u ∈ ids := by
  induction ids generalizing v acc with
  | nil => simp [List.eraseRepsBy.loop, or_comm]
  | cons w ids ih =>
      by_cases h : v = w
      · simp [List.eraseRepsBy.loop, h, ih]
      · have hne : (v == w) = false := by simpa using h
        simp only [List.eraseRepsBy.loop, hne, ih, List.mem_cons]
        grind

theorem mem_sortDistinct {u : Ident} {ids : List Ident} : u ∈ sortDistinct ids ↔ u ∈ ids := by
  have hs : u ∈ ids.mergeSort (fun a b => decide (a ≤ b)) ↔ u ∈ ids := List.mem_mergeSort
  unfold sortDistinct List.eraseReps List.eraseRepsBy
  rw [← hs]
  cases ids.mergeSort fun a b => decide (a ≤ b) with
  | nil => rfl
  | cons v rest => simp [mem_eraseReps_loop]

/-- The loop collects in decreasing order what comes to it in order, each value once. -/
theorem pairwise_eraseReps_loop {v : Ident} {ids acc : List Ident}
    (hids : (v :: ids).Pairwise (· ≤ ·)) (hacc : (v :: acc).Pairwise (fun a b => b < a)) :
    (List.eraseRepsBy.loop (fun x y => x == y) v ids acc).Pairwise (· < ·) := by
  induction ids generalizing v acc with
  | nil => exact List.pairwise_reverse.2 hacc
  | cons w ids ih =>
      obtain ⟨hv, hw⟩ := List.pairwise_cons.1 hids
      by_cases h : v = w
      · subst h
        simp only [List.eraseRepsBy.loop, beq_self_eq_true]
        exact ih hw hacc
      · have hne : (v == w) = false := by simpa using h
        simp only [List.eraseRepsBy.loop, hne]
        have hlt : v < w :=
          Nat.lt_of_le_of_ne (hv w List.mem_cons_self) fun he => h (congrArg Ident.mk he)
        refine ih hw (List.pairwise_cons.2 ⟨fun u hu => ?_, hacc⟩)
        rcases List.mem_cons.1 hu with rfl | hu
        · exact hlt
        · exact Nat.lt_trans ((List.pairwise_cons.1 hacc).1 u hu) hlt

theorem pairwise_sortDistinct (ids : List Ident) : (sortDistinct ids).Pairwise (· < ·) := by
  have hsorted : (ids.mergeSort fun a b => decide (a ≤ b)).Pairwise (· ≤ ·) := by
    refine (List.pairwise_mergeSort (fun a b c hab hbc => ?_) (fun a b => ?_) ids).imp
      of_decide_eq_true
    · exact decide_eq_true (Nat.le_trans (of_decide_eq_true hab) (of_decide_eq_true hbc))
    · have htotal : a ≤ b ∨ b ≤ a := Nat.le_total a.value b.value
      simpa using htotal
  unfold sortDistinct List.eraseReps List.eraseRepsBy
  cases hs : ids.mergeSort fun a b => decide (a ≤ b) with
  | nil => exact .nil
  | cons v rest => exact pairwise_eraseReps_loop (hs ▸ hsorted) (List.pairwise_singleton _ v)

theorem nodup_of_pairwise {ids : List Ident} (h : ids.Pairwise (· < ·)) : ids.Nodup := by
  refine h.imp ?_
  rintro a _ hlt rfl
  exact Nat.lt_irrefl a.value hlt

/-- There is one increasing list with the members of a list. -/
theorem sortDistinct_eq {ids sorted : List Ident} (hs : sorted.Pairwise (· < ·))
    (hm : ∀ u, u ∈ ids ↔ u ∈ sorted) : sortDistinct ids = sorted := by
  have hpairwise := pairwise_sortDistinct ids
  have hperm : (sortDistinct ids).Perm sorted :=
    (List.perm_ext_iff_of_nodup (nodup_of_pairwise hpairwise) (nodup_of_pairwise hs)).2
      fun u => mem_sortDistinct.trans (hm u)
  exact hperm.eq_of_pairwise (fun _ _ _ _ hab hba => (Nat.lt_asymm hab hba).elim) hpairwise hs

end Ident

namespace CardOperation

/-- The second part of the action of an operation's event. -/
def verb : CardOperation → String
  | publish => "published"
  | close => "closed"
  | reopen => "reopened"
  | postpone => "postponed"
  | assign _ => "assigned"
  | unassign _ => "unassigned"
  | rename _ => "title_changed"
  | move _ => "board_changed"

/-- The users who must belong to the account of the card. -/
def members : CardOperation → List Ident
  | assign users => users
  | publish | close | reopen | postpone | unassign _ | rename _ | move _ => []

/-- What an operation makes of a card. -/
def change (s : Store) : CardOperation → Cards.Change
  | publish => Cards.plain Card.publish
  | close => Cards.plain Card.close
  | reopen => Cards.plain Card.reopen
  | postpone => Cards.plain Card.postpone
  | assign users => fun c =>
    match c.toAssign users with
    | [] => .error (.validation .alreadyAssigned)
    | added => .ok (some (c.assign added, .ofAssignees added))
  | unassign users => fun c =>
    match c.toUnassign users with
    | [] => .error (.validation .notAssigned)
    | removed => .ok (some (c.unassign removed, .ofAssignees removed))
  | rename title => fun c =>
    if c.title = Text.trim title then .ok none
    else .ok (some ({ c with title := Text.trim title }, .ofTitles c.title (Text.trim title)))
  | move board => fun c => do
    if c.board = board then throw (.validation .alreadyOnBoard)
    let old ← s.loadBoard c.board
    let new ← s.loadBoard board
    if new.account ≠ c.account then throw (.validation .foreignBoard)
    return some ({ c with board := new.id }, .ofBoards old.name new.name)

variable {s : Store} {o : CardOperation} {c c' : Card} {particulars : Particulars}

theorem plain_ok {f : Card → Except Error Card} {x : Option (Card × Particulars)}
    (h : Cards.plain f c = .ok x) : ∃ c', f c = .ok c' ∧ x = some (c', []) := by
  unfold Cards.plain at h
  cases hf : f c with
  | error e =>
      rw [hf] at h
      cases h
  | ok c' =>
      rw [hf] at h
      exact ⟨c', rfl, (Except.ok.inj h).symm⟩

theorem change_move_ok {board : Ident} {x : Option (Card × Particulars)}
    (h : (move board).change s c = .ok x) : ∃ old new, s.loadBoard c.board = .ok old ∧
      s.loadBoard board = .ok new ∧ c.board ≠ board ∧ new.account = c.account ∧
      x = some ({ c with board := new.id }, .ofBoards old.name new.name) := by
  simp only [change, guard_ok_iff, bind_ok_iff] at h
  obtain ⟨hb, old, ho, new, hn, ha, hx⟩ := h
  exact ⟨old, new, ho, hn, hb, not_not.1 ha, (Except.ok.inj hx).symm⟩

/-- Only a new title can turn out to be no change. -/
theorem change_eq_none (h : o.change s c = .ok none) :
    ∃ title, o = .rename title ∧ c.title = Text.trim title := by
  cases o with
  | rename title =>
      simp only [change] at h
      split_ifs at h with ht
      · exact ⟨title, rfl, ht⟩
      · cases h
  | publish | close | reopen | postpone =>
      obtain ⟨_, -, hx⟩ := plain_ok h
      cases hx
  | assign | unassign =>
      simp only [change] at h
      split at h <;> cases h
  | move board =>
      obtain ⟨_, _, -, -, -, -, hx⟩ := change_move_ok h
      cases hx

end CardOperation

namespace Card

variable {c c' : Card}

theorem publish_ok (h : c.publish = .ok c') :
    c.status = .drafted ∧ c' = { c with status := .published } := by
  unfold publish at h
  split_ifs at h with hd
  · exact ⟨by simpa [isDraft] using hd, (Except.ok.inj h).symm⟩

theorem close_ok (h : c.close = .ok c') :
    c.status ≠ .closed ∧ c' = { c with status := .closed } := by
  unfold close at h
  cases hs : c.status with
  | published | postponed => exact ⟨by simp, by simpa [hs] using h.symm⟩
  | closed | drafted => simp [hs] at h

theorem reopen_ok (h : c.reopen = .ok c') :
    c.status ≠ .published ∧ c' = { c with status := .published } := by
  unfold reopen at h
  cases hs : c.status with
  | closed | postponed => exact ⟨by simp, by simpa [hs] using h.symm⟩
  | published | drafted => simp [hs] at h

theorem postpone_ok (h : c.postpone = .ok c') :
    c.status ≠ .postponed ∧ c' = { c with status := .postponed } := by
  unfold postpone at h
  cases hs : c.status with
  | published | closed => exact ⟨by simp, by simpa [hs] using h.symm⟩
  | postponed | drafted => simp [hs] at h

theorem watch_id (c : Card) (u : Ident) : (c.watch u).id = c.id := by
  unfold watch
  split_ifs <;> rfl

theorem watch_assignees (c : Card) (u : Ident) : (c.watch u).assignees = c.assignees := by
  unfold watch
  split_ifs <;> rfl

theorem assign_id (c : Card) (added : List Ident) : (c.assign added).id = c.id := by
  unfold assign
  induction added generalizing c with
  | nil => rfl
  | cons u added ih => exact (ih _).trans (watch_id _ u)

theorem assign_assignees (c : Card) (added : List Ident) :
    (c.assign added).assignees = c.assignees ++ added := by
  unfold assign
  induction added generalizing c with
  | nil => simp
  | cons u added ih => simp [ih, watch_assignees]

end Card

namespace CardOperation

variable {s : Store} {o : CardOperation} {c c' : Card} {particulars : Particulars}

theorem change_assign_ne {users : List Ident}
    (h : (assign users).change s c = .ok (some (c', particulars))) : c'.id = c.id ∧ c' ≠ c := by
  simp only [change] at h
  split at h
  next => cases h
  next hadded =>
    cases h
    refine ⟨Card.assign_id c _, fun he => hadded ?_⟩
    have ha := congrArg Card.assignees he
    rw [Card.assign_assignees] at ha
    simpa using ha

theorem change_unassign_ne {users : List Ident}
    (h : (unassign users).change s c = .ok (some (c', particulars))) :
    c'.id = c.id ∧ c' ≠ c := by
  simp only [change] at h
  split at h
  next => cases h
  next hremoved =>
    cases h
    refine ⟨rfl, fun he => ?_⟩
    obtain ⟨u, hu⟩ := List.exists_mem_of_ne_nil _ hremoved
    have hin : u ∈ c.assignees := by
      have hf := Ident.mem_sortDistinct.1 hu
      simpa using (List.mem_filter.1 hf).2
    rw [← congrArg Card.assignees he] at hin
    simp [Card.unassign, hu] at hin

theorem plain_ne {f : Card → Except Error Card} (status : CardStatus)
    (h : Cards.plain f c = .ok (some (c', particulars)))
    (hf : ∀ d, f c = .ok d → c.status ≠ status ∧ d = { c with status }) :
    c'.id = c.id ∧ c' ≠ c := by
  obtain ⟨d, hd, hx⟩ := plain_ok h
  cases hx
  obtain ⟨hne, rfl⟩ := hf _ hd
  exact ⟨rfl, fun he => hne (congrArg Card.status he).symm⟩

/-- An operation that changes a card really changes it, but not its identifier. -/
theorem change_eq_some (h : o.change s c = .ok (some (c', particulars))) :
    c'.id = c.id ∧ c' ≠ c := by
  cases o with
  | publish =>
      refine plain_ne .published h fun d hd => ?_
      obtain ⟨hdraft, hchange⟩ := Card.publish_ok hd
      exact ⟨by simp [hdraft], hchange⟩
  | close => exact plain_ne .closed h fun d hd => Card.close_ok hd
  | reopen => exact plain_ne .published h fun d hd => Card.reopen_ok hd
  | postpone => exact plain_ne .postponed h fun d hd => Card.postpone_ok hd
  | assign users => exact change_assign_ne h
  | unassign users => exact change_unassign_ne h
  | rename title =>
      simp only [change] at h
      split_ifs at h with ht
      · cases h
      · cases h
        exact ⟨rfl, fun he => ht (congrArg Card.title he).symm⟩
  | move board =>
      obtain ⟨old, new, -, hn, hb, -, hx⟩ := change_move_ok h
      cases hx
      refine ⟨rfl, fun he => hb ?_⟩
      rw [← (Store.loadBoard_ok hn).2]
      exact (congrArg Card.board he).symm

end CardOperation

namespace Cards

variable {t : Tracker} {s s' : Store} {now : Instant} {card creator : Ident} {c c' : Card}

/-- Moving a card is a change like the others, made with what is known of the boards. -/
theorem move_eq (t : Tracker) (s : Store) (now : Instant) (card creator board : Ident) :
    move t s now card creator board =
      transition t s now card creator "board_changed" [] ((CardOperation.move board).change s) := by
  have hm : ∀ account, s.requireMembers account "assignee" [] = .ok () := fun _ => rfl
  unfold move transition
  dsimp only
  cases (Work.start s).tx.loadCard s card with
  | error e => rfl
  | ok c =>
      by_cases hb : c.board = board
      · simp [CardOperation.change, hm, hb, bind, Except.bind, throw, throwThe, MonadExceptOf.throw]
      · cases ho : s.loadBoard c.board with
        | error e => simp [CardOperation.change, hm, hb, ho, bind, Except.bind]
        | ok old =>
            cases hn : s.loadBoard board with
            | error e => simp [CardOperation.change, hm, hb, ho, hn, bind, Except.bind]
            | ok new =>
                by_cases ha : new.account = c.account
                · simp [CardOperation.change, hm, hb, ho, hn, ha, bind, Except.bind, pure,
                    Except.pure]
                · simp [CardOperation.change, hm, hb, ho, hn, ha, bind, Except.bind, throw,
                    throwThe, MonadExceptOf.throw]

/-- An operation goes through the pipeline, or is refused before it by its title. -/
theorem perform_eq (t : Tracker) (s : Store) (now : Instant) (card creator : Ident)
    (o : CardOperation) :
    perform t s now card creator o = transition t s now card creator o.verb o.members (o.change s) ∨
      ∃ e, perform t s now card creator o = (.error e, s) := by
  cases o with
  | move board => exact .inl (move_eq t s now card creator board)
  | rename title =>
      unfold perform rename
      simp only [Card.checkedTitle]
      split
      next e _ => exact .inr ⟨e, rfl⟩
      next title' ht =>
        split_ifs at ht
        cases ht
        exact .inl rfl
  | publish | close | reopen | postpone | assign | unassign => exact .inl rfl

/-- What the pipeline has done when it succeeds. -/
theorem transition_ok {verb : String} {members : List Ident} {change : Change} {r : Card}
    (h : transition t s now card creator verb members change = (.ok r, s')) :
    ∃ c, s.cards.find? card = some c ∧ s.requireMembers c.account "assignee" members = .ok () ∧
      ((change c = .ok none ∧ r = c ∧ s' = s) ∨
        ∃ c' particulars w, change c = .ok (some (c', particulars)) ∧
          saveAndTrack t s now c' verb particulars creator = .ok (r, w) ∧
          s' = ({ s with supply := w.supply } : Store).commit w.tx now) := by
  obtain ⟨w, hw, hs⟩ := Store.perform_ok h
  simp only [bind_ok_iff] at hw
  obtain ⟨c, hl, _, hm, x, hc, hw⟩ := hw
  have hf := (Transaction.findCard_start s card).symm.trans (Transaction.loadCard_ok hl)
  refine ⟨c, hf, hm, ?_⟩
  cases x with
  | none =>
      cases hw
      exact .inl ⟨hc, rfl, hs⟩
  | some p => exact .inr ⟨p.1, p.2, w, hc, hw, hs⟩

theorem rows_put_put {c c' : Card} (h : c'.id = c.id) :
    (((Table.empty : Table Card).put c).put c').rows = [c'] := by
  have hk : Keyed.key c = Keyed.key c' := h.symm
  simp [Table.put, Table.putRow, Table.empty, hk]

theorem rows_putAll_told (commenter : Commenter) (s : Store) (e : Event) (id card : Ident) :
    ((Table.empty : Table Comment).putAll (commenter.told s e id card)).rows =
      commenter.told s e id card := by
  rcases commenter.told_eq s e id card with h | ⟨comment, h, -⟩ <;> rw [h] <;> rfl

/-- A changed draft is saved and nothing else. -/
theorem saveAndTrack_of_draft {verb : String} {particulars : Particulars} {r : Card} {w : Work}
    (hd : c.isDraft = true) (h : saveAndTrack t s now c verb particulars creator = .ok (r, w)) :
    r = c ∧ w = ⟨{ Transaction.start with cards := Table.empty.put c }, s.supply⟩ := by
  simp only [saveAndTrack, bind_ok_iff] at h
  obtain ⟨tx, hs, ⟨x, w₁⟩, ht, c₁, hl, hr⟩ := h
  have hx : (Eventable.ofCard c).tracked = false := by simp [Eventable.ofCard, hd]
  rw [orDrop_ok_iff, Tracker.track_of_closed hx] at ht
  cases Transaction.saveCard_ok hs
  cases ht
  cases Transaction.loadCard_staged hl List.not_mem_nil (Table.find?_put_self Table.empty c)
  cases hr
  exact ⟨rfl, rfl⟩

end Cards

structure Store.Fresh (s : Store) : Prop where
  cards : ∀ c ∈ s.cards.rows, c.id.value < s.supply.next
  comments : ∀ c ∈ s.comments.rows, c.id.value < s.supply.next
  events : ∀ e ∈ s.events.rows, e.id.value < s.supply.next
  tasks : s.outbox.Below s.supply.next
  subjects : ∀ e ∈ s.outbox.index.rows, e.subject.value < s.supply.next

theorem Store.Fresh.has_eq_false {s : Store} (h : s.Fresh) (kind : TaskKind) {id : Ident}
    (hid : s.supply.next ≤ id.value) : s.outbox.has kind id = false := by
  by_contra hhas
  obtain ⟨e, he⟩ := Outbox.has_iff.1 (by simpa using hhas)
  obtain ⟨hm, hk⟩ := Table.find?_eq_some_iff.1 he
  have hlt := h.subjects e hm
  rw [show e.subject = id from congrArg Prod.snd hk] at hlt
  omega

namespace Cards

variable {t : Tracker} {s s' : Store} {now : Instant} {card creator : Ident} {c c' : Card}

/-- A changed card that is on the board is saved with the event of the change, and with what
follows from it. -/
theorem saveAndTrack_of_tracked {verb : String} {particulars : Particulars} {r : Card} {w : Work}
    (hfresh : s.Fresh) (hd : c.isDraft = false)
    (h : saveAndTrack t s now c verb particulars creator = .ok (r, w)) :
    ∃ e, e = (Eventable.ofCard c).event ⟨s.supply.next⟩ verb particulars creator now ∧
      Tracker.checkEvent s (Eventable.ofCard c) e.action creator c.board = .ok () ∧
      t.commenter.Tells s e ⟨s.supply.next + 1⟩ c.id
        (t.commenter.told s e ⟨s.supply.next + 1⟩ c.id) ∧
      r = { c with lastActiveAt := now } ∧
      ({ s with supply := w.supply } : Store).commit w.tx now =
        s.recorded t now e { c with lastActiveAt := now }
          (t.commenter.told s e ⟨s.supply.next + 1⟩ c.id) := by
  simp only [saveAndTrack, bind_ok_iff] at h
  obtain ⟨tx, hs, ⟨x, w₁⟩, ht, c₁, hl, hr⟩ := h
  have hx : (Eventable.ofCard c).tracked = true := by simp [Eventable.ofCard, hd]
  obtain ⟨e, w₂, he, -, hcheck, -, hreact, hw⟩ := Tracker.track_ok hx ((orDrop_ok_iff).1 ht)
  cases Transaction.saveCard_ok hs
  have hn : s.outbox.has .notify ⟨s.supply.next⟩ = false := hfresh.has_eq_false .notify le_rfl
  have hdw : s.outbox.has .dispatchWebhooks ⟨s.supply.next⟩ = false :=
    hfresh.has_eq_false .dispatchWebhooks le_rfl
  have hid : e.id = ⟨s.supply.next⟩ := congrArg Event.id he
  have hcreated : e.createdAt = now := congrArg Event.createdAt he
  have hw₁ : w₁ = ⟨⟨(Table.empty.put c).put { c with lastActiveAt := now },
      Table.empty.putAll (t.commenter.told s e ⟨s.supply.next + 1⟩ c.id), [e], t.tasksFor e.id, []⟩,
      ⟨s.supply.next + 1 + (t.commenter.told s e ⟨s.supply.next + 1⟩ c.id).length⟩⟩ := by
    rw [Eventable.react_ofCard_ok hreact, hid, Tracker.enqueueAll_tasksFor t rfl hn hdw,
      hcreated] at hw
    rw [hid]
    exact hw
  subst hw₁
  cases Transaction.loadCard_staged hl List.not_mem_nil
    (Table.find?_put_self (Table.empty.put c) { c with lastActiveAt := now })
  cases hr
  refine ⟨e, he, hcheck, Eventable.tells_of_react hreact _, rfl, ?_⟩
  rw [← hid] at hn hdw
  exact Store.commit_recorded (rows_put_put rfl)
    (rows_putAll_told t.commenter s e ⟨s.supply.next + 1⟩ c.id) rfl rfl rfl hn hdw

/-- A change of a card that succeeds finds nothing to change, changes a draft, or is recorded. -/
theorem perform_ok {o : CardOperation} {r : Card} (hfresh : s.Fresh)
    (h : perform t s now card creator o = (.ok r, s')) :
    ∃ c, s.cards.find? card = some c ∧
      ((o.change s c = .ok none ∧ r = c ∧ s' = s) ∨
        (∃ p, o.change s c = .ok (some (r, p)) ∧ r.status = .drafted ∧
          s' = { s with cards := s.cards.put r }) ∨
        ∃ c' p e, o.change s c = .ok (some (c', p)) ∧ c'.status ≠ .drafted ∧
          e = (Eventable.ofCard c').event ⟨s.supply.next⟩ o.verb p creator now ∧
          Tracker.checkEvent s (Eventable.ofCard c') e.action creator c'.board = .ok () ∧
          t.commenter.Tells s e ⟨s.supply.next + 1⟩ c'.id
            (t.commenter.told s e ⟨s.supply.next + 1⟩ c'.id) ∧
          r = { c' with lastActiveAt := now } ∧
          s' = s.recorded t now e r (t.commenter.told s e ⟨s.supply.next + 1⟩ c'.id)) := by
  rcases perform_eq t s now card creator o with hp | ⟨e', hp⟩
  · rw [hp] at h
    obtain ⟨c, hf, -, hnone | ⟨c', p, w, hc, hs, rfl⟩⟩ := transition_ok h
    · exact ⟨c, hf, .inl hnone⟩
    · refine ⟨c, hf, .inr ?_⟩
      cases hd : c'.isDraft with
      | true =>
          obtain ⟨rfl, rfl⟩ := saveAndTrack_of_draft hd hs
          exact .inl ⟨p, hc, by simpa [Card.isDraft] using hd, rfl⟩
      | false =>
          obtain ⟨e, he, hcheck, htells, rfl, hcommit⟩ := saveAndTrack_of_tracked hfresh hd hs
          exact .inr ⟨c', p, e, hc, by simpa [Card.isDraft] using hd, he, hcheck, htells, rfl,
            hcommit⟩
  · rw [hp] at h
    cases (Prod.mk.inj h).1

theorem perform_error {o : CardOperation} {e : Error}
    (h : (perform t s now card creator o).1 = .error e) :
    (perform t s now card creator o).2 = s := by
  rcases perform_eq t s now card creator o with hp | ⟨e', hp⟩
  · rw [hp] at h ⊢
    unfold transition at h ⊢
    exact Store.perform_error h
  · rw [hp]

theorem createDraft_error {board : Ident} {title : String} {e : Error}
    (h : (createDraft s now board creator title).1 = .error e) :
    (createDraft s now board creator title).2 = s := by
  unfold createDraft at h ⊢
  exact Store.perform_error h

/-- A new draft is added and nothing else. -/
theorem createDraft_ok {board : Ident} {title : String} {r : Card}
    (h : createDraft s now board creator title = (.ok r, s')) :
    ∃ b, s.boards.find? board = some b ∧
      r = Card.draft ⟨s.supply.next⟩ b.account b.id creator (Text.trim title) now ∧
      s' = { s with cards := s.cards.put r, supply := ⟨s.supply.next + 1⟩ } := by
  obtain ⟨w, hw, hs⟩ := Store.perform_ok h
  simp only [bind_ok_iff, guard_ok_iff] at hw
  obtain ⟨title', ht, b, hb, u, hu, -, tx, htx, hw⟩ := hw
  cases Transaction.saveCard_ok htx
  cases hw
  have hc : title' = Text.trim title := by
    simp only [Card.checkedTitle] at ht
    split_ifs at ht
    exact (Except.ok.inj ht).symm
  refine ⟨b, (Store.loadBoard_ok hb).1, ?_, hs⟩
  rw [hc, (Store.loadUser_ok hu).2]
  rfl

end Cards

namespace Comments

variable {t : Tracker} {s s' : Store} {now : Instant} {card creator : Ident}

theorem create_error {body : String} {mentionees : List Ident} {e : Error}
    (h : (create t s now card creator body mentionees).1 = .error e) :
    (create t s now card creator body mentionees).2 = s := by
  unfold create at h ⊢
  exact Store.perform_error h

/-- What the pipeline has done when it succeeds: the comment is staged, and its event if it has one. -/
theorem create_staged {body : String} {mentionees : List Ident} {r : Comment}
    (h : create t s now card creator body mentionees = (.ok r, s')) :
    ∃ c u x w, s.cards.find? card = some c ∧ s.users.find? creator = some u ∧
      r = ⟨⟨s.supply.next⟩, c.account, c.board, c.id, creator, Text.trim body, u.isSystem,
        mentionees, now⟩ ∧
      t.track s now (.ofComment r) "created" [] creator none
        ⟨{ Transaction.start with comments := Table.empty.put r }, ⟨s.supply.next + 1⟩⟩ =
          (.ok x, w) ∧
      s' = ({ s with supply := w.supply } : Store).commit w.tx now := by
  obtain ⟨w, hw, hs⟩ := Store.perform_ok h
  simp only [bind_ok_iff, guard_ok_iff] at hw
  obtain ⟨body', hbody, c, hl, u, hu, -, _, -, tx, htx, ⟨x, w₁⟩, ht, hw⟩ := hw
  obtain ⟨huser, rfl⟩ := Store.loadUser_ok hu
  have hf := (Transaction.findCard_start s card).symm.trans (Transaction.loadCard_ok hl)
  have hb : body' = Text.trim body := by
    simp only [Comment.checkedBody] at hbody
    split_ifs at hbody
    exact (Except.ok.inj hbody).symm
  subst hb
  cases Transaction.insertComment_ok htx
  obtain ⟨hr, rfl⟩ := Prod.mk.inj (Except.ok.inj hw)
  rw [orDrop_ok_iff, hr] at ht
  exact ⟨c, u, x, w₁, hf, huser, hr.symm, ht, hs⟩

/-- The event of a comment is recorded with the comment, and makes the card active. -/
theorem commit_of_tracked {c : Card} {r : Comment} {x : Option Event} {w : Work}
    (hfresh : s.Fresh) (hf : s.cards.find? r.card = some c) (hmember : r.system = false)
    (h : t.track s now (.ofComment r) "created" [] creator none
      ⟨{ Transaction.start with comments := Table.empty.put r }, ⟨s.supply.next + 1⟩⟩ =
        (.ok x, w)) :
    ∃ e, e = (Eventable.ofComment r).event ⟨s.supply.next + 1⟩ "created" [] creator now ∧
      Tracker.checkEvent s (Eventable.ofComment r) e.action creator r.board = .ok () ∧
      ({ s with supply := w.supply } : Store).commit w.tx now =
        s.recorded t now e { c with lastActiveAt := now } [r] := by
  have hx : (Eventable.ofComment r).tracked = true := by simp [Eventable.ofComment, hmember]
  obtain ⟨e, w₁, he, -, hcheck, -, hreact, hw⟩ := Tracker.track_ok hx h
  have hid : e.id = ⟨s.supply.next + 1⟩ := congrArg Event.id he
  have hcreated : e.createdAt = now := congrArg Event.createdAt he
  have hn : s.outbox.has .notify e.id = false := by
    rw [hid]
    exact hfresh.has_eq_false .notify (Nat.le_succ _)
  have hd : s.outbox.has .dispatchWebhooks e.id = false := by
    rw [hid]
    exact hfresh.has_eq_false .dispatchWebhooks (Nat.le_succ _)
  obtain ⟨c', hc', rfl⟩ := Eventable.react_ofComment_ok hreact
  cases ((Transaction.findCard_start s r.card).symm.trans hc').symm.trans hf
  have hwork : w = ⟨⟨Table.empty.put { c with lastActiveAt := now }, Table.empty.put r, [e],
      t.tasksFor e.id, []⟩, ⟨s.supply.next + 1 + [r].length⟩⟩ := by
    rw [hw, Tracker.enqueueAll_tasksFor t rfl hn hd, hcreated]
    rfl
  have hcomments : (Table.empty.put r).rows = [r] := rfl
  refine ⟨e, he, hcheck, ?_⟩
  rw [hwork]
  exact Store.commit_recorded rfl hcomments rfl rfl rfl hn hd

/-- A comment is added, and nothing else if the system user wrote it; the comment of a member is
recorded, and makes its card active. -/
theorem create_ok {body : String} {mentionees : List Ident} {r : Comment} (hfresh : s.Fresh)
    (h : create t s now card creator body mentionees = (.ok r, s')) :
    ∃ c u, s.cards.find? card = some c ∧ s.users.find? creator = some u ∧
      r = ⟨⟨s.supply.next⟩, c.account, c.board, c.id, creator, Text.trim body, u.isSystem,
        mentionees, now⟩ ∧
      ((u.isSystem = true ∧
          s' = { s with comments := s.comments.put r, supply := ⟨s.supply.next + 1⟩ }) ∨
        (u.isSystem = false ∧ ∃ e,
          e = (Eventable.ofComment r).event ⟨s.supply.next + 1⟩ "created" [] creator now ∧
          Tracker.checkEvent s (Eventable.ofComment r) e.action creator r.board = .ok () ∧
          s' = s.recorded t now e { c with lastActiveAt := now } [r])) := by
  obtain ⟨c, u, x, w, hf, hu, hr, ht, rfl⟩ := create_staged h
  have hsystem : r.system = u.isSystem := congrArg Comment.system hr
  refine ⟨c, u, hf, hu, hr, ?_⟩
  cases hsys : u.isSystem with
  | true =>
      rw [Tracker.track_of_closed (by simp [Eventable.ofComment, hsystem, hsys])] at ht
      cases ht
      exact .inl ⟨rfl, rfl⟩
  | false =>
      have hcard : r.card = card := (congrArg Comment.card hr).trans (Table.find?_eq_some_iff.1 hf).2
      exact .inr ⟨rfl, commit_of_tracked hfresh (hcard.symm ▸ hf) (hsystem.trans hsys) ht⟩

end Comments

inductive Operation where
  | createDraft (board creator : Ident) (title : String)
  | change (card creator : Ident) (operation : CardOperation)
  | comment (card creator : Ident) (body : String) (mentionees : List Ident)

def Operation.perform (t : Tracker) (s : Store) (now : Instant) :
    Operation → Except Error (Card ⊕ Comment) × Store
  | .createDraft board creator title =>
    let (result, s) := Cards.createDraft s now board creator title
    (result.map .inl, s)
  | .change card creator operation =>
    let (result, s) := Cards.perform t s now card creator operation
    (result.map .inl, s)
  | .comment card creator body mentionees =>
    let (result, s) := Comments.create t s now card creator body mentionees
    (result.map .inr, s)

/-- The rows of a store in which an event was recorded: the event and its two tasks are new, the
comments are new, the card has its row replaced, and all else is as before. -/
structure Recording (t : Tracker) (s : Store) (now : Instant) (e : Event) (card : Card)
    (comments : List Comment) (s' : Store) : Prop where
  events : s'.events.rows = s.events.rows ++ [e]
  cards : s'.cards.rows = s.cards.rows.map fun c => if c.id = card.id then card else c
  comments : s'.comments.rows = s.comments.rows ++ comments
  tasks : ∃ notify dispatch,
    s'.outbox.rows.rows = s.outbox.rows.rows ++
      [.ofNew ((NewTask.create .notify e.id).withMaxAttempts t.notifyAttempts) notify
        (s.outbox.seq + 1) now,
       .ofNew ((NewTask.create .dispatchWebhooks e.id).withMaxAttempts t.dispatchAttempts) dispatch
        (s.outbox.seq + 2) now] ∧
    s'.outbox.index.rows = s.outbox.index.rows ++
      [⟨.notify, e.id, notify⟩, ⟨.dispatchWebhooks, e.id, dispatch⟩]
  rest : s' = { s with
    cards := s'.cards
    comments := s'.comments
    events := s'.events
    outbox := s'.outbox
    supply := s'.supply }

inductive EffectKind where
  | drafted
  | unchanged
  | draftChanged
  | remarked
  | recorded
deriving Repr, DecidableEq

/-- What an operation has done that succeeded: its result, and the store after it. -/
inductive Operation.Effect (t : Tracker) (s : Store) (now : Instant) :
    Operation → EffectKind → Card ⊕ Comment → Store → Prop
  | drafted {board creator : Ident} {title : String} {b : Board} {c : Card} {s' : Store} :
      s.boards.find? board = some b →
      c = .draft ⟨s.supply.next⟩ b.account b.id creator (Text.trim title) now →
      c.status = .drafted →
      s'.cards.rows = s.cards.rows ++ [c] →
      s' = { s with cards := s'.cards, supply := s'.supply } →
      Effect t s now (.createDraft board creator title) .drafted (.inl c) s'
  | unchanged {card creator : Ident} {title : String} {c : Card} :
      s.cards.find? card = some c → c.title = Text.trim title →
      Effect t s now (.change card creator (.rename title)) .unchanged (.inl c) s
  | draftChanged {card creator : Ident} {o : CardOperation} {c c' : Card} {p : Particulars}
      {s' : Store} :
      s.cards.find? card = some c → o.change s c = .ok (some (c', p)) → c'.status = .drafted →
      c'.id = c.id → c' ≠ c →
      s'.cards.rows = s.cards.rows.map (fun x => if x.id = c'.id then c' else x) →
      s' = { s with cards := s'.cards } →
      Effect t s now (.change card creator o) .draftChanged (.inl c') s'
  | remarked {card creator : Ident} {body : String} {mentionees : List Ident} {c : Card} {u : User}
      {comment : Comment} {s' : Store} :
      s.cards.find? card = some c → s.users.find? creator = some u → u.isSystem = true →
      comment = ⟨⟨s.supply.next⟩, c.account, c.board, card, creator, Text.trim body, true,
        mentionees, now⟩ →
      s'.comments.rows = s.comments.rows ++ [comment] →
      s' = { s with comments := s'.comments, supply := s'.supply } →
      Effect t s now (.comment card creator body mentionees) .remarked (.inr comment) s'
  | changeRecorded {card creator : Ident} {o : CardOperation} {c c' : Card} {p : Particulars}
      {e : Event} {comments : List Comment} {s' : Store} :
      s.cards.find? card = some c → o.change s c = .ok (some (c', p)) → c'.status ≠ .drafted →
      c'.id = c.id →
      e = ⟨⟨s.supply.next⟩, c'.account, c'.board, creator, .card card, "card_" ++ o.verb, p, now⟩ →
      t.commenter.Tells s e ⟨s.supply.next + 1⟩ card comments →
      Recording t s now e { c' with lastActiveAt := now } comments s' →
      Effect t s now (.change card creator o) .recorded (.inl { c' with lastActiveAt := now }) s'
  | commentRecorded {card creator : Ident} {body : String} {mentionees : List Ident} {c : Card}
      {u : User} {comment : Comment} {e : Event} {s' : Store} :
      s.cards.find? card = some c → s.users.find? creator = some u → u.isSystem = false →
      comment = ⟨⟨s.supply.next⟩, c.account, c.board, card, creator, Text.trim body, false,
        mentionees, now⟩ →
      e = ⟨⟨s.supply.next + 1⟩, c.account, c.board, creator, .comment comment.id, "comment_created",
        [], now⟩ →
      Recording t s now e { c with lastActiveAt := now } [comment] s' →
      Effect t s now (.comment card creator body mentionees) .recorded (.inr comment) s'

namespace Store

variable {s : Store} {t : Tracker} {now : Instant} {e : Event} {card c : Card}
  {comments : List Comment}

theorem Fresh.find?_card (h : s.Fresh) {id : Ident} (hid : s.supply.next ≤ id.value) :
    s.cards.find? id = none :=
  Table.find?_eq_none_of_below h.cards hid

theorem Fresh.find?_comment (h : s.Fresh) {id : Ident} (hid : s.supply.next ≤ id.value) :
    s.comments.find? id = none :=
  Table.find?_eq_none_of_below h.comments hid

theorem Fresh.find?_event (h : s.Fresh) {id : Ident} (hid : s.supply.next ≤ id.value) :
    s.events.find? id = none :=
  Table.find?_eq_none_of_below h.events hid

/-- There is room for both tasks of a new event, one after the other. -/
theorem Fresh.tasks_absent (h : s.Fresh) {event : Ident} (he : s.supply.next ≤ event.value)
    {n : Nat} (hn : s.supply.next ≤ n) {first : NewTask} (hkind : first.kind = .notify)
    (now : Instant) :
    s.outbox.rows.find? ⟨n⟩ = none ∧ s.outbox.has .notify event = false ∧
      (s.outbox.insert first ⟨n⟩ now).rows.find? ⟨n + 1⟩ = none ∧
      (s.outbox.insert first ⟨n⟩ now).has .dispatchWebhooks event = false := by
  have hsecond : s.outbox.rows.find? ⟨n + 1⟩ = none :=
    h.tasks.find?_eq_none (hn.trans (Nat.le_succ n))
  refine ⟨h.tasks.find?_eq_none hn, h.has_eq_false .notify he, ?_, ?_⟩
  · rw [Outbox.find?_insert, if_neg (by simp), hsecond]
  · rw [Outbox.has_insert_of_ne (by simp [hkind])]
    exact h.has_eq_false .dispatchWebhooks he

/-- Recording an event appends its two tasks, notification first. -/
theorem recorded_tasks (h : s.Fresh) (he : s.supply.next ≤ e.id.value) (t : Tracker) (now : Instant)
    (card : Card) (comments : List Comment) :
    let notify : Ident := ⟨s.supply.next + 1 + comments.length⟩
    let dispatch : Ident := ⟨s.supply.next + 1 + comments.length + 1⟩
    (s.recorded t now e card comments).outbox.rows.rows = s.outbox.rows.rows ++
        [.ofNew ((NewTask.create .notify e.id).withMaxAttempts t.notifyAttempts) notify
          (s.outbox.seq + 1) now,
         .ofNew ((NewTask.create .dispatchWebhooks e.id).withMaxAttempts t.dispatchAttempts)
          dispatch (s.outbox.seq + 2) now] ∧
      (s.recorded t now e card comments).outbox.index.rows = s.outbox.index.rows ++
        [⟨.notify, e.id, notify⟩, ⟨.dispatchWebhooks, e.id, dispatch⟩] := by
  intro notify dispatch
  let first := (NewTask.create .notify e.id).withMaxAttempts t.notifyAttempts
  let second := (NewTask.create .dispatchWebhooks e.id).withMaxAttempts t.dispatchAttempts
  have hle : s.supply.next ≤ s.supply.next + 1 + comments.length := by omega
  have hkind : first.kind = .notify := rfl
  obtain ⟨hnotify, hfirst, hdispatch, hsecond⟩ := h.tasks_absent he hle hkind now
  have hfirst' : s.outbox.has first.kind first.subject = false := hfirst
  have hsecond' : (s.outbox.insert first notify now).has second.kind second.subject = false :=
    hsecond
  constructor
  · change ((s.outbox.insert first notify now).insert second dispatch now).rows.rows = _
    rw [Outbox.insert_rows hdispatch, Outbox.insert_rows hnotify, List.append_assoc]
    rfl
  · change ((s.outbox.insert first notify now).insert second dispatch now).index.rows = _
    rw [Outbox.index_rows_insert hsecond', Outbox.index_rows_insert hfirst', List.append_assoc]
    rfl

/-- Recording an event under a new identifier adds exactly the rows that belong to it. -/
theorem recording_recorded (h : s.Fresh) (he : s.supply.next ≤ e.id.value)
    (hcard : s.cards.find? card.id = some c)
    (hcomments : ∀ x ∈ comments, s.supply.next ≤ x.id.value)
    (hd : (comments.map Comment.id).Nodup) :
    Recording t s now e card comments (s.recorded t now e card comments) := by
  refine ⟨?_, ?_, ?_, ⟨_, _, recorded_tasks h he t now card comments⟩, rfl⟩
  · exact Table.rows_put_of_absent (h.find?_event he)
  · exact Table.rows_put_of_present hcard
  · exact Table.rows_putAll_of_absent (fun x hx => h.find?_comment (hcomments x hx)) hd

end Store

namespace Operation

variable {t : Tracker} {s s' : Store} {now : Instant} {op : Operation}

theorem error_of_map {α β : Type} {r : Except Error α} {f : α → β} {e : Error}
    (h : r.map f = .error e) : r = .error e := by
  cases r with
  | error e' => exact congrArg Except.error (Except.error.inj h)
  | ok a => cases h

theorem ok_of_map {α β : Type} {r : Except Error α} {f : α → β} {b : β} (h : r.map f = .ok b) :
    ∃ a, r = .ok a ∧ f a = b := by
  cases r with
  | error e => cases h
  | ok a => exact ⟨a, rfl, Except.ok.inj h⟩

/-- An operation that fails leaves the store as it is. -/
theorem perform_error {e : Error} (h : (op.perform t s now).1 = .error e) :
    (op.perform t s now).2 = s := by
  cases op with
  | createDraft board creator title =>
      simp only [perform] at h ⊢
      exact Cards.createDraft_error (error_of_map h)
  | change card creator o =>
      simp only [perform] at h ⊢
      exact Cards.perform_error (error_of_map h)
  | comment card creator body mentionees =>
      simp only [perform] at h ⊢
      exact Comments.create_error (error_of_map h)

/-- A change of a card that succeeds has one of the effects of changes. -/
theorem effect_of_change (hfresh : s.Fresh) {card creator : Ident} {o : CardOperation} {r : Card}
    (h : Cards.perform t s now card creator o = (.ok r, s')) :
    ∃ kind, Effect t s now (.change card creator o) kind (.inl r) s' := by
  obtain ⟨c, hf, hcases⟩ := Cards.perform_ok hfresh h
  have hcard : c.id = card := (Table.find?_eq_some_iff.1 hf).2
  rcases hcases with ⟨hc, rfl, rfl⟩ | ⟨p, hc, hd, rfl⟩ |
    ⟨c', p, e, hc, hd, he, -, htells, rfl, rfl⟩
  · obtain ⟨title, rfl, ht⟩ := CardOperation.change_eq_none hc
    exact ⟨_, .unchanged hf ht⟩
  · obtain ⟨hid, hne⟩ := CardOperation.change_eq_some hc
    have hf' : s.cards.find? r.id = some c := by rw [hid, hcard, hf]
    exact ⟨_, .draftChanged hf hc hd hid hne (Table.rows_put_of_present hf') rfl⟩
  · obtain ⟨hid, -⟩ := CardOperation.change_eq_some hc
    obtain rfl : c'.id = card := hid.trans hcard
    have hnew : s.supply.next ≤ e.id.value := he ▸ le_rfl
    refine ⟨_, .changeRecorded hf hc hd hid he htells
      (Store.recording_recorded hfresh hnew hf (fun x hx => ?_) (Commenter.nodup_told ..))⟩
    rw [Commenter.id_of_mem_told hx]
    exact Nat.le_succ _

/-- A comment that is created is added alone by the system user, and recorded for a member. -/
theorem effect_of_comment (hfresh : s.Fresh) {card creator : Ident} {body : String}
    {mentionees : List Ident} {r : Comment}
    (h : Comments.create t s now card creator body mentionees = (.ok r, s')) :
    ∃ kind, Effect t s now (.comment card creator body mentionees) kind (.inr r) s' := by
  obtain ⟨c, u, hf, hu, hr, hcases⟩ := Comments.create_ok hfresh h
  obtain rfl : c.id = card := (Table.find?_eq_some_iff.1 hf).2
  rcases hcases with ⟨hsys, rfl⟩ | ⟨hsys, e, he, -, rfl⟩
  · rw [hsys] at hr
    have hnone : s.comments.find? r.id = none := hfresh.find?_comment (hr ▸ le_rfl)
    exact ⟨_, .remarked hf hu hsys hr (Table.rows_put_of_absent hnone) rfl⟩
  · rw [hsys] at hr
    have hnew : s.supply.next ≤ e.id.value := he ▸ Nat.le_succ _
    have hevent : e = ⟨⟨s.supply.next + 1⟩, c.account, c.board, creator, .comment r.id,
        "comment_created", [], now⟩ := by
      rw [he, hr]
      rfl
    refine ⟨_, .commentRecorded hf hu hsys hr hevent ?_⟩
    refine Store.recording_recorded hfresh hnew hf ?_ (List.nodup_singleton _)
    intro x hx
    cases List.mem_singleton.1 hx
    rw [hr]

/-- The way in which an operation succeeds if it does, as the store decides it before. -/
def kind? (s : Store) : Operation → Option EffectKind
  | .createDraft _ _ _ => some .drafted
  | .change card _ o => (s.cards.find? card).bind fun c =>
    match o.change s c with
    | .ok none => some .unchanged
    | .ok (some (c', _)) => some (if c'.isDraft then .draftChanged else .recorded)
    | .error _ => none
  | .comment _ creator _ _ =>
    (s.users.find? creator).map fun u => if u.isSystem then .remarked else .recorded

theorem Effect.kind?_eq {kind : EffectKind} {r : Card ⊕ Comment} (h : Effect t s now op kind r s') :
    op.kind? s = some kind := by
  cases h with
  | drafted => rfl
  | unchanged hf ht => simp [kind?, hf, CardOperation.change, ht]
  | draftChanged hf hc hd => simp [kind?, hf, hc, Card.isDraft, hd]
  | changeRecorded hf hc hd => simp [kind?, hf, hc, Card.isDraft, hd]
  | remarked _ hu hsys => simp [kind?, hu, hsys]
  | commentRecorded _ hu hsys => simp [kind?, hu, hsys]

/-- An operation is all or nothing: if it fails, the store is as before, and if it succeeds, exactly
one of the effects has come about. -/
theorem effect_or_unchanged (hfresh : s.Fresh) (op : Operation) :
    (∀ e, (op.perform t s now).1 = .error e → (op.perform t s now).2 = s) ∧
      ∀ r, (op.perform t s now).1 = .ok r →
        ∃! kind, op.Effect t s now kind r (op.perform t s now).2 := by
  refine ⟨fun e h => perform_error h, ?_⟩
  intro r h
  have hone : ∃ kind, op.Effect t s now kind r (op.perform t s now).2 := by
    cases op with
    | createDraft board creator title =>
        simp only [perform] at h ⊢
        obtain ⟨c, hc, rfl⟩ := ok_of_map h
        have hp : Cards.createDraft s now board creator title =
          (.ok c, (Cards.createDraft s now board creator title).2) := Prod.ext hc rfl
        obtain ⟨b, hb, hr, hs⟩ := Cards.createDraft_ok hp
        have hnone : s.cards.find? c.id = none := hfresh.find?_card (hr ▸ le_rfl)
        rw [hs]
        exact ⟨_, .drafted hb hr (hr ▸ rfl) (Table.rows_put_of_absent hnone) rfl⟩
    | change card creator o =>
        simp only [perform] at h ⊢
        obtain ⟨c, hc, rfl⟩ := ok_of_map h
        exact effect_of_change hfresh (Prod.ext hc rfl)
    | comment card creator body mentionees =>
        simp only [perform] at h ⊢
        obtain ⟨c, hc, rfl⟩ := ok_of_map h
        exact effect_of_comment hfresh (Prod.ext hc rfl)
  obtain ⟨kind, hkind⟩ := hone
  exact ⟨kind, hkind, fun _ h' => Option.some.inj (h'.kind?_eq.symm.trans hkind.kind?_eq)⟩

/-- Moving a draft to another board changes the draft; closing a card that is published is recorded,
and told by the system user of the account. -/
theorem effect_of_moving_and_closing :
    let now : Instant := ⟨5, 0⟩
    let draft := Card.draft ⟨3⟩ ⟨9⟩ ⟨2⟩ ⟨1⟩ "plan" ⟨0, 0⟩
    let published : Card := { Card.draft ⟨6⟩ ⟨9⟩ ⟨2⟩ ⟨1⟩ "ship" ⟨0, 0⟩ with status := .published }
    let closed : Card := { published with status := .closed, lastActiveAt := now }
    let s : Store := { Store.empty 10 with
      users := .ofList [.newMember ⟨1⟩ ⟨9⟩ "Ada", .newSystem ⟨7⟩ ⟨9⟩]
      boards := .ofList [⟨⟨2⟩, ⟨9⟩, "ops", []⟩, ⟨⟨4⟩, ⟨9⟩, "web", []⟩]
      cards := .ofList [draft, published] }
    let moving := change ⟨3⟩ ⟨1⟩ (.move ⟨4⟩)
    let closing := change ⟨6⟩ ⟨1⟩ .close
    s.Fresh ∧
      (moving.perform .standard s now).1 = .ok (.inl { draft with board := ⟨4⟩ }) ∧
      moving.Effect .standard s now .draftChanged (.inl { draft with board := ⟨4⟩ })
        (moving.perform .standard s now).2 ∧
      (closing.perform .standard s now).1 = .ok (.inl closed) ∧
      closing.Effect .standard s now .recorded (.inl closed) (closing.perform .standard s now).2 ∧
      (closing.perform .standard s now).2.events.rows =
        [⟨⟨10⟩, ⟨9⟩, ⟨2⟩, ⟨1⟩, .card ⟨6⟩, "card_closed", [], now⟩] ∧
      (closing.perform .standard s now).2.comments.rows =
        [⟨⟨11⟩, ⟨9⟩, ⟨2⟩, ⟨6⟩, ⟨7⟩, "Ada moved this to Done.", true, [], now⟩] := by
  intro now draft published closed s moving closing
  have hfresh : s.Fresh := by
    refine ⟨by decide, ?_, ?_, ?_, ?_⟩
    all_goals
      intro x hx
      cases hx
  have hmoved : (moving.perform .standard s now).1 = .ok (.inl { draft with board := ⟨4⟩ }) := by
    decide +kernel
  have hclosed : (closing.perform .standard s now).1 = .ok (.inl closed) := by decide +kernel
  obtain ⟨_, hmoving, -⟩ := (effect_or_unchanged hfresh moving).2 _ hmoved
  obtain ⟨_, hclosing, -⟩ := (effect_or_unchanged hfresh closing).2 _ hclosed
  have hkinds : moving.kind? s = some .draftChanged ∧ closing.kind? s = some .recorded := by
    decide +kernel
  cases Option.some.inj (hmoving.kind?_eq.symm.trans hkinds.1)
  cases Option.some.inj (hclosing.kind?_eq.symm.trans hkinds.2)
  exact ⟨hfresh, hmoved, hmoving, hclosed, hclosing, by decide +kernel, by decide +kernel⟩

end Operation

end BoardActivity
