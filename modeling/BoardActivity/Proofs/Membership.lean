import BoardActivity.Proofs.CardChanges

/-!
# Members of an account

Whoever changes a card or comments on it is looked up among the users, and has to belong to the
account. Operations ask at different places: a new draft and a comment at once, every other change
only when its event is recorded. So a draft, whose changes are not recorded, can be changed by
anybody, and so can a card by a title that it has already; `Cards.outsider_refused` says that
nothing else is open to outsiders.
-/

namespace BoardActivity

/-- The user is there and belongs to the account. -/
def Store.HasMember (s : Store) (account user : Ident) : Prop :=
  ∃ u, s.users.find? user = some u ∧ u.account = account

namespace Store

variable {s : Store} {account : Ident}

theorem hasMember_of_loadUser {user : Ident} {u : User} (h : s.loadUser user = .ok u)
    (ha : u.account = account) : s.HasMember account user :=
  ⟨u, (loadUser_ok h).1, ha⟩

theorem mem_findUsers {u : User} {ids : List Ident} :
    u ∈ s.findUsers ids ↔ s.users.find? u.id = some u ∧ u.id ∈ ids := by
  rw [findUsers, List.mem_filterMap]
  constructor
  · rintro ⟨id, hid, hu⟩
    obtain rfl : u.id = id := (Table.find?_eq_some_iff.1 hu).2
    exact ⟨hu, hid⟩
  · rintro ⟨hu, hid⟩
    exact ⟨u.id, hid, hu⟩

theorem checkMembers_ok {found : List User} {role : String} {ids : List Ident}
    (hfound : ∀ u ∈ found, s.users.find? u.id = some u)
    (h : checkMembers found account role ids = .ok ()) : ∀ id ∈ ids, s.HasMember account id := by
  induction ids with
  | nil => exact fun _ hm => (List.not_mem_nil hm).elim
  | cons id ids ih =>
      unfold checkMembers at h
      split at h
      next => cases h
      next u hu =>
        split_ifs at h with ha
        have hid : u.id = id := by simpa using List.find?_some hu
        intro x hx
        rcases List.mem_cons.1 hx with rfl | hx
        · exact ⟨u, hid ▸ hfound u (List.mem_of_find?_eq_some hu), not_not.1 ha⟩
        · exact ih h x hx

theorem requireMembers_ok {role : String} {ids : List Ident}
    (h : s.requireMembers account role ids = .ok ()) : ∀ id ∈ ids, s.HasMember account id :=
  checkMembers_ok (fun _ hu => (mem_findUsers.1 hu).1) h

end Store

/-- An event is recorded on a board of the account, by a member of the account. -/
theorem Tracker.checkEvent_ok {s : Store} {x : Eventable} {action : String} {creator board : Ident}
    (h : checkEvent s x action creator board = .ok ()) :
    (∃ b, s.boards.find? board = some b ∧ b.account = x.account) ∧
      s.HasMember x.account creator := by
  simp only [checkEvent, guard_ok_iff, bind_ok_iff] at h
  obtain ⟨-, b, hb, hba, u, hu, h⟩ := h
  split_ifs at h with hua
  exact ⟨⟨b, (Store.loadBoard_ok hb).1, not_not.1 hba⟩,
    Store.hasMember_of_loadUser hu (not_not.1 hua)⟩

namespace Cards

variable {t : Tracker} {s s' : Store} {now : Instant} {card creator : Ident} {c : Card}

theorem createDraft_member {board : Ident} {title : String} {b : Board}
    (h : createDraft s now board creator title = (.ok c, s')) (hb : s.boards.find? board = some b) :
    s.HasMember b.account creator := by
  obtain ⟨w, hw, -⟩ := Store.perform_ok h
  simp only [bind_ok_iff, guard_ok_iff] at hw
  obtain ⟨_, -, b', hb', u, hu, ha, -⟩ := hw
  cases hb.symm.trans (Store.loadBoard_ok hb').1
  exact Store.hasMember_of_loadUser hu (not_not.1 ha)

/-- A change that is recorded is made by a member of the card's account. -/
theorem saveAndTrack_member {verb : String} {p : Particulars} {r : Card} {w : Work}
    (hd : c.isDraft = false) (h : saveAndTrack t s now c verb p creator = .ok (r, w)) :
    s.HasMember c.account creator := by
  simp only [saveAndTrack, bind_ok_iff] at h
  obtain ⟨tx, -, ⟨x, w₁⟩, ht, -⟩ := h
  have hx : (Eventable.ofCard c).tracked = true := by simp [Eventable.ofCard, hd]
  obtain ⟨e, -, -, -, hcheck, -⟩ := Tracker.track_ok hx (orDrop_ok_iff.1 ht)
  exact (Tracker.checkEvent_ok hcheck).2

theorem perform_members {o : CardOperation} {r : Card}
    (h : perform t s now card creator o = (.ok r, s')) (hf : s.cards.find? card = some c) :
    ∀ u ∈ o.members, s.HasMember c.account u := by
  rcases perform_eq t s now card creator o with hp | ⟨e, hp⟩
  · rw [hp] at h
    obtain ⟨c', hf', hm, -⟩ := transition_ok h
    cases hf.symm.trans hf'
    exact Store.requireMembers_ok hm
  · rw [hp] at h
    cases (Prod.mk.inj h).1

end Cards

/-- A comment is written by a member of the card's account and mentions members only. -/
theorem Comments.create_members {t : Tracker} {s s' : Store} {now : Instant} {card creator : Ident}
    {body : String} {mentionees : List Ident} {r : Comment} {c : Card}
    (h : create t s now card creator body mentionees = (.ok r, s'))
    (hf : s.cards.find? card = some c) :
    s.HasMember c.account creator ∧ ∀ u ∈ mentionees, s.HasMember c.account u := by
  obtain ⟨w, hw, -⟩ := Store.perform_ok h
  simp only [bind_ok_iff, guard_ok_iff] at hw
  obtain ⟨_, -, c', hl, u, hu, ha, _, hm, -⟩ := hw
  cases hf.symm.trans ((Transaction.findCard_start s card).symm.trans (Transaction.loadCard_ok hl))
  exact ⟨Store.hasMember_of_loadUser hu (not_not.1 ha), Store.requireMembers_ok hm⟩

namespace Cards

variable {t : Tracker} {s s' : Store} {now : Instant} {card creator : Ident} {c r : Card}
  {o : CardOperation}

/-- What is left of the successful changes when the creator is no member of the account: the check
of the creator was never reached. -/
theorem perform_outsider (hf : s.cards.find? card = some c) (hout : ¬s.HasMember c.account creator)
    (h : perform t s now card creator o = (.ok r, s')) :
    (∃ title, o = .rename title ∧ c.title = Text.trim title ∧ r = c ∧ s' = s) ∨
      (c.status = .drafted ∧ o.isEdit = true ∧ r.id = card ∧ r.status = .drafted ∧
        s' = { s with cards := s.cards.put r }) := by
  rcases perform_eq t s now card creator o with hp | ⟨e, hp⟩
  · rw [hp] at h
    obtain ⟨c₁, hf₁, -, hcases⟩ := transition_ok h
    cases hf.symm.trans hf₁
    rcases hcases with ⟨hc, hr, hs⟩ | ⟨c', p, w, hc, hw, hs⟩
    · obtain ⟨title, ho, ht⟩ := CardOperation.change_eq_none hc
      exact .inl ⟨title, ho, ht, hr, hs⟩
    · have hchanges := CardOperation.changes_of_change hc
      cases hd : c'.isDraft with
      | true =>
          obtain ⟨rfl, rfl⟩ := saveAndTrack_of_draft hd hw
          -- Nothing was recorded, so nobody asked for the creator.
          have hdraft : r.status = .drafted := by simpa [Card.isDraft] using hd
          obtain ⟨hstatus, hedit⟩ := hchanges.of_drafted hdraft
          have hid : r.id = c.id := congrArg Prod.fst hchanges.origin
          exact .inr ⟨hstatus, hedit, hid.trans (Table.find?_eq_some_iff.1 hf).2, hdraft, hs⟩
      | false =>
          have hmember := saveAndTrack_member hd hw
          rw [hchanges.account] at hmember
          exact (hout hmember).elim
  · rw [hp] at h
    cases (Prod.mk.inj h).1

/-- What an outsider can do to a card: every call fails and leaves the store as it is, but for a
title that the card has already, which changes nothing, and for an edit of a draft, which changes
the draft and nothing else. -/
theorem outsider_refused (hf : s.cards.find? card = some c)
    (hout : ¬s.HasMember c.account creator) (t : Tracker) (now : Instant) :
    (∀ body mentionees, ∃ e, Comments.create t s now card creator body mentionees = (.error e, s)) ∧
      ∀ o : CardOperation,
        (∃ e, perform t s now card creator o = (.error e, s)) ∨
        (∃ title, o = .rename title ∧ c.title = Text.trim title ∧
          perform t s now card creator o = (.ok c, s)) ∨
        (c.status = .drafted ∧ o.isEdit = true ∧ ∃ c', c'.id = card ∧ c'.status = .drafted ∧
          perform t s now card creator o = (.ok c', { s with cards := s.cards.put c' })) := by
  constructor
  · intro body mentionees
    rcases Store.error_or_ok (Comments.create t s now card creator body mentionees)
      Comments.create_error with he | ⟨r, s', hr⟩
    · exact he
    · exact (hout (Comments.create_members hr hf).1).elim
  · intro o
    rcases Store.error_or_ok (perform t s now card creator o) perform_error with he | ⟨r, s', hr⟩
    · exact .inl he
    · rcases perform_outsider hf hout hr with
        ⟨title, ho, ht, rfl, rfl⟩ | ⟨hstatus, hedit, hid, hdraft, rfl⟩
      · exact .inr (.inl ⟨title, ho, ht, hr⟩)
      · exact .inr (.inr ⟨hstatus, hedit, r, hid, hdraft, hr⟩)

/-- An outsider cannot close a published card. -/
theorem outsider_refused_closing :
    let now : Instant := ⟨0, 0⟩
    let card := { Card.draft ⟨3⟩ ⟨9⟩ ⟨2⟩ ⟨1⟩ "plan" now with status := .published }
    let users := ((Store.empty 10).addUser ⟨⟨1⟩, ⟨9⟩, "ada", .member⟩).addUser
      ⟨⟨5⟩, ⟨8⟩, "eve", .member⟩
    let s := (users.addBoard ⟨⟨2⟩, ⟨9⟩, "ops", []⟩).addCard card
    s.cards.find? ⟨3⟩ = some card ∧ ¬s.HasMember card.account ⟨5⟩ ∧
      ∃ e, perform .standard s now ⟨3⟩ ⟨5⟩ .close = (.error e, s) := by
  intro now card users s
  have hf : s.cards.find? ⟨3⟩ = some card := rfl
  have hout : ¬s.HasMember card.account ⟨5⟩ := by
    rintro ⟨u, hu, ha⟩
    cases hu
    cases ha
  refine ⟨hf, hout, ?_⟩
  rcases (outsider_refused hf hout .standard now).2 .close with he | ⟨_, ho, -⟩ | ⟨hd, -⟩
  · exact he
  · cases ho
  · cases hd

/-- An outsider can give a draft another title. -/
theorem outsider_renames_draft :
    let now : Instant := ⟨0, 0⟩
    let card := Card.draft ⟨3⟩ ⟨9⟩ ⟨2⟩ ⟨1⟩ "plan" now
    let users := ((Store.empty 10).addUser ⟨⟨1⟩, ⟨9⟩, "ada", .member⟩).addUser
      ⟨⟨5⟩, ⟨8⟩, "eve", .member⟩
    let s := (users.addBoard ⟨⟨2⟩, ⟨9⟩, "ops", []⟩).addCard card
    s.cards.find? ⟨3⟩ = some card ∧ ¬s.HasMember card.account ⟨5⟩ ∧
      (perform .standard s now ⟨3⟩ ⟨5⟩ (.rename "mine")).1 = .ok { card with title := "mine" } ∧
      (perform .standard s now ⟨3⟩ ⟨5⟩ (.rename "mine")).2 ≠ s := by
  intro now card users s
  refine ⟨rfl, ?_, ?_, ?_⟩
  · rintro ⟨u, hu, ha⟩
    cases hu
    cases ha
  · decide +kernel
  · decide +kernel

end Cards

end BoardActivity
