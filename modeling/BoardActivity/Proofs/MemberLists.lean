import BoardActivity.Proofs.Membership

/-!
# Checking lists of members

The users of a list are looked up at once, and the answer may name them in any order, repeat them,
and leave out whoever does not exist (`Store.Finds`). The check then goes through the list itself,
so what it says does not depend on the answer: it passes if every user of the list is a member of
the account, and otherwise names the first who is not (`Store.checkMembers_eq`).

So a list passes if it does in any other order. Assigning sorts the users once more and does the
same with either list; a comment keeps the order of the users it mentions, and nothing else of what
it does depends on them (`Comments.create_mentionees`).
-/

namespace BoardActivity

namespace Store

/-- The answer to a lookup of a list of users: of these it has exactly those that exist, in any
order and any number of times. -/
def Finds (s : Store) (ids : List Ident) (found : List User) : Prop :=
  ∀ u : User, u.id ∈ ids → (u ∈ found ↔ s.users.find? u.id = some u)

def memberFault? (s : Store) (account : Ident) (role : String) (id : Ident) : Option Violation :=
  match s.users.find? id with
  | none => some (.missingMember role id)
  | some u => if u.account = account then none else some (.foreignMember role id)

variable {s : Store} {account : Ident} {role : String} {ids ids' : List Ident} {found : List User}

theorem finds_findUsers (s : Store) (ids : List Ident) : s.Finds ids (s.findUsers ids) :=
  fun _ hu => mem_findUsers.trans (and_iff_left hu)

/-- Looking a user of the list up in the answer is looking the user up in the store. -/
theorem Finds.find?_eq (h : s.Finds ids found) {id : Ident} (hid : id ∈ ids) :
    (found.find? fun u => u.id == id) = s.users.find? id := by
  cases hf : found.find? fun u => u.id == id with
  | some u =>
      have hu : u.id = id := by simpa using List.find?_some hf
      have hmem := (h u (hu ▸ hid)).1 (List.mem_of_find?_eq_some hf)
      exact (hu ▸ hmem).symm
  | none =>
      cases hs : s.users.find? id with
      | none => rfl
      | some u =>
          have hu : u.id = id := (Table.find?_eq_some_iff.1 hs).2
          have hmem : u ∈ found := (h u (hu ▸ hid)).2 (hu ▸ hs)
          have hne := List.find?_eq_none.1 hf u hmem
          exact (hne (by simpa using hu)).elim

theorem memberFault?_eq_none_iff {id : Ident} :
    s.memberFault? account role id = none ↔ s.HasMember account id := by
  unfold memberFault? HasMember
  cases s.users.find? id with
  | none => simp
  | some u => simp

/-- The check goes through the list and stops at the first fault. -/
theorem checkMembers_eq (h : s.Finds ids found) :
    checkMembers found account role ids =
      match ids.findSome? (s.memberFault? account role) with
      | none => .ok ()
      | some v => .error (.validation v) := by
  -- The answer belongs to the whole list, the induction is on what is left of it.
  suffices hall : ∀ rest, (∀ id ∈ rest, id ∈ ids) → checkMembers found account role rest =
      match rest.findSome? (s.memberFault? account role) with
      | none => .ok ()
      | some v => .error (.validation v) from hall ids fun _ hid => hid
  intro rest
  induction rest with
  | nil => exact fun _ => rfl
  | cons id rest ih =>
      intro hsub
      have hrest := ih fun x hx => hsub x (List.mem_cons_of_mem id hx)
      rw [checkMembers, h.find?_eq (hsub id List.mem_cons_self), List.findSome?_cons]
      unfold memberFault? at hrest ⊢
      cases s.users.find? id with
      | none => rfl
      | some u =>
          by_cases ha : u.account = account
          · simpa only [ha, ne_eq, not_true_eq_false, if_false, if_true] using hrest
          · simp only [ha, ne_eq, not_false_eq_true, if_true, if_false]

theorem requireMembers_ok_iff :
    s.requireMembers account role ids = .ok () ↔ ∀ id ∈ ids, s.HasMember account id := by
  rw [requireMembers, checkMembers_eq (finds_findUsers s ids)]
  constructor
  · intro h id hid
    cases hf : ids.findSome? (s.memberFault? account role) with
    | none => exact memberFault?_eq_none_iff.1 (List.findSome?_eq_none_iff.1 hf id hid)
    | some v =>
        rw [hf] at h
        cases h
  · intro h
    rw [List.findSome?_eq_none_iff.2 fun id hid => memberFault?_eq_none_iff.2 (h id hid)]

/-- The first user of the list who is no member, and what is said about that user. -/
theorem requireMembers_error_iff {e : Error} :
    s.requireMembers account role ids = .error e ↔
      ∃ before id after v, ids = before ++ id :: after ∧ (∀ x ∈ before, s.HasMember account x) ∧
        s.memberFault? account role id = some v ∧ e = .validation v := by
  rw [requireMembers, checkMembers_eq (finds_findUsers s ids)]
  constructor
  · intro h
    cases hf : ids.findSome? (s.memberFault? account role) with
    | none =>
        rw [hf] at h
        cases h
    | some v =>
        rw [hf] at h
        obtain ⟨before, id, after, hids, hid, hbefore⟩ := List.findSome?_eq_some_iff.1 hf
        exact ⟨before, id, after, v, hids, fun x hx => memberFault?_eq_none_iff.1 (hbefore x hx),
          hid, (Except.error.inj h).symm⟩
  · rintro ⟨before, id, after, v, hids, hbefore, hid, rfl⟩
    have hf : ids.findSome? (s.memberFault? account role) = some v :=
      List.findSome?_eq_some_iff.2
        ⟨before, id, after, hids, hid, fun x hx => memberFault?_eq_none_iff.2 (hbefore x hx)⟩
    rw [hf]

/-- The text of the error tells the two faults apart. -/
theorem message_of_memberFault? {id : Ident} {v : Violation}
    (h : s.memberFault? account role id = some v) :
    (s.users.find? id = none ∧ v = .missingMember role id ∧ (Error.validation v).message =
        "Validation failed: " ++ (role ++ " " ++ id.text ++ " does not exist")) ∨
      ∃ u, s.users.find? id = some u ∧ u.account ≠ account ∧ v = .foreignMember role id ∧
        (Error.validation v).message =
          "Validation failed: " ++ (role ++ " " ++ id.text ++ " belongs to another account") := by
  unfold memberFault? at h
  cases hf : s.users.find? id with
  | none =>
      rw [hf] at h
      cases h
      exact .inl ⟨rfl, rfl, rfl⟩
  | some u =>
      simp only [hf] at h
      split_ifs at h with ha
      cases h
      exact .inr ⟨u, rfl, ha, rfl, rfl⟩

theorem requireMembers_ok_of_perm (h : ids.Perm ids')
    (hok : s.requireMembers account role ids = .ok ()) :
    s.requireMembers account role ids' = .ok () :=
  requireMembers_ok_iff.2 fun id hid => requireMembers_ok_iff.1 hok id (h.mem_iff.2 hid)

end Store

theorem Store.perform_of_ok {α : Type} {s : Store} {now : Instant} {a : α} {w : Work}
    {work : Except Error (α × Work)} (h : work = .ok (a, w)) :
    s.perform now work = (.ok a, ({ s with supply := w.supply } : Store).commit w.tx now) := by
  rw [h]
  rfl

theorem Transaction.loadCard_start {s : Store} {card : Ident} {c : Card}
    (h : s.cards.find? card = some c) : (Work.start s).tx.loadCard s card = .ok c := by
  simp [Work.start, loadCard, findCard_start, h]

namespace Cards

variable {t : Tracker} {s s' : Store} {now : Instant} {card creator : Ident} {c r : Card}
  {members users users' : List Ident} {verb : String} {change : Change}

theorem transition_of_members (hf : s.cards.find? card = some c)
    (hm : s.requireMembers c.account "assignee" members = .ok ()) :
    transition t s now card creator verb members change = s.perform now (do
      match ← change c with
      | none => return (c, Work.start s)
      | some (c, particulars) => saveAndTrack t s now c verb particulars creator) := by
  unfold transition
  change s.perform now ((Work.start s).tx.loadCard s card >>= fun c => _) = _
  rw [Transaction.loadCard_start hf]
  change s.perform now (s.requireMembers c.account "assignee" members >>= fun _ => _) = _
  rw [hm]
  rfl

theorem transition_of_refused {e : Error} (hf : s.cards.find? card = some c)
    (hm : s.requireMembers c.account "assignee" members = .error e) :
    transition t s now card creator verb members change = (.error e, s) := by
  unfold transition
  simp only [Transaction.loadCard_start hf, hm, bind, Except.bind, Store.perform]

/-- The users who are added are sorted, so they do not depend on the order of the list. -/
theorem toAssign_of_perm (h : users.Perm users') (c : Card) :
    c.toAssign users = c.toAssign users' := by
  refine Ident.sortDistinct_eq (Ident.pairwise_sortDistinct _) fun u => ?_
  rw [Card.mem_toAssign, List.mem_filter, h.mem_iff, decide_eq_true_iff]

/-- A list that is accepted is accepted in any order, and does the same. -/
theorem assign_of_perm (h : users.Perm users')
    (hok : assign t s now card creator users = (.ok r, s')) :
    assign t s now card creator users' = (.ok r, s') := by
  obtain ⟨c, hf, hm, -⟩ := transition_ok hok
  have hm' := Store.requireMembers_ok_of_perm h hm
  unfold assign at hok ⊢
  rw [transition_of_members hf hm] at hok
  rw [transition_of_members hf hm']
  simpa only [toAssign_of_perm h c] using hok

end Cards

/-- The comments that are staged have no part in how a comment reacts. -/
theorem Eventable.react_ofComment (c : Comment) (commenter : Commenter) (s : Store) (e : Event)
    (tx : Transaction) (comments : Table Comment) (supply : Supply) :
    ((ofComment c).react commenter s e ⟨{ tx with comments }, supply⟩).1 =
      ((ofComment c).react commenter s e ⟨tx, supply⟩).1 := by
  simp only [ofComment, Transaction.loadCard, Transaction.findCard, Transaction.saveCard]
  generalize (if c.card ∈ tx.deleted then none else (tx.cards.find? c.card).or
    (s.cards.find? c.card)) = found
  cases found with
  | none => rfl
  | some card => by_cases hd : card.id ∈ tx.deleted <;> simp [hd]

/-- What is answered to a recording follows from what the reaction has answered. -/
theorem Tracker.answer_of_reaction {x y : Staged Unit} (h : x.1 = y.1) {e : Event}
    {f g : Work → Work} :
    (match x with
      | (.error err, w) => ((.error (reactionError err) : Except Error (Option Event)), w)
      | (.ok (), w) => (.ok (some e), f w)).1 =
    (match y with
      | (.error err, w) => ((.error (reactionError err) : Except Error (Option Event)), w)
      | (.ok (), w) => (.ok (some e), g w)).1 := by
  obtain ⟨x, _⟩ := x
  obtain ⟨y, _⟩ := y
  cases h
  cases x with
  | error err => rfl
  | ok _ => rfl

/-- Nor have they in whether its event is recorded. -/
theorem Tracker.track_ofComment (t : Tracker) (s : Store) (now : Instant) (c : Comment)
    (verb : String) (p : Particulars) (creator : Ident) (tx : Transaction)
    (comments : Table Comment) (supply : Supply) :
    (t.track s now (.ofComment c) verb p creator none ⟨{ tx with comments }, supply⟩).1 =
      (t.track s now (.ofComment c) verb p creator none ⟨tx, supply⟩).1 := by
  cases hx : (Eventable.ofComment c).tracked with
  | false => simp [track, record, hx]
  | true =>
      simp only [track, record, hx, if_true, Option.getD_none, Transaction.insertEvent]
      cases checkEvent s (.ofComment c) _ creator _ with
      | error e => rfl
      | ok _ =>
          split_ifs
          · rfl
          · exact answer_of_reaction (Eventable.react_ofComment c t.commenter s _
              { tx with events := tx.events ++ [_] } comments supply.mint.2)

theorem Tracker.track_with_comments {t : Tracker} {s : Store} {now : Instant} {c : Comment}
    {verb : String} {p : Particulars} {creator : Ident} {tx : Transaction}
    {comments : Table Comment} {supply : Supply} {x : Option Event} {w : Work}
    (h : t.track s now (.ofComment c) verb p creator none ⟨{ tx with comments }, supply⟩ =
      (.ok x, w)) (comments' : Table Comment) :
    ∃ w', t.track s now (.ofComment c) verb p creator none
      ⟨{ tx with comments := comments' }, supply⟩ = (.ok x, w') := by
  refine ⟨_, Prod.ext ?_ rfl⟩
  rw [track_ofComment, ← track_ofComment t s now c verb p creator tx comments, h]

theorem Transaction.insertComment_of_card {tx tx' : Transaction} {s : Store} {c : Comment}
    (h : tx.insertComment s c = .ok tx') (c' : Comment) (hcard : c'.card = c.card) :
    tx.insertComment s c' = .ok { tx with comments := tx.comments.put c' } := by
  unfold insertComment at h ⊢
  split_ifs at h with hf
  rw [hcard, if_pos hf]

namespace Comments

variable {t : Tracker} {s s' : Store} {now : Instant} {card creator : Ident} {body : String}
  {mentionees mentionees' : List Ident} {r : Comment}

/-- A comment that is accepted is accepted with other users mentioned, if these are members too. -/
theorem create_mentionees (hok : create t s now card creator body mentionees = (.ok r, s'))
    (hm : s.requireMembers r.account "mentionee" mentionees' = .ok ()) :
    ∃ s'', create t s now card creator body mentionees' =
      (.ok { r with mentionees := mentionees' }, s'') := by
  obtain ⟨w, hw, -⟩ := Store.perform_ok hok
  simp only [bind_ok_iff, guard_ok_iff] at hw
  obtain ⟨body', hbody, c, hl, u, hu, ha, _, -, tx, htx, ⟨x, w₁⟩, ht, hw⟩ := hw
  obtain ⟨rfl, -⟩ := Prod.mk.inj (Except.ok.inj hw)
  have hinsert := Transaction.insertComment_of_card htx ⟨s.supply.mint.1, c.account, c.board,
    c.id, u.id, body', u.isSystem, mentionees', now⟩ rfl
  rw [Transaction.insertComment_ok htx, orDrop_ok_iff] at ht
  obtain ⟨w₂, htrack⟩ := Tracker.track_with_comments ht (Table.empty.put
    ⟨s.supply.mint.1, c.account, c.board, c.id, u.id, body', u.isSystem, mentionees', now⟩)
  refine ⟨({ s with supply := w₂.supply } : Store).commit w₂.tx now, Store.perform_of_ok ?_⟩
  simp only [bind_ok_iff, guard_ok_iff]
  exact ⟨body', hbody, c, hl, u, hu, ha, (), hm, _, hinsert, (x, w₂), orDrop_ok_iff.2 htrack, rfl⟩

theorem create_of_refused {c : Card} {e : Error} (hf : s.cards.find? card = some c)
    (hbody : Text.trim body ≠ "") (hmember : s.HasMember c.account creator)
    (hm : s.requireMembers c.account "mentionee" mentionees = .error e) :
    create t s now card creator body mentionees = (.error e, s) := by
  obtain ⟨u, hu, ha⟩ := hmember
  have hchecked : Comment.checkedBody body = .ok (Text.trim body) := by
    simp [Comment.checkedBody, hbody]
  have hloaded : s.loadUser creator = .ok u := by simp [Store.loadUser, hu]
  unfold create
  simp [hchecked, Transaction.loadCard_start hf, hloaded, ha, hm, bind, Except.bind, Store.perform]

theorem create_of_perm (h : mentionees.Perm mentionees')
    (hok : create t s now card creator body mentionees = (.ok r, s')) :
    ∃ s'', create t s now card creator body mentionees' =
      (.ok { r with mentionees := mentionees' }, s'') := by
  refine create_mentionees hok (Store.requireMembers_ok_of_perm h ?_)
  obtain ⟨w, hw, -⟩ := Store.perform_ok hok
  simp only [bind_ok_iff, guard_ok_iff] at hw
  obtain ⟨_, -, c, -, u, -, -, _, hm, tx, -, _, -, hw⟩ := hw
  rw [← (Prod.mk.inj (Except.ok.inj hw)).1]
  exact hm

end Comments

namespace Store

structure ChecksList (s : Store) (account : Ident) (role : String) (ids : List Ident) : Prop where
  passes : s.requireMembers account role ids = .ok () ↔ ∀ id ∈ ids, s.HasMember account id
  /-- The error is about the first user who is no member, and says why. -/
  refuses : ∀ e, s.requireMembers account role ids = .error e ↔
    ∃ before id after, ids = before ++ id :: after ∧ (∀ x ∈ before, s.HasMember account x) ∧
      ((s.users.find? id = none ∧ e = .validation (.missingMember role id) ∧
          e.message = "Validation failed: " ++ (role ++ " " ++ id.text ++ " does not exist")) ∨
        ∃ u, s.users.find? id = some u ∧ u.account ≠ account ∧
          e = .validation (.foreignMember role id) ∧ e.message =
            "Validation failed: " ++ (role ++ " " ++ id.text ++ " belongs to another account"))
  /-- It does not matter how the lookup of the users answers. -/
  answered : ∀ found, s.Finds ids found →
    checkMembers found account role ids = s.requireMembers account role ids

theorem checksList (s : Store) (account : Ident) (role : String) (ids : List Ident) :
    s.ChecksList account role ids := by
  refine ⟨requireMembers_ok_iff, fun e => requireMembers_error_iff.trans ?_, fun found h => ?_⟩
  · constructor
    · rintro ⟨before, id, after, v, hids, hbefore, hv, rfl⟩
      refine ⟨before, id, after, hids, hbefore, ?_⟩
      rcases message_of_memberFault? hv with ⟨hf, rfl, hm⟩ | ⟨u, hf, ha, rfl, hm⟩
      · exact .inl ⟨hf, rfl, hm⟩
      · exact .inr ⟨u, hf, ha, rfl, hm⟩
    · rintro ⟨before, id, after, hids, hbefore, ⟨hf, rfl, -⟩ | ⟨u, hf, ha, rfl, -⟩⟩
      · exact ⟨before, id, after, _, hids, hbefore, by simp [memberFault?, hf], rfl⟩
      · exact ⟨before, id, after, _, hids, hbefore, by simp [memberFault?, hf, ha], rfl⟩
  · exact (checkMembers_eq h).trans (checkMembers_eq (finds_findUsers s ids)).symm

/-- A list of users passes exactly if all are members of the account, and otherwise the first who is
not is named, however the lookup of the users answers. A call whose list does not pass is refused
with that error and changes nothing; a list that is accepted is accepted in any order. -/
theorem lists_of_members_checked (s : Store) (account : Ident) (role : String)
    (ids : List Ident) :
    s.ChecksList account role ids ∧
      ∀ (t : Tracker) (now : Instant) (card creator : Ident) (body : String),
        (∀ c e, s.cards.find? card = some c →
          s.requireMembers c.account "assignee" ids = .error e →
          Cards.assign t s now card creator ids = (.error e, s)) ∧
        (∀ c e, s.cards.find? card = some c → Text.trim body ≠ "" →
          s.HasMember c.account creator → s.requireMembers c.account "mentionee" ids = .error e →
          Comments.create t s now card creator body ids = (.error e, s)) ∧
        ∀ ids', ids.Perm ids' →
          (∀ r s', Cards.assign t s now card creator ids = (.ok r, s') ↔
            Cards.assign t s now card creator ids' = (.ok r, s')) ∧
          ((∃ r s', Comments.create t s now card creator body ids = (.ok r, s')) ↔
            ∃ r s', Comments.create t s now card creator body ids' = (.ok r, s')) := by
  refine ⟨s.checksList account role ids, fun t now card creator body =>
    ⟨fun c e hf hm => Cards.transition_of_refused hf hm,
      fun c e hf hbody hmember hm => Comments.create_of_refused hf hbody hmember hm,
      fun ids' h => ⟨fun r s' => ⟨Cards.assign_of_perm h, Cards.assign_of_perm h.symm⟩, ?_⟩⟩⟩
  constructor
  · rintro ⟨r, s', hok⟩
    obtain ⟨s'', hok'⟩ := Comments.create_of_perm h hok
    exact ⟨_, s'', hok'⟩
  · rintro ⟨r, s', hok⟩
    obtain ⟨s'', hok'⟩ := Comments.create_of_perm h.symm hok
    exact ⟨_, s'', hok'⟩

/-- In a list with a stranger before a user of another account, the stranger is named, also if the
answer of the lookup is in disorder; the list is refused in both orders, and members are not. -/
theorem lists_of_members_checked_mixed :
    let now : Instant := ⟨0, 0⟩
    let ada : User := ⟨⟨1⟩, ⟨9⟩, "ada", .member⟩
    let bob : User := ⟨⟨2⟩, ⟨9⟩, "bob", .member⟩
    let eve : User := ⟨⟨5⟩, ⟨8⟩, "eve", .member⟩
    let users := (((Store.empty 10).addUser ada).addUser bob).addUser eve
    let card := { Card.draft ⟨4⟩ ⟨9⟩ ⟨3⟩ ⟨1⟩ "plan" now with assignees := [⟨1⟩] }
    let s := (users.addBoard ⟨⟨3⟩, ⟨9⟩, "ops", []⟩).addCard card
    let ids : List Ident := [⟨1⟩, ⟨7⟩, ⟨1⟩, ⟨5⟩]
    s.Finds ids [eve, ada, eve] ∧
      checkMembers [eve, ada, eve] ⟨9⟩ "assignee" ids =
        .error (.validation (.missingMember "assignee" ⟨7⟩)) ∧
      s.requireMembers ⟨9⟩ "assignee" ids = .error (.validation (.missingMember "assignee" ⟨7⟩)) ∧
      Cards.assign .standard s now ⟨4⟩ ⟨1⟩ ids =
        (.error (.validation (.missingMember "assignee" ⟨7⟩)), s) ∧
      ∃ r s', Cards.assign .standard s now ⟨4⟩ ⟨1⟩ [⟨2⟩, ⟨1⟩] = (.ok r, s') := by
  intro now ada bob eve users card s ids
  have hfound : s.findUsers ids = [ada, ada, eve] := by decide +kernel
  have hfinds : s.Finds ids [eve, ada, eve] := by
    intro u hu
    rw [← s.finds_findUsers ids u hu, hfound]
    simp only [List.mem_cons, List.not_mem_nil, or_false]
    tauto
  obtain ⟨hlist, hcalls⟩ := s.lists_of_members_checked ⟨9⟩ "assignee" ids
  have hrequire : s.requireMembers ⟨9⟩ "assignee" ids =
      .error (.validation (.missingMember "assignee" ⟨7⟩)) := by decide +kernel
  refine ⟨hfinds, (hlist.answered _ hfinds).trans hrequire, hrequire,
    (hcalls .standard now ⟨4⟩ ⟨1⟩ "").1 _ _ rfl hrequire, ?_⟩
  obtain ⟨-, hcalls⟩ := s.lists_of_members_checked ⟨9⟩ "assignee" [⟨1⟩, ⟨2⟩]
  obtain ⟨-, -, hperm⟩ := hcalls .standard now ⟨4⟩ ⟨1⟩ ""
  have hok : (Cards.assign .standard s now ⟨4⟩ ⟨1⟩ [⟨1⟩, ⟨2⟩]).1 = .ok
      { card with assignees := [⟨1⟩, ⟨2⟩], watchers := [⟨1⟩, ⟨2⟩] } := by decide +kernel
  exact ⟨_, _, ((hperm [⟨2⟩, ⟨1⟩] (.swap _ _ _)).1 _ _).1 (Prod.ext hok rfl)⟩

end Store

end BoardActivity
