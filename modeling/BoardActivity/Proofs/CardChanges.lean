import BoardActivity.Proofs.OperationEffects

/-!
# Changes of cards

What each operation makes of a card and what its event tells, as one relation with a case for every
operation (`CardOperation.Changes`). What later modules need to know of a change is read off the
cases here: where a card came from never changes, a card that has left the drafts never returns to
them, and assignments add and remove exactly the users whom their event names.
-/

namespace BoardActivity

namespace Card

/-- What a card keeps from its creation on. -/
def origin (c : Card) : Ident × Ident × Ident × Instant := (c.id, c.account, c.creator, c.createdAt)

theorem mem_watchers_watch {c : Card} {u v : Ident} :
    v ∈ (c.watch u).watchers ↔ v = u ∨ v ∈ c.watchers := by
  unfold watch
  split_ifs with h
  · constructor
    · exact .inr
    · rintro (rfl | hv)
      · exact h
      · exact hv
  · simp [or_comm]

theorem mem_watchers_assign {c : Card} {added : List Ident} {v : Ident} :
    v ∈ (c.assign added).watchers ↔ v ∈ added ∨ v ∈ c.watchers := by
  unfold assign
  induction added generalizing c with
  | nil => simp
  | cons u added ih =>
      rw [List.foldl_cons, ih, mem_watchers_watch, List.mem_cons]
      tauto

/-- Assigning users changes the assignees and the watchers of a card. -/
theorem assign_eq (c : Card) (added : List Ident) : c.assign added =
    { c with assignees := c.assignees ++ added, watchers := (c.assign added).watchers } := by
  unfold assign
  induction added generalizing c with
  | nil => simp
  | cons u added ih =>
      rw [List.foldl_cons, ih]
      unfold watch
      split_ifs <;> simp

theorem assign_origin (c : Card) (added : List Ident) : (c.assign added).origin = c.origin := by
  rw [assign_eq]
  rfl

theorem mem_toAssign {c : Card} {users : List Ident} {u : Ident} :
    u ∈ c.toAssign users ↔ u ∈ users ∧ u ∉ c.assignees := by
  simp [toAssign, Ident.mem_sortDistinct]

theorem mem_toUnassign {c : Card} {users : List Ident} {u : Ident} :
    u ∈ c.toUnassign users ↔ u ∈ users ∧ u ∈ c.assignees := by
  simp [toUnassign, Ident.mem_sortDistinct]

end Card

namespace Particulars

/-- The users whom an assignment tells of are read back from its event. -/
theorem ids_ofAssignees {users : List Ident} (h : ∀ u ∈ users, u.value < pow2 128) :
    (ofAssignees users).ids "assignee_ids" = users := by
  have hread : ∀ u ∈ users, (Json.string u.text).string?.bind Ident.read? = some u :=
    fun u hu => by rw [Json.string?, Option.bind_some, Ident.read?_text (h u hu)]
  simp only [ids, ofAssignees, List.lookup_cons_self, List.filterMap_map,
    Function.comp_def]
  rw [List.filterMap_congr hread, List.filterMap_some]

theorem mem_ids_ofAssignees {users : List Ident} {u : Ident}
    (h : u ∈ (ofAssignees users).ids "assignee_ids") : u ∈ users := by
  simp only [ids, ofAssignees, List.lookup_cons_self] at h
  obtain ⟨item, hitem, hr⟩ := List.mem_filterMap.1 h
  obtain ⟨v, hv, rfl⟩ := List.mem_map.1 hitem
  rw [Json.string?, Option.bind_some] at hr
  exact Ident.eq_of_read?_text hr ▸ hv

end Particulars

namespace CardOperation

/-- What an operation has made of a card that it changed, and what its event tells. -/
inductive Changes (s : Store) (c : Card) : CardOperation → Card → Particulars → Prop
  | publish : c.status = .drafted → Changes s c publish { c with status := .published } []
  | close : c.status = .published ∨ c.status = .postponed →
      Changes s c close { c with status := .closed } []
  | reopen : c.status = .closed ∨ c.status = .postponed →
      Changes s c reopen { c with status := .published } []
  | postpone : c.status = .published ∨ c.status = .closed →
      Changes s c postpone { c with status := .postponed } []
  | assign {users : List Ident} : c.toAssign users ≠ [] →
      Changes s c (assign users) (c.assign (c.toAssign users)) (.ofAssignees (c.toAssign users))
  | unassign {users : List Ident} : c.toUnassign users ≠ [] →
      Changes s c (unassign users) (c.unassign (c.toUnassign users))
        (.ofAssignees (c.toUnassign users))
  | rename {title : String} : c.title ≠ Text.trim title →
      Changes s c (rename title) { c with title := Text.trim title }
        (.ofTitles c.title (Text.trim title))
  | move {board : Ident} {old new : Board} : s.boards.find? c.board = some old →
      s.boards.find? board = some new → c.board ≠ board → new.account = c.account →
      Changes s c (move board) { c with board } (.ofBoards old.name new.name)

variable {s : Store} {o : CardOperation} {c c' : Card} {p : Particulars}

/-- An operation that changes a card has made one of the changes. -/
theorem changes_of_change (h : o.change s c = .ok (some (c', p))) : o.Changes s c c' p := by
  cases o with
  | publish =>
      obtain ⟨_, hc, hx⟩ := plain_ok h
      cases hx
      obtain ⟨hd, rfl⟩ := Card.publish_ok hc
      exact .publish hd
  | close =>
      obtain ⟨_, hc, hx⟩ := plain_ok h
      cases hx
      unfold Card.close at hc
      split at hc <;> cases hc
      next hs => exact .close (.inl hs)
      next hs => exact .close (.inr hs)
  | reopen =>
      obtain ⟨_, hc, hx⟩ := plain_ok h
      cases hx
      unfold Card.reopen at hc
      split at hc <;> cases hc
      next hs => exact .reopen (.inl hs)
      next hs => exact .reopen (.inr hs)
  | postpone =>
      obtain ⟨_, hc, hx⟩ := plain_ok h
      cases hx
      unfold Card.postpone at hc
      split at hc <;> cases hc
      next hs => exact .postpone (.inl hs)
      next hs => exact .postpone (.inr hs)
  | assign users =>
      simp only [change] at h
      split at h <;> cases h
      next hadded => exact .assign hadded
  | unassign users =>
      simp only [change] at h
      split at h <;> cases h
      next hremoved => exact .unassign hremoved
  | rename title =>
      simp only [change] at h
      split_ifs at h with ht <;> cases h
      exact .rename ht
  | move board =>
      obtain ⟨old, new, ho, hn, hb, ha, hx⟩ := change_move_ok h
      obtain ⟨hnew, hid⟩ := Store.loadBoard_ok hn
      cases hx
      rw [hid]
      exact .move (Store.loadBoard_ok ho).1 hnew hb ha

theorem Changes.origin (h : o.Changes s c c' p) : c'.origin = c.origin := by
  cases h with
  | assign => exact Card.assign_origin c _
  | publish | close | reopen | postpone | unassign | rename | move => rfl

theorem Changes.account (h : o.Changes s c c' p) : c'.account = c.account :=
  congrArg (fun x => x.2.1) h.origin

/-- The event of a change names users whom the operation brings in, or who were assigned. -/
theorem Changes.mem_told (h : o.Changes s c c' p) {u : Ident} (hu : u ∈ p.ids "assignee_ids") :
    u ∈ o.members ∨ u ∈ c.assignees := by
  cases h with
  | assign => exact .inl (Card.mem_toAssign.1 (Particulars.mem_ids_ofAssignees hu)).1
  | unassign => exact .inr (Card.mem_toUnassign.1 (Particulars.mem_ids_ofAssignees hu)).2
  | publish | close | reopen | postpone | rename | move => exact (List.not_mem_nil hu).elim

/-- The operations that leave the status of a card alone. -/
def isEdit : CardOperation → Bool
  | assign _ | unassign _ | rename _ | move _ => true
  | publish | close | reopen | postpone => false

/-- Only edits leave a card among the drafts, and they do so only with drafts. -/
theorem Changes.of_drafted (h : o.Changes s c c' p) (hd : c'.status = .drafted) :
    c.status = .drafted ∧ o.isEdit = true := by
  cases h with
  | assign =>
      rw [Card.assign_eq] at hd
      exact ⟨hd, rfl⟩
  | unassign | rename | move => exact ⟨hd, rfl⟩
  | publish | close | reopen | postpone => cases hd

end CardOperation

end BoardActivity
