import BoardActivity.Proofs.FeedDescriptions

/-!
# Whom narratives name

An event refers to few users: its creator and those whom an assignment names. Two tables that give
these the same names tell the event in the same words, as a system comment and in the feed, whatever
else they hold; an action and particulars that make no sense are no exception. A transaction, which
looks up no other users, therefore posts what the names of everybody would give.

In the feed the viewer is "you". So what a viewer reads does not depend on the viewer's own name,
and viewers to whom the event does not refer read the same.

Nothing is said of renderers beyond those of `Commenter.standard`, except that what holds of each
renderer of a commenter holds of the commenter (`Commenter.Keeps`).
-/

namespace BoardActivity

namespace Names

variable {names names' : Names} {users : List Ident}

def Agree (names names' : Names) (users : List Ident) : Prop :=
  ∀ u ∈ users, names.name u = names'.name u

theorem Agree.shown (h : names.Agree names' users) (viewer : Ident) (you : String) :
    ∀ u ∈ users, names.shown viewer you u = names'.shown viewer you u := by
  intro u hu
  unfold Names.shown
  rw [h u hu]

theorem Agree.map_name (h : names.Agree names' users) :
    users.map names.name = users.map names'.name :=
  List.map_congr_left h

end Names

namespace Event

variable {e : Event} {names names' : Names}

theorem mem_referencedUsers {u : Ident} :
    u ∈ e.referencedUsers ↔ u = e.creator ∨ u ∈ e.assignees := by
  rw [referencedUsers, Ident.mem_sortDistinct, List.mem_cons]

theorem agree_referencedUsers_iff : names.Agree names' e.referencedUsers ↔
    names.name e.creator = names'.name e.creator ∧ names.Agree names' e.assignees := by
  simp only [Names.Agree, mem_referencedUsers, forall_eq_or_imp]

end Event

/-- The renderer names nobody but the users to whom an event refers. -/
def Renderer.Keeps (r : Renderer) : Prop :=
  ∀ e names names', names.Agree names' (Event.referencedUsers e) → r e names = r e names'

def Commenter.Keeps (c : Commenter) : Prop := ∀ r ∈ c.renderers.map Prod.snd, Renderer.Keeps r

namespace Commenter

theorem keeps_renderAssigned : Renderer.Keeps renderAssigned := by
  intro e names names' h
  obtain ⟨hcreator, hassignees⟩ := Event.agree_referencedUsers_iff.1 h
  unfold renderAssigned
  cases ha : e.assignees with
  | nil => rfl
  | cons u us => simp only [hcreator, (ha ▸ hassignees).map_name]

theorem keeps_renderUnassigned : Renderer.Keeps renderUnassigned := by
  intro e names names' h
  obtain ⟨hcreator, hassignees⟩ := Event.agree_referencedUsers_iff.1 h
  unfold renderUnassigned
  cases ha : e.assignees with
  | nil => rfl
  | cons u us => simp only [hcreator, (ha ▸ hassignees).map_name]

theorem keeps_renderAct (act : String) : Renderer.Keeps (renderAct act) := by
  intro e names names' h
  obtain ⟨hcreator, -⟩ := Event.agree_referencedUsers_iff.1 h
  unfold renderAct
  rw [hcreator]

theorem keeps_renderTitleChanged : Renderer.Keeps renderTitleChanged := by
  intro e names names' h
  obtain ⟨hcreator, -⟩ := Event.agree_referencedUsers_iff.1 h
  unfold renderTitleChanged
  rw [hcreator]

theorem keeps_renderBoardChanged : Renderer.Keeps renderBoardChanged := by
  intro e names names' h
  obtain ⟨hcreator, -⟩ := Event.agree_referencedUsers_iff.1 h
  unfold renderBoardChanged
  rw [hcreator]

theorem keeps_standard : standard.Keeps := by
  simp only [Keeps, standard, List.map_cons, List.map_nil, List.forall_mem_cons]
  exact ⟨keeps_renderAssigned, keeps_renderUnassigned, keeps_renderAct _, keeps_renderAct _,
    keeps_renderAct _, keeps_renderTitleChanged, keeps_renderBoardChanged,
    fun _ hr => (List.not_mem_nil hr).elim⟩

variable {c : Commenter} {e : Event} {names names' : Names}

theorem Keeps.render (h : c.Keeps) (hagree : names.Agree names' e.referencedUsers) :
    c.render e names = c.render e names' := by
  unfold Commenter.render
  cases hr : c.renderers.lookup e.action with
  | none => rfl
  | some r =>
      obtain ⟨before, after, hsplit, -⟩ := List.lookup_eq_some_iff.1 hr
      have hmem : r ∈ c.renderers.map Prod.snd := by
        rw [hsplit, List.map_append]
        exact List.mem_append_right _ List.mem_cons_self
      exact h r hmem e names names' hagree

theorem Keeps.commentFor (h : c.Keeps) (hagree : names.Agree names' e.referencedUsers)
    (id card : Ident) (author : User) :
    c.commentFor e id card names author = c.commentFor e id card names' author := by
  unfold Commenter.commentFor
  rw [h.render hagree]

/-- The users looked up for an event have the names that they have among all users. -/
theorem agree_findUsers (s : Store) (e : Event) :
    (Names.ofUsers (s.findUsers e.referencedUsers)).Agree (Names.ofUsers s.users.rows)
      e.referencedUsers := by
  intro u hu
  have hright : (Names.ofUsers (s.findUsers e.referencedUsers)).Right s.users :=
    (Names.right_empty s.users).foldl_insert fun x hx => (Store.mem_findUsers.1 hx).1
  rw [Names.name_ofUsers_rows]
  refine Names.name_eq hright fun hsome => ?_
  obtain ⟨x, hx⟩ := Option.isSome_iff_exists.1 hsome
  obtain ⟨-, rfl⟩ := Table.find?_eq_some_iff.1 hx
  exact Names.knows_foldl_insert.2 (.inl (List.mem_map_of_mem (Store.mem_findUsers.2 ⟨hx, hu⟩)))

/-- What a transaction posts is what the names of all users would give. -/
theorem Keeps.post (h : c.Keeps) {s : Store} {card : Ident} {w w' : Work} {r : Option Comment}
    (hpost : c.post s e card w = (.ok r, w')) :
    r.map Comment.body = c.render e (Names.ofUsers s.users.rows) := by
  have hagree := agree_findUsers s e
  have hbody : ∀ id author, (c.commentFor e id card (Names.ofUsers (s.findUsers
      e.referencedUsers)) author).map Comment.body = c.render e (Names.ofUsers s.users.rows) := by
    intro id author
    rw [h.commentFor hagree, Commenter.commentFor, Option.map_map]
    exact Option.map_id'
  simp only [Commenter.post] at hpost
  split_ifs at hpost with hhandles
  · split at hpost
    next => cases (Prod.mk.inj hpost).1
    next author _ =>
      split at hpost
      next hnone =>
        cases (Prod.mk.inj hpost).1
        rw [← hbody _ author, hnone]
      next comment hsome =>
        split at hpost
        next => cases (Prod.mk.inj hpost).1
        next =>
          cases (Prod.mk.inj hpost).1
          rw [← hbody _ author, hsome]
  · cases (Prod.mk.inj hpost).1
    unfold Commenter.handles at hhandles
    rw [Commenter.render, Option.not_isSome_iff_eq_none.1 hhandles]
    rfl

end Commenter

namespace Event

variable {e : Event} {names names' : Names} {viewer viewer' : Ident}

theorem describe_of_agree (h : names.Agree names' e.referencedUsers) (viewer : Ident)
    (title : Option String) : e.describe viewer names title = e.describe viewer names' title := by
  refine describe_congr ?_ (fun u hu => ?_) title
  · exact h.shown viewer "You" _ (mem_referencedUsers.2 (.inl rfl))
  · exact h.shown viewer "you" u (mem_referencedUsers.2 (.inr hu))

theorem describe_of_outsiders (hviewer : viewer ∉ e.referencedUsers)
    (hviewer' : viewer' ∉ e.referencedUsers) (names : Names) (title : Option String) :
    e.describe viewer names title = e.describe viewer' names title := by
  have hshown : ∀ you, ∀ u ∈ e.referencedUsers,
      names.shown viewer you u = names.shown viewer' you u := by
    intro you u hu
    have hne : u ≠ viewer := fun heq => hviewer (heq ▸ hu)
    have hne' : u ≠ viewer' := fun heq => hviewer' (heq ▸ hu)
    rw [Names.shown, Names.shown, if_neg hne, if_neg hne']
  exact describe_congr (hshown _ _ (mem_referencedUsers.2 (.inl rfl)))
    (fun u hu => hshown _ u (mem_referencedUsers.2 (.inr hu))) title

theorem describe_of_agree_elsewhere (h : ∀ u, u ≠ viewer → names.name u = names'.name u)
    (title : Option String) : e.describe viewer names title = e.describe viewer names' title := by
  have hshown : ∀ you u, names.shown viewer you u = names'.shown viewer you u := by
    intro you u
    unfold Names.shown
    split_ifs with hu
    · rfl
    · exact h u hu
  exact describe_congr (hshown _ _) (fun u _ => hshown _ u) title

/-- The names of the users to whom an event refers determine how it is told: in a system comment, in
the comment that a transaction posts, and in the feed, where moreover viewers to whom it does not
refer read the same, and nobody's line depends on the viewer's own name. -/
theorem narratives_of_references (e : Event) :
    (∀ names names' : Names, (∀ u ∈ e.referencedUsers, names.name u = names'.name u) →
      Commenter.standard.render e names = Commenter.standard.render e names' ∧
        (∀ id card author, Commenter.standard.commentFor e id card names author =
          Commenter.standard.commentFor e id card names' author) ∧
        ∀ viewer title, e.describe viewer names title = e.describe viewer names' title) ∧
      (∀ (s : Store) (card : Ident) (w w' : Work) (r : Option Comment),
        Commenter.standard.post s e card w = (.ok r, w') →
          r.map Comment.body = Commenter.standard.render e (Names.ofUsers s.users.rows)) ∧
      (∀ viewer viewer' : Ident, viewer ≠ e.creator → viewer ∉ e.assignees →
        viewer' ≠ e.creator → viewer' ∉ e.assignees →
        ∀ names title, e.describe viewer names title = e.describe viewer' names title) ∧
      ∀ (viewer : Ident) (names names' : Names),
        (∀ u, u ≠ viewer → names.name u = names'.name u) →
        ∀ title, e.describe viewer names title = e.describe viewer names' title := by
  have hkeeps := Commenter.keeps_standard
  refine ⟨fun names names' hagree => ⟨hkeeps.render hagree, hkeeps.commentFor hagree,
    describe_of_agree hagree⟩, fun s card w w' r hpost => hkeeps.post hpost, ?_,
    fun viewer names names' h title => describe_of_agree_elsewhere h title⟩
  intro viewer viewer' hcreator hassignees hcreator' hassignees'
  refine describe_of_outsiders (fun hmem => ?_) fun hmem => ?_
  · exact (mem_referencedUsers.1 hmem).elim hcreator hassignees
  · exact (mem_referencedUsers.1 hmem).elim hcreator' hassignees'

/-- An assignment, posted on a card of a board in an account with an uninvolved user, eve. -/
theorem narratives_of_references_assigned :
    let e : Event := ⟨⟨7⟩, ⟨9⟩, ⟨2⟩, ⟨1⟩, .card ⟨10⟩, "card_assigned", .ofAssignees [⟨3⟩], ⟨0, 0⟩⟩
    let ada : User := ⟨⟨1⟩, ⟨9⟩, "ada", .member⟩
    let bob : User := ⟨⟨3⟩, ⟨9⟩, "bob", .member⟩
    let eve : User := ⟨⟨4⟩, ⟨9⟩, "eve", .member⟩
    let seed := ((((Store.empty 20).addUser ada).addUser bob).addUser eve).addUser
      (.newSystem ⟨5⟩ ⟨9⟩)
    let s := { seed with cards := seed.cards.put (.draft ⟨10⟩ ⟨9⟩ ⟨2⟩ ⟨1⟩ "deploy" ⟨0, 0⟩) }
    (Commenter.standard.post s e ⟨10⟩ (.start s)).1.toOption.map (Option.map Comment.body) =
        some (Commenter.standard.render e (Names.ofUsers s.users.rows)) ∧
      Commenter.standard.render e (Names.ofUsers [eve, bob, ada]) =
        Commenter.standard.render e (Names.ofUsers [ada, bob]) ∧
      e.describe ⟨4⟩ (Names.ofUsers [ada, bob]) none =
        e.describe ⟨8⟩ (Names.ofUsers [ada, bob]) none ∧
      e.describe ⟨3⟩ (Names.ofUsers [ada, bob]) none =
        e.describe ⟨3⟩ (Names.ofUsers [ada]) none := by
  intro e ada bob eve seed s
  obtain ⟨hagree, hpost, houtside, hown⟩ := narratives_of_references e
  have hsame : (Names.ofUsers [eve, bob, ada]).Agree (Names.ofUsers [ada, bob])
      e.referencedUsers := by
    refine agree_referencedUsers_iff.2 ⟨rfl, ?_⟩
    unfold Names.Agree
    decide
  refine ⟨?_, (hagree _ _ hsame).1, ?_, ?_⟩
  · have hrun : Commenter.standard.post s e ⟨10⟩ (.start s) = (.ok (some _), _) := rfl
    rw [hrun, ← hpost s ⟨10⟩ _ _ _ hrun]
    rfl
  · exact houtside _ _ (by decide) (by decide) (by decide) (by decide) _ none
  · refine hown _ _ _ (fun u hu => ?_) none
    have hne : (u == (⟨3⟩ : Ident)) = false := beq_false_of_ne hu
    have hfirst : (Names.ofUsers [ada, bob]).entries.lookup u =
        (Names.ofUsers [ada]).entries.lookup u := by
      refine List.lookup_cons.trans ?_
      rw [hne]
      rfl
    rw [Names.name, Names.name, hfirst]

end Event

end BoardActivity
