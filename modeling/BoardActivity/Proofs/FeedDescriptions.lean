import BoardActivity.Feed.Routes
import BoardActivity.Proofs.InstantOrder
import BoardActivity.Proofs.Membership

/-!
# Descriptions in the feed

A feed looks names up in bulk: those of the creators whom the listing carries, and those of all
users whom its assignments name, in one further question. Either may miss a user, and the two
overlap. Here is shown that this makes no difference: every description is the one that is told with
the names of all users of the store. A description depends on the names of a few users only
(`Event.describe_congr`), and a table of names without a wrong entry, which has an entry for
whoever of these is known, tells their names as any other such table does (`Names.name_eq`).

Listings are in a strict order, so the events of a board have exactly one.
-/

namespace BoardActivity

namespace Names

theorem entries_foldl_insert (users : List User) (names : Names) :
    (users.foldl (fun names u => names.insert u.id u.name) names).entries =
      (users.map fun u => (u.id, u.name)).reverse ++ names.entries := by
  induction users generalizing names with
  | nil => rfl
  | cons u users ih =>
      rw [List.foldl_cons, ih, List.map_cons, List.reverse_cons, List.append_assoc]
      rfl

/-- Every entry is the name of a user of the table. -/
def Right (names : Names) (users : Table User) : Prop :=
  ∀ entry ∈ names.entries, ∃ u, users.find? entry.1 = some u ∧ u.name = entry.2

def Knows (names : Names) (user : Ident) : Prop := user ∈ names.entries.map Prod.fst

variable {names : Names} {users : Table User} {known : List User} {user : Ident}

theorem Right.foldl_insert (h : names.Right users)
    (hknown : ∀ u ∈ known, users.find? u.id = some u) :
    (known.foldl (fun names u => names.insert u.id u.name) names).Right users := by
  intro entry hentry
  rw [entries_foldl_insert, List.mem_append, List.mem_reverse, List.mem_map] at hentry
  rcases hentry with ⟨u, hu, rfl⟩ | hentry
  · exact ⟨u, hknown u hu, rfl⟩
  · exact h entry hentry

theorem knows_foldl_insert :
    (known.foldl (fun names u => names.insert u.id u.name) names).Knows user ↔
      user ∈ known.map User.id ∨ names.Knows user := by
  rw [Knows, entries_foldl_insert, List.map_append, List.mem_append, List.map_reverse,
    List.mem_reverse, List.map_map]
  rfl

theorem right_empty (users : Table User) : empty.Right users :=
  fun _ hentry => (List.not_mem_nil hentry).elim

/-- Without wrong entries, and with one for a user who is there, the name told is the user's. -/
theorem name_eq (h : names.Right users)
    (hknows : (users.find? user).isSome = true → names.Knows user) :
    names.name user = ((users.find? user).map User.name).getD unknown := by
  unfold name
  cases hl : names.entries.lookup user with
  | some text =>
      obtain ⟨before, after, hentries, -⟩ := List.lookup_eq_some_iff.1 hl
      have hentry : (user, text) ∈ names.entries := by
        rw [hentries]
        exact List.mem_append_right _ List.mem_cons_self
      obtain ⟨u, hu, hname⟩ := h _ hentry
      rw [hu, Option.map_some, hname]
  | none =>
      have hnot : ¬names.Knows user := by
        intro hknown
        obtain ⟨entry, hentry, rfl⟩ := List.mem_map.1 hknown
        simpa using List.lookup_eq_none_iff.1 hl entry hentry
      cases hu : users.find? user with
      | none => rfl
      | some u =>
          rw [hu] at hknows
          exact (hnot (hknows rfl)).elim

/-- The names of all users tell the name of everybody. -/
theorem name_ofUsers_rows (users : Table User) (user : Ident) :
    (ofUsers users.rows).name user = ((users.find? user).map User.name).getD unknown := by
  have hright : (ofUsers users.rows).Right users :=
    (right_empty users).foldl_insert fun u hu => Table.mem_rows_iff.1 hu
  refine name_eq hright fun hsome => ?_
  obtain ⟨u, hu⟩ := Option.isSome_iff_exists.1 hsome
  obtain ⟨hrow, hid⟩ := Table.find?_eq_some_iff.1 hu
  exact knows_foldl_insert.2 (.inl (List.mem_map.2 ⟨u, hrow, hid⟩))

end Names

def Names.shown (names : Names) (viewer : Ident) (you : String) (user : Ident) : String :=
  if user = viewer then you else names.name user

namespace Event

variable {e : Event} {viewer viewer' : Ident} {names names' : Names}

theorem subjects_congr
    (h : ∀ u ∈ e.assignees, names.shown viewer "you" u = names'.shown viewer' "you" u) :
    e.subjects viewer names = e.subjects viewer' names' := by
  have hwords : (e.assignees.map fun u => if u = viewer then "you" else names.name u) =
      e.assignees.map fun u => if u = viewer' then "you" else names'.name u :=
    List.map_congr_left h
  unfold subjects
  rw [hwords]

/-- A description depends on what the viewer reads for the creator and for the users whom an
assignment names. -/
theorem describe_congr
    (hcreator : names.shown viewer "You" e.creator = names'.shown viewer' "You" e.creator)
    (hassignees : ∀ u ∈ e.assignees, names.shown viewer "you" u = names'.shown viewer' "you" u)
    (title : Option String) : e.describe viewer names title = e.describe viewer' names' title := by
  have hdescribe : ∀ viewer names, e.describe viewer names title =
      Names.shown names viewer "You" e.creator ++ " " ++ e.describeAct viewer names title :=
    fun _ _ => rfl
  have hact : e.describeAct viewer names title = e.describeAct viewer' names' title := by
    unfold describeAct
    rw [subjects_congr hassignees]
  rw [hdescribe, hdescribe, hcreator, hact]

def Before (a b : Event) : Prop :=
  a.createdAt < b.createdAt ∨ a.createdAt = b.createdAt ∧ b.id < a.id

theorem precedes_iff {a b : Event} :
    a.precedes b = true ↔ (a.createdAt.seconds < b.createdAt.seconds ∨
      a.createdAt.seconds = b.createdAt.seconds ∧ a.createdAt.nanos < b.createdAt.nanos) ∨
      (a.createdAt.seconds = b.createdAt.seconds ∧ a.createdAt.nanos = b.createdAt.nanos) ∧
        b.id.value ≤ a.id.value := by
  rw [precedes, Bool.or_eq_true, Bool.and_eq_true, beq_iff_eq, decide_eq_true_eq,
    Instant.before_iff, Instant.eq_iff]
  rfl

theorem precedes_trans (a b c : Event) (hab : a.precedes b = true) (hbc : b.precedes c = true) :
    a.precedes c = true := by
  rw [precedes_iff] at *
  omega

theorem precedes_total (a b : Event) : (a.precedes b || b.precedes a) = true := by
  rw [Bool.or_eq_true, precedes_iff, precedes_iff]
  omega

theorem before_of_precedes {a b : Event} (h : a.precedes b = true) (hne : a.id ≠ b.id) :
    a.Before b := by
  rw [precedes, Bool.or_eq_true, Bool.and_eq_true, beq_iff_eq, decide_eq_true_eq] at h
  refine h.imp_right fun ⟨hat, hle⟩ => ⟨hat, Nat.lt_of_le_of_ne hle fun heq => hne ?_⟩
  rw [Ident.mk.injEq]
  exact heq.symm

/-- A listing has each of the events once, in order. -/
theorem pairwise_sortChronologically {events : List Event} (hd : (events.map Event.id).Nodup) :
    (sortChronologically events).Pairwise Before := by
  have hsorted : (sortChronologically events).Pairwise fun a b => a.precedes b = true :=
    List.pairwise_mergeSort precedes_trans precedes_total events
  have hids : (sortChronologically events).Pairwise fun a b => a.id ≠ b.id :=
    List.pairwise_map.1 (((List.mergeSort_perm events precedes).map Event.id).nodup_iff.2 hd)
  exact (hsorted.and hids).imp fun hboth => before_of_precedes hboth.1 hboth.2

end Event

namespace Store

variable {s : Store}

/-- The title that a listing shows: of the card, or of the card that the comment is on. -/
def titleOf? (s : Store) : EventableRef → Option String
  | ⟨.card, id⟩ => (s.cards.find? id).map Card.title
  | ⟨.comment, id⟩ => ((s.comments.find? id).bind fun c => s.cards.find? c.card).map Card.title

theorem title_summary? (s : Store) (ref : EventableRef) :
    (s.summary? ref).map EventableSummary.title = s.titleOf? ref := by
  obtain ⟨kind, id⟩ := ref
  cases kind with
  | card => simp [summary?, titleOf?, Function.comp_def]
  | comment => simp [summary?, titleOf?, Function.comp_def, Option.bind_map]

/-- The names looked up for a listing have no wrong entry, and one for every user who is there of
those who created its events or are named by them. -/
theorem namesFor_listing (s : Store) (events : List Event) :
    ∃ names, s.feedSource.namesFor (events.map (s.record .all)) = .ok names ∧
      names.Right s.users ∧ ∀ e ∈ events, ∀ u, u = e.creator ∨ u ∈ e.assignees →
        (s.users.find? u).isSome = true → names.Knows u := by
  let records := events.map (s.record .all)
  let creators := records.filterMap EventRecord.creator
  let assignees := Ident.sortDistinct (records.flatMap fun r => r.event.assignees)
  refine ⟨(s.findUsers assignees).foldl (fun names u => names.insert u.id u.name)
    (Names.ofUsers creators), rfl, ?_, ?_⟩
  · refine ((Names.right_empty s.users).foldl_insert fun u hu => ?_).foldl_insert fun u hu => ?_
    · obtain ⟨r, hr, hcreator⟩ := List.mem_filterMap.1 hu
      obtain ⟨e, -, rfl⟩ := List.mem_map.1 hr
      exact Table.mem_rows_iff.1 (Table.find?_eq_some_iff.1 hcreator).1
    · exact (mem_findUsers.1 hu).1
  · intro e he u hu hsome
    obtain ⟨x, hx⟩ := Option.isSome_iff_exists.1 hsome
    have hid : x.id = u := (Table.find?_eq_some_iff.1 hx).2
    have hr : s.record .all e ∈ records := List.mem_map_of_mem he
    rw [Names.knows_foldl_insert, Names.ofUsers, Names.knows_foldl_insert]
    rcases hu with rfl | hu
    · refine .inr (.inl (List.mem_map.2 ⟨x, ?_, hid⟩))
      exact List.mem_filterMap.2 ⟨_, hr, hx⟩
    · refine .inl (List.mem_map.2 ⟨x, mem_findUsers.2 ⟨hid ▸ hx, ?_⟩, hid⟩)
      rw [hid]
      exact Ident.mem_sortDistinct.2 (List.mem_flatMap.2 ⟨_, hr, hu⟩)

/-- An event as it is told with the names of all users. -/
def itemOf (s : Store) (viewer : Ident) (e : Event) : ActivityItem where
  id := e.id
  action := e.action
  description := e.describe viewer (Names.ofUsers s.users.rows) (s.titleOf? e.eventable)
  createdAt := e.createdAt

/-- The feed of a board tells its first events as each is told by itself. -/
theorem activity_eq (s : Store) (board viewer : Ident) (limit : Option Nat) :
    s.feedSource.activity board viewer limit =
      if (s.boards.find? board).isNone then .error (.notFound "board" board)
      else .ok (((Event.sortChronologically (s.events.rows.filter fun e => e.board == board)).take
        (FeedSource.limitFor limit)).map (s.itemOf viewer)) := by
  let events := (Event.sortChronologically (s.events.rows.filter fun e => e.board == board)).take
    (FeedSource.limitFor limit)
  obtain ⟨names, hnames, hright, hknows⟩ := s.namesFor_listing events
  have hitem : ∀ e ∈ events,
      ActivityItem.ofRecord viewer names (s.record .all e) = s.itemOf viewer e := by
    intro e he
    have hname : ∀ you u, u = e.creator ∨ u ∈ e.assignees → names.shown viewer you u =
        (Names.ofUsers s.users.rows).shown viewer you u := fun you u hu => by
      rw [Names.shown, Names.shown, Names.name_eq hright (hknows e he u hu),
        Names.name_ofUsers_rows]
    have hdescribe : e.describe viewer names ((s.summary? e.eventable).map EventableSummary.title) =
        e.describe viewer (Names.ofUsers s.users.rows) (s.titleOf? e.eventable) := by
      rw [title_summary?]
      exact Event.describe_congr (hname _ _ (.inl rfl)) (fun u hu => hname _ u (.inr hu)) _
    exact congrArg (fun text => (⟨e.id, e.action, text, e.createdAt⟩ : ActivityItem)) hdescribe
  unfold FeedSource.activity
  cases hb : s.boards.find? board with
  | none => simp [feedSource, hb, bind, Except.bind, throw, throwThe, MonadExceptOf.throw]
  | some b =>
      have hlist : s.feedSource.listEvents ⟨.board board, .all, some (FeedSource.limitFor limit)⟩ =
          .ok (events.map (s.record .all)) := rfl
      have hfound : s.feedSource.findBoard board = .ok (some b) := congrArg Except.ok hb
      have hmap : (events.map (s.record .all)).map (ActivityItem.ofRecord viewer names) =
          events.map (s.itemOf viewer) := by
        rw [List.map_map]
        exact List.map_congr_left hitem
      simp only [hfound, hlist, hnames, bind, Except.bind, Option.isNone_some, Bool.false_eq_true,
        if_false, pure, Except.pure, hmap]
      rfl

end Store

end BoardActivity
