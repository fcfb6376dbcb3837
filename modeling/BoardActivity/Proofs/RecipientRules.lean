import BoardActivity.Proofs.NotificationFanout

/-!
# Who is told of an event

A registry is made by registrations, one after the other, and the last one for a key counts. So the
strategy of an event can be read off the registrations (`Registry.chosen`). What a strategy asks for
is said twice: `Strategy.Candidate` is the set of users that it names, without order and repetition,
and `Strategy.failure?` is the first of its look-ups that fails. The recipients are that set without
the creator of the event, unless the creator is the system user, whatever lists the look-ups give
(`Registry.recipients_of_registrations`).

The store answers every look-up. What the standard registry makes of its records is
`Store.Concerned`.
-/

namespace BoardActivity

/-- A strategy for one action on a kind of thing, or for a kind of thing. -/
inductive Registration where
  | action (kind : EventableKind) (name : String) (strategy : Strategy)
  | kind (kind : EventableKind) (strategy : Strategy)
deriving Repr, DecidableEq

namespace Registration

def forAction? (kind : EventableKind) (name : String) : Registration → Option Strategy
  | .action k n s => if k = kind ∧ n = name then some s else none
  | .kind _ _ => none

def forKind? (kind : EventableKind) : Registration → Option Strategy
  | .action _ _ _ => none
  | .kind k s => if k = kind then some s else none

end Registration

namespace Strategy

/-- The user is in the list that is found. -/
def Lists (found : Except Error (List Ident)) (u : Ident) : Prop :=
  ∃ users, found = .ok users ∧ u ∈ users

/-- Why a look-up failed, if it did. -/
def fault? {α : Type} : Except Error α → Option Error
  | .ok _ => none
  | .error err => some err

/-- The users whom a strategy names. -/
def Candidate (st : Strategy) (e : Event) (a : Audience) (u : Ident) : Prop :=
  match st with
  | boardWatchers => Lists (a.boardWatchers e.board) u
  | assignment => ∃ items text, e.particulars.lookup "assignee_ids" = some (.array items) ∧
      .string text ∈ items ∧ Ident.read? text = some u
  | publication =>
      Lists (a.boardWatchers e.board) u ∧ ¬Lists (a.mentionees e.eventable) u ∨
        Lists (a.cardAssignees e.eventable.id) u
  | comment => ∃ card, a.commentCard e.eventable.id = .ok (some card) ∧
      Lists (a.cardWatchers card) u ∧ ¬Lists (a.mentionees (.comment e.eventable.id)) u
  | quiet => False

/-- Why the first look-up of a strategy that fails does so. -/
def failure? (st : Strategy) (e : Event) (a : Audience) : Option Error :=
  match st with
  | boardWatchers => fault? (a.boardWatchers e.board)
  | assignment | quiet => none
  | publication =>
      (fault? (a.mentionees e.eventable)).or
        ((fault? (a.boardWatchers e.board)).or (fault? (a.cardAssignees e.eventable.id)))
  | comment =>
      match a.commentCard e.eventable.id with
      | .error err => some err
      | .ok none => none
      | .ok (some card) =>
          (fault? (a.mentionees (.comment e.eventable.id))).or (fault? (a.cardWatchers card))

/-- The creator is known to be the system user, or nobody is ever told. -/
def Closed (st : Strategy) (creator : Option User) : Prop :=
  st = .quiet ∨ ∃ u, creator = some u ∧ u.role = .system

theorem shouldNotify_iff {st : Strategy} {creator : Option User} :
    st.shouldNotify creator = true ↔ ¬st.Closed creator := by
  have hsystem : creator.any User.isSystem = true ↔ ∃ u, creator = some u ∧ u.role = .system := by
    simp only [Option.any_eq_true, User.isSystem, beq_iff_eq]
  cases st with
  | quiet => simp [shouldNotify, Closed]
  | boardWatchers | assignment | publication | comment =>
      simp [shouldNotify, Closed, ← hsystem]

theorem lists_ok {users : List Ident} {u : Ident} : Lists (.ok users) u ↔ u ∈ users := by
  simp [Lists]

theorem mem_ids {p : Particulars} {key : String} {u : Ident} : u ∈ p.ids key ↔
    ∃ items text, p.lookup key = some (.array items) ∧ .string text ∈ items ∧
      Ident.read? text = some u := by
  have hitem (item : Json) : item.string?.bind Ident.read? = some u ↔
      ∃ text, item = .string text ∧ Ident.read? text = some u := by
    cases item <;> simp [Json.string?]
  unfold Particulars.ids
  split
  · next items hf =>
      simp only [List.mem_filterMap, hitem, hf, Option.some.injEq, Json.array.injEq]
      constructor
      · rintro ⟨_, hin, text, rfl, hread⟩
        exact ⟨items, text, rfl, hin, hread⟩
      · rintro ⟨_, text, rfl, hin, hread⟩
        exact ⟨_, hin, text, rfl, hread⟩
  · next hf =>
      simp only [List.not_mem_nil, false_iff]
      rintro ⟨items, text, hitems, -, -⟩
      exact hf items hitems

/-- The candidates are there unless a look-up fails, and they are those whom the strategy names. -/
theorem candidates_spec (st : Strategy) (e : Event) (a : Audience) :
    match st.failure? e a with
    | some err => st.candidates e a = .error err
    | none => ∃ users, st.candidates e a = .ok users ∧ ∀ u, u ∈ users ↔ st.Candidate e a u := by
  cases st with
  | boardWatchers =>
      simp only [failure?, candidates, Candidate]
      cases a.boardWatchers e.board with
      | error err => rfl
      | ok watchers => exact ⟨watchers, rfl, fun u => lists_ok.symm⟩
  | assignment => exact ⟨_, rfl, fun u => mem_ids⟩
  | publication =>
      simp only [failure?, candidates, Candidate]
      cases a.mentionees e.eventable with
      | error err => rfl
      | ok mentioned =>
        cases a.boardWatchers e.board with
        | error err => rfl
        | ok watchers =>
          cases a.cardAssignees e.eventable.id with
          | error err => rfl
          | ok assignees =>
              refine ⟨_, rfl, fun u => ?_⟩
              simp only [List.mem_append, List.mem_filter, decide_eq_true_eq, lists_ok]
  | comment =>
      have hbind {α β : Type} (x : α) (f : α → Except Error β) : (Except.ok x >>= f) = f x := rfl
      simp only [failure?, candidates, Candidate]
      cases a.commentCard e.eventable.id with
      | error err => rfl
      | ok found =>
        rw [hbind]
        cases found with
        | none => exact ⟨[], rfl, fun u => by simp⟩
        | some card =>
          cases a.mentionees (.comment e.eventable.id) with
          | error err => rfl
          | ok mentioned =>
            cases hw : a.cardWatchers card with
            | error err => simp only [hw]; rfl
            | ok watchers =>
                simp only [hw]
                refine ⟨_, rfl, fun u => ?_⟩
                simp [hw, lists_ok]
  | quiet => exact ⟨[], rfl, fun u => by simp [Candidate]⟩

end Strategy

namespace Registry

def register (r : Registry) : Registration → Registry
  | .action kind name s => r.registerAction kind name s
  | .kind kind s => r.registerKind kind s

def registerAll (r : Registry) (registrations : List Registration) : Registry :=
  registrations.foldl register r

/-- The strategy of an event: the last one registered for its kind and action, else the last one
for its kind, else the fallback. -/
def chosen (fallback : Strategy) (registrations : List Registration) (e : Event) : Strategy :=
  let forAction := registrations.filterMap (Registration.forAction? e.eventable.kind e.action)
  let forKind := registrations.filterMap (Registration.forKind? e.eventable.kind)
  (forAction.getLast?.or forKind.getLast?).getD fallback

def standardRegistrations : List Registration :=
  [.action .card Action.cardAssigned .assignment, .action .card Action.cardPublished .publication,
   .action .card Action.cardTitleChanged .quiet, .kind .comment .comment]

theorem standard_eq : standard = (withFallback .boardWatchers).registerAll standardRegistrations :=
  rfl

variable {fallback : Strategy} {registrations : List Registration} {e : Event}

/-- The tables of a registry hold the registrations, the last one first. -/
theorem lookup_registerAll (r : Registry) (registrations : List Registration)
    (kind : EventableKind) (name : String) :
    (r.registerAll registrations).byAction.lookup (kind, name) =
        (registrations.filterMap (Registration.forAction? kind name)).getLast?.or
          (r.byAction.lookup (kind, name)) ∧
      (r.registerAll registrations).byKind.lookup kind =
        (registrations.filterMap (Registration.forKind? kind)).getLast?.or
          (r.byKind.lookup kind) ∧
      (r.registerAll registrations).fallback = r.fallback := by
  induction registrations generalizing r with
  | nil => exact ⟨rfl, rfl, rfl⟩
  | cons x registrations ih =>
      obtain ⟨haction, hkind, hfallback⟩ := ih (r.register x)
      change ((r.register x).registerAll registrations).byAction.lookup (kind, name) = _ ∧
        ((r.register x).registerAll registrations).byKind.lookup kind = _ ∧
        ((r.register x).registerAll registrations).fallback = _
      rw [haction, hkind, hfallback]
      cases x with
      | action k n s =>
          refine ⟨?_, rfl, rfl⟩
          by_cases hk : k = kind ∧ n = name
          · obtain ⟨rfl, rfl⟩ := hk
            simp [Registration.forAction?, register, registerAction, List.getLast?_cons]
          · have hne : ((kind, name) == (k, n)) = false := by
              simp only [beq_eq_false_iff_ne, ne_eq, Prod.mk.injEq]
              exact fun he => hk ⟨he.1.symm, he.2.symm⟩
            simp [Registration.forAction?, hk, register, registerAction, List.lookup_cons, hne]
      | kind k s =>
          refine ⟨rfl, ?_, rfl⟩
          by_cases hk : k = kind
          · subst hk
            simp [Registration.forKind?, register, registerKind, List.getLast?_cons]
          · have hne : (kind == k) = false := by simpa using Ne.symm hk
            simp [Registration.forKind?, hk, register, registerKind, List.lookup_cons, hne]

inductive Built : Registry → Strategy → List Registration → Prop
  | new (fallback : Strategy) : Built (withFallback fallback) fallback []
  | standard : Built standard .boardWatchers standardRegistrations
  | register {r : Registry} {fallback : Strategy} {registrations : List Registration}
      (x : Registration) : Built r fallback registrations →
      Built (r.register x) fallback (registrations ++ [x])

theorem Built.eq_registerAll {r : Registry} (h : Built r fallback registrations) :
    r = (withFallback fallback).registerAll registrations := by
  induction h with
  | new fallback => rfl
  | standard => exact standard_eq
  | register x _ ih => rw [ih, registerAll, registerAll, List.foldl_append]; rfl

theorem Built.strategyFor_eq {r : Registry} (h : Built r fallback registrations) (e : Event) :
    r.strategyFor e = chosen fallback registrations e := by
  obtain ⟨haction, hkind, hfallback⟩ :=
    lookup_registerAll (withFallback fallback) registrations e.eventable.kind e.action
  have hnone {κ : Type} [BEq κ] (k : κ) : ([] : List (κ × Strategy)).lookup k = none := rfl
  simp only [withFallback, hnone, Option.or_none] at haction hkind hfallback
  unfold strategyFor chosen
  rw [h.eq_registerAll]
  simp only [withFallback, haction, hkind, hfallback]
  cases (registrations.filterMap (Registration.forAction? e.eventable.kind e.action)).getLast? with
  | none => rfl
  | some s => rfl

/-- What the recipients of an event are if it is told by a strategy. The creator is looked up first;
then it depends on the creator whether anybody is told, and who, on the candidates. -/
structure Tells (r : Registry) (st : Strategy) (e : Event) (a : Audience) : Prop where
  unknown : ∀ err, a.findUser e.creator = .error err → r.recipients e a = .error err
  closed : ∀ creator, a.findUser e.creator = .ok creator → st.Closed creator →
    r.recipients e a = .ok []
  failed : ∀ creator err, a.findUser e.creator = .ok creator → ¬st.Closed creator →
    st.failure? e a = some err → r.recipients e a = .error err
  told : ∀ creator, a.findUser e.creator = .ok creator → ¬st.Closed creator →
    st.failure? e a = none → ∃ users, r.recipients e a = .ok users ∧
      users.Pairwise (· < ·) ∧ ∀ u, u ∈ users ↔ u ≠ e.creator ∧ st.Candidate e a u

theorem tells_strategyFor (r : Registry) (e : Event) (a : Audience) :
    r.Tells (r.strategyFor e) e a := by
  have hbind {α β : Type} (x : α) (f : α → Except Error β) : (Except.ok x >>= f) = f x := rfl
  have hfail {α β : Type} (err : Error) (f : α → Except Error β) :
      (Except.error err >>= f) = .error err := rfl
  have hcandidates := (r.strategyFor e).candidates_spec e a
  constructor
  · intro err hcreator
    rw [recipients, hcreator, hfail]
  · intro creator hcreator hclosed
    rw [recipients, hcreator, hbind, if_neg fun hn => Strategy.shouldNotify_iff.1 hn hclosed]
    rfl
  · intro creator err hcreator hopen hf
    rw [hf] at hcandidates
    rw [recipients, hcreator, hbind, if_pos (Strategy.shouldNotify_iff.2 hopen), hcandidates, hfail]
  · intro creator hcreator hopen hf
    rw [hf] at hcandidates
    obtain ⟨users, husers, hmem⟩ := hcandidates
    rw [recipients, hcreator, hbind, if_pos (Strategy.shouldNotify_iff.2 hopen), husers, hbind]
    refine ⟨_, rfl, Ident.pairwise_sortDistinct _, fun u => ?_⟩
    rw [Ident.mem_sortDistinct, List.mem_filter, bne_iff_ne, hmem, and_comm]

end Registry

namespace Store

/-- The users whom an event concerns by the standard registry: of a comment, those who watch the
card and are not mentioned; of a card, by the action, the users who are named, or those who watch
the board and are not mentioned together with all who are assigned, or nobody, or those who watch
the board. -/
def StandardCandidate (s : Store) (e : Event) (u : Ident) : Prop :=
  match e.eventable.kind with
  | .comment => ∃ c card, s.comments.find? e.eventable.id = some c ∧
      s.cards.find? c.card = some card ∧ u ∈ card.watchers ∧ u ∉ c.mentionees
  | .card =>
      if e.action = Action.cardAssigned then
        ∃ items text, e.particulars.lookup "assignee_ids" = some (.array items) ∧
          .string text ∈ items ∧ Ident.read? text = some u
      else if e.action = Action.cardPublished then
        (∃ b, s.boards.find? e.board = some b ∧ u ∈ b.watchers ∧
          ∀ card, s.cards.find? e.eventable.id = some card → u ∉ card.mentionees) ∨
        ∃ card, s.cards.find? e.eventable.id = some card ∧ u ∈ card.assignees
      else if e.action = Action.cardTitleChanged then False
      else ∃ b, s.boards.find? e.board = some b ∧ u ∈ b.watchers

end Store

namespace Registry

/-- The strategies of the standard registry. -/
theorem strategyFor_standard (e : Event) : standard.strategyFor e =
    match e.eventable.kind with
    | .comment => .comment
    | .card =>
        if e.action = Action.cardAssigned then .assignment
        else if e.action = Action.cardPublished then .publication
        else if e.action = Action.cardTitleChanged then .quiet
        else .boardWatchers := by
  rw [Built.standard.strategyFor_eq]
  cases hk : e.eventable.kind with
  | comment =>
      simp [chosen, standardRegistrations, Registration.forAction?, Registration.forKind?, hk]
  | card =>
      have hassigned : Action.cardPublished ≠ Action.cardAssigned := by decide
      have hassigned' : Action.cardTitleChanged ≠ Action.cardAssigned := by decide
      have hpublished : Action.cardTitleChanged ≠ Action.cardPublished := by decide
      simp only [chosen, standardRegistrations, Registration.forAction?, Registration.forKind?, hk,
        List.filterMap_cons, List.filterMap_nil, true_and, reduceCtorEq, if_false]
      by_cases h₁ : e.action = Action.cardAssigned
      · simp [h₁, hassigned, hassigned']
      · by_cases h₂ : e.action = Action.cardPublished
        · simp [h₂, hassigned, hassigned.symm, hpublished]
        · by_cases h₃ : e.action = Action.cardTitleChanged
          · simp [h₃, hassigned', hassigned'.symm, hpublished, hpublished.symm]
          · simp [h₁, h₂, h₃, Ne.symm h₁, Ne.symm h₂, Ne.symm h₃]

/-- By the standard registry the records of the store decide who is a candidate. -/
theorem candidate_audience (e : Event) (s : Store) (u : Ident) :
    (standard.strategyFor e).Candidate e s.audience u ↔ s.StandardCandidate e u := by
  rw [strategyFor_standard]
  unfold Store.StandardCandidate
  cases hk : e.eventable.kind with
  | comment =>
      simp only [Strategy.Candidate, Store.audience, Strategy.lists_ok, Store.mem_getD_map,
        EventableRef.comment, Except.ok.injEq, Option.map_eq_some_iff]
      constructor
      · rintro ⟨_, ⟨c, hc, rfl⟩, ⟨card, hcard, hu⟩, hmentioned⟩
        exact ⟨c, card, hc, hcard, hu, fun hm => hmentioned ⟨c, hc, hm⟩⟩
      · rintro ⟨c, card, hc, hcard, hu, hmentioned⟩
        refine ⟨c.card, ⟨c, hc, rfl⟩, ⟨card, hcard, hu⟩, ?_⟩
        rintro ⟨c', hc', hm⟩
        cases hc.symm.trans hc'
        exact hmentioned hm
  | card =>
      simp only
      split_ifs with h₁ h₂ h₃
      · rfl
      · simp only [Strategy.Candidate, Store.audience, Strategy.lists_ok, Store.mem_getD_map, hk]
        refine or_congr ⟨?_, ?_⟩ Iff.rfl
        · rintro ⟨⟨b, hb, hu⟩, hmentioned⟩
          exact ⟨b, hb, hu, fun card hcard hm => hmentioned ⟨card, hcard, hm⟩⟩
        · rintro ⟨b, hb, hu, hmentioned⟩
          refine ⟨⟨b, hb, hu⟩, ?_⟩
          rintro ⟨card, hcard, hm⟩
          exact hmentioned card hcard hm
      · rfl
      · simp only [Strategy.Candidate, Store.audience, Strategy.lists_ok, Store.mem_getD_map]

/-- The store answers whatever a strategy asks. -/
theorem failure?_audience (st : Strategy) (e : Event) (s : Store) :
    st.failure? e s.audience = none := by
  cases st with
  | comment =>
      simp only [Strategy.failure?, Store.audience]
      cases s.comments.find? e.eventable.id with
      | none => rfl
      | some c => rfl
  | boardWatchers | assignment | publication | quiet => rfl

/-- Whatever registrations a registry is made by, the last one for the kind and action of an event
decides, else the last one for the kind, else the fallback. By that strategy the recipients follow
from what the audience answers. Of the standard registry and the records of a store: candidates are
those whom the event concerns, and all of them are told, but the creator, unless the creator is the
system user. -/
theorem recipients_of_registrations {r : Registry} {fallback : Strategy}
    {registrations : List Registration} (h : Built r fallback registrations) (e : Event) :
    r.strategyFor e = chosen fallback registrations e ∧
      (∀ a, r.Tells (chosen fallback registrations e) e a) ∧
      ∀ s : Store, ∃ candidates users,
        (standard.strategyFor e).candidates e s.audience = .ok candidates ∧
        (∀ u, u ∈ candidates ↔ s.StandardCandidate e u) ∧
        standard.recipients e s.audience = .ok users ∧ users.Pairwise (· < ·) ∧
        ∀ u, u ∈ users ↔ u ≠ e.creator ∧ s.StandardCandidate e u ∧
          ∀ creator, s.users.find? e.creator = some creator → creator.role ≠ .system := by
  refine ⟨h.strategyFor_eq e, fun a => h.strategyFor_eq e ▸ tells_strategyFor r e a, fun s => ?_⟩
  have hcandidates := (standard.strategyFor e).candidates_spec e s.audience
  have hfailure := failure?_audience (standard.strategyFor e) e s
  rw [hfailure] at hcandidates
  obtain ⟨candidates, hfound, hmem⟩ := hcandidates
  have hconcerned : ∀ u, u ∈ candidates ↔ s.StandardCandidate e u :=
    fun u => (hmem u).trans (candidate_audience e s u)
  have hcreator : s.audience.findUser e.creator = .ok (s.users.find? e.creator) := rfl
  have htells := tells_strategyFor standard e s.audience
  by_cases hclosed : (standard.strategyFor e).Closed (s.users.find? e.creator)
  · refine ⟨candidates, [], hfound, hconcerned, htells.closed _ hcreator hclosed, .nil, fun u => ?_⟩
    simp only [List.not_mem_nil, false_iff]
    rintro ⟨-, hu, hmember⟩
    rcases hclosed with hquiet | ⟨creator, hknown, hsystem⟩
    · have hnobody := (candidate_audience e s u).2 hu
      rw [hquiet] at hnobody
      exact hnobody
    · exact hmember creator hknown hsystem
  · obtain ⟨users, hrecipients, hsorted, husers⟩ := htells.told _ hcreator hclosed hfailure
    refine ⟨candidates, users, hfound, hconcerned, hrecipients, hsorted, fun u => ?_⟩
    rw [husers, candidate_audience]
    refine and_congr_right fun _ => ⟨fun hu => ⟨hu, fun creator hknown hsystem => ?_⟩, And.left⟩
    exact hclosed (.inr ⟨creator, hknown, hsystem⟩)

/-- Closing is registered as quiet, and then anew as a publication. An assignee who is mentioned
hears of it, and the creator, who watches the board, does not. -/
theorem recipients_of_replaced_strategy :
    let quiet : Registration := .action .card Action.cardClosed .quiet
    let loud : Registration := .action .card Action.cardClosed .publication
    let r := (standard.register quiet).register loud
    let e : Event := ⟨⟨9⟩, ⟨8⟩, ⟨2⟩, ⟨1⟩, .card ⟨3⟩, Action.cardClosed, [], ⟨0, 0⟩⟩
    let card : Card := ⟨⟨3⟩, ⟨8⟩, ⟨2⟩, "plan", .closed, ⟨1⟩, [⟨6⟩, ⟨7⟩], [], [⟨6⟩], ⟨0, 0⟩, ⟨0, 0⟩⟩
    let s := ((Store.empty 10).addBoard ⟨⟨2⟩, ⟨8⟩, "ops", [⟨6⟩, ⟨5⟩, ⟨1⟩, ⟨5⟩]⟩).addCard card
    Built r .boardWatchers (standardRegistrations ++ [quiet] ++ [loud]) ∧
      r.strategyFor e = .publication ∧
      ∃ users, r.recipients e s.audience = .ok users ∧ users.Pairwise (· < ·) ∧
        ⟨6⟩ ∈ users ∧ ⟨1⟩ ∉ users := by
  intro quiet loud r e card s
  have hbuilt : Built r .boardWatchers (standardRegistrations ++ [quiet] ++ [loud]) :=
    (Built.standard.register quiet).register loud
  obtain ⟨hstrategy, htells, -⟩ := recipients_of_registrations hbuilt e
  have hchosen : chosen .boardWatchers (standardRegistrations ++ [quiet] ++ [loud]) e =
      .publication := by decide
  rw [hchosen] at hstrategy htells
  have hopen : ¬Strategy.publication.Closed none := by simp [Strategy.Closed]
  obtain ⟨users, hrecipients, hsorted, husers⟩ := (htells s.audience).told none rfl hopen rfl
  refine ⟨hbuilt, hstrategy, users, hrecipients, hsorted, ?_, ?_⟩
  · exact (husers _).2 ⟨by decide, .inr ⟨[⟨6⟩, ⟨7⟩], rfl, by decide⟩⟩
  · exact fun hm => ((husers _).1 hm).1 rfl

end Registry

end BoardActivity
