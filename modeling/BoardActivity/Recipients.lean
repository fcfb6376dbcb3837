import BoardActivity.Card
import BoardActivity.Event

/-!
# Recipients of notifications

Who is told of an event. A `Strategy` names candidates, by asking an `Audience`; a `Registry` picks
the strategy for an event, by kind and action, else by kind, else a fallback. Of the candidates,
the creator of the event is left out, and the others are told in order of their identifiers, each
once. Nobody is told of what the system user does.
-/

namespace BoardActivity

/-- Whom an event concerns, as far as it is known; each question may fail. -/
structure Audience where
  boardWatchers : Ident → Except Error (List Ident)
  cardWatchers : Ident → Except Error (List Ident)
  cardAssignees : Ident → Except Error (List Ident)
  mentionees : EventableRef → Except Error (List Ident)
  /-- The card that a comment is on. -/
  commentCard : Ident → Except Error (Option Ident)
  findUser : Ident → Except Error (Option User)

/-- A way of naming candidates. -/
inductive Strategy where
  /-- Everyone who watches the board. -/
  | boardWatchers
  /-- The users whom the assignment names. -/
  | assignment
  /-- Watchers of the board who are not mentioned, and every assignee of the card. -/
  | publication
  /-- Watchers of the card who are not mentioned in the comment. -/
  | comment
  /-- Nobody. -/
  | quiet
deriving Repr, DecidableEq

namespace Strategy

def ofName? : String → Option Strategy
  | "board_watchers" => some boardWatchers
  | "assignment" => some assignment
  | "publication" => some publication
  | "comment" => some comment
  | "quiet" => some quiet
  | _ => none

/-- Anybody is told at all, given the creator as far as known. -/
def shouldNotify (s : Strategy) (creator : Option User) : Bool :=
  match s with
  | quiet => false
  | boardWatchers | assignment | publication | comment => !(creator.any User.isSystem)

/-- The candidates, with repetitions. -/
def candidates (s : Strategy) (e : Event) (audience : Audience) : Except Error (List Ident) :=
  match s with
  | boardWatchers => audience.boardWatchers e.board
  | assignment => .ok e.assignees
  | publication => do
    let mentioned ← audience.mentionees e.eventable
    let watchers ← audience.boardWatchers e.board
    let assignees ← audience.cardAssignees e.eventable.id
    return watchers.filter (fun u => u ∉ mentioned) ++ assignees
  | comment => do
    match ← audience.commentCard e.eventable.id with
    | none => return []
    | some card =>
      let mentioned ← audience.mentionees (.comment e.eventable.id)
      let watchers ← audience.cardWatchers card
      return watchers.filter fun u => u ∉ mentioned
  | quiet => .ok []

end Strategy

/-- Which strategy an event is told by; the first entry for a key counts. -/
structure Registry where
  byAction : List ((EventableKind × String) × Strategy)
  byKind : List (EventableKind × Strategy)
  fallback : Strategy
deriving Repr, DecidableEq

namespace Registry

/-- One strategy for all events. -/
def withFallback (fallback : Strategy) : Registry := ⟨[], [], fallback⟩

def registerAction (r : Registry) (kind : EventableKind) (action : String) (s : Strategy) :
    Registry :=
  { r with byAction := ((kind, action), s) :: r.byAction }

def registerKind (r : Registry) (kind : EventableKind) (s : Strategy) : Registry :=
  { r with byKind := (kind, s) :: r.byKind }

/-- Assignments, publications and comments have their strategies, new titles are quiet, and of all
else the board's watchers are told. -/
def standard : Registry :=
  (((withFallback .boardWatchers).registerAction .card Action.cardAssigned .assignment
    |>.registerAction .card Action.cardPublished .publication)
    |>.registerAction .card Action.cardTitleChanged .quiet)
    |>.registerKind .comment .comment

def strategyFor (r : Registry) (e : Event) : Strategy :=
  match r.byAction.lookup (e.eventable.kind, e.action) with
  | some s => s
  | none => (r.byKind.lookup e.eventable.kind).getD r.fallback

/-- The users to tell, in increasing order. -/
def recipients (r : Registry) (e : Event) (audience : Audience) : Except Error (List Ident) := do
  let s := r.strategyFor e
  let creator ← audience.findUser e.creator
  if s.shouldNotify creator then
    let users ← s.candidates e audience
    return Ident.sortDistinct (users.filter fun u => u != e.creator)
  else return []

end Registry

end BoardActivity
