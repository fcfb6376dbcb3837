import BoardActivity.Card
import BoardActivity.Comment
import BoardActivity.Event
import BoardActivity.Names

/-!
# System comments

The sentences that the system user writes on a card when something happens to it. A `Commenter`
holds a renderer for each action that is told; a renderer may find nothing to tell. Only the users
of `Event.referencedUsers` are named.
-/

namespace BoardActivity

/-- Users whom a narrative of the event may name: its creator and the users of an assignment. -/
def Event.referencedUsers (e : Event) : List Ident := Ident.sortDistinct (e.creator :: e.assignees)

/-- The sentence for an event, if there is something to tell. -/
abbrev Renderer := Event → Names → Option String

/-- The actions that are told, each with its renderer. -/
structure Commenter where
  renderers : List (String × Renderer)

namespace Commenter

def silent : Commenter := ⟨[]⟩

def renderAssigned : Renderer := fun e names =>
  match e.assignees with
  | [] => none
  | users =>
    some (names.name e.creator ++ " assigned this to " ++ toSentence (users.map names.name) ++ ".")

def renderUnassigned : Renderer := fun e names =>
  match e.assignees with
  | [] => none
  | users =>
    some (names.name e.creator ++ " unassigned " ++ toSentence (users.map names.name) ++ ".")

def renderAct (act : String) : Renderer := fun e names => some (names.name e.creator ++ act)

def renderTitleChanged : Renderer := fun e names =>
  match e.particulars.text? "old_title", e.particulars.text? "new_title" with
  | some old, some new =>
    some (names.name e.creator ++ " changed the title from \"" ++ old ++ "\" to \"" ++ new ++
      "\".")
  | _, _ => none

def renderBoardChanged : Renderer := fun e names =>
  match e.particulars.text? "old_board", e.particulars.text? "new_board" with
  | some old, some new =>
    some (names.name e.creator ++ " moved this from " ++ old ++ " to " ++ new ++ ".")
  | _, _ => none

/-- Assignments, changes of status and changes of title and board are told. -/
def standard : Commenter where
  renderers :=
    [(Action.cardAssigned, renderAssigned),
     (Action.cardUnassigned, renderUnassigned),
     (Action.cardClosed, renderAct " moved this to Done."),
     (Action.cardReopened, renderAct " reopened this."),
     (Action.cardPostponed, renderAct " moved this to Not Now."),
     (Action.cardTitleChanged, renderTitleChanged),
     (Action.cardBoardChanged, renderBoardChanged)]

def handles (c : Commenter) (action : String) : Bool := (c.renderers.lookup action).isSome

/-- The sentence for an event, if its action is told and there is something to tell. -/
def render (c : Commenter) : Renderer := fun e names =>
  (c.renderers.lookup e.action).bind fun r => r e names

/-- The comment that the author writes on a card about an event, dated like the event. -/
def commentFor (c : Commenter) (e : Event) (id card : Ident) (names : Names) (author : User) :
    Option Comment :=
  (c.render e names).map fun body =>
    ⟨id, e.account, e.board, card, author.id, body, true, [], e.createdAt⟩

end Commenter

end BoardActivity
