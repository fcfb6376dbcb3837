import BoardActivity.Event
import BoardActivity.Names

/-!
# Descriptions of events

The line that a feed shows for an event. It is written for one viewer, who reads "You" and "you"
where others read the viewer's name.
-/

namespace BoardActivity.Event

/-- The card or comment: the title in quotes, or what kind of thing it is. -/
def entityLabel (e : Event) (title : Option String) : String :=
  match title, e.eventable.kind with
  | some title, _ => "\"" ++ title ++ "\""
  | none, .card => "a card"
  | none, .comment => "a comment"

def subjects (e : Event) (viewer : Ident) (names : Names) : String :=
  match e.assignees.map fun u => if u = viewer then "you" else names.name u with
  | [] => "nobody"
  | words => toSentence words

def describeAct (e : Event) (viewer : Ident) (names : Names) (title : Option String) : String :=
  let entity := e.entityLabel title
  match e.eventable.kind, e.verb with
  | .card, "published" => "added " ++ entity
  | .card, "assigned" => "assigned " ++ e.subjects viewer names ++ " to " ++ entity
  | .card, "unassigned" => "unassigned " ++ e.subjects viewer names ++ " from " ++ entity
  | .card, "closed" => "moved " ++ entity ++ " to Done"
  | .card, "reopened" => "reopened " ++ entity
  | .card, "postponed" => "moved " ++ entity ++ " to Not Now"
  | .card, "title_changed" =>
    match e.particulars.text? "old_title", e.particulars.text? "new_title" with
    | some old, some new => "renamed \"" ++ old ++ "\" to \"" ++ new ++ "\""
    | _, _ => "renamed " ++ entity
  | .card, "board_changed" =>
    match e.particulars.text? "new_board" with
    | some board => "moved " ++ entity ++ " to " ++ board
    | none => "moved " ++ entity
  | .comment, "created" => "commented on " ++ entity
  | _, _ => "updated " ++ entity

/-- The event as told to a viewer; `title` is the title of the card that it is about. -/
def describe (e : Event) (viewer : Ident) (names : Names) (title : Option String) : String :=
  (if e.creator = viewer then "You" else names.name e.creator) ++ " " ++
    e.describeAct viewer names title

end BoardActivity.Event
