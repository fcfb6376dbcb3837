import BoardActivity.Board
import BoardActivity.Error
import BoardActivity.Json.Basic
import BoardActivity.User

/-!
# Events

The record of one change of a card or a comment: who did it, on which board, and an action such as
`card_closed`, the kind of thing changed and a verb. What an action needs to be told later stands
in its particulars, a JSON object. An event is written once, together with the change, and never
altered.

`sortChronologically` is the order of every listing: by time, and at one time the greater
identifier first.
-/

namespace BoardActivity

/-- The kinds of things that events are about. -/
inductive EventableKind where
  | card
  | comment
deriving Repr, DecidableEq

namespace EventableKind

def name : EventableKind → String
  | card => "card"
  | comment => "comment"

def ofName? : String → Option EventableKind
  | "card" => some card
  | "comment" => some comment
  | _ => none

def ofStored (s : String) : Except Error EventableKind :=
  match ofName? s with
  | some kind => .ok kind
  | none => .error (.validation (.unknownEventableKind s))

end EventableKind

/-- The card or comment that an event is about. -/
structure EventableRef where
  kind : EventableKind
  id : Ident
deriving Repr, DecidableEq

namespace EventableRef

def card (id : Ident) : EventableRef := ⟨.card, id⟩
def comment (id : Ident) : EventableRef := ⟨.comment, id⟩

end EventableRef

/-- What has to be known about an action beside who did it to what. -/
abbrev Particulars := List (String × Json)

structure Event where
  id : Ident
  account : Ident
  board : Ident
  creator : Ident
  eventable : EventableRef
  action : String
  particulars : Particulars
  createdAt : Instant
deriving Repr, DecidableEq

namespace Action

def cardPublished := "card_published"
def cardAssigned := "card_assigned"
def cardUnassigned := "card_unassigned"
def cardClosed := "card_closed"
def cardReopened := "card_reopened"
def cardPostponed := "card_postponed"
def cardTitleChanged := "card_title_changed"
def cardBoardChanged := "card_board_changed"
def commentCreated := "comment_created"

/-- The actions that may ever reach an external endpoint. -/
def permitted : List String :=
  [cardAssigned, cardBoardChanged, cardClosed, cardPostponed, cardPublished, cardReopened,
   cardTitleChanged, cardUnassigned, commentCreated]

end Action

namespace Particulars

/-- The identifiers in a list of texts; items that are no identifier are skipped. -/
def ids (p : Particulars) (key : String) : List Ident :=
  match p.lookup key with
  | some (.array items) => items.filterMap fun item => item.string?.bind Ident.read?
  | _ => []

def text? (p : Particulars) (key : String) : Option String :=
  (p.lookup key).bind Json.string?

/-- Particulars that name the users of an assignment. -/
def ofAssignees (users : List Ident) : Particulars :=
  [("assignee_ids", .array (users.map fun u => .string u.text))]

def ofTitles (old new : String) : Particulars :=
  [("new_title", .string new), ("old_title", .string old)]

/-- Particulars of a move between boards, with their names. -/
def ofBoards (old new : String) : Particulars :=
  [("new_board", .string new), ("old_board", .string old)]

end Particulars

namespace Event

/-- The action without the kind of thing and the underscore after it, if it begins with them. -/
def verb (e : Event) : String :=
  let head := e.eventable.kind.name.toList ++ ['_']
  let cs := e.action.toList
  if head.isPrefixOf cs then String.ofList (cs.drop head.length) else e.action

def assignees (e : Event) : List Ident := e.particulars.ids "assignee_ids"

/-- Earlier events first; of two at one time, the one with the greater identifier. -/
def precedes (a b : Event) : Bool :=
  a.createdAt.before b.createdAt || (a.createdAt == b.createdAt && decide (b.id ≤ a.id))

/-- A listing in its fixed order. -/
def sortChronologically (events : List Event) : List Event := events.mergeSort precedes

end Event

/-- Which events a listing is about. -/
inductive EventScope where
  | account (id : Ident)
  | board (id : Ident)
  | eventable (ref : EventableRef)
deriving Repr, DecidableEq

namespace EventScope

def contains (s : EventScope) (e : Event) : Bool :=
  match s with
  | account id => e.account == id
  | board id => e.board == id
  | eventable ref => e.eventable == ref

end EventScope

/-- The related records that a listing carries with each event. -/
structure Preload where
  creator : Bool
  board : Bool
  eventable : Bool
deriving Repr, DecidableEq

namespace Preload

def none : Preload := ⟨false, false, false⟩
def all : Preload := ⟨true, true, true⟩

/-- The preload with one more kind of record, by its name. -/
def withNamed? (p : Preload) : String → Option Preload
  | "creator" => some { p with creator := true }
  | "board" => some { p with board := true }
  | "eventable" => some { p with eventable := true }
  | _ => Option.none

end Preload

/-- A listing: which events, what to carry with them, and how many at most. -/
structure EventQuery where
  scope : EventScope
  preload : Preload
  limit : Option Nat
deriving Repr, DecidableEq

/-- What is shown of a card or comment: its title, or that of the card commented on. -/
structure EventableSummary where
  eventable : EventableRef
  title : String
deriving Repr, DecidableEq

/-- An event of a listing with the records that it was asked to carry. -/
structure EventRecord where
  event : Event
  creator : Option User
  board : Option Board
  eventable : Option EventableSummary
deriving Repr, DecidableEq

end BoardActivity
