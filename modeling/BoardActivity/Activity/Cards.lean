import BoardActivity.Activity.Tracker

/-!
# Operations on cards

What users do to cards. Each operation loads the card, changes it, records an event of it and
commits all of that at once, or fails and changes nothing. Drafts are changed without a record.
-/

namespace BoardActivity

namespace Cards

/-- A change of a card: what it becomes and the particulars of the event, or nothing to change. -/
abbrev Change := Card → Except Error (Option (Card × Particulars))

/-- Saves a changed card and records the event of the change. -/
def saveAndTrack (t : Tracker) (s : Store) (now : Instant) (c : Card) (verb : String)
    (particulars : Particulars) (creator : Ident) : Except Error (Card × Work) := do
  let w := Work.start s
  let tx ← w.tx.saveCard c
  let (_, w) ← (t.track s now (.ofCard c) verb particulars creator none { w with tx }).orDrop
  let c ← w.tx.loadCard s c.id
  return (c, w)

/-- Changes a card; the users of `members` must belong to its account. -/
def transition (t : Tracker) (s : Store) (now : Instant) (card creator : Ident) (verb : String)
    (members : List Ident) (change : Change) : Except Error Card × Store :=
  s.perform now do
    let w := Work.start s
    let c ← w.tx.loadCard s card
    s.requireMembers c.account "assignee" members
    match ← change c with
    | none => return (c, w)
    | some (c, particulars) => saveAndTrack t s now c verb particulars creator

def createDraft (s : Store) (now : Instant) (board creator : Ident) (title : String) :
    Except Error Card × Store :=
  s.perform now do
    let title ← Card.checkedTitle title
    let b ← s.loadBoard board
    let u ← s.loadUser creator
    if u.account ≠ b.account then throw (.validation .foreignCardCreator)
    let w := Work.start s
    let (id, supply) := w.supply.mint
    let c := Card.draft id b.account b.id u.id title now
    let tx ← w.tx.saveCard c
    return (c, ⟨tx, supply⟩)

/-- A change without particulars. -/
def plain (f : Card → Except Error Card) : Change := fun c => (f c).map fun c => some (c, [])

def publish (t : Tracker) (s : Store) (now : Instant) (card creator : Ident) :
    Except Error Card × Store :=
  transition t s now card creator "published" [] (plain Card.publish)

def close (t : Tracker) (s : Store) (now : Instant) (card creator : Ident) :
    Except Error Card × Store :=
  transition t s now card creator "closed" [] (plain Card.close)

def reopen (t : Tracker) (s : Store) (now : Instant) (card creator : Ident) :
    Except Error Card × Store :=
  transition t s now card creator "reopened" [] (plain Card.reopen)

def postpone (t : Tracker) (s : Store) (now : Instant) (card creator : Ident) :
    Except Error Card × Store :=
  transition t s now card creator "postponed" [] (plain Card.postpone)

/-- Assigns users who are not assigned yet; there must be one. -/
def assign (t : Tracker) (s : Store) (now : Instant) (card creator : Ident)
    (users : List Ident) : Except Error Card × Store :=
  transition t s now card creator "assigned" users fun c =>
    match c.toAssign users with
    | [] => .error (.validation .alreadyAssigned)
    | added => .ok (some (c.assign added, .ofAssignees added))

/-- Takes users off a card who are assigned; there must be one. -/
def unassign (t : Tracker) (s : Store) (now : Instant) (card creator : Ident)
    (users : List Ident) : Except Error Card × Store :=
  transition t s now card creator "unassigned" [] fun c =>
    match c.toUnassign users with
    | [] => .error (.validation .notAssigned)
    | removed => .ok (some (c.unassign removed, .ofAssignees removed))

/-- Gives a card another title; the title that it has changes nothing. -/
def rename (t : Tracker) (s : Store) (now : Instant) (card creator : Ident) (title : String) :
    Except Error Card × Store :=
  match Card.checkedTitle title with
  | .error e => (.error e, s)
  | .ok title =>
    transition t s now card creator "title_changed" [] fun c =>
      if c.title = title then .ok none
      else .ok (some ({ c with title }, .ofTitles c.title title))

/-- Moves a card to another board of its account. -/
def move (t : Tracker) (s : Store) (now : Instant) (card creator board : Ident) :
    Except Error Card × Store :=
  s.perform now do
    let w := Work.start s
    let c ← w.tx.loadCard s card
    if c.board = board then throw (.validation .alreadyOnBoard)
    let old ← s.loadBoard c.board
    let new ← s.loadBoard board
    if new.account ≠ c.account then throw (.validation .foreignBoard)
    saveAndTrack t s now { c with board := new.id } "board_changed" (.ofBoards old.name new.name)
      creator

end Cards

/-- The changes of a card that is on a board. -/
inductive CardOperation where
  | publish
  | close
  | reopen
  | postpone
  | assign (users : List Ident)
  | unassign (users : List Ident)
  | rename (title : String)
  | move (board : Ident)
deriving Repr, DecidableEq

namespace Cards

def perform (t : Tracker) (s : Store) (now : Instant) (card creator : Ident) :
    CardOperation → Except Error Card × Store
  | .publish => publish t s now card creator
  | .close => close t s now card creator
  | .reopen => reopen t s now card creator
  | .postpone => postpone t s now card creator
  | .assign users => assign t s now card creator users
  | .unassign users => unassign t s now card creator users
  | .rename title => rename t s now card creator title
  | .move board => move t s now card creator board

/-- Deletes a card with its comments, events and all that follows from them. -/
def destroy (s : Store) (now : Instant) (card : Ident) : Except Error Unit × Store :=
  s.perform now do
    let w := Work.start s
    match w.tx.deleteCard s card with
    | (true, tx) => return ((), { w with tx })
    | (false, _) => throw (.notFound "card" card)

end Cards

end BoardActivity
