import BoardActivity.Error
import BoardActivity.Text.Blank
import BoardActivity.Time.Instant

/-!
# Cards

The main thing that happens on a board. A card begins as a draft, known to its creator only, is
published, and is then closed, postponed and reopened. The changes here are pure: each says what
becomes of a card, and whether there was anything to change.
-/

namespace BoardActivity

inductive CardStatus where
  | drafted
  | published
  | closed
  | postponed
deriving Repr, DecidableEq

namespace CardStatus

def name : CardStatus → String
  | drafted => "drafted"
  | published => "published"
  | closed => "closed"
  | postponed => "postponed"

def ofName? : String → Option CardStatus
  | "drafted" => some drafted
  | "published" => some published
  | "closed" => some closed
  | "postponed" => some postponed
  | _ => none

def ofStored (s : String) : Except Error CardStatus :=
  match ofName? s with
  | some status => .ok status
  | none => .error (.store (.unknownCardStatus s))

end CardStatus

structure Card where
  id : Ident
  account : Ident
  board : Ident
  title : String
  status : CardStatus
  creator : Ident
  assignees : List Ident
  watchers : List Ident
  mentionees : List Ident
  lastActiveAt : Instant
  createdAt : Instant
deriving Repr, DecidableEq

namespace Card

/-- A new draft, watched by its creator. -/
def draft (id account board creator : Ident) (title : String) (now : Instant) : Card where
  id
  account
  board
  title
  status := .drafted
  creator
  assignees := []
  watchers := [creator]
  mentionees := []
  lastActiveAt := now
  createdAt := now

def isDraft (c : Card) : Bool := c.status == .drafted
def isClosed (c : Card) : Bool := c.status == .closed

/-- Adds a watcher who is not one already. -/
def watch (c : Card) (user : Ident) : Card :=
  if user ∈ c.watchers then c else { c with watchers := c.watchers ++ [user] }

/-- A title without surrounding blanks, which must not be all there is. -/
def checkedTitle (title : String) : Except Error String :=
  let title := Text.trim title
  if title.isEmpty then .error (.validation .blankCardTitle) else .ok title

/-- The card as published, unless it is no draft. -/
def publish (c : Card) : Except Error Card :=
  if c.isDraft then .ok { c with status := .published }
  else .error (.validation .alreadyPublished)

/-- The card as closed. Drafts cannot be closed. -/
def close (c : Card) : Except Error Card :=
  match c.status with
  | .closed => .error (.validation .alreadyClosed)
  | .drafted => .error (.validation .closedDraft)
  | .published | .postponed => .ok { c with status := .closed }

/-- The card as published again, after it was closed or postponed. -/
def reopen (c : Card) : Except Error Card :=
  match c.status with
  | .closed | .postponed => .ok { c with status := .published }
  | .published | .drafted => .error (.validation .notClosedOrPostponed)

/-- The card as postponed. Drafts cannot be postponed. -/
def postpone (c : Card) : Except Error Card :=
  match c.status with
  | .postponed => .error (.validation .alreadyPostponed)
  | .drafted => .error (.validation .postponedDraft)
  | .published | .closed => .ok { c with status := .postponed }

end Card

/-- Identifiers in increasing order, each once. -/
def Ident.sortDistinct (ids : List Ident) : List Ident :=
  (ids.mergeSort fun a b => decide (a ≤ b)).eraseReps

namespace Card

/-- The users of a list who are not assigned yet, in order, each once. -/
def toAssign (c : Card) (users : List Ident) : List Ident :=
  Ident.sortDistinct (users.filter fun u => u ∉ c.assignees)

/-- The users of a list who are assigned, in order, each once. -/
def toUnassign (c : Card) (users : List Ident) : List Ident :=
  Ident.sortDistinct (users.filter fun u => u ∈ c.assignees)

/-- The card with further assignees, who watch it from then on. -/
def assign (c : Card) (added : List Ident) : Card :=
  added.foldl (fun c u => ({ c with assignees := c.assignees ++ [u] } : Card).watch u) c

/-- The card without some of its assignees. -/
def unassign (c : Card) (removed : List Ident) : Card :=
  { c with assignees := c.assignees.filter fun u => u ∉ removed }

end Card

end BoardActivity
