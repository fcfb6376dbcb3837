import BoardActivity.Narrative.Description
import BoardActivity.Store.Basic

/-!
# The activity feed

What happened on a board, told to a viewer: the listing of the board's events, each with its
description. Names are taken from the creators that the listing carries and from one look-up of all
users whom assignments name. A `FeedSource` is where the feed reads; each of its questions may fail.
-/

namespace BoardActivity

structure FeedSource where
  stats : Except Error QueueStats
  findBoard : Ident → Except Error (Option Board)
  listEvents : EventQuery → Except Error (List EventRecord)
  findUsers : List Ident → Except Error (List User)

def Store.feedSource (s : Store) : FeedSource where
  stats := .ok s.outbox.stats
  findBoard id := .ok (s.boards.find? id)
  listEvents q := .ok (s.listEvents q)
  findUsers ids := .ok (s.findUsers ids)

structure ActivityItem where
  id : Ident
  action : String
  description : String
  createdAt : Instant
deriving Repr, DecidableEq

namespace ActivityItem

/-- An event of a listing as told to a viewer. -/
def ofRecord (viewer : Ident) (names : Names) (r : EventRecord) : ActivityItem where
  id := r.event.id
  action := r.event.action
  description := r.event.describe viewer names (r.eventable.map EventableSummary.title)
  createdAt := r.event.createdAt

end ActivityItem

namespace FeedSource

/-- How many events a feed shows: a hundred where nothing else is said, a thousand at most. -/
def limitFor (limit : Option Nat) : Nat := min (max (limit.getD 100) 1) 1000

def namesFor (source : FeedSource) (records : List EventRecord) : Except Error Names := do
  let creators := Names.ofUsers (records.filterMap EventRecord.creator)
  let assignees := Ident.sortDistinct (records.flatMap fun r => r.event.assignees)
  let users ← source.findUsers assignees
  return users.foldl (fun names u => names.insert u.id u.name) creators

def activity (source : FeedSource) (board viewer : Ident) (limit : Option Nat) :
    Except Error (List ActivityItem) := do
  if (← source.findBoard board).isNone then throw (.notFound "board" board)
  let records ← source.listEvents ⟨.board board, .all, some (limitFor limit)⟩
  let names ← source.namesFor records
  return records.map (ActivityItem.ofRecord viewer names)

end FeedSource

end BoardActivity
