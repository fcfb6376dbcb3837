import BoardActivity.Feed.Basic
import BoardActivity.Http.Form
import BoardActivity.Http.Method
import BoardActivity.Http.Target
import BoardActivity.Wire.Records

/-!
# Routes of the feed

The answers to HTTP requests. There are two routes, `/health` with the counters of the outbox and
`/boards/BOARD/events?viewer_id=USER` with the feed of a board. A path or query that cannot be read
is refused (400) before anything is looked up. Routes are read with GET; HEAD is answered the same,
without the body.
-/

namespace BoardActivity

/-- An answer: a status, and a JSON body if there is one. -/
structure Response where
  status : Nat
  body : Option Json
deriving Repr, DecidableEq

inductive Route where
  | health
  /-- The events of a board, which is named by a nonempty segment of the path. -/
  | boardEvents (segment : List Char)
deriving Repr, DecidableEq

namespace Route

def ofPath? (path : List Char) : Option Route :=
  match (path.splitOn '/').map String.ofList with
  | ["", "health"] => some .health
  | ["", "boards", segment, "events"] =>
    if segment.isEmpty then none else some (.boardEvents segment.toList)
  | _ => none

end Route

namespace Feed

open Wire

/-- The counters of the outbox, of a worker that is well. -/
def healthBody (s : QueueStats) : Json := .object
  [("status", .string "ok"), ("pending", .ofNat s.pending), ("claimed", .ofNat s.claimed),
   ("dead", .ofNat s.dead)]

def itemBody (item : ActivityItem) : Json := .object
  [("id", encode item.id), ("action", encode item.action),
   ("description", encode item.description), ("created_at", encode item.createdAt)]

def activityBody (items : List ActivityItem) : Json := .object [("data", .array (items.map itemBody))]

/-- The status that an error is answered with. -/
def errorStatus : Error → Nat
  | .validation _ => 400
  | .notFound _ _ => 404
  | _ => 500

def respond (body : α → Json) : Except Error α → Response
  | .ok a => ⟨200, some (body a)⟩
  | .error e => ⟨errorStatus e, some (.object [("error", .string e.message)])⟩

/-- The viewer and limit that a query asks for. -/
def readQuery? (query : List Char) : Option (Ident × Option Nat) :=
  let fields := Http.formFields query
  match Http.formValue? "viewer_id" Ident.read? fields,
      Http.formValue? "limit" (Text.readUnsigned? (pow2 64)) fields with
  | some (some viewer), some limit => some (viewer, limit)
  | _, _ => none

def answer (source : FeedSource) (query : List Char) : Route → Response
  | .health => respond healthBody source.stats
  | .boardEvents segment =>
    match (Http.segmentText? segment).bind Ident.read?, readQuery? query with
    | some board, some (viewer, limit) => respond activityBody (source.activity board viewer limit)
    | _, _ => ⟨400, none⟩

def handle (source : FeedSource) (method : Http.Method) (target : Http.Target) : Response :=
  match Route.ofPath? target.path with
  | none => ⟨404, none⟩
  | some route =>
    match method with
    | .get => answer source target.query route
    | .head => { answer source target.query route with body := none }
    | .other => ⟨405, none⟩

end Feed

end BoardActivity
