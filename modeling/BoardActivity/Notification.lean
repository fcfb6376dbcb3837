import BoardActivity.Ident
import BoardActivity.Time.Instant

/-!
# Notifications

A notification tells one user of one event; there is at most one for each pair.
-/

namespace BoardActivity

structure Notification where
  id : Ident
  user : Ident
  event : Ident
  creator : Ident
  createdAt : Instant
  readAt : Option Instant
deriving Repr, DecidableEq

namespace Notification

def isRead (n : Notification) : Bool := n.readAt.isSome

/-- The notification as read; the time of the first reading stays. -/
def read (n : Notification) (now : Instant) : Notification :=
  { n with readAt := some (n.readAt.getD now) }

end Notification

end BoardActivity
