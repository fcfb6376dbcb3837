import BoardActivity.Error
import BoardActivity.Text.Blank
import BoardActivity.Time.Instant

/-!
# Comments

A comment on a card, written by a member or generated by the system user. System comments tell of
events and cause none.
-/

namespace BoardActivity

structure Comment where
  id : Ident
  account : Ident
  board : Ident
  card : Ident
  creator : Ident
  body : String
  system : Bool
  mentionees : List Ident
  createdAt : Instant
deriving Repr, DecidableEq

namespace Comment

/-- A body without surrounding blanks, which must not be all there is. -/
def checkedBody (body : String) : Except Error String :=
  let body := Text.trim body
  if body.isEmpty then .error (.validation .blankCommentBody) else .ok body

end Comment

end BoardActivity
