import BoardActivity.Activity.Tracker

/-!
# Writing comments

A comment and its event are committed at once, or nothing is.
-/

namespace BoardActivity.Comments

/-- Adds a comment to a card. The creator and the users mentioned belong to the card's account. -/
def create (t : Tracker) (s : Store) (now : Instant) (card creator : Ident) (body : String)
    (mentionees : List Ident) : Except Error Comment × Store :=
  s.perform now do
    let body ← Comment.checkedBody body
    let w := Work.start s
    let c ← w.tx.loadCard s card
    let u ← s.loadUser creator
    if u.account ≠ c.account then throw (.validation .foreignCommentCreator)
    s.requireMembers c.account "mentionee" mentionees
    let (id, supply) := w.supply.mint
    let comment : Comment :=
      ⟨id, c.account, c.board, c.id, u.id, body, u.isSystem, mentionees, now⟩
    let tx ← w.tx.insertComment s comment
    let (_, w) ← (t.track s now (.ofComment comment) "created" [] u.id none ⟨tx, supply⟩).orDrop
    return (comment, w)

end BoardActivity.Comments
