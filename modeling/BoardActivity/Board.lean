import BoardActivity.Ident

/-!
# Boards

A board belongs to an account and has watchers, who are told about events on it.
-/

namespace BoardActivity

structure Board where
  id : Ident
  account : Ident
  name : String
  watchers : List Ident
deriving Repr, DecidableEq

end BoardActivity
