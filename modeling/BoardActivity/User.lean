import BoardActivity.Ident

/-!
# Users

A user belongs to exactly one account. Each account has a system user, who writes the comments
that the program generates; every other user is a member.
-/

namespace BoardActivity

inductive UserRole where
  | member
  | system
deriving Repr, DecidableEq

namespace UserRole

def name : UserRole → String
  | member => "member"
  | system => "system"

def ofName? : String → Option UserRole
  | "member" => some member
  | "system" => some system
  | _ => none

/-- The role stored under a name; an unknown name is a member's. -/
def ofStored (s : String) : UserRole := if s = "system" then system else member

end UserRole

structure User where
  id : Ident
  account : Ident
  name : String
  role : UserRole
deriving Repr, DecidableEq

namespace User

def isSystem (u : User) : Bool := u.role == .system

def newMember (id account : Ident) (name : String) : User := ⟨id, account, name, .member⟩

def newSystem (id account : Ident) : User := ⟨id, account, "System", .system⟩

end User

end BoardActivity
