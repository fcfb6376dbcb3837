import BoardActivity.User

/-!
# Names of users

The table of names that a narrative is told with, and lists of words as English writes them.
-/

namespace BoardActivity

/-- Names by user; the first entry of a user counts. -/
structure Names where
  entries : List (Ident × String)
deriving Repr, DecidableEq

namespace Names

def empty : Names := ⟨[]⟩

/-- The name of a user whom the table does not know. -/
def unknown : String := "Someone"

/-- The table with an entry that supersedes earlier ones of the user. -/
def insert (names : Names) (user : Ident) (name : String) : Names :=
  ⟨(user, name) :: names.entries⟩

/-- The names of the users of a list, the last entry of a user superseding earlier ones. -/
def ofUsers (users : List User) : Names :=
  users.foldl (fun names u => names.insert u.id u.name) empty

def name (names : Names) (user : Ident) : String := (names.entries.lookup user).getD unknown

end Names

/-- Words as an English list: "A", "A and B", "A, B, and C". -/
def toSentence (words : List String) : String :=
  match words with
  | [] => ""
  | [word] => word
  | [first, second] => first ++ " and " ++ second
  | words => String.intercalate ", " words.dropLast ++ ", and " ++ words.getLastD ""

end BoardActivity
