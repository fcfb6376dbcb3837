/-!
# Request methods

What a request asks to be done with its target. A method is a nonempty token, in which letters
count with their case; the feed tells reading with and without the body from everything else.
-/

namespace BoardActivity.Http

/-- The methods that make a difference. -/
inductive Method where
  | get
  | head
  | other
deriving Repr, DecidableEq

namespace Method

def isTokenChar (c : Char) : Bool :=
  c.isAlphanum || c ∈ ['!', '#', '$', '%', '&', '\x27', '*', '+', '-', '.', '^', '_', '\x60', '|', '~']

def read? (s : String) : Option Method :=
  if s = "GET" then some .get
  else if s = "HEAD" then some .head
  else if s.toList ≠ [] ∧ s.toList.all isTokenChar then some .other
  else none

end Method

end BoardActivity.Http
