/-!
# Request targets

What a request names: a path and perhaps a query. A target is written as a path (`/health?x=1`), as
an absolute address (scheme, host and path), as a bare authority (`host:80`), which has no path, or
as `*`. A fragment is dropped. Characters that have to be escaped in a target make it invalid;
those beyond ASCII need no escape in paths and queries.
-/

namespace BoardActivity.Http

structure Target where
  path : List Char
  query : List Char
deriving Repr, DecidableEq

namespace Target

/-- The greatest size of a target, in bytes. -/
def maxBytes : Nat := 65534

def isPathChar (c : Char) : Bool :=
  c.toNat ≥ 0x80 || c == '!' || ('$' ≤ c && c ≤ ';') || c == '=' || ('@' ≤ c && c ≤ '_') ||
    ('a' ≤ c && c ≤ '~') || c == '"'

def isQueryChar (c : Char) : Bool :=
  c.toNat ≥ 0x80 || c == '!' || ('$' ≤ c && c ≤ ';') || c == '=' || ('?' ≤ c && c ≤ '~')

/-- A character that may stand in an authority without an escape. -/
def isAuthorityChar (c : Char) : Bool :=
  c.isAlphanum || c ∈ ['!', '$', '&', '\x27', '(', ')', '*', '+', ',', '-', '.', ':', ';', '=', '@',
    '[', ']', '_', '~']

def isSchemeChar (c : Char) : Bool := c.isAlphanum || c ∈ ['+', '-', '.', '~']

/-- A path with its query and fragment; an empty path is the root. -/
def readPath? (cs : List Char) : Option Target :=
  let path := cs.takeWhile fun c => c != '?' && c != '#'
  let query := match cs.drop path.length with
    | '?' :: rest => rest.takeWhile (· != '#')
    | _ => []
  if path.all isPathChar && query.all isQueryChar then
    some ⟨if path.isEmpty then ['/'] else path, query⟩
  else none

/-- What has been seen of an authority: colons, brackets and percent signs that belong to the host
or port. -/
structure AuthorityScan where
  colons : Nat
  opened : Bool
  closed : Bool
  percent : Bool

/-- The scan after one more character. What stands before an `@` belongs to user and password, what
stands in brackets to an address; neither counts for the rest. -/
def AuthorityScan.next? (s : AuthorityScan) (c : Char) : Option AuthorityScan :=
  match c with
  | ':' => if 8 ≤ s.colons then none else some { s with colons := s.colons + 1 }
  | '[' => if s.percent || s.opened then none else some { s with opened := true }
  | ']' =>
    if s.opened && !s.closed then some { s with colons := 0, closed := true, percent := false }
    else none
  | '@' => some { s with colons := 0, percent := false }
  | '%' => some { s with percent := true }
  | c => if isAuthorityChar c then some s else none

/-- An authority is well formed: brackets in pairs, one colon outside them, a host after an `@`. -/
def isAuthority (cs : List Char) : Bool :=
  match cs.foldlM AuthorityScan.next? ⟨0, false, false, false⟩ with
  | none => false
  | some s => s.opened == s.closed && s.colons ≤ 1 && cs.getLast? != some '@' && !s.percent

/-- What follows the scheme and `://` of an absolute address; a scheme has 64 characters at most. -/
inductive SchemeSplit where
  | absent
  | tooLong
  | after (rest : List Char)

def splitScheme (cs : List Char) : SchemeSplit :=
  let scheme := cs.takeWhile isSchemeChar
  match cs.drop scheme.length with
  | ':' :: '/' :: '/' :: rest => if 64 < scheme.length then .tooLong else .after rest
  | _ => .absent

def read? (s : String) : Option Target :=
  if maxBytes < s.utf8ByteSize then none
  else
    match s.toList with
    | [] => none
    | ['*'] => some ⟨['*'], []⟩
    | '/' :: cs => readPath? ('/' :: cs)
    | cs =>
      match splitScheme cs with
      | .tooLong => none
      | .absent => if isAuthority cs then some ⟨[], []⟩ else none
      | .after rest =>
        let authority := rest.takeWhile fun c => c != '/' && c != '?' && c != '#'
        if isAuthority authority && !authority.isEmpty then readPath? (rest.drop authority.length)
        else none

end Target

end BoardActivity.Http
