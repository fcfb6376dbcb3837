import BoardActivity.Url.Host

/-!
# URLs

Reading a URL as browsers do, as far as its acceptance and its scheme go. Control characters and
spaces around the text are dropped, tabs and line breaks anywhere. The scheme decides how the rest
is read: `http`, `https`, `ws`, `wss` and `ftp` always have a host, whatever slashes stand before
it and with a backslash as good as a slash; `file` may have one after two slashes; any other scheme
has one only after `//`, and then an opaque one. Paths, queries and fragments are never refused.
-/

namespace BoardActivity.Url

/-- How the part after the scheme is read. -/
inductive SchemeKind where
  | special
  | file
  | other
deriving Repr, DecidableEq

def SchemeKind.of (scheme : String) : SchemeKind :=
  if scheme ∈ ["http", "https", "ws", "wss", "ftp"] then .special
  else if scheme = "file" then .file
  else .other

/-- The text without control characters and spaces at its ends and without tabs and line breaks. -/
def clean (text : String) : List Char :=
  let isEdge := fun c : Char => c.toNat ≤ 0x20
  let cs := ((text.toList.dropWhile isEdge).reverse.dropWhile isEdge).reverse
  cs.filter fun c => c != '\t' && c != '\n' && c != '\r'

/-- The scheme in lower case, and what follows its colon. -/
def takeScheme? (cs : List Char) : Option (String × List Char) :=
  let isSchemeChar := fun c : Char => c.isAlphanum || c == '+' || c == '-' || c == '.'
  if cs.head?.any Char.isAlpha then
    match cs.dropWhile isSchemeChar with
    | ':' :: rest => some (String.ofList ((cs.takeWhile isSchemeChar).map Char.toLower), rest)
    | _ => none
  else none

/-- The characters up to the end of the authority. -/
def authorityOf (special : Bool) (cs : List Char) : List Char :=
  cs.takeWhile fun c => !(c == '/' || c == '?' || c == '#' || (special && c == '\\'))

/-- The part after the last `@`, if there is one, and the part before it. -/
def splitUserInfo (authority : List Char) : Option (List Char) × List Char :=
  let host := (authority.reverse.takeWhile (· != '@')).reverse
  if host.length = authority.length then (none, authority)
  else (some (authority.take (authority.length - host.length - 1)), host)

/-- The host up to a colon outside brackets, and what follows. -/
def splitHost (inBrackets : Bool) : List Char → List Char × List Char
  | [] => ([], [])
  | c :: cs =>
    if c = ':' ∧ ¬ inBrackets then ([], c :: cs)
    else
      let inside := c == '[' || (inBrackets && c != ']')
      let (host, rest) := splitHost inside cs
      (c :: host, rest)

/-- The digits after the colon are a port below `2 ^ 16`, or there are none; a backslash ends
them. -/
def checkPort (cs : List Char) : Except Failure Unit :=
  let cs := cs.takeWhile (· != '\\')
  match Text.continueNumber 10 Text.digit? 0 cs with
  | some n => if n < 65536 then .ok () else .error .port
  | none => .error .port

/-- User and password stand before the host, and something is left of them when they are written:
a lone colon is not. -/
def hasCredentials (userInfo : Option (List Char)) : Bool :=
  match userInfo with
  | none => false
  | some cs => !(cs.isEmpty || cs == [':'])

/-- The authority of a URL that is not a file. -/
def checkAuthority (kind : SchemeKind) (cs : List Char) : Except Failure Unit :=
  let special := kind == .special
  let authority := authorityOf special cs
  let (userInfo, hostAndPort) := splitUserInfo authority
  let (host, port) := splitHost false hostAndPort
  let checkedHost := if special then Host.check host else Host.checkOpaque host
  if userInfo = some [] ∧ hostAndPort.isEmpty ∧ authority.length < cs.length then
    .error .emptyHost
  else if special ∧ host.isEmpty then .error .emptyHost
  else
    match checkedHost with
    | .error failure => .error failure
    | .ok () =>
      if host.isEmpty ∧ (!port.isEmpty ∨ hasCredentials userInfo) then .error .emptyHost
      else
        match port with
        | _ :: digits => checkPort digits
        | [] => .ok ()

/-- A drive letter with its colon or bar, which is no host. -/
def isDriveLetter : List Char → Bool
  | [c, d] => c.isAlpha && (d == ':' || d == '|')
  | _ => false

/-- The host of a file URL, after two slashes. -/
def checkFile (cs : List Char) : Except Failure Unit :=
  let isSlash := fun c : Char => c == '/' || c == '\\'
  match cs with
  | a :: b :: rest =>
    if isSlash a ∧ isSlash b then
      let host := rest.takeWhile fun c => !(isSlash c || c == '?' || c == '#')
      if host.isEmpty ∨ isDriveLetter host then .ok () else Host.check host
    else .ok ()
  | _ => .ok ()

/-- The scheme of a URL in lower case, or why the text is no URL. -/
def scheme (text : String) : Except Failure String :=
  match takeScheme? (clean text) with
  | none => .error .relative
  | some (scheme, rest) =>
    let checked := match SchemeKind.of scheme with
      | .special => checkAuthority .special (rest.dropWhile fun c => c == '/' || c == '\\')
      | .file => checkFile rest
      | .other =>
        match rest with
        | '/' :: '/' :: rest => checkAuthority .other rest
        | _ => .ok ()
    match checked with
    | .ok () => .ok scheme
    | .error failure => .error failure

end BoardActivity.Url
