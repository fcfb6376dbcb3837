import BoardActivity.Text.Composed
import BoardActivity.Text.Percent
import BoardActivity.Url.Direction
import BoardActivity.Url.Failure
import BoardActivity.Url.Joiner
import BoardActivity.Url.NameCharacter
import BoardActivity.Url.Punycode

/-!
# Domain names

Bringing the name of a host into its ASCII form, as far as acceptance of a URL depends on it. The
name is percent-decoded and must then be UTF-8. Its characters are folded and composed; what remains
may hold no character that is forbidden in names. A label begins with no mark and has joiners only
where they fit, labels with `xn--` encode such a label, and labels of a name with text from right to
left keep to one direction each.
-/

namespace BoardActivity.Url.Domain

open Text

/-- The greatest number of characters that may follow `xn--`. -/
def maxEncoded : Nat := 2000

/-- The greatest number of characters of a label with characters outside ASCII. -/
def maxInternational : Nat := 1000

/-- A folded label that begins with no mark, has joiners only where they fit, and is not too long
to be encoded. -/
def isLabel (cs : List Char) : Bool :=
  cs.all NameCharacter.isAllowed && !(cs.head?.any isMark) && Joiner.allFit [] cs &&
    (cs.all (fun c => c.toNat < 0x80) || cs.length ≤ maxInternational)

/-- The label that stands after `xn--`: it has characters outside ASCII, and folding and composing
leave it as it is. -/
def decodeLabel? (cs : List Char) : Option (List Char) :=
  if cs.length ≤ maxEncoded then
    (Punycode.decode? cs).filter fun decoded =>
      decoded.any (fun c => 0x80 ≤ c.toNat) && decoded.all NameCharacter.isFolded &&
        composed decoded == decoded && isLabel decoded
  else none

/-- What a folded label reads as: itself, or after `xn--` the label that the rest encodes. -/
def readLabel? (cs : List Char) : Option (List Char) :=
  match cs with
  | 'x' :: 'n' :: '-' :: '-' :: rest => decodeLabel? rest
  | cs => if isLabel cs then some cs else none

/-- The folded labels of a percent-encoded name, if every one is acceptable. -/
def labels (name : String) : Except Failure (List (List Char)) :=
  match Text.unescape? name with
  | none => .error .internationalName
  | some decoded =>
    let labels := (composed (decoded.toList.flatMap NameCharacter.fold)).splitOn '.'
    match labels.mapM readLabel? with
    | some read => if Direction.areConsistent read then .ok labels else .error .internationalName
    | none => .error .internationalName

end BoardActivity.Url.Domain
