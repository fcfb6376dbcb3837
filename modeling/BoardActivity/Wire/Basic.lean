import BoardActivity.Ident
import BoardActivity.Json.Basic
import BoardActivity.Time.Timestamp

/-!
# Wire forms

How values are written as JSON and read back. A `Wire` instance is a pair of functions; reading is
`none` on anything that is not a value of the type. This module holds the class and the forms of
texts, flags, identifiers, instants, lists and spans.

A record is written as an object with all its members. It is read from an object, whose unknown
members are ignored, or from an array of its members in order (`Json.record?`). A constant is
written as its name, and is also read from an object with that name alone, holding null.
-/

namespace BoardActivity

/-- Values with a JSON form. -/
class Wire (α : Type) where
  encode : α → Json
  decode? : Json → Option α

namespace Wire

instance : Wire String := ⟨.string, Json.string?⟩
instance : Wire Bool := ⟨.bool, Json.bool?⟩
instance : Wire Ident := ⟨fun u => .string u.text, fun j => j.string?.bind Ident.read?⟩
instance : Wire Instant := ⟨fun t => .string t.text, fun j => j.string?.bind Time.read?⟩
instance [Wire α] : Wire (List α) := ⟨fun as => .array (as.map encode), Json.items? decode?⟩

/-- A span as whole milliseconds; a fraction of a millisecond is dropped. What is read is below
`2 ^ 64`. A span of more milliseconds, which no reading gives, is written in full here, not modulo
`2 ^ 64` as a 64-bit count of them would be. -/
instance : Wire Span :=
  ⟨fun d => .ofNat d.millis, fun j => (j.below? (pow2 64)).map Span.ofMillis⟩

def encodeOption [Wire α] (a : Option α) : Json := Json.ofOption encode a

end Wire

namespace Json

/-- The members of a record: an object as it is, or an array with the members in the order of their
names, of which the first `least` must be there. -/
def record? (names : List String) (least : Nat) : Json → Option Json
  | object members => some (object members)
  | array items =>
    if least ≤ items.length ∧ items.length ≤ names.length then some (object (names.zip items))
    else none
  | _ => none

/-- A required member with a wire form. -/
def field (name : String) [Wire α] (j : Json) : Option α := j.required name Wire.decode?

def constant? : Json → Option String
  | string s => some s
  | object [(name, null)] => some name
  | _ => none

end Json

end BoardActivity
