import BoardActivity.Power
import BoardActivity.Time.Calendar

/-!
# Instants and spans

A `Span` is a length of time in whole nanoseconds, never negative. An `Instant` is a second of
civil time and a number of nanoseconds within it; a leap second belongs to the second before it,
whose nanoseconds then run on from `10 ^ 9`. Instants are ordered by second, then by nanosecond.

`Instant.shift?` moves an instant by a signed number of nanoseconds and fails outside the calendar
that timestamps can carry. `Instant.since` is the signed distance between two instants; a leap
second that lies between two times of day is counted.
-/

namespace BoardActivity

/-- A length of time in nanoseconds. -/
structure Span where
  nanoseconds : Nat
deriving Repr, DecidableEq, Inhabited

namespace Span

def zero : Span := ⟨0⟩
def ofMillis (n : Nat) : Span := ⟨n * 1000000⟩
def ofSeconds (n : Nat) : Span := ⟨n * 1000000000⟩

def millis (d : Span) : Nat := d.nanoseconds / 1000000

instance : LE Span := ⟨fun a b => a.nanoseconds ≤ b.nanoseconds⟩
instance : LT Span := ⟨fun a b => a.nanoseconds < b.nanoseconds⟩
instance (a b : Span) : Decidable (a ≤ b) :=
  inferInstanceAs (Decidable (a.nanoseconds ≤ b.nanoseconds))
instance (a b : Span) : Decidable (a < b) :=
  inferInstanceAs (Decidable (a.nanoseconds < b.nanoseconds))

def min (a b : Span) : Span := ⟨Nat.min a.nanoseconds b.nanoseconds⟩
def max (a b : Span) : Span := ⟨Nat.max a.nanoseconds b.nanoseconds⟩

/-- The largest offset between instants, in nanoseconds: `2 ^ 63 - 1` milliseconds. -/
def offsetLimit : Nat := (pow2 63 - 1) * 1000000

/-- The span as an offset between instants; a span beyond `offsetLimit` counts as none at all. -/
def toOffset (d : Span) : Int := if d.nanoseconds ≤ offsetLimit then d.nanoseconds else 0

end Span

structure Instant where
  /-- The second of civil time, counted from 1970-01-01T00:00:00Z. -/
  seconds : Int
  /-- Nanoseconds within the second, `10 ^ 9` or more inside a leap second. -/
  nanos : Nat
deriving Repr, DecidableEq, Inhabited

namespace Instant

/-- Earlier by second, then by nanosecond. -/
def before (a b : Instant) : Bool :=
  a.seconds < b.seconds || (a.seconds == b.seconds && a.nanos < b.nanos)

instance : LT Instant := ⟨fun a b => a.before b = true⟩
instance : LE Instant := ⟨fun a b => b.before a = false⟩
instance (a b : Instant) : Decidable (a < b) := inferInstanceAs (Decidable (a.before b = true))
instance (a b : Instant) : Decidable (a ≤ b) := inferInstanceAs (Decidable (b.before a = false))

/-- The first year of the calendar that timestamps can carry. -/
def firstYear : Int := -262143

/-- The last year of the calendar that timestamps can carry. -/
def lastYear : Int := 262142

/-- The first second of the calendar that timestamps can carry. -/
def firstSecond : Int := Time.Date.toDays ⟨firstYear, 1, 1⟩ * 86400

/-- The last second of the calendar that timestamps can carry. -/
def lastSecond : Int := Time.Date.toDays ⟨lastYear, 12, 31⟩ * 86400 + 86399

def inCalendar (t : Instant) : Bool := firstSecond ≤ t.seconds && t.seconds ≤ lastSecond

/-- The nanoseconds carried into the second, when they are negative or a whole second. -/
private def carry (seconds nanos : Int) : Instant :=
  ⟨seconds + nanos / 1000000000, (nanos % 1000000000).toNat⟩

/-- The instant `ns` nanoseconds later. A move within a leap second stays in it; a move out of it
counts the leap second as the second that it belongs to. -/
def shift (t : Instant) (ns : Int) : Instant :=
  let whole := ns.tdiv 1000000000
  let part := ns.tmod 1000000000
  if 1000000000 ≤ t.nanos then
    if 0 < whole ∨ (0 < part ∧ 2000000000 ≤ t.nanos + part) then
      carry (t.seconds + whole) (t.nanos - 1000000000 + part)
    else if whole < 0 then carry (t.seconds + 1 + whole) (t.nanos - 1000000000 + part)
    else ⟨t.seconds, (t.nanos + part).toNat⟩
  else carry (t.seconds + whole) (t.nanos + part)

/-- The instant `ns` nanoseconds later, if the calendar has it. -/
def shift? (t : Instant) (ns : Int) : Option Instant :=
  let u := t.shift ns
  if u.inCalendar then some u else none

def secondOfDay (t : Instant) : Int := t.seconds % 86400

/-- The signed number of nanoseconds from `u` to `t`. -/
def since (t u : Instant) : Int :=
  let leap : Int :=
    if u.secondOfDay < t.secondOfDay ∧ 1000000000 ≤ u.nanos then 1
    else if t.secondOfDay < u.secondOfDay ∧ 1000000000 ≤ t.nanos then -1
    else 0
  (t.seconds - u.seconds + leap) * 1000000000 + ((t.nanos : Int) - u.nanos)

end Instant

end BoardActivity
