import BoardActivity.Text.Blank
import BoardActivity.Text.Unsigned
import BoardActivity.Time.Instant

/-!
# Timestamps

The text form of an instant, RFC 3339. Writing is in UTC with a final `Z` and with 0, 3, 6 or 9
digits of the second, the fewest that lose nothing. Reading is lenient: blanks between the parts,
`T`, `t` or a blank between date and time, any number of digits of the second of which nine count,
and as zone `Z`, `UTC` or an offset with hours and minutes. Second 60 is read as a leap second.
A year of five digits or more carries a sign.
-/

namespace BoardActivity

namespace Time

open Text

/-- What remains after a literal character. -/
def expect? (c : Char) : List Char → Option (List Char)
  | d :: cs => if d = c then some cs else none
  | [] => none

/-- At most `width` leading digits, at least one, as a number, and what remains. -/
def takeNumber? (width : Nat) (cs : List Char) : Option (Nat × List Char) :=
  let ds := (cs.take width).takeWhile fun c => (digit? c).isSome
  (decimal? ds).map fun n => (n, cs.drop ds.length)

def takeField? (width : Nat) (cs : List Char) : Option (Nat × List Char) :=
  takeNumber? width (trimStart cs)

/-- A year: four digits at most without a sign, any number of digits with one. -/
def takeYear? (cs : List Char) : Option (Int × List Char) :=
  match trimStart cs with
  | '-' :: rest => (takeNumber? rest.length rest).map fun (n, r) => (-(n : Int), r)
  | '+' :: rest => (takeNumber? rest.length rest).map fun (n, r) => ((n : Int), r)
  | rest => (takeNumber? 4 rest).map fun (n, r) => ((n : Int), r)

/-- The digits after the point, as nanoseconds; digits past the ninth are skipped. -/
def takeFraction? (cs : List Char) : Option (Nat × List Char) :=
  match cs with
  | '.' :: rest =>
    let ds := rest.takeWhile fun c => (digit? c).isSome
    (decimal? (ds.take 9)).map fun n => (n * pow10 (9 - (ds.take 9).length), rest.drop ds.length)
  | _ => some (0, cs)

/-- A zone as seconds east of UTC: `Z`, `UTC`, or a signed offset of two digits of hours and two of
minutes with colons or blanks between them. -/
def takeZone? (cs : List Char) : Option (Int × List Char) :=
  match cs with
  | 'Z' :: rest => some (0, rest)
  | 'z' :: rest => some (0, rest)
  | _ =>
    if (cs.take 3).map Char.toLower = ['u', 't', 'c'] then some (0, cs.drop 3) else
    match cs with
    | [] => none
    | sign :: rest =>
      let factor : Option Int :=
        if sign = '+' then some 1 else if sign = '-' ∨ sign = '\u2212' then some (-1) else none
      match factor, rest with
      | some k, h₁ :: h₂ :: rest =>
        match digit? h₁, digit? h₂, rest.dropWhile fun c => c == ':' || isBlankChar c with
        | some a, some b, m₁ :: m₂ :: rest =>
          match digit? m₁, digit? m₂ with
          | some c, some d =>
            if c < 6 then some (k * ((a * 10 + b) * 3600 + (c * 10 + d) * 60 : Nat), rest)
            else none
          | _, _ => none
        | _, _, _ => none
      | _, _ => none

/-- Reads a timestamp. Its date, in its own zone, and the instant both lie in the calendar. -/
def read? (s : String) : Option Instant := do
  let (year, cs) ← takeYear? s.toList
  let cs ← expect? '-' (trimStart cs)
  let (month, cs) ← takeField? 2 cs
  let cs ← expect? '-' (trimStart cs)
  let (day, cs) ← takeField? 2 cs
  let cs ← match cs with
    | c :: cs => if c = 'T' ∨ c = 't' ∨ c = ' ' then some cs else none
    | [] => none
  let (hour, cs) ← takeField? 2 cs
  let cs ← expect? ':' (trimStart cs)
  let (minute, cs) ← takeField? 2 cs
  let cs ← expect? ':' (trimStart cs)
  let (second, cs) ← takeField? 2 cs
  let (fraction, cs) ← takeFraction? cs
  let (zone, cs) ← takeZone? (trimStart cs)
  let date : Date := ⟨year, month, day⟩
  if (trimStart cs).isEmpty ∧ date.isValid ∧ Instant.firstYear ≤ year ∧ year ≤ Instant.lastYear ∧
      hour ≤ 23 ∧ minute ≤ 59 ∧ second ≤ 60 ∧ zone.natAbs < 86400 then
    let leap := if second = 60 then 1 else 0
    let wall : Int := date.toDays * 86400 + (hour * 3600 + minute * 60 + (second - leap) : Nat)
    let t : Instant := ⟨wall - zone, leap * 1000000000 + fraction⟩
    if t.inCalendar then some t else none
  else none

/-- A year: four digits up to 9999, else with a sign. -/
def yearText (y : Int) : String :=
  if 0 ≤ y ∧ y ≤ 9999 then paddedDecimal 4 y.toNat
  else (if y < 0 then "-" else "+") ++ paddedDecimal 4 y.natAbs

/-- The digits of the second: none, three, six or nine, the fewest that lose nothing. -/
def fractionText (ns : Nat) : String :=
  if ns = 0 then ""
  else if ns % 1000000 = 0 then "." ++ paddedDecimal 3 (ns / 1000000)
  else if ns % 1000 = 0 then "." ++ paddedDecimal 6 (ns / 1000)
  else "." ++ paddedDecimal 9 ns

end Time

open Time Text

def Instant.text (t : Instant) : String :=
  let date := Date.ofDays (t.seconds / 86400)
  let sec := t.secondOfDay.toNat
  yearText date.year ++ "-" ++ paddedDecimal 2 date.month ++ "-" ++ paddedDecimal 2 date.day ++
    "T" ++ paddedDecimal 2 (sec / 3600) ++ ":" ++ paddedDecimal 2 (sec / 60 % 60) ++ ":" ++
    paddedDecimal 2 (sec % 60 + t.nanos / 1000000000) ++
    fractionText (t.nanos % 1000000000) ++ "Z"

end BoardActivity
