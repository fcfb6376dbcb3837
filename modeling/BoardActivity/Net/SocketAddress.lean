import BoardActivity.Power
import BoardActivity.Text.Unsigned

/-!
# Socket addresses

An IP address with a port: `127.0.0.1:9400`, or `[::1]:9400` with the address in brackets, there
perhaps with the number of a scope after a percent sign. Reading is strict: octets are decimal
without leading zeros, groups have one to four hexadecimal digits, `::` stands for at least one
group of zeros, and the last two groups may be written as four octets. Writing is canonical: lower
case, the first longest run of at least two zero groups as `::`, and an address that only wraps
four octets as `::ffff:` and those.
-/

namespace BoardActivity

/-- An IP address: four octets, or eight groups of 16 bits and a scope. -/
inductive IpAddress where
  | v4 (a b c d : Nat)
  | v6 (groups : List Nat) (scope : Nat)
deriving Repr, DecidableEq

structure SocketAddress where
  ip : IpAddress
  port : Nat
deriving Repr, DecidableEq

namespace SocketAddress

open Text

/-- The leading digits of a base as a number below `bound`, and what remains. With a limit on their
count, more digits are refused. -/
def takeNumber? (base : Nat) (digitOf : Char → Option Nat) (limit : Option Nat) (bound : Nat)
    (cs : List Char) : Option (Nat × List Char) :=
  let ds := cs.takeWhile fun c => (digitOf c).isSome
  if ds.isEmpty ∨ limit.any (· < ds.length) then none
  else
    match continueNumber base digitOf 0 ds with
    | some n => if n < bound then some (n, cs.drop ds.length) else none
    | none => none

def expect? (c : Char) : List Char → Option (List Char)
  | d :: cs => if d = c then some cs else none
  | [] => none

/-- An octet: one to three decimal digits, no zero in front of others. -/
def takeOctet? (cs : List Char) : Option (Nat × List Char) :=
  match cs with
  | '0' :: c :: _ => if (digit? c).isSome then none else takeNumber? 10 digit? (some 3) 256 cs
  | _ => takeNumber? 10 digit? (some 3) 256 cs

def takeOctets? (cs : List Char) : Option ((Nat × Nat × Nat × Nat) × List Char) := do
  let (a, cs) ← takeOctet? cs
  let (b, cs) ← takeOctet? (← expect? '.' cs)
  let (c, cs) ← takeOctet? (← expect? '.' cs)
  let (d, cs) ← takeOctet? (← expect? '.' cs)
  return ((a, b, c, d), cs)

/-- As many groups as there are, at most `left`, with colons between them; the last two may be four
octets, and then the flag is set. `first` tells that no colon comes before the next group. -/
def takeGroups (left : Nat) (first : Bool) (cs : List Char) : List Nat × Bool × List Char :=
  match left with
  | 0 => ([], false, cs)
  | left + 1 =>
    match if first then some cs else expect? ':' cs with
    | none => ([], false, cs)
    | some inner =>
      match if 0 < left then takeOctets? inner else none with
      | some ((a, b, c, d), rest) => ([a * 256 + b, c * 256 + d], true, rest)
      | none =>
        match takeNumber? 16 hexDigit? (some 4) 65536 inner with
        | none => ([], false, cs)
        | some (g, rest) =>
          let (gs, octets, rest) := takeGroups left false rest
          (g :: gs, octets, rest)

/-- Eight groups, some of them perhaps left out at a `::`. -/
def takeAllGroups? (cs : List Char) : Option (List Nat × List Char) :=
  let (head, octets, rest) := takeGroups 8 true cs
  if head.length = 8 then some (head, rest)
  else if octets then none
  else do
    let rest ← expect? ':' (← expect? ':' rest)
    let (tail, _, rest) := takeGroups (7 - head.length) true rest
    return (head ++ List.replicate (8 - head.length - tail.length) 0 ++ tail, rest)

/-- A scope after a percent sign; zero, and nothing consumed, if there is none. -/
def takeScope (cs : List Char) : Nat × List Char :=
  match cs with
  | '%' :: rest => (takeNumber? 10 digit? none (pow2 32) rest).getD (0, cs)
  | _ => (0, cs)

def readPort? (cs : List Char) : Option Nat := do
  let (port, rest) ← takeNumber? 10 digit? none 65536 (← expect? ':' cs)
  if rest.isEmpty then some port else none

def read? (s : String) : Option SocketAddress :=
  match s.toList with
  | '[' :: cs => do
    let (groups, cs) ← takeAllGroups? cs
    let (scope, cs) := takeScope cs
    let port ← readPort? (← expect? ']' cs)
    return ⟨.v6 groups scope, port⟩
  | cs => do
    let ((a, b, c, d), cs) ← takeOctets? cs
    let port ← readPort? cs
    return ⟨.v4 a b c d, port⟩

def octetsText (a b c d : Nat) : String :=
  String.intercalate "." ([a, b, c, d].map fun n => toString n)

/-- Groups with colons between them, without leading zeros. -/
def groupsText (groups : List Nat) : String :=
  String.intercalate ":" (groups.map fun n => String.ofList (Nat.toDigits 16 n))

/-- The start and length of the first longest run of zeros; `place` is the place of the first group. -/
def longestZeros (place : Nat) : List Nat → Nat × Nat
  | [] => (place, 0)
  | g :: gs =>
    let run := ((g :: gs).takeWhile (· == 0)).length
    let (start, length) := longestZeros (place + 1) gs
    if length ≤ run then (place, run) else (start, length)

/-- The canonical text of eight groups. -/
def addressText (groups : List Nat) : String :=
  match groups with
  | [0, 0, 0, 0, 0, 0xffff, g, h] =>
    "::ffff:" ++ octetsText (g / 256) (g % 256) (h / 256) (h % 256)
  | _ =>
    let (start, length) := longestZeros 0 groups
    if 1 < length then
      groupsText (groups.take start) ++ "::" ++ groupsText (groups.drop (start + length))
    else groupsText groups

def text (a : SocketAddress) : String :=
  match a.ip with
  | .v4 a₁ a₂ a₃ a₄ => octetsText a₁ a₂ a₃ a₄ ++ ":" ++ toString a.port
  | .v6 groups scope =>
    let scopeText := if scope = 0 then "" else "%" ++ toString scope
    "[" ++ addressText groups ++ scopeText ++ "]:" ++ toString a.port

end SocketAddress

end BoardActivity
