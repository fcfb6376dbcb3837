import BoardActivity.Power
import BoardActivity.Text.Unsigned
import BoardActivity.Url.Domain

/-!
# Hosts

Whether the host of a URL is acceptable. In brackets stands an IPv6 address. A name whose last
label is a number is an IPv4 address in one to four parts, each decimal, octal after `0` or
hexadecimal after `0x`; the last part fills the remaining bytes. Every other name is a domain. The
host of a URL with an unknown scheme is opaque, and only a few characters are forbidden in it.
-/

namespace BoardActivity.Url.Host

open Text

/-- A decimal number of at most 255 without a leading zero. -/
def isByte (cs : List Char) : Bool :=
  (cs.length == 1 || cs.head? != some '0') && (decimal? cs).any (· ≤ 255)

/-- Four bytes with points between them. -/
def isDottedQuad (cs : List Char) : Bool :=
  let parts := cs.splitOn '.'
  parts.length == 4 && parts.all isByte

/-- Groups of an IPv6 address from the next one on: `count` groups are read, and `gap` tells
whether a double colon stood before. -/
def isIpv6Rest : Nat → Nat → Bool → List Char → Bool
  | _, count, gap, [] => gap || count == 8
  | 0, _, _, _ :: _ => false
  | fuel + 1, count, gap, c :: cs =>
    if count = 8 then false
    else if c = ':' then !gap && isIpv6Rest fuel (count + 1) true cs
    else
      let ds := ((c :: cs).take 4).takeWhile fun c => (hexDigit? c).isSome
      match (c :: cs).drop ds.length with
      | [] => isIpv6Rest fuel (count + 1) gap []
      | ':' :: rest => !rest.isEmpty && isIpv6Rest fuel (count + 1) gap rest
      | '.' :: _ =>
        !ds.isEmpty && count ≤ 6 && isDottedQuad (c :: cs) && (gap || count + 2 == 8)
      | _ => false

def isIpv6 (cs : List Char) : Bool :=
  match cs with
  | ':' :: ':' :: rest => isIpv6Rest (rest.length + 1) 1 true rest
  | ':' :: _ => false
  | [_] | [] => false
  | cs => isIpv6Rest (cs.length + 1) 0 false cs

/-- A part of an IPv4 address: decimal, octal after `0`, hexadecimal after `0x`; no digits at all
after the base count as zero. -/
def ipv4Part? (cs : List Char) : Option Nat :=
  let octal? : Char → Option Nat := fun c => (digit? c).filter (· < 8)
  match cs with
  | [] => none
  | '0' :: x :: rest =>
    if x = 'x' ∨ x = 'X' then continueNumber 16 hexDigit? 0 rest
    else continueNumber 8 octal? 0 (x :: rest)
  | cs => decimal? cs

/-- The labels without one empty label at the end. -/
def withoutRootLabel (labels : List (List Char)) : List (List Char) :=
  if labels.getLast? = some [] then labels.dropLast else labels

/-- The last label that is not the empty one at the end is a number. -/
def endsInNumber (labels : List (List Char)) : Bool :=
  match (withoutRootLabel labels).getLast? with
  | none => false
  | some last =>
    (!last.isEmpty && last.all fun c => (digit? c).isSome) || (ipv4Part? last).isSome

/-- One to four numbers: bytes, and last a number that fits the bytes that remain. -/
def isIpv4 (labels : List (List Char)) : Bool :=
  let parts := withoutRootLabel labels
  match parts.mapM ipv4Part? with
  | none => false
  | some numbers =>
    numbers.length ≤ 4 && numbers.dropLast.all (· ≤ 255) &&
      (numbers.getLast?.any fun n => n < pow2 (8 * (5 - numbers.length)))

/-- Brackets around an IPv6 address. -/
def checkBracketed (cs : List Char) : Except Failure Unit :=
  if cs.getLast? = some ']' ∧ isIpv6 cs.tail.dropLast then .ok () else .error .ipv6Address

/-- The host of a URL with a known scheme. -/
def check (host : List Char) : Except Failure Unit :=
  if host.head? = some '[' then checkBracketed host
  else
    match Domain.labels (String.ofList host) with
    | .error failure => .error failure
    | .ok labels =>
      if labels = [[]] then .error .emptyHost
      else if endsInNumber labels then
        if isIpv4 labels then .ok () else .error .ipv4Address
      else .ok ()

/-- The host of a URL with an unknown scheme. -/
def checkOpaque (host : List Char) : Except Failure Unit :=
  if host.head? = some '[' then checkBracketed host
  else if host.any fun c => "\x00\t\n\r #/:<>?@[\\]^|".toList.contains c then
    .error .hostCharacter
  else .ok ()

end BoardActivity.Url.Host
