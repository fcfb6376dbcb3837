import BoardActivity.Power

/-!
# Punycode labels

Decoding of the ASCII form of an internationalized label, without its `xn--`. The basic characters
stand before the last hyphen; after it, variable-length numbers in base 36 tell, one after the
other, which character comes next and where it is inserted. Each number consumes at least one
character, so decoding ends with the input.
-/

namespace BoardActivity.Url.Punycode

/-- The value of a digit in base 36: letters of either case, then `0` to `9`. -/
def digit? (c : Char) : Option Nat :=
  if 'a' ≤ c ∧ c ≤ 'z' then some (c.toNat - 'a'.toNat)
  else if 'A' ≤ c ∧ c ≤ 'Z' then some (c.toNat - 'A'.toNat)
  else if '0' ≤ c ∧ c ≤ '9' then some (c.toNat - '0'.toNat + 26)
  else none

/-- The place `k` ends a number when its digit is below this value. -/
def threshold (k bias : Nat) : Nat :=
  if k ≤ bias + 1 then 1 else if bias + 26 ≤ k then 26 else k - bias

/-- One number, least digit first, and what remains of the input. Neither the number nor the weight
of a digit passes 32 bits. -/
def takeDelta? (bias : Nat) : List Char → Nat → Nat → Nat → Option (Nat × List Char)
  | [], _, _, _ => none
  | c :: rest, k, weight, acc =>
    match digit? c with
    | none => none
    | some d =>
      let t := threshold k bias
      let acc := acc + d * weight
      if pow2 32 ≤ acc then none
      else if d < t then some (acc, rest)
      else if pow2 32 ≤ weight * (36 - t) then none
      else takeDelta? bias rest (k + 36) (weight * (36 - t)) acc

/-- Divides by 35 until the number is small; counts 36 for each division. -/
def shrink : Nat → Nat → Nat → Nat × Nat
  | 0, delta, k => (delta, k)
  | fuel + 1, delta, k => if 455 < delta then shrink fuel (delta / 35) (k + 36) else (delta, k)

def adapt (delta count : Nat) (first : Bool) : Nat :=
  let delta := if first then delta / 700 else delta / 2
  let delta := delta + delta / count
  let (delta, k) := shrink delta delta 0
  k + 36 * delta / (delta + 38)

/-- Inserts one character for each remaining number; `first` holds for the first of them. -/
def insertAll : Nat → List Char → Nat → Nat → Nat → Bool → List Char → Option (List Char)
  | _, [], _, _, _, _, out => some out
  | 0, _ :: _, _, _, _, _, _ => none
  | fuel + 1, cs, code, index, bias, first, out =>
    match takeDelta? bias cs 36 1 index with
    | none => none
    | some (next, rest) =>
      let size := out.length + 1
      let code := code + next / size
      let place := next % size
      if code.isValidChar then
        insertAll fuel rest code (place + 1) (adapt (next - index) size first) false
          (out.take place ++ Char.ofNat code :: out.drop place)
      else none

/-- The label that the input encodes. A hyphen that ends the basic characters has some before it. -/
def decode? (cs : List Char) : Option (List Char) :=
  let tail := (cs.reverse.takeWhile (· != '-')).reverse
  let head := cs.take (cs.length - tail.length)
  let basic := head.dropLast
  if basic.any (fun c => 0x80 ≤ c.toNat) ∨ head.length = 1 then none
  else insertAll tail.length tail 0x80 0 72 true basic

end BoardActivity.Url.Punycode
