import BoardActivity.Binary64.Basic

/-!
# Shortest decimals

The decimal text of a double. Of all decimals that round to the number, the one with the fewest
digits is taken, and of those the nearest; a `Format` says which of two equally near ones. A decimal
rounds to `m * 2 ^ e` when it lies between the two midpoints to the neighbouring doubles, midpoints
included iff the significand is even.

The digits are found by trying 1, 2, … 17 of them: on each decimal grid only the two grid points
around the number have to be looked at. How the digits are laid out is a separate decision: a point
is always written, with at least one digit on either side, and very large or very small numbers are
written with an exponent.
-/

namespace BoardActivity.Binary64

/-- What two ways of writing numbers may differ in. -/
structure Format where
  /-- Numbers below `10 ^ -low` are written with an exponent. -/
  low : Int
  /-- The larger of two equally near decimals is taken, and not the even one. -/
  tiesUp : Bool
deriving Repr, DecidableEq

def Format.report : Format := ⟨4, true⟩

def Format.document : Format := ⟨5, false⟩

/-- Twice the distance-scaled ends of the rounding interval: numerators over one denominator, which
is four times that of the value. -/
structure Interval where
  low : Nat
  value : Nat
  high : Nat
  denominator : Nat
  closed : Bool

/-- The numbers that round to `m * 2 ^ e`. The gap below the least significand is half as wide,
except at the smallest exponent. -/
def roundingInterval (m : Nat) (e : Int) : Interval :=
  let (a, b) := quotient 1 e
  let below := if m = pow2 52 ∧ -1074 < e then 1 else 2
  ⟨(4 * m - below) * a, 4 * m * a, (4 * m + 2) * a, 4 * b, m % 2 == 0⟩

/-- The grid point `d * 10 ^ k` rounds to the number. -/
def Interval.contains (i : Interval) (d : Nat) (k : Int) : Bool :=
  let (x, y) := if 0 ≤ k then (d * pow10 k.toNat * i.denominator, 1)
    else (d * i.denominator, pow10 (-k).toNat)
  if i.closed then i.low * y ≤ x && x ≤ i.high * y else i.low * y < x && x < i.high * y

/-- The number of decimal digits before the point of a positive quotient; not positive when it is
below one tenth. -/
def decimalExponent (n d : Nat) : Int :=
  if d ≤ n then (Nat.toDigits 10 (n / d)).length
  else
    let k := (Nat.toDigits 10 (d / n)).length
    -- `10 ^ (k - 1) ≤ d / n < 10 ^ k`, so the first digit stands at place `k` or `k - 1`.
    if d ≤ n * pow10 (k - 1) then 2 - (k : Int) else 1 - (k : Int)

/-- The point of the grid of step `10 ^ k` that rounds to the number, the nearer one of two, and of
two equally near ones the larger or the even one. -/
def Interval.onGrid? (i : Interval) (tiesUp : Bool) (k : Int) : Option Nat :=
  let (x, y) := if 0 ≤ k then (i.value, i.denominator * pow10 k.toNat)
    else (i.value * pow10 (-k).toNat, i.denominator)
  let d := x / y
  let r := x % y
  match i.contains d k && d != 0, i.contains (d + 1) k with
  | true, true => some (if 2 * r < y ∨ (2 * r = y ∧ ! tiesUp ∧ d % 2 = 0) then d else d + 1)
  | true, false => some d
  | false, true => some (d + 1)
  | false, false => none

/-- The first of the grids with `n`, `n + 1`, … digits that has a point for the number. -/
def Interval.search (i : Interval) (tiesUp : Bool) (top : Int) (n : Nat) : Nat → Nat × Int
  | 0 => (0, 0)
  | fuel + 1 =>
    match i.onGrid? tiesUp (top - n) with
    | some d => (d, top - n)
    | none => i.search tiesUp top (n + 1) fuel

/-- Drops final zeros, one power of ten each. -/
def stripZeros (d : Nat) (k : Int) : Nat × Int :=
  if h : d ≠ 0 ∧ d % 10 = 0 then stripZeros (d / 10) (k + 1) else (d, k)
termination_by d
decreasing_by omega

/-- The shortest decimal `d * 10 ^ k` of a positive finite number. -/
def shortest (tiesUp : Bool) (m : Nat) (e : Int) : Nat × Int :=
  let i := roundingInterval m e
  let (d, k) := i.search tiesUp (decimalExponent i.value i.denominator) 1 17
  stripZeros d k

/-- A number of `n` decimal digits with the point after `place` of them. Numbers from `10 ^ 16` on
and below `10 ^ -low` are written with an exponent. -/
def layout (low : Int) (d : Nat) (k : Int) : String :=
  let ds := Nat.toDigits 10 d
  let place : Int := ds.length + k
  if 16 < place ∨ place < 1 - low then
    let mantissa := match ds with
      | [c] => [c]
      | c :: cs => c :: '.' :: cs
      | [] => []
    String.ofList mantissa ++ "e" ++ toString (place - 1)
  else if place ≤ 0 then
    "0." ++ String.ofList (List.replicate (-place).toNat '0' ++ ds)
  else if 0 ≤ k then String.ofList (ds ++ List.replicate k.toNat '0') ++ ".0"
  else String.ofList (ds.take place.toNat) ++ "." ++ String.ofList (ds.drop place.toNat)

def textWith (f : Format) : Binary64 → String
  | .nan => "NaN"
  | .infinite s => if s then "-inf" else "inf"
  | .finite s m e =>
    (if s then "-" else "") ++
      (if m = 0 then "0.0" else let (d, k) := shortest f.tiesUp m e; layout f.low d k)

/-- The decimal text of a number in a report. -/
def text (x : Binary64) : String := x.textWith .report

instance : ToString Binary64 := ⟨text⟩

end BoardActivity.Binary64
