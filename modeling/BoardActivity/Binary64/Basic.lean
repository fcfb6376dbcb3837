import BoardActivity.Time.Instant

/-!
# Binary64 arithmetic

Double-precision numbers as exact values: a sign, a significand and a power of two, next to the
infinities and one not-a-number. Every operation works out the exact quotient of two natural
numbers and rounds it once, to the nearest double, ties to even (`round`). A finite value is kept
in its one canonical form: a significand below `2 ^ 53`, and at least `2 ^ 52` unless the exponent
is the smallest, `-1074`.

Backoff delays and polling intervals are computed with this arithmetic and then converted to whole
nanoseconds (`toSpan?`), again to nearest with ties to even.
-/

namespace BoardActivity

inductive Binary64 where
  | nan
  | infinite (negative : Bool)
  /-- The value `significand * 2 ^ exponent`, or its negative. -/
  | finite (negative : Bool) (significand : Nat) (exponent : Int)
deriving Repr, DecidableEq, Inhabited

namespace Binary64

/-- The quotient of `n` by `d` to the nearest whole number, a tie to the even one. -/
def roundQuotient (n d : Nat) : Nat :=
  let q := n / d
  let r := n % d
  if d < 2 * r ∨ (2 * r = d ∧ q % 2 = 1) then q + 1 else q

/-- A quotient of naturals divided by a power of two, as a quotient of naturals. -/
def scaleDown (n d : Nat) (e : Int) : Nat × Nat :=
  if 0 ≤ e then (n, d * pow2 e.toNat) else (n * pow2 (-e).toNat, d)

/-- The exponent of the double nearest to `n / d`, before rounding: the significand then has 53
bits, or fewer if the exponent is the smallest. -/
def exponentOf (n d : Nat) : Int :=
  let e : Int := (n.log2 : Int) - d.log2 - 53
  let (n', d') := scaleDown n d e
  max (if n' < pow2 53 * d' then e else e + 1) (-1074)

/-- The double nearest to `n / d`, with the sign given; ties go to an even significand. -/
def round (negative : Bool) (n d : Nat) : Binary64 :=
  if n = 0 then .finite negative 0 (-1074)
  else
    let e := exponentOf n d
    let (n', d') := scaleDown n d e
    let m := roundQuotient n' d'
    let (m, e) := if m = pow2 53 then (pow2 52, e + 1) else (m, e)
    if 971 < e then .infinite negative else .finite negative m e

/-- The significand and exponent as a quotient of naturals. -/
def quotient (m : Nat) (e : Int) : Nat × Nat :=
  if 0 ≤ e then (m * pow2 e.toNat, 1) else (m, pow2 (-e).toNat)

def ofNat (n : Nat) : Binary64 := round false n 1

def ofInt (n : Int) : Binary64 := round (decide (n < 0)) n.natAbs 1

/-- The double nearest to `m * 10 ^ e`, or its negative. -/
def ofDecimal (negative : Bool) (m : Nat) (e : Int) : Binary64 :=
  if 0 ≤ e then round negative (m * pow10 e.toNat) 1 else round negative m (pow10 (-e).toNat)

def zero : Binary64 := .finite false 0 (-1074)
def one : Binary64 := .finite false (pow2 52) (-52)

def isNegative : Binary64 → Bool
  | .nan => false
  | .infinite s => s
  | .finite s _ _ => s

def isZero : Binary64 → Bool
  | .finite _ m _ => m == 0
  | _ => false

def neg : Binary64 → Binary64
  | .nan => .nan
  | .infinite s => .infinite !s
  | .finite s m e => .finite (!s) m e

def mul : Binary64 → Binary64 → Binary64
  | .nan, _ | _, .nan => .nan
  | .infinite s, .infinite t => .infinite (s != t)
  | .infinite s, .finite t m _ => if m = 0 then .nan else .infinite (s != t)
  | .finite s m _, .infinite t => if m = 0 then .nan else .infinite (s != t)
  | .finite s m e, .finite t n f =>
    let (a, b) := quotient (m * n) (e + f)
    round (s != t) a b

/-- One divided by the number. -/
def recip : Binary64 → Binary64
  | .nan => .nan
  | .infinite s => .finite s 0 (-1074)
  | .finite s m e =>
    if m = 0 then .infinite s
    else
      let (a, b) := quotient m e
      round s b a

/-- The number divided by one that is finite and not zero. -/
def div (x y : Binary64) : Binary64 :=
  match x, y with
  | .finite s m e, .finite t n f =>
    let (a, b) := quotient m (e - f)
    round (s != t) a (b * n)
  | .infinite s, y => .infinite (s != y.isNegative)
  | _, _ => .nan

/-- The number times or divided by the double nearest to a power of ten. Powers of which there is no
double are applied in steps, unless the number has become zero. -/
def scale10 (x : Binary64) (e : Int) : Binary64 :=
  if 308 < e then if x.isZero then x else .infinite x.isNegative
  else if 0 ≤ e then x.mul (ofDecimal false 1 e)
  else if -308 ≤ e then x.div (ofDecimal false 1 (-e))
  else if x.isZero then x
  else scale10 (x.div (ofDecimal false 1 308)) (e + 308)
termination_by (-e).toNat
decreasing_by omega

/-- The number divided by a positive natural number. -/
def divNat (x : Binary64) (k : Nat) : Binary64 :=
  match x with
  | .finite s m e =>
    let (a, b) := quotient m e
    round s a (b * k)
  | x => x

/-- The sum of two finite numbers, rounded; a sum of exactly zero is positive unless both are
negative. -/
def add : Binary64 → Binary64 → Binary64
  | .nan, _ | _, .nan => .nan
  | .infinite s, .infinite t => if s = t then .infinite s else .nan
  | .infinite s, .finite _ _ _ => .infinite s
  | .finite _ _ _, .infinite t => .infinite t
  | .finite s m e, .finite t n f =>
    let low := min e f
    let a : Int := (m * pow2 (e - low).toNat : Nat)
    let b : Int := (n * pow2 (f - low).toNat : Nat)
    let sum := (if s then -a else a) + (if t then -b else b)
    if sum = 0 then .finite (s && t) 0 (-1074)
    else
      let (x, y) := quotient sum.natAbs low
      round (decide (sum < 0)) x y

/-- The order of the numbers; false where one of them is not a number. -/
def less : Binary64 → Binary64 → Bool
  | .nan, _ | _, .nan => false
  | .infinite s, .infinite t => s && !t
  | .infinite s, .finite _ _ _ => s
  | .finite _ _ _, .infinite t => !t
  | .finite s m e, .finite t n f =>
    let low := min e f
    let a : Int := (m * pow2 (e - low).toNat : Nat)
    let b : Int := (n * pow2 (f - low).toNat : Nat)
    (if s then -a else a) < (if t then -b else b)

/-- The smaller of two numbers, and the other one where one of them is not a number. -/
def min (x y : Binary64) : Binary64 :=
  match x, y with
  | .nan, y => y
  | x, .nan => x
  | x, y => if y.less x then y else x

/-- The larger of two numbers, and the other one where one of them is not a number. -/
def max (x y : Binary64) : Binary64 :=
  match x, y with
  | .nan, y => y
  | x, .nan => x
  | x, y => if x.less y then y else x

/-- The number itself within the bounds, else the bound that it passes. -/
def clamp (x low high : Binary64) : Binary64 :=
  if x.less low then low else if high.less x then high else x

/-- Repeated squaring from the lowest bit of the exponent: `acc * x ^ k`, rounding each product. -/
def powNat (x acc : Binary64) (k : Nat) : Binary64 :=
  if h : k = 0 then acc
  else
    let acc := if k % 2 = 1 then acc.mul x else acc
    if k / 2 = 0 then acc else powNat (x.mul x) acc (k / 2)
termination_by k
decreasing_by omega

/-- The power to an integer exponent; a negative exponent inverts the positive power. -/
def pow (x : Binary64) (k : Int) : Binary64 :=
  let p := powNat x one k.natAbs
  if k < 0 then p.recip else p

end Binary64

/-- The span in seconds: whole seconds and the fraction are converted one by one, then added. -/
def Span.toSeconds (d : Span) : Binary64 :=
  (Binary64.ofNat (d.nanoseconds / 1000000000)).add
    ((Binary64.ofNat (d.nanoseconds % 1000000000)).divNat 1000000000)

/-- The span nearest to a number of seconds, ties to an even nanosecond. There is none for a
negative number, for one that is not finite, and for `2 ^ 64` seconds and more. -/
def Binary64.toSpan? : Binary64 → Option Span
  | .finite s m e =>
    if m = 0 then some Span.zero
    else if s then none
    else
      let (a, b) := quotient m e
      let ns := roundQuotient (a * 1000000000) b
      if ns < pow2 64 * 1000000000 then some ⟨ns⟩ else none
  | _ => none

end BoardActivity
