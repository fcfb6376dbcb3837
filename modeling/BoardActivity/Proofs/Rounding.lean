import BoardActivity.Binary64.Basic
import Mathlib.Algebra.Order.Floor.Ring
import Mathlib.Data.Int.Log
import Mathlib.Data.Rat.Floor
import Mathlib.Tactic.FieldSimp
import Mathlib.Tactic.Linarith
import Mathlib.Tactic.Positivity
import Mathlib.Tactic.Ring

/-!
# Rounding to double precision

What `Binary64.round` computes with quotients of natural numbers, said of rational numbers. A
number is counted in units of the last binary digit that a double of its size has, rounded to a
whole number, ties to even, and scaled back (`nearest`).

Rounding so is monotone, commutes with the sign, leaves alone what is a double, and moves a number
by half a unit at most. Bounds of computed doubles come from these four facts. A result of
`2 ^ 1024` or more is infinite; apart from that `Binary64.round` is `nearest`
(`Binary64.rounds_round`).
-/

namespace BoardActivity.Rounding

variable {q q' : ℚ} {r k : ℤ}

/-- The whole number nearest to a number, a tie to the even one. -/
def toEven (q : ℚ) : ℤ :=
  if 1 < 2 * (q - ⌊q⌋) ∨ (2 * (q - ⌊q⌋) = 1 ∧ ¬ Even ⌊q⌋) then ⌊q⌋ + 1 else ⌊q⌋

/-- The whole number is nearest to the number, and even if another one is as near. -/
def IsToEven (q : ℚ) (r : ℤ) : Prop := |q - r| < 1 / 2 ∨ (|q - r| = 1 / 2 ∧ Even r)

theorem isToEven_toEven (q : ℚ) : IsToEven q (toEven q) := by
  have hlo := Int.floor_le q
  have hhi := Int.lt_floor_add_one q
  unfold toEven IsToEven
  split_ifs with h
  · rw [abs_sub_comm, abs_of_nonneg (by push_cast; linarith)]
    rcases h with h | ⟨h, hodd⟩
    · exact .inl (by push_cast; linarith)
    · exact .inr ⟨by push_cast; linarith, (Int.not_even_iff_odd.1 hodd).add_one⟩
  · rw [not_or, not_lt, not_and, not_not] at h
    rw [abs_of_nonneg (by linarith)]
    rcases h.1.lt_or_eq with hlt | heq
    · exact .inl (by linarith)
    · exact .inr ⟨by linarith, h.2 heq⟩

theorem IsToEven.abs_le (h : IsToEven q r) : |q - r| ≤ 1 / 2 :=
  h.elim le_of_lt fun h => h.1.le

/-- Two such numbers are the same: at a distance of one, both would be even. -/
theorem IsToEven.unique {s : ℤ} (hr : IsToEven q r) (hs : IsToEven q s) : r = s := by
  by_contra hne
  have hdist : (1 : ℚ) ≤ |(r : ℚ) - s| := by
    exact_mod_cast Int.one_le_abs (sub_ne_zero.2 hne)
  have htri : |(r : ℚ) - s| ≤ |q - r| + |q - s| := by
    rw [abs_sub_comm q r]
    exact abs_sub_le _ _ _
  have hr' := hr.abs_le
  have hs' := hs.abs_le
  rcases hr with hr | ⟨-, hr⟩
  · linarith
  · rcases hs with hs | ⟨-, hs⟩
    · linarith
    · have hone : |r - s| = 1 := by
        have hle : |(r : ℚ) - s| ≤ 1 := by linarith
        exact le_antisymm (by exact_mod_cast hle) (by exact_mod_cast hdist)
      have heven : Even |r - s| := even_abs.2 (hr.sub hs)
      rw [hone] at heven
      exact absurd heven (by decide)

theorem toEven_eq_iff : toEven q = r ↔ IsToEven q r :=
  ⟨fun h => h ▸ isToEven_toEven q, (isToEven_toEven q).unique⟩

theorem abs_sub_toEven_le (q : ℚ) : |q - toEven q| ≤ 1 / 2 := (isToEven_toEven q).abs_le

@[simp] theorem toEven_intCast (k : ℤ) : toEven k = k :=
  toEven_eq_iff.2 (.inl (by simp))

theorem toEven_neg (q : ℚ) : toEven (-q) = -toEven q := by
  rw [toEven_eq_iff]
  have habs : |-q - ((-toEven q : ℤ) : ℚ)| = |q - toEven q| := by
    rw [← abs_neg]
    push_cast
    ring_nf
  unfold IsToEven
  rw [habs, even_neg]
  exact isToEven_toEven q

theorem toEven_mono (h : q ≤ q') : toEven q ≤ toEven q' := by
  by_contra hlt
  have hone : (toEven q' : ℚ) + 1 ≤ toEven q := by exact_mod_cast Int.not_le.1 hlt
  obtain ⟨hq, -⟩ := abs_le.1 (abs_sub_toEven_le q)
  obtain ⟨-, hq'⟩ := abs_le.1 (abs_sub_toEven_le q')
  -- Both lie half way between the two neighbours, so they are the same number.
  have heq : q = q' := by linarith
  rw [heq] at hone
  linarith

/-- The exponent of the last binary digit of a double next to the number. -/
def exponent (q : ℚ) : ℤ := max (Int.log 2 |q| - 52) (-1074)

/-- The number in units of that digit, rounded. -/
def digits (q : ℚ) : ℤ := toEven (q / 2 ^ exponent q)

/-- The number with the digits of a double, however large. -/
def nearest (q : ℚ) : ℚ := digits q * 2 ^ exponent q

theorem two_zpow_pos (k : ℤ) : (0 : ℚ) < 2 ^ k := zpow_pos (by norm_num) k

theorem two_zpow_le {j k : ℤ} (h : j ≤ k) : (2 : ℚ) ^ j ≤ 2 ^ k :=
  zpow_le_zpow_right₀ (by norm_num) h

theorem le_exponent (q : ℚ) : -1074 ≤ exponent q := le_max_right _ _

theorem exponent_neg (q : ℚ) : exponent (-q) = exponent q := by rw [exponent, exponent, abs_neg]

theorem abs_lt_of_exponent (q : ℚ) : |q| < 2 ^ 53 * 2 ^ exponent q := by
  have hlog := Int.lt_zpow_succ_log_self (b := 2) (by norm_num) |q|
  have hle : Int.log 2 |q| + 1 ≤ 53 + exponent q := by
    have := le_max_left (Int.log 2 |q| - 52) (-1074)
    rw [exponent]
    omega
  calc |q| < 2 ^ (Int.log 2 |q| + 1) := by exact_mod_cast hlog
    _ ≤ 2 ^ (53 + exponent q) := two_zpow_le hle
    _ = 2 ^ 53 * 2 ^ exponent q := by rw [zpow_add₀ (by norm_num)]; norm_num

/-- Above the smallest exponent all 53 digits are there. -/
theorem le_abs_of_exponent (hq : q ≠ 0) (h : -1074 < exponent q) :
    2 ^ 52 * 2 ^ exponent q ≤ |q| := by
  have hlog := Int.zpow_log_le_self (b := 2) (by norm_num) (abs_pos.2 hq)
  have he : 52 + exponent q = Int.log 2 |q| := by
    unfold exponent at h ⊢
    omega
  calc (2 : ℚ) ^ 52 * 2 ^ exponent q = 2 ^ (52 + exponent q) := by
        rw [zpow_add₀ (by norm_num)]; norm_num
    _ ≤ |q| := by rw [he]; exact_mod_cast hlog

theorem exponent_le_iff (hq : q ≠ 0) (hk : -1074 ≤ k) :
    exponent q ≤ k ↔ |q| < 2 ^ 53 * 2 ^ k := by
  have hlog := Int.lt_zpow_iff_log_lt (b := 2) (x := 53 + k) (by norm_num) (abs_pos.2 hq)
  have hpow : (2 : ℚ) ^ (53 + k) = 2 ^ 53 * 2 ^ k := by rw [zpow_add₀ (by norm_num)]; norm_num
  rw [← hpow]
  rw [Nat.cast_ofNat] at hlog
  rw [hlog, exponent]
  omega

theorem exponent_mono (hq : 0 < q) (h : q ≤ q') : exponent q ≤ exponent q' := by
  rw [exponent_le_iff hq.ne' (le_exponent q')]
  calc |q| ≤ |q'| := abs_le_abs_of_nonneg hq.le h
    _ < _ := abs_lt_of_exponent q'

theorem digits_neg (q : ℚ) : digits (-q) = -digits q := by
  rw [digits, exponent_neg, neg_div, toEven_neg, digits]

theorem nearest_neg (q : ℚ) : nearest (-q) = -nearest q := by
  rw [nearest, exponent_neg, digits_neg, nearest]
  push_cast
  ring

theorem digits_le (q : ℚ) : digits q ≤ 2 ^ 53 := by
  rw [digits, ← toEven_intCast (2 ^ 53)]
  apply toEven_mono
  rw [div_le_iff₀ (two_zpow_pos _)]
  push_cast
  exact (le_abs_self q).trans (abs_lt_of_exponent q).le

theorem abs_digits_le (q : ℚ) : |digits q| ≤ 2 ^ 53 := by
  have hneg := digits_le (-q)
  rw [digits_neg] at hneg
  exact abs_le.2 ⟨by linarith, digits_le q⟩

theorem le_digits (hq : 0 < q) (h : -1074 < exponent q) : 2 ^ 52 ≤ digits q := by
  rw [digits, ← toEven_intCast (2 ^ 52)]
  apply toEven_mono
  rw [le_div_iff₀ (two_zpow_pos _)]
  have hle := le_abs_of_exponent hq.ne' h
  rw [abs_of_pos hq] at hle
  exact_mod_cast hle

theorem nearest_nonneg (h : 0 ≤ q) : 0 ≤ nearest q := by
  have hdigits : 0 ≤ digits q := by
    rw [digits, ← toEven_intCast 0]
    apply toEven_mono
    rw [Int.cast_zero]
    exact div_nonneg h (two_zpow_pos _).le
  exact mul_nonneg (by exact_mod_cast hdigits) (two_zpow_pos _).le

/-- The number is moved by half a unit of its last digit at most. -/
theorem abs_sub_nearest_le (q : ℚ) : |q - nearest q| ≤ 2 ^ exponent q / 2 := by
  have hpos := two_zpow_pos (exponent q)
  have h := abs_sub_toEven_le (q / 2 ^ exponent q)
  calc |q - nearest q|
      = |q / 2 ^ exponent q - toEven (q / 2 ^ exponent q)| * 2 ^ exponent q := by
        rw [← abs_of_pos hpos, ← abs_mul, abs_of_pos hpos, sub_mul, div_mul_cancel₀ _ hpos.ne',
          nearest, digits]
    _ ≤ 1 / 2 * 2 ^ exponent q := mul_le_mul_of_nonneg_right h hpos.le
    _ = 2 ^ exponent q / 2 := by ring

/-- Positive numbers keep their order: either the last digits have the same unit, or a power of two
lies between them, and between what they are rounded to. -/
theorem nearest_mono_of_pos (hq : 0 < q) (h : q ≤ q') : nearest q ≤ nearest q' := by
  have hpos := two_zpow_pos (exponent q)
  have hpos' := two_zpow_pos (exponent q')
  rcases (exponent_mono hq h).eq_or_lt with he | he
  · have hdiv : q / 2 ^ exponent q ≤ q' / 2 ^ exponent q := div_le_div_of_nonneg_right h hpos.le
    rw [nearest, nearest, digits, digits, ← he]
    exact mul_le_mul_of_nonneg_right (by exact_mod_cast toEven_mono hdiv) hpos.le
  · have hlower := le_digits (hq.trans_le h) ((le_exponent q).trans_lt he)
    have hstep : (2 : ℚ) ^ exponent q * 2 ≤ 2 ^ exponent q' := by
      rw [← zpow_add_one₀ (by norm_num)]
      exact two_zpow_le he
    calc nearest q ≤ 2 ^ 53 * 2 ^ exponent q :=
          mul_le_mul_of_nonneg_right (by exact_mod_cast digits_le q) hpos.le
      _ = 2 ^ 52 * (2 ^ exponent q * 2) := by ring
      _ ≤ 2 ^ 52 * 2 ^ exponent q' := mul_le_mul_of_nonneg_left hstep (by positivity)
      _ ≤ nearest q' :=
          mul_le_mul_of_nonneg_right (by exact_mod_cast hlower) (two_zpow_pos _).le

@[simp] theorem toEven_zero : toEven 0 = 0 := by exact_mod_cast toEven_intCast 0

@[simp] theorem nearest_zero : nearest 0 = 0 := by
  rw [nearest, digits, zero_div, toEven_zero, Int.cast_zero, zero_mul]

/-- A number with room for 53 digits above a unit is moved by half of that unit at most. -/
theorem abs_sub_nearest_le_of_lt (hk : -1074 ≤ k) (h : |q| < 2 ^ 53 * 2 ^ k) :
    |q - nearest q| ≤ 2 ^ k / 2 := by
  by_cases hq : q = 0
  · rw [hq, nearest_zero, sub_zero, abs_zero]
    exact div_nonneg (two_zpow_pos k).le (by norm_num)
  · have hle := two_zpow_le ((exponent_le_iff hq hk).2 h)
    exact (abs_sub_nearest_le q).trans (div_le_div_of_nonneg_right hle (by norm_num))

theorem nearest_mono (h : q ≤ q') : nearest q ≤ nearest q' := by
  rcases lt_trichotomy q 0 with hq | rfl | hq
  · rcases le_or_gt 0 q' with hq' | hq'
    · have hneg := nearest_nonneg (q := -q) (by linarith)
      rw [nearest_neg] at hneg
      linarith [nearest_nonneg hq']
    · have hneg : nearest (-q') ≤ nearest (-q) :=
        nearest_mono_of_pos (by linarith) (by linarith)
      rw [nearest_neg, nearest_neg] at hneg
      linarith
  · rw [nearest_zero]
    exact nearest_nonneg h
  · exact nearest_mono_of_pos hq h

/-- The number is a double, if it is not too large for one: a whole number of 53 binary digits,
times a power of two from the smallest on. -/
def IsDouble (q : ℚ) : Prop := ∃ m e : ℤ, |m| < 2 ^ 53 ∧ -1074 ≤ e ∧ q = m * 2 ^ e

theorem isDouble_two_zpow (h : -1074 ≤ k) : IsDouble (2 ^ k) := ⟨1, k, by norm_num, h, by simp⟩

theorem isDouble_intCast {m : ℤ} (h : |m| < 2 ^ 53) : IsDouble m := ⟨m, 0, h, by norm_num, by simp⟩

theorem isDouble_zero : IsDouble 0 := ⟨0, 0, by norm_num, by norm_num, by norm_num⟩

/-- Small natural numbers are doubles. -/
theorem isDouble_natCast {n : Nat} (h : n ≤ 2 ^ 53) : IsDouble n := by
  rcases h.eq_or_lt with rfl | hlt
  · have htop := isDouble_two_zpow (k := 53) (by norm_num)
    rw [show (2 : ℚ) ^ (53 : ℤ) = ((2 ^ 53 : Nat) : ℚ) by norm_num] at htop
    exact htop
  · exact_mod_cast isDouble_intCast (m := n) (by rw [abs_of_nonneg (by omega)]; exact_mod_cast hlt)

theorem isDouble_one : IsDouble 1 := ⟨1, 0, by norm_num, by norm_num, by norm_num⟩

theorem IsDouble.neg (h : IsDouble q) : IsDouble (-q) := by
  obtain ⟨m, e, hm, he, rfl⟩ := h
  exact ⟨-m, e, by rwa [abs_neg], he, by push_cast; ring⟩

/-- What is a double is rounded to itself: it is a whole number of units. -/
theorem IsDouble.nearest_eq (h : IsDouble q) : nearest q = q := by
  obtain ⟨m, e, hm, he, rfl⟩ := h
  by_cases hm0 : m = 0
  · simp [hm0]
  · have hne : ((m : ℚ) * 2 ^ e) ≠ 0 := mul_ne_zero (by exact_mod_cast hm0) (two_zpow_pos e).ne'
    have hle : exponent (m * 2 ^ e) ≤ e := by
      rw [exponent_le_iff hne he, abs_mul, abs_of_pos (two_zpow_pos e)]
      exact mul_lt_mul_of_pos_right (by exact_mod_cast hm) (two_zpow_pos e)
    have hunits : (m : ℚ) * 2 ^ e / 2 ^ exponent (m * 2 ^ e) =
        ((m * 2 ^ (e - exponent (m * 2 ^ e)).toNat : ℤ) : ℚ) := by
      push_cast
      rw [← zpow_natCast, Int.toNat_of_nonneg (sub_nonneg.2 hle), zpow_sub₀ (by norm_num)]
      ring
    rw [nearest, digits, hunits, toEven_intCast, ← hunits, div_mul_cancel₀ _ (two_zpow_pos _).ne']

/-- Rounding makes a double: 53 digits that are rounded up to 54 are a power of two. -/
theorem isDouble_nearest (q : ℚ) : IsDouble (nearest q) := by
  rcases (abs_digits_le q).lt_or_eq with hlt | heq
  · exact ⟨_, _, hlt, le_exponent q, rfl⟩
  · have htop : IsDouble (2 ^ 53 * 2 ^ exponent q) := by
      refine ⟨1, 53 + exponent q, by norm_num, by linarith [le_exponent q], ?_⟩
      rw [zpow_add₀ (by norm_num)]
      norm_num
    rcases (abs_eq (by norm_num)).1 heq with h | h
    · rw [nearest, h]
      exact_mod_cast htop
    · rw [nearest, h]
      have hneg := htop.neg
      rw [← neg_mul] at hneg
      exact_mod_cast hneg

theorem nearest_le (hq' : IsDouble q') (h : q ≤ q') : nearest q ≤ q' :=
  hq'.nearest_eq ▸ nearest_mono h

theorem le_nearest (hq : IsDouble q) (h : q ≤ q') : q ≤ nearest q' :=
  hq.nearest_eq ▸ nearest_mono h

/-- The digits of a positive double leave room for one more unit. -/
theorem exponent_add (hq : IsDouble q) (hpos : 0 < q) (h0 : 0 ≤ q') (h1 : q' < 2 ^ exponent q) :
    exponent (q + q') = exponent q := by
  have hunit := two_zpow_pos (exponent q)
  have hv : digits q * 2 ^ exponent q = q := hq.nearest_eq
  have hdigits : (digits q : ℚ) + 1 ≤ 2 ^ 53 := by
    have hlt : (digits q : ℚ) * 2 ^ exponent q < 2 ^ 53 * 2 ^ exponent q := by
      rw [hv]
      exact (le_abs_self q).trans_lt (abs_lt_of_exponent q)
    have hlt' := lt_of_mul_lt_mul_right hlt hunit.le
    exact_mod_cast Int.add_one_le_of_lt (by exact_mod_cast hlt' : digits q < 2 ^ 53)
  apply le_antisymm _ (exponent_mono hpos (by linarith))
  rw [exponent_le_iff (by linarith) (le_exponent q), abs_of_pos (by linarith)]
  calc q + q' < digits q * 2 ^ exponent q + 2 ^ exponent q := by linarith
    _ = (digits q + 1) * 2 ^ exponent q := by ring
    _ ≤ 2 ^ 53 * 2 ^ exponent q := mul_le_mul_of_nonneg_right hdigits hunit.le

/-- Less than half a unit added to a positive double is rounded away. -/
theorem nearest_add (hq : IsDouble q) (hpos : 0 < q) (h0 : 0 ≤ q')
    (h1 : 2 * q' < 2 ^ exponent q) : nearest (q + q') = q := by
  have hunit := two_zpow_pos (exponent q)
  have hv : digits q * 2 ^ exponent q = q := hq.nearest_eq
  have hexp := exponent_add hq hpos h0 (by linarith)
  have hround : digits (q + q') = digits q := by
    have hq' : (q + q') / 2 ^ exponent q - digits q = q' / 2 ^ exponent q := by
      rw [sub_eq_iff_eq_add, div_add' _ _ _ hunit.ne', hv, add_comm]
    rw [digits, hexp, toEven_eq_iff]
    apply Or.inl
    rw [hq', abs_of_nonneg (div_nonneg h0 hunit.le), div_lt_iff₀ hunit]
    linarith
  rw [nearest, hround, hexp, hv]

/-- From `2 ^ 53` on a unit is two or more. -/
theorem two_le_of_exponent (h : 2 ^ 53 ≤ q) : 2 ≤ (2 : ℚ) ^ exponent q := by
  have hpos : 0 < q := lt_of_lt_of_le (by norm_num) h
  have hunit : 1 ≤ exponent q := by
    by_contra hlt
    have hle := (exponent_le_iff hpos.ne' (k := 0) (by norm_num)).1 (by omega)
    rw [abs_of_pos hpos, zpow_zero, mul_one] at hle
    linarith
  simpa using two_zpow_le hunit

end BoardActivity.Rounding
