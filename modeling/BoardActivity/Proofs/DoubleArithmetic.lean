import BoardActivity.Proofs.Rounding

/-!
# The values of computed doubles

Every operation on finite doubles is the operation on their values, rounded once (`Rounds`): the
result is finite if the rounded value is below `2 ^ 1024`, and infinite with its sign if not.

What a bound says of such a result is `AtLeast` and `AtMost`, which take an infinite double for one
beyond `2 ^ 1024`. A bound of the exact value that is itself a double bounds the rounded one.
-/

namespace BoardActivity.Binary64

open Rounding

variable {x y : Binary64} {q q' : ℚ} {n d m : Nat} {e : Int} {s : Bool}

theorem cast_pow2 (k : Nat) : ((pow2 k : Nat) : ℚ) = 2 ^ k := by
  simp [pow2]

theorem pow2_pos (k : Nat) : 0 < pow2 k := Nat.two_pow_pos k

/-- A quotient of naturals is rounded as the rational number is. -/
theorem roundQuotient_eq (hd : 0 < d) : (roundQuotient n d : ℤ) = toEven ((n : ℚ) / d) := by
  have hdq : (0 : ℚ) < d := by exact_mod_cast hd
  have hfloor : ⌊(n : ℚ) / d⌋ = ((n / d : Nat) : ℤ) := by
    rw [Rat.floor_natCast_div_natCast]
    norm_cast
  have hfract : (n : ℚ) / d - ((n / d : Nat) : ℚ) = ((n % d : Nat) : ℚ) / d := by
    have hsplit : (n : ℚ) = d * ((n / d : Nat) : ℚ) + ((n % d : Nat) : ℚ) := by
      exact_mod_cast (Nat.div_add_mod n d).symm
    rw [eq_div_iff hdq.ne', sub_mul, div_mul_cancel₀ _ hdq.ne']
    linarith
  have hlt : (1 < 2 * (((n % d : Nat) : ℚ) / d)) ↔ d < 2 * (n % d) := by
    rw [← mul_div_assoc, one_lt_div hdq]
    exact_mod_cast Iff.rfl
  have heq : (2 * (((n % d : Nat) : ℚ) / d) = 1) ↔ 2 * (n % d) = d := by
    rw [← mul_div_assoc, div_eq_one_iff_eq hdq.ne']
    exact_mod_cast Iff.rfl
  have hodd : ¬ Even ((n / d : Nat) : ℤ) ↔ n / d % 2 = 1 := by
    rw [Int.even_coe_nat, Nat.not_even_iff]
  unfold roundQuotient toEven
  simp only [hfloor, Int.cast_natCast, hfract, hlt, heq, hodd]
  split_ifs <;> simp

theorem quotient_pos (m : Nat) (e : Int) : 0 < (quotient m e).2 := by
  unfold quotient
  split_ifs
  · exact Nat.one_pos
  · exact pow2_pos _

theorem quotient_eq (m : Nat) (e : Int) :
    ((quotient m e).1 : ℚ) / (quotient m e).2 = m * 2 ^ e := by
  unfold quotient
  split_ifs with h
  · rw [Nat.cast_mul, cast_pow2, Nat.cast_one, div_one, ← zpow_natCast, Int.toNat_of_nonneg h]
  · rw [cast_pow2, ← zpow_natCast, Int.toNat_of_nonneg (by omega), zpow_neg, div_inv_eq_mul]

theorem scaleDown_pos (hd : 0 < d) (e : Int) : 0 < (scaleDown n d e).2 := by
  unfold scaleDown
  split_ifs
  · exact Nat.mul_pos hd (pow2_pos _)
  · exact hd

theorem scaleDown_eq (n d : Nat) (e : Int) :
    ((scaleDown n d e).1 : ℚ) / (scaleDown n d e).2 = n / d / 2 ^ e := by
  unfold scaleDown
  split_ifs with h
  · rw [Nat.cast_mul, cast_pow2, ← zpow_natCast, Int.toNat_of_nonneg h, div_mul_eq_div_div]
  · rw [Nat.cast_mul, cast_pow2, ← zpow_natCast, Int.toNat_of_nonneg (by omega), zpow_neg]
    field_simp

theorem log2_bounds (hn : 0 < n) :
    (2 : ℚ) ^ (n.log2 : ℤ) ≤ n ∧ (n : ℚ) < 2 ^ ((n.log2 : ℤ) + 1) := by
  constructor
  · rw [zpow_natCast]
    exact_mod_cast Nat.log2_self_le hn.ne'
  · have h : n < 2 ^ (n.log2 + 1) := Nat.lt_log2_self
    have hcast : (2 : ℚ) ^ ((n.log2 : ℤ) + 1) = ((2 ^ (n.log2 + 1) : Nat) : ℚ) := by
      rw [← Nat.cast_succ, zpow_natCast]
      push_cast
      rfl
    rw [hcast]
    exact_mod_cast h

/-- The binary lengths of numerator and denominator give the exponent up to one. -/
theorem log2_quotient_bounds (hn : 0 < n) (hd : 0 < d) :
    (2 : ℚ) ^ ((n.log2 : ℤ) - d.log2 - 1) ≤ n / d ∧
      (n : ℚ) / d < 2 ^ ((n.log2 : ℤ) - d.log2 + 1) := by
  have hdq : (0 : ℚ) < d := by exact_mod_cast hd
  obtain ⟨hn₁, hn₂⟩ := log2_bounds hn
  obtain ⟨hd₁, hd₂⟩ := log2_bounds hd
  generalize (n.log2 : ℤ) = a at *
  generalize (d.log2 : ℤ) = b at *
  constructor
  · rw [le_div_iff₀ hdq]
    calc (2 : ℚ) ^ (a - b - 1) * d ≤ 2 ^ (a - b - 1) * 2 ^ (b + 1) :=
          mul_le_mul_of_nonneg_left hd₂.le (two_zpow_pos _).le
      _ = 2 ^ a := by rw [← zpow_add₀ (by norm_num)]; congr 1; ring
      _ ≤ n := hn₁
  · rw [div_lt_iff₀ hdq]
    calc (n : ℚ) < 2 ^ (a + 1) := hn₂
      _ = 2 ^ (a - b + 1) * 2 ^ b := by rw [← zpow_add₀ (by norm_num)]; congr 1; ring
      _ ≤ 2 ^ (a - b + 1) * d := mul_le_mul_of_nonneg_left hd₁ (two_zpow_pos _).le

theorem scaleDown_lt_iff (hd : 0 < d) (e : Int) :
    (scaleDown n d e).1 < pow2 53 * (scaleDown n d e).2 ↔ (n : ℚ) / d < 2 ^ (53 + e) := by
  have hpos : (0 : ℚ) < (scaleDown n d e).2 := by exact_mod_cast scaleDown_pos hd e
  have hpow : (2 : ℚ) ^ (53 + e) = 2 ^ 53 * 2 ^ e := by rw [zpow_add₀ (by norm_num)]; norm_num
  rw [hpow, ← div_lt_iff₀ (two_zpow_pos _), ← scaleDown_eq, div_lt_iff₀ hpos, ← cast_pow2]
  exact_mod_cast Iff.rfl

/-- The exponent that is given up to one is decided by a comparison. -/
theorem exponentOf_eq (hn : 0 < n) (hd : 0 < d) : exponentOf n d = exponent ((n : ℚ) / d) := by
  have hq : (0 : ℚ) < n / d := div_pos (by exact_mod_cast hn) (by exact_mod_cast hd)
  obtain ⟨hlower, hupper⟩ := log2_quotient_bounds hn hd
  have hcompare := scaleDown_lt_iff (n := n) hd ((n.log2 : ℤ) - d.log2 - 53)
  have hlogle := fun k => Int.zpow_le_iff_le_log (b := 2) (x := k) (by norm_num) hq
  have hloglt := fun k => Int.lt_zpow_iff_log_lt (b := 2) (x := k) (by norm_num) hq
  rw [Nat.cast_ofNat] at hlogle hloglt
  rw [hlogle] at hlower
  rw [hloglt] at hupper hcompare
  unfold exponentOf exponent
  rw [abs_of_pos hq]
  simp only [hcompare]
  split_ifs <;> omega

def signed (s : Bool) (q : ℚ) : ℚ := if s then -q else q

theorem abs_signed (s : Bool) (q : ℚ) : |signed s q| = |q| := by
  cases s <;> simp [signed]

theorem nearest_signed (s : Bool) (q : ℚ) : nearest (signed s q) = signed s (nearest q) := by
  cases s <;> simp [signed, nearest_neg]

/-- The value of a finite double. -/
def value : Binary64 → ℚ
  | finite s m e => signed s (m * 2 ^ e)
  | _ => 0

/-- The double is a number, and not infinite. -/
def IsFinite : Binary64 → Prop
  | finite _ _ _ => True
  | _ => False

/-- The least number too large for a double. -/
def overflow : ℚ := 2 ^ (1024 : ℤ)

/-- The double is the number, rounded to the digits of a double, and infinite from `overflow` on. -/
def Rounds (x : Binary64) (q : ℚ) : Prop :=
  (|nearest q| < overflow ∧ x.IsFinite ∧ x.value = nearest q) ∨
    (overflow ≤ |nearest q| ∧ x = .infinite (decide (q < 0)))

theorem overflow_pos : 0 < overflow := two_zpow_pos 1024

theorem two_zpow_lt_overflow {k : Int} (h : k < 1024) : (2 : ℚ) ^ k < overflow := by
  rw [overflow]
  exact zpow_lt_zpow_right₀ (by norm_num) h

/-- The largest exponent of a finite double leaves room for 53 digits. -/
theorem overflow_eq : overflow = 2 ^ 53 * 2 ^ (971 : ℤ) := by
  rw [overflow, ← zpow_natCast, ← zpow_add₀ (by norm_num)]
  congr 1

theorem rounds_finite (hq : 0 ≤ q) (hlt : nearest q < overflow) (hv : m * 2 ^ e = nearest q) :
    Rounds (.finite s m e) (signed s q) := by
  refine .inl ⟨?_, trivial, ?_⟩
  · rwa [nearest_signed, abs_signed, abs_of_nonneg (nearest_nonneg hq)]
  · rw [value, hv, nearest_signed]

theorem rounds_infinite (hq : 0 < q) (hle : overflow ≤ nearest q) :
    Rounds (.infinite s) (signed s q) := by
  refine .inr ⟨?_, ?_⟩
  · rwa [nearest_signed, abs_signed, abs_of_nonneg (nearest_nonneg hq.le)]
  · cases s with
    | false => simp [signed, hq.le]
    | true => simp [signed, hq]

theorem rounds_zero (s : Bool) (e : Int) : Rounds (.finite s 0 e) 0 := by
  have hlt : nearest 0 < overflow := by simpa using overflow_pos
  have h := rounds_finite (q := 0) (m := 0) (e := e) (s := s) le_rfl hlt (by simp)
  cases s <;> simpa [signed] using h

/-- A significand of 53 digits is finite up to the largest exponent, and too large above it. -/
theorem rounds_canonical (hq : 0 < q) (hv : m * 2 ^ e = nearest q) (hlt : m < 2 ^ 53)
    (hge : 971 < e → 2 ^ 52 ≤ m) :
    Rounds (if 971 < e then .infinite s else .finite s m e) (signed s q) := by
  split_ifs with hlarge
  · apply rounds_infinite hq
    have htop : overflow = 2 ^ 52 * 2 ^ (972 : ℤ) := by
      rw [overflow, ← zpow_natCast, ← zpow_add₀ (by norm_num)]
      congr 1
    have hmge : (2 ^ 52 : ℚ) ≤ m := by exact_mod_cast hge hlarge
    rw [← hv, htop]
    exact mul_le_mul hmge (two_zpow_le hlarge) (two_zpow_pos _).le m.cast_nonneg
  · apply rounds_finite hq.le _ hv
    have hmlt : (m : ℚ) < 2 ^ 53 := by exact_mod_cast hlt
    rw [← hv, overflow_eq]
    exact mul_lt_mul hmlt (two_zpow_le (not_lt.1 hlarge)) (two_zpow_pos _) (by norm_num)

theorem rounds_round (s : Bool) (n : Nat) (hd : 0 < d) :
    Rounds (round s n d) (signed s (n / d)) := by
  rcases n.eq_zero_or_pos with rfl | hn
  · rw [round, if_pos rfl, Nat.cast_zero, zero_div]
    cases s <;> simpa [signed] using rounds_zero _ _
  have hq : (0 : ℚ) < n / d := div_pos (by exact_mod_cast hn) (by exact_mod_cast hd)
  generalize hqv : (n : ℚ) / d = q at hq ⊢
  have hexp : exponentOf n d = exponent q := by rw [exponentOf_eq hn hd, hqv]
  have hm : ((roundQuotient (scaleDown n d (exponent q)).1
      (scaleDown n d (exponent q)).2 : Nat) : ℤ) = digits q := by
    rw [roundQuotient_eq (scaleDown_pos hd _), scaleDown_eq, hqv, digits]
  simp only [round, if_neg hn.ne', hexp]
  generalize roundQuotient _ _ = m at hm ⊢
  have hv : m * 2 ^ exponent q = nearest q := by rw [nearest, ← hm, Int.cast_natCast]
  have hmle : m ≤ 2 ^ 53 := by
    have hle := digits_le q
    rw [← hm] at hle
    exact_mod_cast hle
  by_cases hcarry : m = pow2 53
  · -- All digits carry: the significand is halved, the exponent one more.
    rw [if_pos hcarry]
    have hv' : (pow2 52 : Nat) * 2 ^ (exponent q + 1) = nearest q := by
      rw [← hv, hcarry, cast_pow2, cast_pow2, zpow_add_one₀ (by norm_num)]
      ring
    have hlt : pow2 52 < 2 ^ 53 := by decide
    exact rounds_canonical hq hv' hlt fun _ => le_rfl
  · rw [if_neg hcarry]
    apply rounds_canonical hq hv (lt_of_le_of_ne hmle hcarry)
    intro hlarge
    have hge := le_digits hq (by omega)
    rw [← hm] at hge
    exact_mod_cast hge

theorem signed_mul (s t : Bool) (q q' : ℚ) :
    signed (s != t) (q * q') = signed s q * signed t q' := by
  cases s <;> cases t <;> simp [signed]

theorem rounds_ofNat (n : Nat) : Rounds (ofNat n) n := by
  simpa [signed, ofNat] using rounds_round false n Nat.one_pos

theorem rounds_mul (hx : x.IsFinite) (hy : y.IsFinite) : Rounds (x.mul y) (x.value * y.value) := by
  cases x with
  | nan | infinite _ => cases hx
  | finite s m e =>
    cases y with
    | nan | infinite _ => cases hy
    | finite t n f =>
      have h := rounds_round (s != t) (quotient (m * n) (e + f)).1 (quotient_pos (m * n) (e + f))
      rw [quotient_eq, Nat.cast_mul, zpow_add₀ (by norm_num), mul_mul_mul_comm, signed_mul] at h
      exact h

theorem rounds_divNat (hx : x.IsFinite) {k : Nat} (hk : 0 < k) :
    Rounds (x.divNat k) (x.value / k) := by
  cases x with
  | nan | infinite _ => cases hx
  | finite s m e =>
    have h := rounds_round s (quotient m e).1 (Nat.mul_pos (quotient_pos m e) hk)
    rw [Nat.cast_mul, div_mul_eq_div_div, quotient_eq] at h
    have hv : signed s (m * 2 ^ e / k) = signed s (m * 2 ^ e) / k := by
      cases s <;> simp [signed, neg_div]
    rwa [hv] at h

/-- A finite double as a whole number of units of a lower exponent. -/
theorem value_eq_units {low : Int} (h : low ≤ e) :
    (finite s m e).value =
      ((if s then -((m * pow2 (e - low).toNat : Nat) : Int)
        else ((m * pow2 (e - low).toNat : Nat) : Int) : Int) : ℚ) * 2 ^ low := by
  have hunits : (m : ℚ) * 2 ^ e = ((m * pow2 (e - low).toNat : Nat) : ℚ) * 2 ^ low := by
    rw [Nat.cast_mul, cast_pow2, ← zpow_natCast, Int.toNat_of_nonneg (sub_nonneg.2 h), mul_assoc,
      ← zpow_add₀ (by norm_num), sub_add_cancel]
  rw [value, hunits]
  cases s with
  | false => simp [signed]
  | true => simp [signed]

theorem rounds_add (hx : x.IsFinite) (hy : y.IsFinite) : Rounds (x.add y) (x.value + y.value) := by
  cases x with
  | nan | infinite _ => cases hx
  | finite s m e =>
    cases y with
    | nan | infinite _ => cases hy
    | finite t n f =>
      rw [value_eq_units (Int.min_le_left e f), value_eq_units (Int.min_le_right e f), ← add_mul,
        ← Int.cast_add]
      simp only [add]
      generalize (if s then _ else _ : Int) + (if t then _ else _ : Int) = sum
      by_cases hsum : sum = 0
      · rw [if_pos hsum, hsum, Int.cast_zero, zero_mul]
        exact rounds_zero _ _
      · rw [if_neg hsum]
        have h := rounds_round (decide (sum < 0)) (quotient sum.natAbs (Min.min e f)).1
          (quotient_pos sum.natAbs (Min.min e f))
        rw [quotient_eq] at h
        have hv : signed (decide (sum < 0)) ((sum.natAbs : ℚ) * 2 ^ Min.min e f) =
            (sum : ℚ) * 2 ^ Min.min e f := by
          by_cases hneg : sum < 0
          · simp [signed, hneg, Nat.cast_natAbs, abs_of_neg hneg]
          · simp [signed, hneg, Nat.cast_natAbs, abs_of_nonneg (not_lt.1 hneg)]
        rwa [hv] at h

theorem less_iff (hx : x.IsFinite) (hy : y.IsFinite) : x.less y = true ↔ x.value < y.value := by
  cases x with
  | nan | infinite _ => cases hx
  | finite s m e =>
    cases y with
    | nan | infinite _ => cases hy
    | finite t n f =>
      rw [value_eq_units (Int.min_le_left e f), value_eq_units (Int.min_le_right e f),
        mul_lt_mul_iff_left₀ (two_zpow_pos _), Int.cast_lt]
      simp only [less, decide_eq_true_eq]

/-! ## Bounds -/

def AtLeast (x : Binary64) (b : ℚ) : Prop :=
  match x with
  | nan => False
  | infinite s => s = false ∨ b ≤ -overflow
  | finite s m e => b ≤ (finite s m e).value

def AtMost (x : Binary64) (b : ℚ) : Prop :=
  match x with
  | nan => False
  | infinite s => s = true ∨ overflow ≤ b
  | finite s m e => (finite s m e).value ≤ b

variable {a b : ℚ}

theorem atLeast_iff (hx : x.IsFinite) : x.AtLeast b ↔ b ≤ x.value := by
  cases x with
  | nan | infinite _ => cases hx
  | finite s m e => exact Iff.rfl

theorem atMost_iff (hx : x.IsFinite) : x.AtMost b ↔ x.value ≤ b := by
  cases x with
  | nan | infinite _ => cases hx
  | finite s m e => exact Iff.rfl

theorem AtLeast.cases (h : x.AtLeast b) (hb : -overflow < b) :
    (x.IsFinite ∧ b ≤ x.value) ∨ x = .infinite false := by
  cases x with
  | nan => cases h
  | infinite s => exact .inr (congrArg _ (h.resolve_right hb.not_ge))
  | finite s m e => exact .inl ⟨trivial, h⟩

theorem AtMost.cases (h : x.AtMost b) (hb : b < overflow) :
    (x.IsFinite ∧ x.value ≤ b) ∨ x = .infinite true := by
  cases x with
  | nan => cases h
  | infinite s => exact .inr (congrArg _ (h.resolve_right hb.not_ge))
  | finite s m e => exact .inl ⟨trivial, h⟩

/-- Between numbers that are not too large, a double is finite. -/
theorem isFinite_of_bounds (ha : x.AtLeast a) (hb : x.AtMost b) (hlo : -overflow < a)
    (hhi : b < overflow) : x.IsFinite := by
  rcases ha.cases hlo with ⟨hx, -⟩ | rfl
  · exact hx
  · exact (hb.resolve_left Bool.false_ne_true).not_gt hhi

namespace Rounds

variable (h : Rounds x q)
include h

theorem atLeast_of_nearest (hb : b ≤ nearest q) : x.AtLeast b := by
  rcases h with ⟨-, hfin, hv⟩ | ⟨hover, rfl⟩
  · rwa [atLeast_iff hfin, hv]
  · rcases lt_or_ge q 0 with hq | hq
    · have hneg := nearest_mono hq.le
      rw [nearest_zero] at hneg
      rw [abs_of_nonpos hneg] at hover
      exact .inr (by linarith)
    · exact .inl (decide_eq_false hq.not_gt)

theorem atMost_of_nearest (hb : nearest q ≤ b) : x.AtMost b := by
  rcases h with ⟨-, hfin, hv⟩ | ⟨hover, rfl⟩
  · rwa [atMost_iff hfin, hv]
  · rcases lt_or_ge q 0 with hq | hq
    · exact .inl (decide_eq_true hq)
    · rw [abs_of_nonneg (nearest_nonneg hq)] at hover
      exact .inr (hover.trans hb)

/-- A double that bounds the exact value bounds the rounded one. -/
theorem atLeast (hb : IsDouble b) (hq : b ≤ q) : x.AtLeast b :=
  h.atLeast_of_nearest (le_nearest hb hq)

theorem atMost (hb : IsDouble b) (hq : q ≤ b) : x.AtMost b :=
  h.atMost_of_nearest (nearest_le hb hq)

/-- Between doubles that are not too large, the rounded value is finite. -/
theorem between (hlo : IsDouble a) (hhi : IsDouble b) (ha : -overflow < a) (hb : b < overflow)
    (haq : a ≤ q) (hqb : q ≤ b) : x.IsFinite ∧ a ≤ x.value ∧ x.value ≤ b := by
  have hlow := h.atLeast hlo haq
  have hhigh := h.atMost hhi hqb
  have hx := isFinite_of_bounds hlow hhigh ha hb
  exact ⟨hx, (atLeast_iff hx).1 hlow, (atMost_iff hx).1 hhigh⟩

theorem value_eq (hx : x.IsFinite) : x.value = nearest q := by
  rcases h with ⟨-, -, hv⟩ | ⟨-, rfl⟩
  · exact hv
  · cases hx

theorem abs_value_lt (hx : x.IsFinite) : |x.value| < overflow := by
  rcases h with ⟨hover, -, hv⟩ | ⟨-, rfl⟩
  · rwa [hv]
  · cases hx

theorem isDouble_value (hx : x.IsFinite) : IsDouble x.value := by
  rw [h.value_eq hx]
  exact isDouble_nearest q

/-- What is rounded to no more than a finite double is finite. -/
theorem isFinite_of_le (h' : Rounds y q') (hy : y.IsFinite) (hq : 0 ≤ q)
    (hle : nearest q ≤ nearest q') : x.IsFinite := by
  rcases h' with ⟨hover, -, -⟩ | ⟨-, rfl⟩
  · have hnonneg := nearest_nonneg hq
    rw [abs_of_nonneg (hnonneg.trans hle)] at hover
    rcases h with ⟨-, hfin, -⟩ | ⟨hover', -⟩
    · exact hfin
    · rw [abs_of_nonneg hnonneg] at hover'
      linarith
  · cases hy

end Rounds

theorem one_finite : one.IsFinite ∧ one.value = 1 := by
  refine ⟨trivial, ?_⟩
  rw [one, value, signed, if_neg Bool.false_ne_true, cast_pow2, ← zpow_natCast,
    ← zpow_add₀ (by norm_num)]
  norm_num

theorem max_eq (hx : x.IsFinite) (hy : y.IsFinite) : x.max y = if x.less y then y else x := by
  cases x with
  | nan | infinite _ => cases hx
  | finite s m e =>
    cases y with
    | nan | infinite _ => cases hy
    | finite t n f => rfl

theorem min_eq (hx : x.IsFinite) (hy : y.IsFinite) : x.min y = if y.less x then y else x := by
  cases x with
  | nan | infinite _ => cases hx
  | finite s m e =>
    cases y with
    | nan | infinite _ => cases hy
    | finite t n f => rfl

/-- The larger of a number and a finite one is no less than that one, whatever the number. -/
theorem atLeast_max (x : Binary64) (hy : y.IsFinite) : (x.max y).AtLeast y.value := by
  by_cases hx : x.IsFinite
  · rw [max_eq hx hy]
    split_ifs with hless
    · exact (atLeast_iff hy).2 le_rfl
    · exact (atLeast_iff hx).2 (not_lt.1 (mt (less_iff hx hy).2 hless))
  · cases y with
    | nan | infinite _ => cases hy
    | finite t n f =>
      rcases x with _ | (_ | _) | _
      · exact le_refl (finite t n f).value
      · exact .inl rfl
      · exact le_refl (finite t n f).value
      · exact (hx trivial).elim

/-- The smaller of a number and a finite one is that one, or the number, if it is no larger. -/
theorem min_cases (x : Binary64) (hy : y.IsFinite) :
    x.min y = y ∨ (x.min y = x ∧ x.AtMost y.value) := by
  by_cases hx : x.IsFinite
  · rw [min_eq hx hy]
    split_ifs with hless
    · exact .inl rfl
    · exact .inr ⟨rfl, (atMost_iff hx).2 (not_lt.1 (mt (less_iff hy hx).2 hless))⟩
  · cases y with
    | nan | infinite _ => cases hy
    | finite t n f =>
      rcases x with _ | (_ | _) | _
      · exact .inl rfl
      · exact .inl rfl
      · exact .inr ⟨rfl, .inl rfl⟩
      · exact (hx trivial).elim

theorem zero_finite : zero.IsFinite ∧ zero.value = 0 :=
  ⟨trivial, by simp [zero, value, signed]⟩

theorem isFinite_neg (hx : x.IsFinite) : x.neg.IsFinite := by
  cases x with
  | nan | infinite _ => cases hx
  | finite s m e => trivial

theorem value_neg (hx : x.IsFinite) : x.neg.value = -x.value := by
  cases x with
  | nan | infinite _ => cases hx
  | finite s m e => cases s <;> simp [neg, value, signed]

theorem isZero_iff (hx : x.IsFinite) : x.isZero = true ↔ x.value = 0 := by
  cases x with
  | nan | infinite _ => cases hx
  | finite s m e =>
    have hpow := (two_zpow_pos e).ne'
    cases s <;> simp [isZero, value, signed, hpow]

/-- A finite sum is one of finite doubles. -/
theorem isFinite_of_add (h : (x.add y).IsFinite) : x.IsFinite ∧ y.IsFinite := by
  cases x with
  | nan => cases h
  | infinite s =>
    cases y with
    | nan | finite _ _ _ => cases h
    | infinite t =>
      rw [add] at h
      split_ifs at h <;> cases h
  | finite s m e =>
    cases y with
    | nan | infinite _ => cases h
    | finite t n f => exact ⟨trivial, trivial⟩

/-- A finite product is one of finite doubles. -/
theorem isFinite_of_mul (h : (x.mul y).IsFinite) : x.IsFinite ∧ y.IsFinite := by
  cases x with
  | nan => cases y <;> cases h
  | infinite s =>
    cases y with
    | nan => cases h
    | infinite t => cases h
    | finite t n f =>
      rw [mul] at h
      split_ifs at h <;> cases h
  | finite s m e =>
    cases y with
    | nan => cases h
    | infinite t =>
      rw [mul] at h
      split_ifs at h <;> cases h
    | finite t n f => exact ⟨trivial, trivial⟩

/-- The smaller of two numbers is negative if the first one is. -/
theorem min_less_zero (hx : x.AtMost b) (hb : b < 0) (hy : y.IsFinite) (h0 : 0 ≤ y.value) :
    (x.min y).less .zero = true := by
  obtain ⟨hzero, hzerov⟩ := zero_finite
  rcases hx.cases (hb.trans overflow_pos) with ⟨hfin, hv⟩ | rfl
  · have hmin : ¬ y.less x = true := by
      rw [less_iff hy hfin]
      linarith
    rw [min_eq hfin hy, if_neg hmin, less_iff hfin hzero, hzerov]
    linarith
  · cases y with
    | nan | infinite _ => cases hy
    | finite t n f => rfl

/-! ## Products of bounded numbers -/

/-- Infinity times a positive number. -/
theorem mul_infinite (hx : x.IsFinite) (hpos : 0 < x.value) (t : Bool) :
    x.mul (.infinite t) = .infinite t ∧ (infinite t).mul x = .infinite t := by
  cases x with
  | nan | infinite _ => cases hx
  | finite s m e =>
    have hm : m ≠ 0 := by
      rintro rfl
      cases s <;> simp [value, signed] at hpos
    cases s with
    | false => simp [mul, hm]
    | true =>
      have hneg : (finite true m e).value ≤ 0 :=
        neg_nonpos.2 (mul_nonneg m.cast_nonneg (two_zpow_pos e).le)
      exact (hneg.not_gt hpos).elim

/-- Multiplying by no less than one makes a double of no sign no smaller. -/
theorem le_mul_of_one_le (hx : x.IsFinite) (hd : IsDouble x.value) (h0 : 0 ≤ x.value)
    (hy : y.IsFinite) (h1 : 1 ≤ y.value) : (x.mul y).AtLeast x.value :=
  (rounds_mul hx hy).atLeast hd (le_mul_of_one_le_right h0 h1)

/-- So it does if that number may be infinite, unless the product is zero times infinity. -/
theorem mul_of_atLeast_one (hx : x.IsFinite) (hd : IsDouble x.value) (h0 : 0 ≤ x.value)
    (hy : y.AtLeast 1) : x.mul y = .nan ∨ (x.mul y).AtLeast x.value := by
  rcases hy.cases (by linarith [overflow_pos]) with ⟨hyf, h1⟩ | rfl
  · exact .inr (le_mul_of_one_le hx hd h0 hyf h1)
  · rcases h0.eq_or_lt with hzero | hpos
    · cases x with
      | nan | infinite _ => cases hx
      | finite s m e =>
        have hm : m = 0 := by simpa [isZero] using (isZero_iff hx).2 hzero.symm
        exact .inl (if_pos hm)
    · rw [(mul_infinite hx hpos false).1]
      exact .inr (.inl rfl)

/-- Numbers from one on have products from one on, and so powers. -/
theorem atLeast_one_mul (hx : x.AtLeast 1) (hy : y.AtLeast 1) : (x.mul y).AtLeast 1 := by
  have hlow : -overflow < 1 := by linarith [overflow_pos]
  rcases hx.cases hlow with ⟨hxf, hx1⟩ | rfl
  · rcases hy.cases hlow with ⟨hyf, hy1⟩ | rfl
    · exact (rounds_mul hxf hyf).atLeast isDouble_one (one_le_mul_of_one_le_of_one_le hx1 hy1)
    · rw [(mul_infinite hxf (by linarith) false).1]
      exact .inl rfl
  · rcases hy.cases hlow with ⟨hyf, hy1⟩ | rfl
    · rw [(mul_infinite hyf (by linarith) false).2]
      exact .inl rfl
    · exact .inl rfl

theorem atLeast_one_powNat {acc : Binary64} (hx : x.AtLeast 1) (hacc : acc.AtLeast 1) (k : Nat) :
    (powNat x acc k).AtLeast 1 := by
  induction k using Nat.strongRecOn generalizing x acc with
  | ind k ih =>
    rw [powNat]
    split_ifs with hk hodd hhalf hhalf
    · exact hacc
    · exact atLeast_one_mul hacc hx
    · exact ih (k / 2) (by omega) (atLeast_one_mul hx hx) (atLeast_one_mul hacc hx)
    · exact hacc
    · exact ih (k / 2) (by omega) (atLeast_one_mul hx hx) hacc

/-- A positive double times one that is not too close to zero from below. -/
theorem mul_atMost_neg {c : ℚ} (hx : x.IsFinite) (hxa : a ≤ x.value) (ha : 0 < a)
    (hy : y.AtMost (-b)) (hb : 0 < b) (hc : IsDouble c) (hle : c ≤ a * b) :
    (x.mul y).AtMost (-c) := by
  rcases hy.cases (by linarith [overflow_pos]) with ⟨hfin, hv⟩ | rfl
  · apply (rounds_mul hx hfin).atMost hc.neg
    have hprod : a * b ≤ x.value * -y.value :=
      mul_le_mul hxa (by linarith) hb.le (ha.le.trans hxa)
    linarith
  · rw [(mul_infinite hx (ha.trans_le hxa) true).1]
    exact .inl rfl

end BoardActivity.Binary64
