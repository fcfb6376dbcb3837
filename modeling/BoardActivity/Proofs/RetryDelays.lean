import BoardActivity.Proofs.DoubleSpans
import BoardActivity.Proofs.TaskExecution
import BoardActivity.Proofs.WireValues
import BoardActivity.Wire.Settings

/-!
# Delays of the policies that are read

The builders of a policy keep its coefficient and its jitter within bounds; reading one does not,
and checking the settings does not look at it. So the delay before an attempt may be no span:
negative, or with a jitter whose spread is zero or unbounded, or too long with the jitter drawn
(`RetryPolicy.Breaks`). Nothing else can be wrong with it, since the intervals that are read are far
from the longest span (`RetryPolicy.InRange`).

Within the bounds of the builders every delay can be computed, as long as the exponent does not wrap
around (`RetryPolicy.Clamped`); only a jitter that is positive and below the smallest normal double
has to be excluded. A task whose handler failed keeps its claim exactly if the delay before its next
attempt cannot be computed.
-/

namespace BoardActivity

open Binary64 Rounding

namespace Draw

theorem unit_bounds (d : Draw) : d.unit.IsFinite ∧ 0 ≤ d.unit.value ∧ d.unit.value ≤ 1 := by
  have hr := rounds_round false d.point (Binary64.pow2_pos 52)
  have hlt : (d.point : ℚ) < (pow2 52 : Nat) := by exact_mod_cast d.point_lt
  have h0 : 0 ≤ signed false ((d.point : ℚ) / (pow2 52 : Nat)) :=
    div_nonneg d.point.cast_nonneg (Nat.cast_nonneg _)
  have h1 : signed false ((d.point : ℚ) / (pow2 52 : Nat)) ≤ 1 :=
    div_le_one_of_le₀ hlt.le (Nat.cast_nonneg _)
  have hover := two_zpow_lt_overflow (k := 0) (by norm_num)
  rw [zpow_zero] at hover
  exact hr.between isDouble_zero isDouble_one (neg_neg_of_pos overflow_pos) hover h0 h1

end Draw

namespace RetryPolicy

variable {p : RetryPolicy} {attempt : Nat} {draw : Draw}

structure InRange (p : RetryPolicy) : Prop where
  initial : p.initialInterval ≤ .ofSeconds (2 ^ 55)
  longest : p.maxInterval ≤ .ofSeconds (2 ^ 55)

/-- What the jitter of a delay is drawn from: a part of it to either side. -/
def spread (p : RetryPolicy) (attempt : Nat) : Binary64 := (p.cappedSeconds attempt).mul p.jitter

def HasJitter (p : RetryPolicy) (attempt : Nat) : Prop :=
  Binary64.zero.less p.jitter = true ∧ Binary64.zero.less (p.cappedSeconds attempt) = true

/-- The numbers of the policy make no delay before the attempt: it is negative, or there is nothing
to draw the jitter from, as its spread is zero or unbounded, or what is drawn makes it too long. -/
def Breaks (p : RetryPolicy) (attempt : Nat) (draw : Draw) : Prop :=
  2 ≤ attempt ∧ ((p.cappedSeconds attempt).less .zero = true ∨
    p.HasJitter attempt ∧ ((p.spread attempt).isZero = true ∨
      ¬ ((p.spread attempt).add (p.spread attempt)).IsFinite ∨
      ∃ offset, jitterOffset? (p.spread attempt) draw = some offset ∧
        ((p.cappedSeconds attempt).add offset).TooLong))

theorem seconds_bounds {d : Span} (h : d ≤ .ofSeconds (2 ^ 55)) :
    d.toSeconds.IsFinite ∧ 0 ≤ d.toSeconds.value ∧ d.toSeconds.value ≤ 2 ^ (55 : ℤ) := by
  have hfin := Span.isFinite_toSeconds (by norm_num) h
  exact ⟨hfin, Span.toSeconds_nonneg hfin, Span.value_toSeconds hfin ▸ Span.nearest_seconds_le h⟩

/-- The delay before jitter is negative, or finite and not above the longest interval. -/
theorem cappedSeconds_cases (h : p.InRange) (attempt : Nat) :
    (p.cappedSeconds attempt).less .zero = true ∨
      ((p.cappedSeconds attempt).less .zero = false ∧ (p.cappedSeconds attempt).IsFinite ∧
        0 ≤ (p.cappedSeconds attempt).value ∧ (p.cappedSeconds attempt).value ≤ 2 ^ (55 : ℤ)) := by
  obtain ⟨hlongest, -, hlongest1⟩ := seconds_bounds h.longest
  obtain ⟨hzero, hzerov⟩ := zero_finite
  have hfinite : ∀ {x : Binary64}, x.IsFinite → x.value ≤ p.maxInterval.toSeconds.value →
      x.less .zero = true ∨
        (x.less .zero = false ∧ x.IsFinite ∧ 0 ≤ x.value ∧ x.value ≤ 2 ^ (55 : ℤ)) := by
    intro x hx hle
    cases hless : x.less .zero with
    | true => exact .inl rfl
    | false =>
      rw [← Bool.not_eq_true, less_iff hx hzero, hzerov, not_lt] at hless
      exact .inr ⟨rfl, hx, hless, hle.trans hlongest1⟩
  unfold cappedSeconds
  generalize p.initialInterval.toSeconds.mul _ = x
  rcases min_cases x hlongest with hmin | ⟨hmin, hle⟩
  · rw [hmin]
    exact hfinite hlongest le_rfl
  · rw [hmin]
    rcases hle.cases (hlongest1.trans_lt (two_zpow_lt_overflow (by norm_num))) with
      ⟨hx, hv⟩ | rfl
    · exact hfinite hx hv
    · exact .inl rfl

theorem HasJitter.not_less_zero (h : p.HasJitter attempt) :
    ¬ (p.cappedSeconds attempt).less .zero = true := fun hless =>
  Bool.false_ne_true ((toSpan?_of_less_zero hless).2.symm.trans h.2)

/-! ## Jitter -/

/-- There is something to draw from exactly if the spread is not zero and not unbounded. -/
theorem jitterOffset?_eq_none_iff {spread : Binary64} (h0 : spread.IsFinite → 0 ≤ spread.value)
    (draw : Draw) :
    jitterOffset? spread draw = none ↔
      spread.isZero = true ∨ ¬ (spread.add spread).IsFinite := by
  cases hsum : spread.add spread with
  | nan | infinite _ =>
    exact iff_of_true (by simp only [jitterOffset?, hsum]) (.inr id)
  | finite s m e =>
    have hsumfin : (spread.add spread).IsFinite := by
      rw [hsum]
      trivial
    obtain ⟨hfin, -⟩ := isFinite_of_add hsumfin
    have hless : spread.neg.less spread = true ↔ ¬ spread.isZero = true := by
      rw [less_iff (isFinite_neg hfin) hfin, value_neg hfin, isZero_iff hfin]
      have hnonneg := h0 hfin
      constructor
      · intro h hz
        linarith
      · intro h
        have hpos := lt_of_le_of_ne hnonneg (Ne.symm h)
        linarith
    simp only [jitterOffset?, hsum]
    split_ifs with hlow
    · exact iff_of_false nofun (not_or.2 ⟨hless.1 hlow, not_not.2 trivial⟩)
    · exact iff_of_true rfl (.inl (not_not.1 (mt hless.2 hlow)))

theorem jitterOffset?_eq {spread offset : Binary64} (h : jitterOffset? spread draw = some offset) :
    (spread.add spread).IsFinite ∧
      offset = (draw.unit.mul (spread.add spread)).add spread.neg := by
  unfold jitterOffset? at h
  cases hsum : spread.add spread with
  | nan | infinite _ =>
    simp only [hsum] at h
    cases h
  | finite s m e =>
    simp only [hsum] at h
    split_ifs at h
    exact ⟨trivial, (Option.some.inj h).symm⟩

/-- What is drawn lies between the spread to one side and twice the spread to the other. -/
theorem jitterOffset?_bounds {spread offset : Binary64} {q : ℚ} (hr : spread.Rounds q)
    (hfin : spread.IsFinite) (h0 : 0 ≤ spread.value)
    (h : jitterOffset? spread draw = some offset) :
    offset.IsFinite ∧ -spread.value ≤ offset.value ∧
      offset.value ≤ (spread.add spread).value := by
  obtain ⟨hunit, hunit0, hunit1⟩ := draw.unit_bounds
  have hsum := rounds_add hfin hfin
  obtain ⟨hsumfin, hoffset⟩ := jitterOffset?_eq h
  have hdouble := hsum.isDouble_value hsumfin
  have hsum0 : 0 ≤ (spread.add spread).value := by
    rw [hsum.value_eq hsumfin]
    exact nearest_nonneg (by linarith)
  have hmul := rounds_mul hunit hsumfin
  have hover := abs_lt.1 (hsum.abs_value_lt hsumfin)
  have hq0 := mul_nonneg hunit0 hsum0
  have hq1 : draw.unit.value * (spread.add spread).value ≤ (spread.add spread).value :=
    mul_le_of_le_one_left hsum0 hunit1
  obtain ⟨hmulfin, hmul0, hmul1⟩ :=
    hmul.between isDouble_zero hdouble (neg_neg_of_pos overflow_pos) hover.2 hq0 hq1
  have hadd := rounds_add hmulfin (isFinite_neg hfin)
  rw [value_neg hfin] at hadd
  have hspread := hr.isDouble_value hfin
  have hspreadover := abs_lt.1 (hr.abs_value_lt hfin)
  rw [hoffset]
  have hlo : -spread.value ≤ (draw.unit.mul (spread.add spread)).value + -spread.value := by
    linarith
  have hhi : (draw.unit.mul (spread.add spread)).value + -spread.value ≤
      (spread.add spread).value := by linarith
  exact hadd.between hspread.neg hdouble (by linarith) hover.2 hlo hhi

theorem rounds_spread (hfin : (p.spread attempt).IsFinite) :
    (p.spread attempt).Rounds ((p.cappedSeconds attempt).value * p.jitter.value) :=
  rounds_mul (isFinite_of_mul hfin).1 (isFinite_of_mul hfin).2

theorem HasJitter.positive (h : p.HasJitter attempt) (hfin : (p.spread attempt).IsFinite) :
    0 < p.jitter.value ∧ 0 < (p.cappedSeconds attempt).value := by
  obtain ⟨hzero, hzerov⟩ := zero_finite
  obtain ⟨hcapped, hjitter⟩ := isFinite_of_mul hfin
  obtain ⟨h₁, h₂⟩ := h
  rw [less_iff hzero hjitter, hzerov] at h₁
  rw [less_iff hzero hcapped, hzerov] at h₂
  exact ⟨h₁, h₂⟩

theorem HasJitter.spread_nonneg (h : p.HasJitter attempt) (hfin : (p.spread attempt).IsFinite) :
    0 ≤ (p.spread attempt).value := by
  obtain ⟨hjitter, hcapped⟩ := h.positive hfin
  rw [(rounds_spread hfin).value_eq hfin]
  exact nearest_nonneg (mul_nonneg hcapped.le hjitter.le)

/-- A delay with its jitter is not far below zero. -/
theorem HasJitter.atLeast_add (h : p.HasJitter attempt)
    (hcapped : (p.cappedSeconds attempt).IsFinite) {offset : Binary64}
    (hoffset : jitterOffset? (p.spread attempt) draw = some offset) :
    ∃ b, -overflow < b ∧ ((p.cappedSeconds attempt).add offset).AtLeast b := by
  have hfin := (isFinite_of_add (jitterOffset?_eq hoffset).1).1
  obtain ⟨hjitter, hpos⟩ := h.positive hfin
  have hr := rounds_spread hfin
  obtain ⟨hoffsetfin, hlow, -⟩ := jitterOffset?_bounds hr hfin (h.spread_nonneg hfin) hoffset
  have hover := abs_lt.1 (hr.abs_value_lt hfin)
  refine ⟨-(p.spread attempt).value, by linarith, ?_⟩
  exact (rounds_add hcapped hoffsetfin).atLeast (hr.isDouble_value hfin).neg (by linarith)

/-- The delays that cannot be computed are the ones whose numbers break. -/
theorem delay?_eq_none_iff (h : p.InRange) (attempt : Nat) (draw : Draw) :
    p.delay? attempt draw = none ↔ p.Breaks attempt draw := by
  unfold delay? Breaks
  by_cases hfirst : attempt ≤ 1
  · rw [if_pos hfirst]
    exact iff_of_false nofun fun hb => by omega
  rw [if_neg hfirst, delaySeconds?, and_iff_right (by omega : 2 ≤ attempt)]
  rcases cappedSeconds_cases h attempt with hless | ⟨hless, hfin, h0, h1⟩
  · obtain ⟨hspan, hnot⟩ := toSpan?_of_less_zero hless
    rw [hnot, Bool.and_false, if_neg Bool.false_ne_true, Option.bind_some, hspan]
    exact iff_of_true rfl (.inl hless)
  · rw [hless]
    by_cases hj : p.HasJitter attempt
    · have hif := Bool.and_eq_true_iff.2 hj
      have hspread := jitterOffset?_eq_none_iff (fun hs => hj.spread_nonneg hs) draw
      simp only [if_pos hif, hj, true_and, Bool.false_eq_true, false_or]
      change ((jitterOffset? (p.spread attempt) draw).map _).bind _ = none ↔ _
      cases hoffset : jitterOffset? (p.spread attempt) draw with
      | none =>
        rw [← or_assoc]
        exact iff_of_true (by simp) (.inl (hspread.1 hoffset))
      | some offset =>
        obtain ⟨b, hb, hatLeast⟩ := hj.atLeast_add hfin hoffset
        rw [Option.map_some, Option.bind_some, toSpan?_max_zero hatLeast hb, ← or_assoc,
          ← hspread, hoffset]
        simp
    · have hif : ¬ (Binary64.zero.less p.jitter &&
          Binary64.zero.less (p.cappedSeconds attempt)) = true :=
        fun hj' => hj (Bool.and_eq_true_iff.1 hj')
      have hshort := not_tooLong_of_le hfin (h1.trans (two_zpow_le (by norm_num)))
      simp only [if_neg hif, Option.bind_some, hj, false_and, or_false, Bool.false_eq_true]
      rw [toSpan?_eq_none_iff_tooLong fun _ => h0]
      exact iff_of_false hshort id

/-! ## Policies that do not break -/

/-- The coefficient is no less than one; there is no jitter, or a part between the smallest normal
double and one. -/
structure Clamped (p : RetryPolicy) : Prop where
  coefficient : p.coefficient.AtLeast 1
  jitter : Binary64.zero.less p.jitter = false ∨
    (p.jitter.IsFinite ∧ 2 ^ (-1022 : ℤ) ≤ p.jitter.value ∧ p.jitter.value ≤ 1)

/-- The exponents of the first attempts are not negative. -/
theorem exponent_eq (h2 : 2 ≤ attempt) (hlt : attempt < pow2 31 + 2) :
    exponent attempt = (attempt : ℤ) - 2 := by
  have h31 : pow2 31 = 2147483648 := rfl
  have h32 : (pow2 32 : ℤ) = 4294967296 := rfl
  apply Int.bmod_eq_of_le_mul_two
  · omega
  · omega

theorem Clamped.atLeast_pow (h : p.Clamped) (h2 : 2 ≤ attempt) (hlt : attempt < pow2 31 + 2) :
    (p.coefficient.pow (exponent attempt)).AtLeast 1 := by
  obtain ⟨honefin, hone⟩ := one_finite
  have hnonneg : ¬ exponent attempt < 0 := by
    rw [exponent_eq h2 hlt]
    omega
  rw [pow, if_neg hnonneg]
  exact atLeast_one_powNat h.coefficient ((atLeast_iff honefin).2 hone.ge) _

/-- Before jitter the delay of such a policy is zero, or not too close to it. -/
theorem Clamped.cappedSeconds (h : p.Clamped) (hr : p.InRange) (h2 : 2 ≤ attempt)
    (hlt : attempt < pow2 31 + 2) : (p.cappedSeconds attempt).IsFinite ∧
      ((p.cappedSeconds attempt).value = 0 ∨ 2 ^ (-30 : ℤ) ≤ (p.cappedSeconds attempt).value) := by
  obtain ⟨hlongest, -, hlongest1⟩ := seconds_bounds hr.longest
  obtain ⟨hinitial, hinitial0, -⟩ := seconds_bounds hr.initial
  have hpow := h.atLeast_pow h2 hlt
  have hmul := mul_of_atLeast_one hinitial (Span.isDouble_toSeconds hinitial) hinitial0 hpow
  unfold RetryPolicy.cappedSeconds
  rcases min_cases _ hlongest with hmin | ⟨hmin, hle⟩
  · rw [hmin]
    exact ⟨hlongest, Span.seconds_zero_or hlongest⟩
  · rw [hmin]
    rcases hmul with hnan | hge
    · rw [hnan] at hle
      cases hle
    · have hover := two_zpow_lt_overflow (k := 55) (by norm_num)
      have hfin :=
        isFinite_of_bounds hge hle (by linarith [overflow_pos]) (hlongest1.trans_lt hover)
      refine ⟨hfin, ?_⟩
      rcases Span.seconds_zero_or hinitial with hzero | hsmall
      · have hv := (rounds_mul hinitial (isFinite_of_mul hfin).2).value_eq hfin
        rw [hzero, zero_mul, nearest_zero] at hv
        exact .inl hv
      · exact .inr (hsmall.trans ((atLeast_iff hfin).1 hge))

/-- The spread of such a jitter lies between two powers of two. -/
theorem Clamped.spread_bounds (h : p.Clamped) (hr : p.InRange) (h2 : 2 ≤ attempt)
    (hlt : attempt < pow2 31 + 2) (hj : p.HasJitter attempt) : (p.spread attempt).IsFinite ∧
      2 ^ (-1052 : ℤ) ≤ (p.spread attempt).value ∧ (p.spread attempt).value ≤ 2 ^ (55 : ℤ) := by
  obtain ⟨hzerofin, hzerov⟩ := zero_finite
  obtain ⟨hfin, hzero⟩ := h.cappedSeconds hr h2 hlt
  obtain hless | ⟨-, -, hnonneg, htop⟩ := cappedSeconds_cases hr attempt
  · exact (hj.not_less_zero hless).elim
  obtain ⟨hjfin, hj0, hj1⟩ := h.jitter.resolve_left (by rw [hj.1]; exact Bool.noConfusion)
  have hpos : 2 ^ (-30 : ℤ) ≤ (p.cappedSeconds attempt).value := by
    apply hzero.resolve_left
    have hgt := (less_iff hzerofin hfin).1 hj.2
    rw [hzerov] at hgt
    exact hgt.ne'
  have hq0 : 2 ^ (-1052 : ℤ) ≤ (p.cappedSeconds attempt).value * p.jitter.value := by
    have hsplit : (2 : ℚ) ^ (-1052 : ℤ) = 2 ^ (-30 : ℤ) * 2 ^ (-1022 : ℤ) := by
      rw [← zpow_add₀ (by norm_num)]
      congr 1
    rw [hsplit]
    exact mul_le_mul hpos hj0 (two_zpow_pos _).le hnonneg
  have hq1 : (p.cappedSeconds attempt).value * p.jitter.value ≤ 2 ^ (55 : ℤ) :=
    (mul_le_of_le_one_right hnonneg hj1).trans htop
  have hmul := rounds_mul hfin hjfin
  have hlow := isDouble_two_zpow (k := -1052) (by norm_num)
  have hhigh := isDouble_two_zpow (k := 55) (by norm_num)
  exact hmul.between hlow hhigh (by linarith [overflow_pos, two_zpow_pos (-1052)])
    (two_zpow_lt_overflow (by norm_num)) hq0 hq1

/-- Such a policy has a delay before every attempt up to the one whose exponent wraps around. -/
theorem Clamped.not_breaks (h : p.Clamped) (hr : p.InRange) (hlt : attempt < pow2 31 + 2)
    (draw : Draw) : ¬ p.Breaks attempt draw := by
  rintro ⟨h2, hneg | ⟨hj, hbreaks⟩⟩
  · -- A number that is zero, or not too close to it, is not negative.
    obtain ⟨hfin, hzero⟩ := h.cappedSeconds hr h2 hlt
    obtain ⟨hzerofin, hzerov⟩ := zero_finite
    rw [less_iff hfin hzerofin, hzerov] at hneg
    exact hneg.not_ge (hzero.elim Eq.ge (two_zpow_pos (-30)).le.trans)
  obtain hless | ⟨-, hfin, hnonneg, htop⟩ := cappedSeconds_cases hr attempt
  · exact hj.not_less_zero hless
  obtain ⟨hspread, hlow, hhigh⟩ := h.spread_bounds hr h2 hlt hj
  have hpos := (two_zpow_pos (-1052)).trans_le hlow
  have hsum := rounds_add hspread hspread
  have htop' := isDouble_two_zpow (k := 56) (by norm_num)
  have hover := neg_neg_of_pos overflow_pos
  have hdouble : (2 : ℚ) ^ (56 : ℤ) = 2 ^ (55 : ℤ) + 2 ^ (55 : ℤ) := by norm_num
  obtain ⟨hsumfin, -, hsum1⟩ := hsum.between isDouble_zero htop' hover
    (two_zpow_lt_overflow (by norm_num)) (by linarith) (by linarith)
  rcases hbreaks with hz | hnot | ⟨offset, hoffset, hlong⟩
  · exact hpos.ne' ((isZero_iff hspread).1 hz)
  · exact hnot hsumfin
  · obtain ⟨hoffsetfin, hoffset0, hoffset1⟩ :=
      jitterOffset?_bounds (rounds_spread hspread) hspread hpos.le hoffset
    have hadd := rounds_add hfin hoffsetfin
    have hbound := isDouble_two_zpow (k := 57) (by norm_num)
    have hfour : (2 : ℚ) ^ (57 : ℤ) = 2 ^ (56 : ℤ) + 2 ^ (56 : ℤ) := by norm_num
    have hq1 : (p.cappedSeconds attempt).value + offset.value ≤ 2 ^ (57 : ℤ) := by linarith
    obtain ⟨haddfin, -, hadd1⟩ := hadd.between (isDouble_two_zpow (k := 55) (by norm_num)).neg
      hbound (neg_lt_neg (two_zpow_lt_overflow (by norm_num)))
      (two_zpow_lt_overflow (by norm_num)) (by linarith) hq1
    exact not_tooLong_of_le haddfin hadd1 hlong

/-- The clamps of the builders are enough, unless the jitter is too close to zero for a product. -/
theorem clamped_of_builders (p : RetryPolicy) (x y : Binary64)
    (hy : y.IsFinite → y.value ≤ 0 ∨ 2 ^ (-1022 : ℤ) ≤ y.value) :
    ((p.withCoefficient x).withJitter y).Clamped := by
  obtain ⟨hzero, hzerov⟩ := zero_finite
  obtain ⟨hone, honev⟩ := one_finite
  refine ⟨honev ▸ atLeast_max x hone, ?_⟩
  change Binary64.zero.less (y.clamp .zero .one) = false ∨ _
  change _ ∨ ((y.clamp .zero .one).IsFinite ∧ _ ≤ (y.clamp .zero .one).value ∧
    (y.clamp .zero .one).value ≤ 1)
  have hpow : (2 : ℚ) ^ (-1022 : ℤ) ≤ 1 := by
    rw [← zpow_zero (2 : ℚ)]
    exact two_zpow_le (by norm_num)
  cases y with
  | nan => exact .inl rfl
  | infinite s =>
    cases s with
    | true => exact .inl (by decide)
    | false => exact .inr ⟨hone, honev ▸ hpow, honev.le⟩
  | finite s m e =>
    have hfin : (finite s m e).IsFinite := trivial
    rw [clamp]
    split_ifs with hlow hhigh
    · exact .inl (by decide)
    · exact .inr ⟨hone, honev ▸ hpow, honev.le⟩
    · rw [less_iff hfin hzero, hzerov, not_lt] at hlow
      rw [less_iff hone hfin, honev, not_lt] at hhigh
      rcases hy hfin with hle | hge
      · refine .inl ?_
        rw [← Bool.not_eq_true, less_iff hzero hfin, hzerov]
        exact hle.not_gt
      · exact .inr ⟨hfin, hge, hhigh⟩

/-! ## Policies that break -/

/-- A negative coefficient breaks the third attempt, whatever the jitter, unless it is too close to
zero for a product, or there is no initial interval. -/
theorem breaks_of_negative (h : p.InRange) (hi : 1 ≤ p.initialInterval.nanoseconds)
    (hc : p.coefficient.AtMost (-2 ^ (-1000 : ℤ))) (draw : Draw) : p.Breaks 3 draw := by
  obtain ⟨hinitial, -, -⟩ := seconds_bounds h.initial
  obtain ⟨hlongest, hlongest0, -⟩ := seconds_bounds h.longest
  obtain ⟨hone, honev⟩ := one_finite
  have hseconds : 2 ^ (-30 : ℤ) ≤ p.initialInterval.toSeconds.value :=
    Span.value_toSeconds hinitial ▸ Span.le_nearest_seconds hi
  have hsmall := isDouble_two_zpow (k := -1000) (by norm_num)
  have hsmall' := isDouble_two_zpow (k := -1030) (by norm_num)
  have hpow : p.coefficient.pow (exponent 3) = one.mul p.coefficient := by
    have hexp : exponent 3 = 1 := by decide
    rw [hexp, pow, if_neg (by decide), powNat]
    simp
  have hfactor : (p.coefficient.pow (exponent 3)).AtMost (-2 ^ (-1000 : ℤ)) := by
    rw [hpow]
    exact mul_atMost_neg hone honev.ge zero_lt_one hc (two_zpow_pos _) hsmall (by rw [one_mul])
  have hbase : (p.initialInterval.toSeconds.mul (p.coefficient.pow (exponent 3))).AtMost
      (-2 ^ (-1030 : ℤ)) := by
    refine mul_atMost_neg hinitial hseconds (two_zpow_pos _) hfactor (two_zpow_pos _) hsmall' ?_
    rw [← zpow_add₀ (by norm_num)]
    exact two_zpow_le (by norm_num)
  have hneg : -(2 : ℚ) ^ (-1030 : ℤ) < 0 := neg_neg_of_pos (two_zpow_pos _)
  exact ⟨by norm_num, .inl (min_less_zero hbase hneg hlongest hlongest0)⟩

/-! ## Policies that are read -/

theorem inRange_of_fits {initial longest : Span} {maxAttempts : Nat} {coefficient jitter : Binary64}
    (hi : initial.Fits) (hl : longest.Fits) :
    (RetryPolicy.mk maxAttempts initial longest coefficient jitter).InRange := by
  have hle : ∀ {d : Span}, d.Fits → d ≤ .ofSeconds (2 ^ 55) := by
    rintro d ⟨n, hn, rfl⟩
    have hlimit : pow2 64 ≤ 2 ^ 55 * 1000 := by decide
    change n * 1000000 ≤ 2 ^ 55 * 1000000000
    omega
  exact ⟨hle hi, hle hl⟩

theorem inRange_of_decode? {j : Json} (h : Wire.decode? j = some p) : p.InRange := by
  delta instWireRetryPolicy at h
  simp only [Option.bind_eq_bind, Option.bind_eq_some_iff, Option.pure_def, Option.some.injEq] at h
  obtain ⟨j', -, maxAttempts, -, initial, hinitial, longest, hlongest, coefficient, -, jitter, -,
    rfl⟩ := h
  exact inRange_of_fits (Wire.lawful_span.of_field hinitial) (Wire.lawful_span.of_field hlongest)

end RetryPolicy

namespace FanoutConfig

theorem inRange_of_decode? {j : Json} {c : FanoutConfig} (h : Wire.decode? j = some c)
    (kind : TaskKind) : (c.retryPolicy kind).InRange := by
  have hstandard : ∀ kind, (standard.retryPolicy kind).InRange := by
    intro kind
    have hi : (Span.ofSeconds 1).Fits := ⟨1000, by decide, rfl⟩
    have hl : (Span.ofSeconds 300).Fits := ⟨300000, by decide, rfl⟩
    cases kind <;> exact RetryPolicy.inRange_of_fits hi hl
  delta instWireFanoutConfig at h
  simp only [Option.bind_eq_bind, Option.bind_eq_some_iff, Option.pure_def, Option.some.injEq] at h
  obtain ⟨j', -, notify, hn, dispatch, hd, delivery, hv, delinquency, -, permitted, -, rfl⟩ := h
  cases kind with
  | notify => exact Json.of_withDefault (hstandard .notify) RetryPolicy.inRange_of_decode? hn
  | dispatchWebhooks =>
    exact Json.of_withDefault (hstandard .dispatchWebhooks) RetryPolicy.inRange_of_decode? hd
  | deliverWebhook =>
    exact Json.of_withDefault (hstandard .deliverWebhook) RetryPolicy.inRange_of_decode? hv

end FanoutConfig

namespace System

variable {sys : System} {g : Setup} {t : Task} {r : TaskRow} {e : Error} {now : Instant}

/-- What becomes of a claim whose handler failed: with a delay it is given up, whatever the delay,
and without one it stays in place. -/
theorem execute_of_error (hq : sys.store.Queued) (hheld : sys.store.outbox.held t = .ok r)
    (herror : (g.handlers.run sys t now).1 = some (.error e)) (draw : Draw) :
    (∀ delay, (g.config.retryPolicy t.kind).delay? (t.attempt + 1) draw = some delay →
      ∃ r', (sys.execute g.handlers g.config t draw now).2.store.outbox.rows.find? t.id = some r' ∧
        r'.status ≠ .claimed) ∧
    ((g.config.retryPolicy t.kind).delay? (t.attempt + 1) draw = none →
      (sys.execute g.handlers g.config t draw now).1 = .stranded ∧
        (sys.execute g.handlers g.config t draw now).2.store.outbox.held t = .ok r) := by
  obtain ⟨created, hadds⟩ := run_addsTasks hq g t now
  have hheld' := (hadds.held_iff t r).2 hheld
  have hexecute : sys.execute g.handlers g.config t draw now =
      (g.handlers.run sys t now).2.settleFailure g.config t e draw now := by
    unfold execute
    revert herror
    rcases g.handlers.run sys t now with ⟨answer, sys₁⟩
    rintro rfl
    rfl
  rw [hexecute]
  constructor
  · intro delay hdelay
    obtain ⟨r', -, hreleased, hfind⟩ :=
      (Outbox.yields_fail hheld' e.message delay now).find?_self
    rw [settleFailure_of_delay hdelay]
    exact ⟨r', (Outbox.held_find? hheld').2.1 ▸ hfind, hreleased⟩
  · intro hnone
    rw [settleFailure, hnone]
    exact ⟨rfl, hheld'⟩

end System

namespace FanoutConfig

/-- Whatever settings are read, and whether they are accepted or not, which has nothing to do with
their policies: the delay before an attempt cannot be computed exactly if the numbers of its policy
break. Those of a policy within the clamps of the builders do not, and a negative coefficient breaks
the third attempt. In a store that any calls have led to, a claim whose handler failed stays in
place exactly then. -/
theorem delays_of_config {j : Json} {c : FanoutConfig} (hj : Wire.decode? j = some c)
    (kind : TaskKind) :
    (∀ notify dispatch delivery, FanoutConfig.validate
      { c with notifyRetry := notify, dispatchRetry := dispatch, deliveryRetry := delivery } =
        c.validate) ∧
    (∀ attempt draw, (c.retryPolicy kind).delay? attempt draw = none ↔
      (c.retryPolicy kind).Breaks attempt draw) ∧
    (∀ attempt draw, (c.retryPolicy kind).Clamped → attempt < pow2 31 + 2 →
      ∃ delay, (c.retryPolicy kind).delay? attempt draw = some delay) ∧
    (∀ draw, 1 ≤ (c.retryPolicy kind).initialInterval.nanoseconds →
      (c.retryPolicy kind).coefficient.AtMost (-2 ^ (-1000 : ℤ)) →
      (c.retryPolicy kind).delay? 3 draw = none) ∧
    (∀ x y attempt draw, (y.IsFinite → y.value ≤ 0 ∨ 2 ^ (-1022 : ℤ) ≤ y.value) →
      attempt < pow2 31 + 2 →
      ∃ delay, (((c.retryPolicy kind).withCoefficient x).withJitter y).delay? attempt draw =
        some delay) ∧
    ∀ (sys : System) (g g' : Setup) (calls : List (Instant × SharedCall)) (transport : Transport)
      (t : Task) (r : TaskRow) (e : Error) (draw : Draw) (now : Instant),
      sys.store.outbox = .empty → (∀ c ∈ calls, ∀ t ∈ c.2.tasks, t.Built) → g'.config = c →
      t.kind = kind →
      let s : System := ⟨(sys.runShared g calls).store, transport⟩
      let done := s.execute g'.handlers g'.config t draw now
      s.store.outbox.held t = .ok r → (g'.handlers.run s t now).1 = some (.error e) →
      (¬ (c.retryPolicy kind).Breaks (t.attempt + 1) draw →
        ∃ r', done.2.store.outbox.rows.find? t.id = some r' ∧ r'.status ≠ .claimed) ∧
      ((c.retryPolicy kind).Breaks (t.attempt + 1) draw →
        done.1 = .stranded ∧ done.2.store.outbox.held t = .ok r) := by
  have hrange := inRange_of_decode? hj kind
  have hsome : ∀ {p : RetryPolicy}, p.InRange → ∀ {attempt draw}, ¬ p.Breaks attempt draw →
      ∃ delay, p.delay? attempt draw = some delay := by
    intro p hp attempt draw hnot
    exact Option.ne_none_iff_exists'.1 (mt (p.delay?_eq_none_iff hp attempt draw).1 hnot)
  refine ⟨fun _ _ _ => rfl, RetryPolicy.delay?_eq_none_iff hrange, ?_, ?_, ?_, ?_⟩
  · intro attempt draw hclamped hlt
    exact hsome hrange (hclamped.not_breaks hrange hlt draw)
  · intro draw hi hc
    have hbreaks := RetryPolicy.breaks_of_negative hrange hi hc draw
    exact (RetryPolicy.delay?_eq_none_iff hrange 3 draw).2 hbreaks
  · intro x y attempt draw hy hlt
    have hrange' : (((c.retryPolicy kind).withCoefficient x).withJitter y).InRange :=
      ⟨hrange.initial, hrange.longest⟩
    exact hsome hrange' ((RetryPolicy.clamped_of_builders _ x y hy).not_breaks hrange' hlt draw)
  · rintro sys g g' calls transport t r e draw now hempty hcalls rfl rfl s done hheld herror
    have hq : s.store.Queued := System.queued_runShared hempty g hcalls
    obtain ⟨hgiven, hkept⟩ := System.execute_of_error hq hheld herror draw
    constructor
    · intro hnot
      obtain ⟨delay, hdelay⟩ := hsome hrange hnot
      exact hgiven delay hdelay
    · intro hbreaks
      exact hkept ((RetryPolicy.delay?_eq_none_iff hrange _ draw).2 hbreaks)

/-- A negative coefficient is read and accepted. The first failure of a notification waits for a
second; the next would wait for minus two, and its claim stays in place. -/
theorem delays_of_config_negative :
    let now : Instant := ⟨0, 0⟩
    let later : Instant := ⟨1, 0⟩
    let j : Json := .object [("notify_retry", .object
      [("max_attempts", .integer 5), ("initial_interval", .integer 1000),
       ("max_interval", .integer 300000), ("backoff_coefficient", .integer (-2)),
       ("jitter", .integer 0)])]
    let policy : RetryPolicy := ⟨5, .ofMillis 1000, .ofMillis 300000, .ofInt (-2), .ofInt 0⟩
    let config : FanoutConfig := { standard with notifyRetry := policy }
    let g : Setup := ⟨.ofConfig .standard config, .ofConfig config, config⟩
    let seed := (((Store.empty 10).addUser ⟨⟨1⟩, ⟨9⟩, "ada", .member⟩).addUser
      ⟨⟨2⟩, ⟨9⟩, "bob", .member⟩).addBoard ⟨⟨3⟩, ⟨9⟩, "ops", [⟨2⟩]⟩
    let sys : System := ⟨seed, .standard⟩
    let calls : List (Instant × SharedCall) :=
      [(now, .program (.createDraft ⟨3⟩ ⟨1⟩ "plan")),
       (now, .program (.changeCard ⟨10⟩ ⟨1⟩ .publish)),
       (now, .program (.failNotificationsAfter 0)),
       (now, .program (.claim "a" [.notify] 1)),
       (now, .program (.execute ⟨⟨12⟩, .notify, ⟨11⟩, 1, 5, "a"⟩ .middle)),
       (later, .program (.failNotificationsAfter 0)),
       (later, .program (.claim "a" [.notify] 1))]
    let t : Task := ⟨⟨12⟩, .notify, ⟨11⟩, 2, 5, "a"⟩
    let s : System := ⟨(sys.runShared g calls).store, .standard⟩
    Wire.decode? j = some config ∧ config.validate = .ok () ∧
      (config.retryPolicy .notify).delay? (t.attempt + 1) .middle = none ∧
      sys.store.outbox = .empty ∧ (∀ c ∈ calls, ∀ t ∈ c.2.tasks, t.Built) ∧
      ∃ r e, s.store.outbox.held t = .ok r ∧ (g.handlers.run s t later).1 = some (.error e) ∧
        (s.execute g.handlers g.config t .middle later).1 = .stranded ∧
        (s.execute g.handlers g.config t .middle later).2.store.outbox.held t = .ok r := by
  intro now later j policy config g seed sys calls t s
  have hj : Wire.decode? j = some config := by decide +kernel
  have hvalid : config.validate = .ok () := by decide +kernel
  have hcalls : ∀ c ∈ calls, ∀ t ∈ c.2.tasks, t.Built := by simp [calls, SharedCall.tasks]
  have hnone : (config.retryPolicy .notify).delay? (t.attempt + 1) .middle = none := by
    decide +kernel
  have hheld : s.store.outbox.held t =
      .ok ⟨⟨12⟩, .notify, ⟨11⟩, .claimed, 2, 5, 1, later, some "a", some later,
        some (Error.store .injectedNotificationFailure).message⟩ := by decide +kernel
  have herror : (g.handlers.run s t later).1 =
      some (.error (.store .injectedNotificationFailure)) := by decide +kernel
  obtain ⟨-, hbreaks, -, -, -, hruns⟩ := delays_of_config hj .notify
  have hbreaks' := (hbreaks (t.attempt + 1) .middle).1 hnone
  have hempty : sys.store.outbox = .empty := rfl
  obtain ⟨-, hkept⟩ :=
    hruns sys g g calls .standard t _ _ .middle later hempty hcalls rfl rfl hheld herror
  refine ⟨hj, hvalid, hnone, hempty, hcalls, _, .store .injectedNotificationFailure, hheld, herror,
    ?_⟩
  have hs : s = ⟨(sys.runShared g calls).store, .standard⟩ := rfl
  rw [hs]
  exact hkept hbreaks'

end FanoutConfig

end BoardActivity
