import BoardActivity.Proofs.DoubleArithmetic

/-!
# Spans as doubles

A span is converted to seconds in two parts, which are added, and back to whole nanoseconds. Both
directions are monotone, although the parts are rounded one by one: from `2 ^ 53` seconds on the
fraction is lost altogether. A span below `2 ^ 23` seconds comes back unchanged.
-/

namespace BoardActivity

open Rounding

namespace Binary64

variable {x y : Binary64} {d d' : Span}

theorem toSpan?_of_not_isFinite (hx : ¬ x.IsFinite) : x.toSpan? = none := by
  cases x with
  | nan => rfl
  | infinite _ => rfl
  | finite _ _ _ => exact (hx trivial).elim

theorem isFinite_of_toSpan? (h : x.toSpan? = some d) : x.IsFinite := by
  by_contra hx
  rw [toSpan?_of_not_isFinite hx] at h
  cases h

/-- The nanoseconds nearest to a number of seconds. -/
def nearestNanos (q : ℚ) : ℤ := toEven (q * 1000000000)

theorem nearestNanos_nonneg {q : ℚ} (h : 0 ≤ q) : 0 ≤ nearestNanos q := by
  rw [nearestNanos, ← toEven_zero]
  exact toEven_mono (by positivity)

/-- The nanoseconds of a positive double are computed with its numerator. -/
theorem nearestNanos_eq (m : Nat) (e : Int) :
    ((roundQuotient ((quotient m e).1 * 1000000000) (quotient m e).2 : Nat) : ℤ) =
      nearestNanos (m * 2 ^ e) := by
  rw [roundQuotient_eq (quotient_pos m e), nearestNanos, Nat.cast_mul, mul_div_right_comm,
    quotient_eq, Nat.cast_ofNat]

/-- A finite double makes a span unless it is negative or too large. -/
theorem toSpan?_eq (hx : x.IsFinite) : x.toSpan? =
    if 0 ≤ x.value ∧ nearestNanos x.value < pow2 64 * 1000000000 then
      some ⟨(nearestNanos x.value).toNat⟩
    else none := by
  cases x with
  | nan | infinite _ => cases hx
  | finite s m e =>
    rcases m.eq_zero_or_pos with rfl | hm
    · have hv : (finite s 0 e).value = 0 := by cases s <;> simp [value, signed]
      have hns : nearestNanos 0 = 0 := by simp [nearestNanos]
      have hlimit : (0 : ℤ) < pow2 64 * 1000000000 :=
        Int.mul_pos (by exact_mod_cast pow2_pos 64) (by norm_num)
      rw [hv, hns, if_pos ⟨le_rfl, hlimit⟩, toSpan?, if_pos rfl, Int.toNat_zero]
      rfl
    · have hpos : (0 : ℚ) < m * 2 ^ e := mul_pos (by exact_mod_cast hm) (two_zpow_pos e)
      rw [toSpan?, if_neg hm.ne']
      cases s with
      | true =>
        have hneg : ¬ 0 ≤ (finite true m e).value := by
          simpa [value, signed] using hpos
        rw [if_pos rfl, if_neg fun h => hneg h.1]
      | false =>
        have hv : (finite false m e).value = m * 2 ^ e := rfl
        have hns := nearestNanos_eq m e
        have hlt : (roundQuotient ((quotient m e).1 * 1000000000) (quotient m e).2 <
            pow2 64 * 1000000000) ↔
              (0 ≤ (m : ℚ) * 2 ^ e ∧ nearestNanos (m * 2 ^ e) < pow2 64 * 1000000000) := by
          rw [and_iff_right hpos.le, ← hns]
          exact_mod_cast Iff.rfl
        rw [if_neg Bool.false_ne_true, hv]
        by_cases hc : roundQuotient ((quotient m e).1 * 1000000000) (quotient m e).2 <
            pow2 64 * 1000000000
        · rw [if_pos (hlt.1 hc), ← hns, Int.toNat_natCast]
          exact if_pos hc
        · rw [if_neg (mt hlt.2 hc)]
          exact if_neg hc

theorem toSpan?_eq_some_iff (hx : x.IsFinite) : x.toSpan? = some d ↔
    0 ≤ x.value ∧ nearestNanos x.value = d.nanoseconds ∧
      d.nanoseconds < pow2 64 * 1000000000 := by
  rw [toSpan?_eq hx]
  constructor
  · intro h
    split_ifs at h with hc
    obtain ⟨h0, hlt⟩ := hc
    have hns := nearestNanos_nonneg h0
    rw [← Option.some.inj h, Int.toNat_of_nonneg hns]
    exact ⟨h0, rfl, by exact_mod_cast (Int.toNat_of_nonneg hns).symm ▸ hlt⟩
  · rintro ⟨h0, hns, hlt⟩
    rw [hns, if_pos ⟨h0, by exact_mod_cast hlt⟩, Int.toNat_natCast]

/-- A smaller double makes a shorter span. -/
theorem toSpan?_mono (hx : x.IsFinite) (h0 : 0 ≤ x.value) (hy : y.toSpan? = some d')
    (hle : x.value ≤ y.value) : ∃ d, x.toSpan? = some d ∧ d ≤ d' := by
  obtain ⟨-, hns', hlt'⟩ := (toSpan?_eq_some_iff (isFinite_of_toSpan? hy)).1 hy
  have hmono : nearestNanos x.value ≤ nearestNanos y.value :=
    toEven_mono (mul_le_mul_of_nonneg_right hle (by norm_num))
  have hns := nearestNanos_nonneg h0
  rw [hns'] at hmono
  refine ⟨⟨(nearestNanos x.value).toNat⟩, (toSpan?_eq_some_iff hx).2 ⟨h0, ?_, ?_⟩, ?_⟩
  · exact (Int.toNat_of_nonneg hns).symm
  · change (nearestNanos x.value).toNat < _
    omega
  · change (nearestNanos x.value).toNat ≤ d'.nanoseconds
    omega

/-- A negative number is no span, and not positive. -/
theorem toSpan?_of_less_zero (h : x.less .zero = true) :
    x.toSpan? = none ∧ Binary64.zero.less x = false := by
  obtain ⟨hzero, hzerov⟩ := zero_finite
  cases x with
  | nan => cases h
  | infinite s =>
    cases s with
    | true => exact ⟨rfl, rfl⟩
    | false => cases h
  | finite s m e =>
    have hx : (finite s m e).IsFinite := trivial
    rw [less_iff hx hzero, hzerov] at h
    rw [toSpan?_eq hx, if_neg fun hspan => h.not_ge hspan.1, ← Bool.not_eq_true,
      less_iff hzero hx, hzerov]
    exact ⟨rfl, h.not_gt⟩

/-- The double is no span for being infinite, or for lasting `2 ^ 64` seconds or more. -/
def TooLong (x : Binary64) : Prop :=
  ¬ x.IsFinite ∨ (pow2 64 * 1000000000 : Nat) ≤ nearestNanos x.value

theorem toSpan?_eq_none_iff_tooLong (h0 : x.IsFinite → 0 ≤ x.value) :
    x.toSpan? = none ↔ x.TooLong := by
  by_cases hx : x.IsFinite
  · rw [toSpan?_eq hx, TooLong]
    simp only [hx, not_true_eq_false, false_or, h0 hx, true_and]
    push_cast
    split_ifs with hlt
    · exact iff_of_false nofun (not_le.2 hlt)
    · exact iff_of_true rfl (not_lt.1 hlt)
  · exact iff_of_true (toSpan?_of_not_isFinite hx) (.inl hx)

theorem not_tooLong_of_le (hx : x.IsFinite) (h : x.value ≤ 2 ^ (57 : ℤ)) : ¬ x.TooLong := by
  have hnanos : nearestNanos x.value ≤ 2 ^ 57 * 1000000000 := by
    rw [nearestNanos, ← toEven_intCast (2 ^ 57 * 1000000000)]
    apply toEven_mono
    norm_num at h ⊢
    linarith
  have hlimit : 2 ^ 57 < pow2 64 := by decide
  rw [TooLong, not_or, not_not]
  refine ⟨hx, not_le.2 (hnanos.trans_lt ?_)⟩
  push_cast
  have hcast : (2 ^ 57 : ℤ) < pow2 64 := by exact_mod_cast hlimit
  linarith

/-- A negative number counts as zero, which is no long span. -/
theorem toSpan?_max_zero {b : ℚ} (h : x.AtLeast b) (hb : -overflow < b) :
    (x.max .zero).toSpan? = none ↔ x.TooLong := by
  obtain ⟨hzero, hzerov⟩ := zero_finite
  rcases h.cases hb with ⟨hx, -⟩ | rfl
  · rw [max_eq hx hzero]
    split_ifs with hless
    · rw [less_iff hx hzero, hzerov] at hless
      refine iff_of_false nofun (not_tooLong_of_le hx (hless.le.trans ?_))
      exact (two_zpow_pos 57).le
    · rw [less_iff hx hzero, hzerov, not_lt] at hless
      exact toSpan?_eq_none_iff_tooLong fun _ => hless
  · exact iff_of_true rfl (.inl id)

end Binary64

namespace Span

open Binary64

variable {d d' : Span}

def whole (d : Span) : ℚ := nearest ((d.nanoseconds / 1000000000 : Nat) : ℚ)

def fraction (d : Span) : ℚ :=
  nearest (((d.nanoseconds % 1000000000 : Nat) : ℚ) / 1000000000)

theorem whole_nonneg (d : Span) : 0 ≤ d.whole := nearest_nonneg (Nat.cast_nonneg _)

theorem isDouble_whole (d : Span) : IsDouble d.whole := isDouble_nearest _

/-- Few whole seconds are a double themselves. -/
theorem whole_eq (h : d.nanoseconds / 1000000000 ≤ 2 ^ 53) :
    d.whole = ((d.nanoseconds / 1000000000 : Nat) : ℚ) := (isDouble_natCast h).nearest_eq

theorem fraction_nonneg (d : Span) : 0 ≤ d.fraction :=
  nearest_nonneg (div_nonneg (Nat.cast_nonneg _) (by norm_num))

/-- The largest fraction is less than one by more than the last digit. -/
theorem fraction_lt_one (d : Span) : d.fraction < 1 := by
  have hdouble : IsDouble (1 - 1 / 2 ^ 30) :=
    ⟨2 ^ 30 - 1, -30, by norm_num, by norm_num, by norm_num⟩
  have hmod : d.nanoseconds % 1000000000 ≤ 999999999 := by omega
  have hle : ((d.nanoseconds % 1000000000 : Nat) : ℚ) / 1000000000 ≤ 1 - 1 / 2 ^ 30 := by
    have hcast : ((d.nanoseconds % 1000000000 : Nat) : ℚ) ≤ 999999999 := by exact_mod_cast hmod
    rw [div_le_iff₀ (by norm_num)]
    exact hcast.trans (by norm_num)
  calc d.fraction ≤ 1 - 1 / 2 ^ 30 := nearest_le hdouble hle
    _ < 1 := by norm_num

theorem fraction_double (d : Span) :
    ((ofNat (d.nanoseconds % 1000000000)).divNat 1000000000).IsFinite ∧
      ((ofNat (d.nanoseconds % 1000000000)).divNat 1000000000).value = d.fraction := by
  have hlt : d.nanoseconds % 1000000000 < 2 ^ 30 := by omega
  have hcast : ((d.nanoseconds % 1000000000 : Nat) : ℚ) < 2 ^ 30 := by exact_mod_cast hlt
  have hdouble : IsDouble ((d.nanoseconds % 1000000000 : Nat) : ℚ) := isDouble_natCast (by omega)
  have hnat := rounds_ofNat (d.nanoseconds % 1000000000)
  have hlow := neg_neg_of_pos overflow_pos
  have hhigh := two_zpow_lt_overflow (k := 30) (by norm_num)
  have htop := isDouble_two_zpow (k := 30) (by norm_num)
  obtain ⟨hfin, -⟩ := hnat.between isDouble_zero htop hlow hhigh (Nat.cast_nonneg _)
    (by exact_mod_cast hcast.le)
  have hv := hnat.value_eq hfin
  rw [hdouble.nearest_eq] at hv
  have hdiv := rounds_divNat hfin (k := 1000000000) (by norm_num)
  rw [hv, Nat.cast_ofNat] at hdiv
  have hle : ((d.nanoseconds % 1000000000 : Nat) : ℚ) / 1000000000 ≤ 2 ^ (30 : ℤ) := by
    rw [div_le_iff₀ (by norm_num)]
    norm_num
    linarith
  obtain ⟨hfin', -⟩ := hdiv.between isDouble_zero htop hlow hhigh
    (div_nonneg (Nat.cast_nonneg _) (by norm_num)) hle
  exact ⟨hfin', hdiv.value_eq hfin'⟩

/-- The sum of the two parts is rounded once more; whole seconds that are too large for a double
make it infinite. -/
theorem toSeconds_cases (d : Span) :
    ((ofNat (d.nanoseconds / 1000000000)).IsFinite ∧ d.toSeconds.Rounds (d.whole + d.fraction)) ∨
      (¬ (ofNat (d.nanoseconds / 1000000000)).IsFinite ∧ d.toSeconds = .infinite false) := by
  obtain ⟨hfin, hv⟩ := d.fraction_double
  have hnat := rounds_ofNat (d.nanoseconds / 1000000000)
  by_cases hwhole : (ofNat (d.nanoseconds / 1000000000)).IsFinite
  · have hadd := rounds_add hwhole hfin
    rw [hv, hnat.value_eq hwhole] at hadd
    exact .inl ⟨hwhole, hadd⟩
  · refine .inr ⟨hwhole, ?_⟩
    rcases hnat with ⟨-, hwhole', -⟩ | ⟨-, hinf⟩
    · exact (hwhole hwhole').elim
    · rw [toSeconds, hinf, decide_eq_false (Nat.cast_nonneg _).not_gt]
      revert hfin
      cases (ofNat (d.nanoseconds % 1000000000)).divNat 1000000000 with
      | nan | infinite _ => exact False.elim
      | finite s m e => exact fun _ => rfl

/-- The order of spans is that of their seconds: where the whole seconds are fewer, the fraction
does not make up for it. -/
theorem nearest_seconds_mono (h : d ≤ d') :
    nearest (d.whole + d.fraction) ≤ nearest (d'.whole + d'.fraction) := by
  have hle : d.nanoseconds ≤ d'.nanoseconds := h
  have hdiv : d.nanoseconds / 1000000000 ≤ d'.nanoseconds / 1000000000 := Nat.div_le_div_right hle
  rcases hdiv.eq_or_lt with heq | hlt
  · have hmod : d.nanoseconds % 1000000000 ≤ d'.nanoseconds % 1000000000 := by omega
    have hfraction : d.fraction ≤ d'.fraction :=
      nearest_mono (div_le_div_of_nonneg_right (by exact_mod_cast hmod) (by norm_num))
    have hwhole : d.whole = d'.whole := by rw [whole, whole, heq]
    exact nearest_mono (by linarith)
  · have hfraction := d.fraction_lt_one
    have hfraction' := d'.fraction_nonneg
    rcases lt_or_ge (d.nanoseconds / 1000000000) (2 ^ 53) with hsmall | hlarge
    · have hnext := isDouble_natCast (n := d.nanoseconds / 1000000000 + 1) hsmall
      have hstep : ((d.nanoseconds / 1000000000 + 1 : Nat) : ℚ) ≤ d'.whole :=
        le_nearest hnext (by exact_mod_cast hlt)
      have hwhole := d.whole_eq hsmall.le
      push_cast at hstep hwhole
      exact nearest_mono (by linarith)
    · have htop := isDouble_natCast (n := 2 ^ 53) le_rfl
      have hge : ((2 ^ 53 : Nat) : ℚ) ≤ d.whole := le_nearest htop (by exact_mod_cast hlarge)
      have hwhole : d.whole ≤ d'.whole := nearest_mono (by exact_mod_cast hlt.le)
      push_cast at hge
      have hunit := two_le_of_exponent hge
      rw [nearest_add d.isDouble_whole (by linarith) d.fraction_nonneg (by linarith)]
      exact le_nearest d.isDouble_whole (by linarith)

/-- What the seconds of a span are, if they are finite. -/
theorem value_toSeconds (h : d.toSeconds.IsFinite) :
    d.toSeconds.value = nearest (d.whole + d.fraction) := by
  rcases d.toSeconds_cases with ⟨-, hr⟩ | ⟨-, hinf⟩
  · exact hr.value_eq h
  · rw [hinf] at h
    cases h

theorem toSeconds_nonneg (h : d.toSeconds.IsFinite) : 0 ≤ d.toSeconds.value := by
  rw [value_toSeconds h]
  exact nearest_nonneg (add_nonneg d.whole_nonneg d.fraction_nonneg)

theorem isDouble_toSeconds (h : d.toSeconds.IsFinite) : IsDouble d.toSeconds.value := by
  rw [value_toSeconds h]
  exact isDouble_nearest _

theorem toSeconds_mono (h : d ≤ d') (hfin : d.toSeconds.IsFinite) (hfin' : d'.toSeconds.IsFinite) :
    d.toSeconds.value ≤ d'.toSeconds.value := by
  rw [value_toSeconds hfin, value_toSeconds hfin']
  exact nearest_seconds_mono h

/-- A shorter span has finite seconds if a longer one has. -/
theorem isFinite_toSeconds_of_le (h : d ≤ d') (hfin : d'.toSeconds.IsFinite) :
    d.toSeconds.IsFinite := by
  have hle : d.nanoseconds / 1000000000 ≤ d'.nanoseconds / 1000000000 := Nat.div_le_div_right h
  rcases d'.toSeconds_cases with ⟨hwhole', hr'⟩ | ⟨-, hinf'⟩
  · have hwhole := (rounds_ofNat _).isFinite_of_le (rounds_ofNat _) hwhole' (Nat.cast_nonneg _)
      (nearest_mono (by exact_mod_cast hle))
    rcases d.toSeconds_cases with ⟨-, hr⟩ | ⟨hnot, -⟩
    · exact hr.isFinite_of_le hr' hfin (add_nonneg d.whole_nonneg d.fraction_nonneg)
        (nearest_seconds_mono h)
    · exact (hnot hwhole).elim
  · rw [hinf'] at hfin
    cases hfin

theorem whole_ofSeconds (n : Nat) : (ofSeconds n).whole = nearest n := by
  simp [whole, ofSeconds]

theorem fraction_ofSeconds (n : Nat) : (ofSeconds n).fraction = 0 := by
  simp [fraction, ofSeconds]

/-- A power of two bounds the seconds that it bounds exactly. -/
theorem nearest_seconds_le {k : Nat} (h : d ≤ ofSeconds (2 ^ k)) :
    nearest (d.whole + d.fraction) ≤ 2 ^ (k : ℤ) := by
  have htop := isDouble_two_zpow (k := k) (by omega)
  have hpow : ((2 ^ k : Nat) : ℚ) = 2 ^ (k : ℤ) := by
    rw [zpow_natCast]
    push_cast
    rfl
  calc nearest (d.whole + d.fraction)
      ≤ nearest ((ofSeconds (2 ^ k)).whole + (ofSeconds (2 ^ k)).fraction) := nearest_seconds_mono h
    _ = 2 ^ (k : ℤ) := by
      rw [whole_ofSeconds, fraction_ofSeconds, add_zero, hpow, htop.nearest_eq, htop.nearest_eq]

/-- Any span that is not zero has more than `2 ^ -30` seconds. -/
theorem le_nearest_seconds (h : 1 ≤ d.nanoseconds) :
    2 ^ (-30 : ℤ) ≤ nearest (d.whole + d.fraction) := by
  have hbound := isDouble_two_zpow (k := -30) (by norm_num)
  have hone : 2 ^ (-30 : ℤ) ≤ (⟨1⟩ : Span).fraction := by
    apply le_nearest hbound
    norm_num
  have hnonneg := (⟨1⟩ : Span).whole_nonneg
  have hle : (⟨1⟩ : Span) ≤ d := h
  exact (le_nearest hbound (by linarith)).trans (nearest_seconds_mono hle)

/-- The seconds of a span are zero, or not too close to it. -/
theorem seconds_zero_or (h : d.toSeconds.IsFinite) :
    d.toSeconds.value = 0 ∨ 2 ^ (-30 : ℤ) ≤ d.toSeconds.value := by
  rw [value_toSeconds h]
  rcases d.nanoseconds.eq_zero_or_pos with hzero | hpos
  · exact .inl (by simp [whole, fraction, hzero])
  · exact .inr (le_nearest_seconds hpos)

/-- Spans of less than `2 ^ 1023` seconds have finite seconds. -/
theorem isFinite_toSeconds {k : Nat} (hk : k < 1024) (h : d ≤ ofSeconds (2 ^ k)) :
    d.toSeconds.IsFinite := by
  have hzero := neg_neg_of_pos overflow_pos
  have hk' := two_zpow_lt_overflow (k := k) (by omega)
  have htop := isDouble_two_zpow (k := k) (by omega)
  have hs : ((d.nanoseconds / 1000000000 : Nat) : ℚ) ≤ 2 ^ (k : ℤ) := by
    have hle : d.nanoseconds / 1000000000 ≤ 2 ^ k := by
      have hns : d.nanoseconds ≤ 2 ^ k * 1000000000 := h
      omega
    rw [zpow_natCast]
    exact_mod_cast hle
  obtain ⟨hwhole, -⟩ :=
    (rounds_ofNat _).between isDouble_zero htop hzero hk' (Nat.cast_nonneg _) hs
  rcases d.toSeconds_cases with ⟨-, hr⟩ | ⟨hnot, -⟩
  · have hlow := hr.atLeast_of_nearest
      (nearest_nonneg (add_nonneg d.whole_nonneg d.fraction_nonneg))
    exact isFinite_of_bounds hlow (hr.atMost_of_nearest (nearest_seconds_le h)) hzero hk'
  · exact (hnot hwhole).elim

/-- Below `2 ^ 23` seconds the two roundings are less than half a nanosecond off. -/
theorem abs_nanoseconds_sub_lt (h : d < ofSeconds (2 ^ 23)) :
    |nearest (d.whole + d.fraction) * 1000000000 - d.nanoseconds| < 1 / 2 := by
  have hns : d.nanoseconds < 2 ^ 23 * 1000000000 := h
  have hwhole := d.whole_eq (by omega)
  have hsplit : (d.nanoseconds : ℚ) = 1000000000 * ((d.nanoseconds / 1000000000 : Nat) : ℚ) +
      ((d.nanoseconds % 1000000000 : Nat) : ℚ) := by
    exact_mod_cast (Nat.div_add_mod d.nanoseconds 1000000000).symm
  have hsmall : |((d.nanoseconds % 1000000000 : Nat) : ℚ) / 1000000000| <
      2 ^ 53 * 2 ^ (-53 : ℤ) := by
    have hlt : ((d.nanoseconds % 1000000000 : Nat) : ℚ) < 1000000000 := by
      exact_mod_cast Nat.mod_lt _ (by norm_num)
    rw [abs_of_nonneg (div_nonneg (Nat.cast_nonneg _) (by norm_num))]
    exact ((div_lt_one (by norm_num)).2 hlt).trans_le (by norm_num)
  have hlarge : |d.whole + d.fraction| < 2 ^ 53 * 2 ^ (-30 : ℤ) := by
    have hle : ((d.nanoseconds / 1000000000 : Nat) : ℚ) + 1 ≤ 2 ^ 23 := by
      have hlt : d.nanoseconds / 1000000000 + 1 ≤ 2 ^ 23 := by omega
      exact_mod_cast hlt
    have hlt := d.fraction_lt_one
    rw [abs_of_nonneg (add_nonneg d.whole_nonneg d.fraction_nonneg), hwhole]
    norm_num at hle ⊢
    linarith
  have hfraction := abs_le.1 (abs_sub_nearest_le_of_lt (by norm_num) hsmall)
  have hsum := abs_le.1 (abs_sub_nearest_le_of_lt (by norm_num) hlarge)
  rw [← fraction] at hfraction
  rw [hwhole] at hsum ⊢
  norm_num at hfraction hsum
  rw [hsplit, abs_lt]
  constructor
  · linarith
  · linarith

/-- So a span below `2 ^ 23` seconds comes back. -/
theorem toSpan?_toSeconds (h : d < ofSeconds (2 ^ 23)) : d.toSeconds.toSpan? = some d := by
  have hns : d.nanoseconds < 2 ^ 23 * 1000000000 := h
  have hle : d ≤ ofSeconds (2 ^ 23) := hns.le
  have hfin := isFinite_toSeconds (by norm_num) hle
  have hlimit : 2 ^ 23 ≤ pow2 64 := by decide
  rw [toSpan?_eq_some_iff hfin]
  refine ⟨toSeconds_nonneg hfin, ?_, by nlinarith⟩
  rw [value_toSeconds hfin, nearestNanos, toEven_eq_iff]
  exact .inl (abs_nanoseconds_sub_lt h)

end Span

end BoardActivity
