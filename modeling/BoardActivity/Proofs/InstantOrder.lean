import BoardActivity.Time.Instant
import Mathlib.Order.Lattice

/-!
# Order of instants

Instants are ordered by second, then by nanosecond. A longer move from one instant never leads to an
earlier one, in a leap second as elsewhere (`shift_mono`); but for instants inside a leap second the
distance `since` and the order can disagree, so distances are compared outside of them.

A span is an offset between instants up to `Span.offsetLimit` only. Up to there offsets grow with
their spans; a span beyond counts as none at all.
-/

namespace BoardActivity

namespace Span

variable {d e : Span}

theorem toOffset_of_le (h : d.nanoseconds ≤ offsetLimit) : d.toOffset = d.nanoseconds := if_pos h

theorem toOffset_of_lt (h : offsetLimit < d.nanoseconds) : d.toOffset = 0 := if_neg (by omega)

theorem toOffset_nonneg (d : Span) : 0 ≤ d.toOffset := by
  unfold toOffset
  split_ifs
  · exact Int.natCast_nonneg _
  · exact le_rfl

theorem toOffset_mono (h : d ≤ e) (he : e.nanoseconds ≤ offsetLimit) : d.toOffset ≤ e.toOffset := by
  rw [toOffset_of_le he, toOffset_of_le (le_trans h he)]
  exact Int.ofNat_le.2 h

/-- Offsets are out of order only where the longer span is no offset and the shorter one is. -/
theorem toOffset_le_iff (h : d ≤ e) : d.toOffset ≤ e.toOffset ↔
    (offsetLimit < e.nanoseconds → d.nanoseconds = 0 ∨ offsetLimit < d.nanoseconds) := by
  rcases Nat.lt_or_ge offsetLimit e.nanoseconds with he | he
  · simp only [he, true_imp_iff]
    rw [toOffset_of_lt he]
    unfold toOffset
    split_ifs with hd
    · omega
    · omega
  · exact iff_of_true (toOffset_mono h he) fun hlt => (Nat.not_lt.2 he hlt).elim

end Span

namespace Instant

variable {a b c : Instant}

theorem before_iff :
    a.before b = true ↔ a.seconds < b.seconds ∨ a.seconds = b.seconds ∧ a.nanos < b.nanos := by
  simp [before]

theorem eq_iff : a = b ↔ a.seconds = b.seconds ∧ a.nanos = b.nanos := by
  cases a
  cases b
  simp

theorem lt_iff : a < b ↔ a.seconds < b.seconds ∨ a.seconds = b.seconds ∧ a.nanos < b.nanos :=
  before_iff

theorem le_iff : a ≤ b ↔ a.seconds < b.seconds ∨ a.seconds = b.seconds ∧ a.nanos ≤ b.nanos := by
  change b.before a = false ↔ _
  rw [← Bool.not_eq_true, before_iff]
  omega

theorem le_refl (a : Instant) : a ≤ a := le_iff.2 (.inr ⟨rfl, le_rfl⟩)

theorem le_trans (hab : a ≤ b) (hbc : b ≤ c) : a ≤ c := by
  rw [le_iff] at *
  omega

theorem lt_of_lt_of_le (hab : a < b) (hbc : b ≤ c) : a < c := by
  rw [le_iff] at hbc
  rw [lt_iff] at *
  omega

/-- The whole seconds of an offset and the rest of it have its sign. -/
private theorem offset_parts (ns : Int) :
    ns = ns.tdiv 1000000000 * 1000000000 + ns.tmod 1000000000 ∧
      (0 ≤ ns.tdiv 1000000000 ∧ 0 ≤ ns.tmod 1000000000 ∧ ns.tmod 1000000000 < 1000000000 ∨
        ns.tdiv 1000000000 ≤ 0 ∧ -1000000000 < ns.tmod 1000000000 ∧ ns.tmod 1000000000 ≤ 0) := by
  have hlow := Int.lt_tmod_of_pos ns (show (0 : Int) < 1000000000 by decide)
  have hhigh := Int.tmod_lt_of_pos ns (show (0 : Int) < 1000000000 by decide)
  refine ⟨(Int.tdiv_mul_add_tmod ns 1000000000).symm, ?_⟩
  rcases Int.le_total 0 ns with h | h
  · exact .inl ⟨Int.tdiv_nonneg h (by decide), Int.tmod_nonneg _ h, hhigh⟩
  · have hneg := Int.neg_nonneg_of_nonpos h
    have hdiv := Int.tdiv_nonneg hneg (show 0 ≤ (1000000000 : Int) by decide)
    have hmod := Int.tmod_nonneg (1000000000 : Int) hneg
    rw [Int.neg_tdiv] at hdiv
    rw [Int.neg_tmod] at hmod
    exact .inr ⟨by omega, hlow, by omega⟩

/-- Outside of leap seconds a move adds to the nanoseconds. -/
theorem shift_regular (h : a.nanos < 1000000000) (ns : Int) : (a.shift ns).nanos < 1000000000 ∧
    (a.shift ns).seconds * 1000000000 + (a.shift ns).nanos =
      a.seconds * 1000000000 + a.nanos + ns := by
  obtain ⟨hns, -⟩ := offset_parts ns
  have hu : a.shift ns = ⟨a.seconds + ns.tdiv 1000000000 +
      (a.nanos + ns.tmod 1000000000) / 1000000000,
      ((a.nanos + ns.tmod 1000000000) % 1000000000).toNat⟩ := if_neg (by omega)
  rw [hu]
  dsimp only
  omega

/-- From inside a leap second, a move leads to a later second, to one that begins no later, or to
another point of the leap second or of the second that it belongs to. -/
theorem shift_leap (h : 1000000000 ≤ a.nanos) (h' : a.nanos < 2000000000) (ns : Int) :
    (a.seconds < (a.shift ns).seconds ∧ (a.shift ns).nanos < 1000000000 ∧
      (a.shift ns).seconds * 1000000000 + (a.shift ns).nanos + 1000000000 =
        a.seconds * 1000000000 + a.nanos + ns) ∨
    (ns ≤ -1000000000 ∧ (a.shift ns).nanos < 1000000000 ∧
      (a.shift ns).seconds * 1000000000 + (a.shift ns).nanos =
        a.seconds * 1000000000 + a.nanos + ns) ∨
    (-1000000000 < ns ∧ (a.shift ns).seconds = a.seconds ∧ (a.shift ns).nanos = a.nanos + ns ∧
      (a.shift ns).nanos < 2000000000) := by
  obtain ⟨hns, hparts⟩ := offset_parts ns
  by_cases hlater : 0 < ns.tdiv 1000000000 ∨
      (0 < ns.tmod 1000000000 ∧ 2000000000 ≤ a.nanos + ns.tmod 1000000000)
  · have hu : a.shift ns = ⟨a.seconds + ns.tdiv 1000000000 +
        (a.nanos - 1000000000 + ns.tmod 1000000000) / 1000000000,
        ((a.nanos - 1000000000 + ns.tmod 1000000000) % 1000000000).toNat⟩ :=
      (if_pos h).trans (if_pos hlater)
    rw [hu]
    dsimp only
    omega
  · by_cases hearlier : ns.tdiv 1000000000 < 0
    · have hu : a.shift ns = ⟨a.seconds + 1 + ns.tdiv 1000000000 +
          (a.nanos - 1000000000 + ns.tmod 1000000000) / 1000000000,
          ((a.nanos - 1000000000 + ns.tmod 1000000000) % 1000000000).toNat⟩ :=
        (if_pos h).trans ((if_neg hlater).trans (if_pos hearlier))
      rw [hu]
      dsimp only
      omega
    · have hu : a.shift ns = ⟨a.seconds, (a.nanos + ns.tmod 1000000000).toNat⟩ :=
        (if_pos h).trans ((if_neg hlater).trans (if_neg hearlier))
      rw [hu]
      dsimp only
      omega

/-- A longer move from one instant leads no further back. -/
theorem shift_mono (h : a.nanos < 2000000000) {m n : Int} (hmn : m ≤ n) :
    a.shift m ≤ a.shift n := by
  rw [le_iff]
  by_cases hleap : 1000000000 ≤ a.nanos
  · rcases shift_leap hleap h m with hm | hm | hm
    all_goals rcases shift_leap hleap h n with hn | hn | hn
    all_goals omega
  · have hm := shift_regular (show a.nanos < 1000000000 by omega) m
    have hn := shift_regular (show a.nanos < 1000000000 by omega) n
    omega

theorem shift_zero (h : a.nanos < 2000000000) : a.shift 0 = a := by
  rw [eq_iff]
  by_cases hleap : 1000000000 ≤ a.nanos
  · rcases shift_leap hleap h 0 with hm | hm | hm
    all_goals omega
  · have hm := shift_regular (show a.nanos < 1000000000 by omega) 0
    omega

/-- What lies before an instant that is moved back is further back than the move. -/
theorem lt_since_of_lt_shift (ha : a.nanos < 1000000000) (hb : b.nanos < 1000000000) {ns : Int}
    (h : b < a.shift (-ns)) : ns < a.since b := by
  obtain ⟨hlt, hmoved⟩ := shift_regular ha (-ns)
  have hsince : a.since b = (a.seconds - b.seconds) * 1000000000 + (a.nanos - b.nanos) := by
    simp only [since, Nat.not_le.2 ha, Nat.not_le.2 hb, and_false, if_false, Int.add_zero]
  rw [lt_iff] at h
  omega

theorem shift?_eq_some_iff {ns : Int} :
    a.shift? ns = some b ↔ a.shift ns = b ∧ b.inCalendar = true := by
  unfold shift?
  dsimp only
  split_ifs with h
  · simp only [Option.some.injEq]
    exact ⟨fun he => ⟨he, he ▸ h⟩, And.left⟩
  · simp only [false_iff, not_and]
    rintro rfl
    exact h

/-- There is an instant so many nanoseconds after the first second. -/
theorem exists_since (ns : Nat) : ∃ b : Instant, b.since ⟨0, 0⟩ = ns := by
  refine ⟨⟨ns / 1000000000, ns % 1000000000⟩, ?_⟩
  simp only [since, secondOfDay]
  split_ifs with h
  · omega
  · omega

/-- No move at all leads to the instant itself. -/
theorem eq_of_shift?_zero (h : a.nanos < 2000000000) (hb : a.shift? 0 = some b) : b = a := by
  rw [shift?_eq_some_iff, shift_zero h] at hb
  exact hb.1.symm

end Instant

end BoardActivity
