import BoardActivity.Proofs.DoubleSpans
import BoardActivity.Store.Outbox
import BoardActivity.Worker.Poller
import Mathlib.Data.List.Induction

/-!
# Intervals between polls

The settings of a poller are changed one by one, and each change checks itself against what the
others hold at that moment, if at all: the longest interval is raised to the least one, but a least
interval is taken as it is. So the two are in order unless the last change of either made the least
one too long (`PollerConfig.Slips`).

A poller polls any queue, at any time, in any state (`Poller.takeTurns`). Its interval is never
above the longer of the two. It is never below the least one if the two are in order and the seconds
of the least one, which are rounded, are not less (`Span.IsStable`), as is so below `2 ^ 23`
seconds. A poll that finds nothing breaks if the product is no span, and none does if the longest
interval makes one.
-/

namespace BoardActivity

open Binary64

/-! ## Settings -/

inductive PollerChange where
  | minInterval (d : Span)
  | maxInterval (d : Span)
  | multiplier (x : Binary64)
  | batch (n : Nat)

namespace PollerChange

def apply (c : PollerConfig) : PollerChange → PollerConfig
  | minInterval d => c.withMinInterval d
  | maxInterval d => c.withMaxInterval d
  | multiplier x => c.withMultiplier x
  | batch n => c.withBatch n

def KeepsIntervals : PollerChange → Prop
  | minInterval _ | maxInterval _ => False
  | multiplier _ | batch _ => True

end PollerChange

namespace PollerConfig

variable {c : PollerConfig} {changes : List PollerChange}

def built (changes : List PollerChange) : PollerConfig := changes.foldl PollerChange.apply standard

theorem built_concat (changes : List PollerChange) (change : PollerChange) :
    built (changes ++ [change]) = change.apply (built changes) := by
  simp only [built, List.foldl_append, List.foldl_cons, List.foldl_nil]

/-- The last change of an interval made the least one longer than the longest. -/
def Slips (changes : List PollerChange) : Prop :=
  ∃ before d after, changes = before ++ .minInterval d :: after ∧
    (∀ change ∈ after, change.KeepsIntervals) ∧ (built before).maxInterval < d

theorem slips_minInterval {d : Span} :
    Slips (changes ++ [.minInterval d]) ↔ (built changes).maxInterval < d := by
  constructor
  · rintro ⟨before, d', after, heq, hafter, hlt⟩
    rcases List.eq_nil_or_concat after with rfl | ⟨after, last, rfl⟩
    · obtain ⟨rfl, hd⟩ := List.append_inj' heq rfl
      cases hd
      exact hlt
    · rw [List.concat_eq_append, ← List.cons_append, ← List.append_assoc] at heq
      obtain ⟨-, hlast⟩ := List.append_inj' heq rfl
      cases hlast
      exact (hafter (.minInterval d) (by simp)).elim
  · intro hlt
    exact ⟨changes, d, [], rfl, nofun, hlt⟩

theorem slips_concat {change : PollerChange} (hne : ∀ d, change ≠ .minInterval d) :
    Slips (changes ++ [change]) ↔ change.KeepsIntervals ∧ Slips changes := by
  constructor
  · rintro ⟨before, d, after, heq, hafter, hlt⟩
    rcases List.eq_nil_or_concat after with rfl | ⟨after, last, rfl⟩
    · obtain ⟨-, hd⟩ := List.append_inj' heq rfl
      exact (hne d (List.singleton_inj.1 hd)).elim
    · rw [List.concat_eq_append, ← List.cons_append, ← List.append_assoc] at heq
      obtain ⟨hinit, hlast⟩ := List.append_inj' heq rfl
      rw [List.concat_eq_append] at hafter
      have hkeeps := hafter last (by simp)
      rw [← List.singleton_inj.1 hlast] at hkeeps
      exact ⟨hkeeps, before, d, after, hinit, fun x hx => hafter x (by simp [hx]), hlt⟩
  · rintro ⟨hkeeps, before, d, after, rfl, hafter, hlt⟩
    refine ⟨before, d, after ++ [change], by simp, ?_, hlt⟩
    intro x hx
    rcases List.mem_append.1 hx with hx | hx
    · exact hafter x hx
    · exact List.mem_singleton.1 hx ▸ hkeeps

/-- The intervals are in order unless the last change of one of them was such a slip. -/
theorem ordered_iff (changes : List PollerChange) :
    (built changes).minInterval ≤ (built changes).maxInterval ↔ ¬ Slips changes := by
  induction changes using List.reverseRecOn with
  | nil =>
    have hnone : ¬ Slips [] := by
      rintro ⟨before, d, after, heq, -⟩
      cases before <;> cases heq
    exact iff_of_true (by decide) hnone
  | append_singleton changes change ih =>
    rw [built_concat]
    cases change with
    | minInterval d =>
      rw [slips_minInterval]
      exact Nat.not_lt.symm
    | maxInterval d =>
      rw [slips_concat (by simp)]
      exact iff_of_true (Nat.le_max_right _ _) fun h => h.1
    | multiplier x =>
      rw [slips_concat (by simp)]
      exact ih.trans (not_congr (and_iff_right trivial)).symm
    | batch n =>
      rw [slips_concat (by simp)]
      exact ih.trans (not_congr (and_iff_right trivial)).symm

structure Sound (c : PollerConfig) : Prop where
  batch : 1 ≤ c.batch
  multiplier : c.multiplier.AtLeast 1

theorem sound_standard : Sound standard where
  batch := by decide
  multiplier := by
    have hr := rounds_round false 15 (d := pow10 1) (by decide)
    refine hr.atLeast Rounding.isDouble_one ?_
    rw [signed, if_neg Bool.false_ne_true, show pow10 1 = 10 from rfl]
    norm_num

theorem Sound.apply (h : c.Sound) (change : PollerChange) : (change.apply c).Sound := by
  cases change with
  | minInterval d => exact ⟨h.batch, h.multiplier⟩
  | maxInterval d => exact ⟨h.batch, h.multiplier⟩
  | multiplier x =>
    obtain ⟨hfin, hv⟩ := one_finite
    exact ⟨h.batch, hv ▸ atLeast_max x hfin⟩
  | batch n => exact ⟨Nat.le_max_right n 1, h.multiplier⟩

theorem sound_built (changes : List PollerChange) : (built changes).Sound := by
  induction changes using List.reverseRecOn with
  | nil => exact sound_standard
  | append_singleton changes change ih =>
    rw [built_concat]
    exact ih.apply change

def longest (c : PollerConfig) : Span := c.minInterval.max c.maxInterval

end PollerConfig

/-! ## Polls -/

/-- The seconds of the span, rounded back, are no shorter span. -/
def Span.IsStable (d : Span) : Prop := ∀ d', d.toSeconds.toSpan? = some d' → d ≤ d'

theorem Span.isStable_of_lt {d : Span} (h : d < .ofSeconds (2 ^ 23)) : d.IsStable := by
  intro d' hd'
  rw [toSpan?_toSeconds h] at hd'
  rw [← Option.some.inj hd']
  exact Nat.le_refl _

/-- A step in the life of a poller: a poll, of a queue in any state, or the signal to end. -/
inductive PollTurn (σ : Type) where
  | poll (max : Nat) (queue : σ)
  | shutdown

def HandsOutAtMost {ε σ : Type}
    (claim : σ → String → List TaskKind → Nat → Except ε (List Task) × σ) : Prop :=
  ∀ queue worker kinds max tasks, (claim queue worker kinds max).1 = .ok tasks → tasks.length ≤ max

namespace Outbox

/-- The outbox at some time as a queue of a poller. -/
def serve : Outbox × Instant → String → List TaskKind → Nat →
    Except Error (List Task) × (Outbox × Instant)
  | (o, now), worker, kinds, n =>
    let (tasks, o) := o.claim worker kinds n now
    (.ok tasks, (o, now))

theorem handsOutAtMost_serve : HandsOutAtMost serve := by
  rintro ⟨o, now⟩ worker kinds n tasks h
  have htasks : (o.claim worker kinds n now).1 = tasks := Except.ok.inj h
  rw [← htasks, claim, List.length_map, List.length_map, claimable]
  exact List.length_take_le n _

end Outbox

namespace Poller

variable {ε σ : Type} {claim : σ → String → List TaskKind → Nat → Except ε (List Task) × σ}
variable {p p' : Poller} {t : PollTurn σ} {queue : σ} {max : Nat}

def takeTurn (claim : σ → String → List TaskKind → Nat → Except ε (List Task) × σ) (p : Poller) :
    PollTurn σ → Option Poller
  | .poll max queue => (p.poll max queue claim).2.2
  | .shutdown => some p.shutdown

def takeTurns (claim : σ → String → List TaskKind → Nat → Except ε (List Task) × σ) (p : Poller) :
    List (PollTurn σ) → Option Poller
  | [] => some p
  | t :: ts => (p.takeTurn claim t).bind fun p => p.takeTurns claim ts

/-- The seconds of the interval times the multiplier. -/
def product (p : Poller) : Binary64 := p.interval.toSeconds.mul p.config.multiplier

structure Polled (p : Poller) (max : Nat) (queue : σ) (answer : Except ε (List Task)) (queue' : σ)
    (after : Option Poller) : Prop where
  /-- After the signal nothing is asked for. -/
  shutDown : p.shutDown = true → answer = .ok [] ∧ queue' = queue ∧ after = some p
  /-- A poll that fails leaves the poller as it is. -/
  failed : ∀ e, answer = .error e → after = some p
  /-- A poll that finds tasks sets the interval back. -/
  found : ∀ tasks, answer = .ok tasks → tasks ≠ [] →
    after = some { p with interval := p.config.minInterval }
  /-- A poll that finds nothing makes the interval longer, up to the longest, or breaks. -/
  idle : p.shutDown = false → answer = .ok [] →
    after = p.product.toSpan?.map fun d => { p with interval := d.min p.config.maxInterval }
  /-- No other poll breaks. -/
  broken : after = none ↔ p.shutDown = false ∧ answer = .ok [] ∧ p.product.toSpan? = none

theorem polled (claim : σ → String → List TaskKind → Nat → Except ε (List Task) × σ) (p : Poller)
    (max : Nat) (queue : σ) :
    p.Polled max queue (p.poll max queue claim).1 (p.poll max queue claim).2.1
      (p.poll max queue claim).2.2 := by
  unfold poll
  by_cases hshut : p.shutDown = true
  · have hnot : ¬ p.shutDown = false := Bool.eq_false_iff.not_left.2 hshut
    rw [if_pos hshut]
    refine ⟨fun _ => ⟨rfl, rfl, rfl⟩, nofun, ?_, fun h => absurd h hnot, nofun, ?_⟩
    · intro tasks h hne
      exact absurd (Except.ok.inj h).symm hne
    · exact fun h => absurd h.1 hnot
  rw [if_neg hshut]
  rcases claim queue p.worker p.kinds (p.batchFor max) with ⟨e | tasks, queue'⟩
  · exact ⟨fun h => absurd h hshut, fun _ _ => rfl, nofun, nofun, nofun, nofun⟩
  cases tasks with
  | nil =>
    have hlonger : p.afterClaim 0 =
        p.product.toSpan?.map fun d => { p with interval := d.min p.config.maxInterval } := by
      rw [afterClaim, if_pos rfl, longerInterval?, Option.map_map]
      rfl
    refine ⟨fun h => absurd h hshut, nofun, ?_, fun _ _ => hlonger, ?_, ?_⟩
    · intro tasks h hne
      exact absurd (Except.ok.inj h).symm hne
    · intro h
      exact ⟨Bool.eq_false_iff.2 hshut, rfl, Option.map_eq_none_iff.1 (hlonger.symm.trans h)⟩
    · intro h
      exact hlonger.trans (Option.map_eq_none_iff.2 h.2.2)
  | cons task tasks =>
    have hfound : p.afterClaim (task :: tasks).length =
        some { p with interval := p.config.minInterval } := if_neg (Nat.succ_ne_zero _)
    refine ⟨fun h => absurd h hshut, nofun, fun _ _ _ => hfound, nofun, ?_, nofun⟩
    exact fun h => nomatch hfound.symm.trans h

/-- A poll takes no more tasks than asked for, nor than a batch has. -/
theorem length_poll (h : HandsOutAtMost claim) {tasks : List Task}
    (hok : (p.poll max queue claim).1 = .ok tasks) : tasks.length ≤ min max p.config.batch := by
  unfold poll at hok
  split_ifs at hok with hshut
  · rw [← Except.ok.inj hok]
    exact Nat.zero_le _
  · have hclaim := h queue p.worker p.kinds (p.batchFor max) tasks
    revert hok hclaim
    rcases claim queue p.worker p.kinds (p.batchFor max) with ⟨e | tasks', queue'⟩
    · exact nofun
    · exact fun hok hclaim => hclaim hok

/-- The interval after a step: what it was, the least one, or the next longer one. -/
theorem turn_cases (h : p.takeTurn claim t = some p') : p'.config = p.config ∧
    (p'.interval = p.interval ∨ p'.interval = p.config.minInterval ∨
      ∃ d, p.product.toSpan? = some d ∧ p'.interval = d.min p.config.maxInterval) := by
  cases t with
  | shutdown =>
    rw [← Option.some.inj h]
    exact ⟨rfl, .inl rfl⟩
  | poll max queue =>
    have hp := p.polled claim max queue
    have hafter : (p.poll max queue claim).2.2 = some p' := h
    rw [hafter] at hp
    generalize (p.poll max queue claim).1 = answer at hp
    cases hshut : p.shutDown with
    | true =>
      rw [Option.some.inj (hp.shutDown hshut).2.2]
      exact ⟨rfl, .inl rfl⟩
    | false =>
      rcases answer with e | tasks
      · rw [Option.some.inj (hp.failed e rfl)]
        exact ⟨rfl, .inl rfl⟩
      · cases tasks with
        | nil =>
          obtain ⟨d, hd, hp'⟩ := Option.map_eq_some_iff.1 (hp.idle hshut rfl).symm
          rw [← hp']
          exact ⟨rfl, .inr (.inr ⟨d, hd, rfl⟩)⟩
        | cons t ts =>
          rw [Option.some.inj (hp.found (t :: ts) rfl nofun)]
          exact ⟨rfl, .inr (.inl rfl)⟩

theorem turn_eq_none (h : p.takeTurn claim t = none) : p.product.toSpan? = none := by
  cases t with
  | shutdown => cases h
  | poll max queue => exact ((p.polled claim max queue).broken.1 h).2.2

/-! ## Intervals -/

structure Within (c : PollerConfig) (p : Poller) : Prop where
  config : p.config = c
  /-- The interval is the least one or no longer than the longest. -/
  upper : p.interval = c.minInterval ∨ p.interval ≤ c.maxInterval
  lower : c.minInterval ≤ c.maxInterval → c.minInterval.IsStable → c.minInterval ≤ p.interval

variable {c : PollerConfig}

theorem within_start (worker : String) (kinds : List TaskKind) (c : PollerConfig) :
    (start worker kinds c).Within c :=
  ⟨rfl, .inl rfl, fun _ _ => Nat.le_refl _⟩

/-- A multiplier from one on makes no interval shorter than a stable one that it is not below. -/
theorem le_of_product (hc : c.Sound) (hp : p.config = c) (hstable : c.minInterval.IsStable)
    (hle : c.minInterval ≤ p.interval) {d : Span} (hd : p.product.toSpan? = some d) :
    c.minInterval ≤ d := by
  have hproduct := isFinite_of_toSpan? hd
  obtain ⟨hfin, hmul⟩ := isFinite_of_mul hproduct
  have hfin' := Span.isFinite_toSeconds_of_le hle hfin
  have hone : 1 ≤ p.config.multiplier.value := (atLeast_iff hmul).1 (hp ▸ hc.multiplier)
  have hgrow : p.interval.toSeconds.value ≤ p.product.value :=
    (atLeast_iff hproduct).1
      (le_mul_of_one_le hfin (Span.isDouble_toSeconds hfin) (Span.toSeconds_nonneg hfin) hmul hone)
  have hmono := Span.toSeconds_mono hle hfin' hfin
  obtain ⟨d', hd', hle'⟩ :=
    toSpan?_mono hfin' (Span.toSeconds_nonneg hfin') hd (hmono.trans hgrow)
  exact Nat.le_trans (hstable d' hd') hle'

theorem Within.takeTurn (hc : c.Sound) (h : p.Within c) (ht : p.takeTurn claim t = some p') :
    p'.Within c := by
  obtain ⟨hconfig, hcases⟩ := turn_cases ht
  rw [h.config] at hconfig hcases
  rcases hcases with hsame | hreset | ⟨d, hd, hlonger⟩
  · exact ⟨hconfig, hsame ▸ h.upper, fun ho hs => hsame ▸ h.lower ho hs⟩
  · exact ⟨hconfig, .inl hreset, fun _ _ => hreset ▸ Nat.le_refl _⟩
  · refine ⟨hconfig, .inr (hlonger ▸ Nat.min_le_right _ _), fun ho hs => ?_⟩
    have hle := le_of_product hc h.config hs (h.lower ho hs) hd
    rw [hlonger]
    exact Nat.le_min.2 ⟨hle, ho⟩

theorem Within.takeTurns (hc : c.Sound) (h : p.Within c) (ts : List (PollTurn σ))
    (ht : p.takeTurns claim ts = some p') : p'.Within c := by
  induction ts generalizing p with
  | nil => exact Option.some.inj ht ▸ h
  | cons t ts ih =>
    obtain ⟨p₁, hp₁, hrest⟩ := Option.bind_eq_some_iff.1 ht
    exact ih (h.takeTurn hc hp₁) hrest

theorem Within.le_longest (h : p.Within c) : p.interval ≤ c.longest := by
  rcases h.upper with heq | hle
  · exact heq ▸ Nat.le_max_left _ _
  · exact Nat.le_trans hle (Nat.le_max_right _ _)

/-- If the longest interval makes a span, every interval does. -/
theorem Within.product_eq_some (hc : c.Sound) (h : p.Within c) {d : Span}
    (hd : (c.longest.toSeconds.mul c.multiplier).toSpan? = some d) :
    ∃ d', p.product.toSpan? = some d' := by
  obtain ⟨htop, hmul⟩ := isFinite_of_mul (isFinite_of_toSpan? hd)
  have hfin := Span.isFinite_toSeconds_of_le h.le_longest htop
  have hone : 1 ≤ c.multiplier.value := (atLeast_iff hmul).1 hc.multiplier
  have hle := Span.toSeconds_mono h.le_longest hfin htop
  have hnonneg := Span.toSeconds_nonneg hfin
  have hr := rounds_mul hfin hmul
  have hr' := rounds_mul htop hmul
  have hmono := Rounding.nearest_mono (mul_le_mul_of_nonneg_right hle (zero_le_one.trans hone))
  have hq := mul_nonneg hnonneg (zero_le_one.trans hone)
  have hproduct := hr.isFinite_of_le hr' (isFinite_of_toSpan? hd) hq hmono
  have hvalue := hr.value_eq hproduct
  have hvalue' := hr'.value_eq (isFinite_of_toSpan? hd)
  rw [product, h.config]
  obtain ⟨d', hd', -⟩ := toSpan?_mono hproduct (hvalue ▸ Rounding.nearest_nonneg hq) hd
    (by rw [hvalue, hvalue']; exact hmono)
  exact ⟨d', hd'⟩

theorem Within.takeTurns_eq_some (hc : c.Sound) (h : p.Within c) {d : Span}
    (hd : (c.longest.toSeconds.mul c.multiplier).toSpan? = some d) (ts : List (PollTurn σ)) :
    ∃ p', p.takeTurns claim ts = some p' := by
  induction ts generalizing p with
  | nil => exact ⟨p, rfl⟩
  | cons t ts ih =>
    rw [Poller.takeTurns]
    cases ht : p.takeTurn claim t with
    | none =>
      obtain ⟨d', hd'⟩ := h.product_eq_some hc hd
      exact nomatch hd'.symm.trans (turn_eq_none ht)
    | some p₁ => exact ih (h.takeTurn hc ht)

/-- The settings that changes lead to, and the intervals that polls of any queue lead to. -/
theorem polling_of_changes (changes : List PollerChange) (worker : String) (kinds : List TaskKind)
    (hclaim : HandsOutAtMost claim) (ts : List (PollTurn σ)) :
    let c := PollerConfig.built changes
    (c.minInterval ≤ c.maxInterval ↔ ¬ PollerConfig.Slips changes) ∧ 1 ≤ c.batch ∧
    (∀ p, (start worker kinds c).takeTurns claim ts = some p →
      p.config = c ∧ (p.interval = c.minInterval ∨ p.interval ≤ c.maxInterval) ∧
      (c.minInterval ≤ c.maxInterval → p.interval ≤ c.maxInterval ∧
        (c.minInterval.IsStable → c.minInterval ≤ p.interval)) ∧
      ∀ max queue, p.Polled max queue (p.poll max queue claim).1 (p.poll max queue claim).2.1
          (p.poll max queue claim).2.2 ∧
        ∀ tasks, (p.poll max queue claim).1 = .ok tasks → tasks.length ≤ min max c.batch) ∧
    (c.minInterval < .ofSeconds (2 ^ 23) → c.minInterval.IsStable) ∧
    ((∃ d, (c.longest.toSeconds.mul c.multiplier).toSpan? = some d) →
      ∃ p, (start worker kinds c).takeTurns claim ts = some p) := by
  intro c
  have hc : c.Sound := PollerConfig.sound_built changes
  refine ⟨PollerConfig.ordered_iff changes, hc.batch, ?_, Span.isStable_of_lt, ?_⟩
  · intro p hp
    have h : p.Within c := (within_start worker kinds c).takeTurns hc ts hp
    refine ⟨h.config, h.upper, ?_, fun max queue => ⟨p.polled claim max queue, ?_⟩⟩
    · intro hordered
      exact ⟨h.upper.elim (fun heq => heq ▸ hordered) id, h.lower hordered⟩
    · intro tasks hok
      rw [← h.config]
      exact length_poll hclaim hok
  · rintro ⟨d, hd⟩
    exact (within_start worker kinds c).takeTurns_eq_some hc hd ts

/-- A least interval of five seconds, taken as it is, is above the longest one of two: the first
poll that finds nothing makes the interval shorter. The longest one is raised to it if set
afterwards. -/
theorem polling_of_changes_slipped :
    HandsOutAtMost Outbox.serve ∧
      PollerConfig.Slips [.minInterval (.ofSeconds 5)] ∧
      ((start "w" [] (.built [.minInterval (.ofSeconds 5)])).takeTurns Outbox.serve
        [.poll 1 (.empty, ⟨0, 0⟩)]).map Poller.interval = some (.ofSeconds 2) ∧
      ∃ p, (start "w" []
          (.built [.minInterval (.ofSeconds 5), .maxInterval (.ofSeconds 2)])).takeTurns
            Outbox.serve [.poll 1 (.empty, ⟨0, 0⟩), .shutdown] = some p ∧
        .ofSeconds 5 ≤ p.interval := by
  have hclaim := Outbox.handsOutAtMost_serve
  obtain ⟨hslips, -⟩ := polling_of_changes [.minInterval (.ofSeconds 5)] "w" [] hclaim []
  obtain ⟨-, -, hwithin, hstable, hgoes⟩ := polling_of_changes
    [.minInterval (.ofSeconds 5), .maxInterval (.ofSeconds 2)] "w" [] hclaim
    [.poll 1 (.empty, ⟨0, 0⟩), .shutdown]
  obtain ⟨p, hp⟩ := hgoes ⟨.ofMillis 7500, by decide +kernel⟩
  obtain ⟨-, -, hbounds, -⟩ := hwithin p hp
  exact ⟨hclaim, not_not.1 (mt hslips.2 (by decide)), by decide +kernel, p, hp,
    (hbounds (by decide)).2 (hstable (by decide))⟩

end Poller

end BoardActivity
