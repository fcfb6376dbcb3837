import BoardActivity.Proofs.FailureStreaks

/-!
# Stricter and laxer policies

Of two policies, the one that asks for more failures in a row over a longer time is the laxer: a
webhook that it gives up, the stricter one gives up as well. This is so of every count, whenever it
is judged, and so of runs in which each outcome is judged as it is counted: the laxer policy
deactivates no webhook before the stricter one has.

The order ends with the offsets that there are between instants. A window beyond
`Span.offsetLimit`, meant to be longer than any time, counts as none at all, and its policy is as
strict as one without a window. `DelinquencyPolicy.Laxer` says exactly which pairs of policies
are out of order for it.
-/

namespace BoardActivity

namespace DelinquencyTracker

variable {t : DelinquencyTracker} {p q : DelinquencyPolicy} {now : Instant}

def recordAll (t : DelinquencyTracker) (outcomes : List (Outcome × Instant)) : DelinquencyTracker :=
  outcomes.foldl (fun t x => t.record x.1 x.2) t

theorem recordAll_concat (t : DelinquencyTracker) (outcomes : List (Outcome × Instant))
    (outcome : Outcome) (now : Instant) :
    t.recordAll (outcomes ++ [(outcome, now)]) = (t.recordAll outcomes).record outcome now :=
  List.foldl_append

/-- Fewer failures over a shorter time are enough for the stricter policy. -/
theorem isDelinquent_of_laxer (hthreshold : p.threshold ≤ q.threshold)
    (hwindow : p.window.toOffset ≤ q.window.toOffset) (h : t.isDelinquent q now = true) :
    t.isDelinquent p now = true := by
  obtain ⟨first, hfirst, hfailures, htime⟩ := isDelinquent_iff.1 h
  exact isDelinquent_iff.2
    ⟨first, hfirst, hthreshold.trans hfailures, hwindow.trans htime⟩

theorem isDelinquent_congr (hthreshold : p.threshold = q.threshold)
    (hwindow : p.window.toOffset = q.window.toOffset) (t : DelinquencyTracker) (now : Instant) :
    t.isDelinquent p now = t.isDelinquent q now := by
  unfold isDelinquent
  rw [hthreshold, hwindow]

/-- Failures in a row, all at one time. -/
theorem recordAll_failures (webhook : Ident) (start : Instant) {n : Nat} (hn : 1 ≤ n)
    (hlt : n < pow2 32) :
    (fresh webhook).recordAll (List.replicate n (.errored "", start)) =
      ⟨webhook, n, some start⟩ := by
  induction n with
  | zero => omega
  | succ n ih =>
      rw [List.replicate_succ', recordAll_concat]
      cases n with
      | zero => simp [recordAll, record, fresh, Outcome.isSuccess, Nat.mod_eq_of_lt hlt]
      | succ n =>
          rw [ih (by omega) (by omega)]
          simp [record, Outcome.isSuccess, Nat.mod_eq_of_lt hlt]

end DelinquencyTracker

namespace Handlers

/-- The store after outcomes were counted one after the other, each judged as it was counted. -/
def judgeAll (h : Handlers) (s : Store) (log : List CountedOutcome) : Store :=
  log.foldl (fun s x => (h.trackDelinquency s x.webhook x.outcome x.time).2) s

end Handlers

namespace Store

/-- The counts are the same, and so are the webhooks, but for some that only the first store has
deactivated. -/
structure Stricter (s s' : Store) : Prop where
  trackers : s.trackers = s'.trackers
  webhooks : ∀ id, s.webhooks.find? id = s'.webhooks.find? id ∨
    s.webhooks.find? id = (s'.webhooks.find? id).map fun w => { w with active := false }

variable {s s' : Store}

theorem Stricter.refl (s : Store) : s.Stricter s := ⟨rfl, fun _ => .inl rfl⟩

/-- A webhook is active in the second store if it is in the first, and is otherwise the same. -/
theorem Stricter.find?_of_active (h : s.Stricter s') {id : Ident} {w : Webhook}
    (hf : s.webhooks.find? id = some w) (hactive : w.active = true) :
    s'.webhooks.find? id = some w := by
  rcases h.webhooks id with he | he
  · exact he.symm.trans hf
  · rw [hf] at he
    obtain ⟨w', -, rfl⟩ := Option.map_eq_some_iff.1 he.symm
    cases hactive

/-- Webhooks after an outcome was counted and judged. -/
theorem find?_trackDelinquency (h : Handlers) (s : Store) (webhook : Ident) (outcome : Outcome)
    (now : Instant) (id : Ident) :
    (h.trackDelinquency s webhook outcome now).2.webhooks.find? id =
      if ((s.delinquency webhook).record outcome now).isDelinquent h.delinquency now = true ∧
          id = webhook then
        (s.webhooks.find? id).map fun w => { w with active := false }
      else s.webhooks.find? id := by
  rw [trackDelinquency_carryOut]
  cases ((s.delinquency webhook).record outcome now).isDelinquent h.delinquency now with
  | false => simp [carryOut]
  | true =>
      refine (deactivates_carryOut _ webhook id).trans ?_
      by_cases hid : id = webhook <;> simp [hid]

theorem trackers_trackDelinquency (h : Handlers) (s : Store) (webhook : Ident) (outcome : Outcome)
    (now : Instant) : (h.trackDelinquency s webhook outcome now).2.trackers =
      s.trackers.put ((s.delinquency webhook).record outcome now) := by
  rw [trackDelinquency_carryOut]
  obtain ⟨webhooks, hcarry⟩ := carryOut_eq _ _
  rw [hcarry]

/-- Counting and judging one outcome by both policies. -/
theorem Stricter.trackDelinquency {p q : DelinquencyPolicy} (hs : s.Stricter s')
    (hthreshold : p.threshold ≤ q.threshold) (hwindow : p.window.toOffset ≤ q.window.toOffset)
    (h : Handlers) (webhook : Ident) (outcome : Outcome) (now : Instant) :
    (({ h with delinquency := p } : Handlers).trackDelinquency s webhook outcome now).2.Stricter
      (({ h with delinquency := q } : Handlers).trackDelinquency s' webhook outcome now).2 := by
  have hcount : s.delinquency webhook = s'.delinquency webhook := by
    rw [delinquency, delinquency, hs.trackers]
  have hdue : ((s'.delinquency webhook).record outcome now).isDelinquent q now = true →
      ((s'.delinquency webhook).record outcome now).isDelinquent p now = true :=
    DelinquencyTracker.isDelinquent_of_laxer hthreshold hwindow
  refine ⟨?_, fun id => ?_⟩
  · rw [trackers_trackDelinquency, trackers_trackDelinquency, hcount, hs.trackers]
  · rw [find?_trackDelinquency, find?_trackDelinquency, hcount]
    rcases hs.webhooks id with he | he
    · rw [he]
      split_ifs with hp hq hq
      · exact .inl rfl
      · exact .inr rfl
      · exact (hp ⟨hdue hq.1, hq.2⟩).elim
      · exact .inl rfl
    · rw [he, Option.map_map]
      split_ifs with hp hq hq
      · exact .inl rfl
      · exact .inr rfl
      · exact (hp ⟨hdue hq.1, hq.2⟩).elim
      · exact .inr rfl

theorem Stricter.judgeAll {p q : DelinquencyPolicy} (hs : s.Stricter s')
    (hthreshold : p.threshold ≤ q.threshold) (hwindow : p.window.toOffset ≤ q.window.toOffset)
    (h : Handlers) (log : List CountedOutcome) :
    (({ h with delinquency := p } : Handlers).judgeAll s log).Stricter
      (({ h with delinquency := q } : Handlers).judgeAll s' log) := by
  induction log generalizing s s' with
  | nil => exact hs
  | cons x log ih =>
      exact ih (hs.trackDelinquency hthreshold hwindow h x.webhook x.outcome x.time)

end Store

namespace DelinquencyPolicy

variable {p q : DelinquencyPolicy}

/-- The first policy finds every webhook delinquent that the second does, whatever was recorded and
whenever it is judged. -/
def Covers (p q : DelinquencyPolicy) : Prop :=
  ∀ webhook outcomes now,
    ((DelinquencyTracker.fresh webhook).recordAll outcomes).isDelinquent q now = true →
      ((DelinquencyTracker.fresh webhook).recordAll outcomes).isDelinquent p now = true

theorem covers_iff (hthreshold : p.threshold ≤ q.threshold) (hword : q.threshold < pow2 32) :
    p.Covers q ↔ p.window.toOffset ≤ q.window.toOffset := by
  constructor
  · intro h
    -- As many failures as the second policy needs, judged just when its window is over.
    obtain ⟨now, hnow⟩ := Instant.exists_since q.window.toOffset.toNat
    have hsince : now.since ⟨0, 0⟩ = q.window.toOffset :=
      hnow.trans (Int.toNat_of_nonneg q.window.toOffset_nonneg)
    have hcount := DelinquencyTracker.recordAll_failures ⟨0⟩ ⟨0, 0⟩
      (Nat.le_max_right q.threshold 1) (Nat.max_lt.2 ⟨hword, by decide⟩)
    have hq := h ⟨0⟩ (List.replicate (max q.threshold 1) (.errored "", ⟨0, 0⟩)) now
    rw [hcount, DelinquencyTracker.isDelinquent_iff] at hq
    obtain ⟨first, hfirst, -, htime⟩ := DelinquencyTracker.isDelinquent_iff.1
      (hq ⟨⟨0, 0⟩, rfl, Nat.le_max_left q.threshold 1, hsince.ge⟩)
    cases hfirst
    exact hsince ▸ htime
  · exact fun hwindow webhook outcomes now =>
      DelinquencyTracker.isDelinquent_of_laxer hthreshold hwindow

structure Laxer (p q : DelinquencyPolicy) : Prop where
  judged : q.window.nanoseconds ≤ Span.offsetLimit → p.Covers q
  /-- A webhook that is still active under the first policy is so under the second. -/
  deactivated : q.window.nanoseconds ≤ Span.offsetLimit →
    ∀ (h : Handlers) (s : Store) (log : List CountedOutcome) (id : Ident) (w : Webhook),
    (({ h with delinquency := p } : Handlers).judgeAll s log).webhooks.find? id = some w →
      w.active = true →
      (({ h with delinquency := q } : Handlers).judgeAll s log).webhooks.find? id = some w
  /-- A window that is no offset counts as none. -/
  beyond : Span.offsetLimit < q.window.nanoseconds →
    ∀ (t : DelinquencyTracker) (now : Instant),
    t.isDelinquent q now = t.isDelinquent ⟨q.threshold, .zero⟩ now
  /-- So the policies are out of order exactly if the second window is no offset, and the first one
  is, and not zero. -/
  judged_iff : q.threshold < pow2 32 → (p.Covers q ↔
    (Span.offsetLimit < q.window.nanoseconds →
      p.window.nanoseconds = 0 ∨ Span.offsetLimit < p.window.nanoseconds))

/-- A policy with a lower threshold and a shorter window gives a webhook up whenever the other one
does, and no later, as long as the longer window is an offset between instants. Otherwise the longer
window counts as none, and its policy is not the laxer one any more. -/
theorem laxer_of_le (hthreshold : p.threshold ≤ q.threshold) (hwindow : p.window ≤ q.window) :
    p.Laxer q := by
  refine ⟨fun hq webhook outcomes now => ?_, fun hq h s log id w hf hactive => ?_,
    fun hq => ?_, fun hword => ?_⟩
  · exact DelinquencyTracker.isDelinquent_of_laxer hthreshold (Span.toOffset_mono hwindow hq)
  · have hstricter := (Store.Stricter.refl s).judgeAll hthreshold
      (Span.toOffset_mono hwindow hq) h log
    exact hstricter.find?_of_active hf hactive
  · exact DelinquencyTracker.isDelinquent_congr (q := ⟨q.threshold, .zero⟩) rfl
      (Span.toOffset_of_lt hq)
  · exact (covers_iff hthreshold hword).trans (Span.toOffset_le_iff hwindow)

/-- Three failures over two hours are more than one over an hour. Over a time longer than any offset
they count at once, before the hour of the stricter policy is over. -/
theorem laxer_of_le_never :
    let start : Instant := ⟨0, 0⟩
    let strict : DelinquencyPolicy := ⟨1, .ofSeconds 3600⟩
    let lax : DelinquencyPolicy := ⟨3, .ofSeconds 7200⟩
    let never : DelinquencyPolicy := ⟨3, .ofMillis (pow2 64 - 1)⟩
    let t := (DelinquencyTracker.fresh ⟨5⟩).recordAll
      [(.responded 500, start), (.errored "timeout", start), (.responded 503, start)]
    (strict.threshold ≤ lax.threshold ∧ strict.window ≤ lax.window ∧ strict.Laxer lax ∧
      t.isDelinquent lax ⟨7199, 0⟩ = false ∧ t.isDelinquent strict ⟨7199, 0⟩ = true) ∧
    (strict.threshold ≤ never.threshold ∧ strict.window ≤ never.window ∧ strict.Laxer never ∧
      t.isDelinquent never start = true ∧ t.isDelinquent strict start = false) := by
  intro start strict lax never t
  have hlax : strict.window ≤ lax.window := by decide +kernel
  have hnever : strict.window ≤ never.window := by decide +kernel
  exact ⟨⟨by decide, hlax, laxer_of_le (by decide) hlax, by decide +kernel, by decide +kernel⟩,
    by decide, hnever, laxer_of_le (by decide) hnever, by decide +kernel, by decide +kernel⟩

end DelinquencyPolicy

end BoardActivity
