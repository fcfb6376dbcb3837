import BoardActivity.Proofs.StoreWrites
import Mathlib.Data.List.Find

/-!
# Sending one delivery several times over

A run that sends a delivery is in two halves, before and after its request. When a claim is taken
back while its request is under way, another run of the same delivery begins, and the halves of
several runs take `Turn`s in any order.

A run looks only once whether the delivery is finished, and that is before its request; what comes
of the request is stored and counted in any case. So a delivery that is finished is never sent
again, but it is final only once no other run is under way (`Handlers.overlapping_runs`): each run
that is still to end replaces what is stored by its own outcome, and counts it.
-/

namespace BoardActivity

/-- What of an outcome is stored with a delivery: the state, the status and the error. -/
def Outcome.verdict (o : Outcome) : DeliveryState × Option Nat × Option String :=
  match o with
  | responded status => (if o.isSuccess then .succeeded else .failed, some status, none)
  | errored text => (.errored, none, some text)

namespace Delivery

def verdict (d : Delivery) : DeliveryState × Option Nat × Option String :=
  (d.state, d.responseCode, d.error)

theorem verdict_finish (d : Delivery) (outcome : Outcome) (now : Instant) :
    (d.finish outcome now).verdict = outcome.verdict := by
  cases outcome with
  | responded status => rfl
  | errored text => rfl

theorem isFinished_finish (d : Delivery) (outcome : Outcome) (now : Instant) :
    (d.finish outcome now).state.isFinished = true := by
  cases outcome with
  | responded status =>
      simp only [finish]
      split_ifs
      · rfl
      · rfl
  | errored text => rfl

end Delivery

theorem DelinquencyTracker.webhook_record (t : DelinquencyTracker) (outcome : Outcome)
    (now : Instant) : (t.record outcome now).webhook = t.webhook := by
  unfold record
  split_ifs
  · rfl
  · rfl

structure Ruling where
  webhook : Ident
  delinquent : Bool
deriving Repr, DecidableEq

namespace Store

variable {s : Store} {d d' : Delivery}

/-- Replacing a delivery that is found by its identifier, it is found in its new form. -/
theorem findDelivery_put {id : Ident} (hd : s.findDelivery id = some d)
    (hroute : d'.route = d.route) :
    ({ s with deliveries := s.deliveries.put d' } : Store).findDelivery id = some d' := by
  obtain ⟨hid, hkey⟩ := Prod.mk.inj hroute
  have hd' : d ∈ s.deliveries.rows := List.mem_of_find?_eq_some hd
  have hf : s.deliveries.find? (d'.webhook, d'.event) = some d := by
    rw [hkey]
    exact Table.mem_rows_iff.1 hd'
  -- The search is by identifier and not by key, so it is followed over all rows.
  have hids : ∀ x ∈ s.deliveries.rows,
      ((fun x : Delivery => x.id == id) ∘
        fun x => if (x.webhook, x.event) = (d'.webhook, d'.event) then d' else x) x =
      (x.id == id) := by
    intro x hx
    simp only [Function.comp_apply]
    split_ifs with hk
    · have hxd : x = d := Table.eq_of_key_eq hx hd' (hk.trans hkey)
      rw [hxd, hid]
    · rfl
  have hrows := Table.rows_put_of_present hf
  unfold findDelivery
  rw [hrows]
  change List.find? _ (s.deliveries.rows.map fun x =>
    if (x.webhook, x.event) = (d'.webhook, d'.event) then d' else x) = _
  rw [List.find?_map, List.find?_congr hids]
  change Option.map _ (s.findDelivery id) = _
  rw [hd]
  exact congrArg some (if_pos hkey.symm)

theorem webhook_delinquency (s : Store) (webhook : Ident) :
    (s.delinquency webhook).webhook = webhook := by
  unfold delinquency
  cases hf : s.trackers.find? webhook with
  | none => rfl
  | some t => exact (Table.find?_eq_some_iff.1 hf).2

theorem delinquency_of_put {s' : Store} {t : DelinquencyTracker}
    (h : s'.trackers = s.trackers.put t) (webhook : Ident) :
    s'.delinquency webhook = if t.webhook = webhook then t else s.delinquency webhook := by
  have hfind : (s.trackers.put t).find? webhook =
      if t.webhook = webhook then some t else s.trackers.find? webhook := Table.find?_put _ _ _
  rw [delinquency, h, hfind]
  split_ifs
  · rfl
  · rfl

theorem deactivateWebhook_eq (s : Store) (webhook : Ident) :
    ∃ webhooks, (s.deactivateWebhook webhook).2 = { s with webhooks := webhooks } := by
  unfold deactivateWebhook
  split
  · exact ⟨s.webhooks, rfl⟩
  · exact ⟨_, rfl⟩

def carryOut (s : Store) (r : Ruling) : Store :=
  if r.delinquent then (s.deactivateWebhook r.webhook).2 else s

theorem carryOut_eq (s : Store) (r : Ruling) :
    ∃ webhooks, s.carryOut r = { s with webhooks := webhooks } := by
  unfold carryOut
  split_ifs
  · exact s.deactivateWebhook_eq r.webhook
  · exact ⟨s.webhooks, rfl⟩

theorem trackDelinquency_carryOut (h : Handlers) (s : Store) (webhook : Ident)
    (outcome : Outcome) (now : Instant) :
    (h.trackDelinquency s webhook outcome now).2 =
      ({ s with trackers := s.trackers.put ((s.delinquency webhook).record outcome now) } :
        Store).carryOut
        ⟨webhook, ((s.delinquency webhook).record outcome now).isDelinquent h.delinquency now⟩ := by
  cases hdue : ((s.delinquency webhook).record outcome now).isDelinquent h.delinquency now with
  | true => simp only [Handlers.trackDelinquency, recordOutcome, carryOut, hdue, if_true]
  | false =>
      simp only [Handlers.trackDelinquency, recordOutcome, carryOut, hdue, Bool.false_eq_true,
        if_false]

/-- The second half of sending: the outcome is stored, counted, and ruled on. -/
theorem endDelivery_of_present (h : Handlers)
    (hd : s.deliveries.contains (d.webhook, d.event) = true) (outcome : Outcome) (now : Instant) :
    (h.endDelivery s d outcome now).2 =
      ({ s with
        deliveries := s.deliveries.put (d.finish outcome now)
        trackers := s.trackers.put ((s.delinquency d.webhook).record outcome now) } :
        Store).carryOut
        ⟨d.webhook,
          ((s.delinquency d.webhook).record outcome now).isDelinquent h.delinquency now⟩ := by
  obtain ⟨-, hkey⟩ := Prod.mk.inj (d.route_finish outcome now)
  have hcontains : s.deliveries.contains ((d.finish outcome now).webhook,
      (d.finish outcome now).event) = true := hkey ▸ hd
  have htrack := trackDelinquency_carryOut h
    { s with deliveries := s.deliveries.put (d.finish outcome now) } d.webhook outcome now
  simp only [Handlers.endDelivery, updateDelivery, hcontains, if_true]
  split
  all_goals
    next hr =>
      rw [hr] at htrack
      exact htrack

/-- The second half of sending stores the outcome and counts it, and at most deactivates the
webhook. -/
theorem endDelivery_eq (h : Handlers) (hd : d ∈ s.deliveries.rows) (hroute : d'.route = d.route)
    (outcome : Outcome) (now : Instant) :
    ∃ webhooks, (h.endDelivery s d' outcome now).2 = { s with
      deliveries := s.deliveries.put (d'.finish outcome now)
      trackers := s.trackers.put ((s.delinquency d'.webhook).record outcome now)
      webhooks := webhooks } := by
  have hkey : (d'.webhook, d'.event) = (d.webhook, d.event) := (Prod.mk.inj hroute).2
  have hrow : s.deliveries.contains (d'.webhook, d'.event) = true :=
    Table.contains_iff.2 ⟨d, hkey ▸ Table.mem_rows_iff.1 hd⟩
  rw [endDelivery_of_present h hrow]
  obtain ⟨webhooks, hcarry⟩ := carryOut_eq _ _
  exact ⟨webhooks, hcarry⟩

end Store

inductive Turn where
  | opens (now : Instant)
  | closes (run : Nat) (outcome : Outcome) (now : Instant)

/-- Runs of one delivery: the copies that are under way, and what came of the runs that have ended,
in the order of their ends. -/
structure Overlap where
  store : Store
  flights : List Delivery
  ended : List (Outcome × Instant)

namespace Overlap

def start (s : Store) : Overlap := ⟨s, [], []⟩

/-- A half of a run. -/
def turn (h : Handlers) (id : Ident) (o : Overlap) : Turn → Overlap
  | .opens now =>
    match Handlers.beginDelivery o.store id now with
    | (.sending d _, s) => { o with store := s, flights := o.flights ++ [d] }
    | (.over _, s) => { o with store := s }
  | .closes run outcome now =>
    match o.flights[run]? with
    | none => o
    | some d =>
      ⟨(h.endDelivery o.store d outcome now).2, o.flights.eraseIdx run,
        o.ended ++ [(outcome, now)]⟩

def run (h : Handlers) (id : Ident) (o : Overlap) (turns : List Turn) : Overlap :=
  turns.foldl (turn h id) o

/-- The failures of a webhook after outcomes one after the other. -/
def count (t : DelinquencyTracker) (ended : List (Outcome × Instant)) : DelinquencyTracker :=
  ended.foldl (fun t x => t.record x.1 x.2) t

/-- What the store has of a delivery after some turns of its runs. Each run that has ended is
counted once, and the outcome of the last one is what is stored. -/
structure Shows (s : Store) (d₀ : Delivery) (o : Overlap) (d : Delivery) : Prop where
  found : o.store.findDelivery d₀.id = some d
  route : d.route = d₀.route
  flights : ∀ f ∈ o.flights, f.route = d₀.route
  counted : o.store.delinquency d₀.webhook = count (s.delinquency d₀.webhook) o.ended
  latest : ∀ x, o.ended.getLast? = some x → d.verdict = x.1.verdict ∧ d.state.isFinished = true

variable {h : Handlers} {s : Store} {d₀ d : Delivery} {o : Overlap}

theorem count_append (t : DelinquencyTracker) (ended : List (Outcome × Instant))
    (outcome : Outcome) (now : Instant) :
    count t (ended ++ [(outcome, now)]) = (count t ended).record outcome now :=
  List.foldl_append

theorem Shows.start (hd : s.findDelivery d₀.id = some d₀) : Shows s d₀ (start s) d₀ where
  found := hd
  route := rfl
  flights := fun _ hf => (List.not_mem_nil hf).elim
  counted := rfl
  latest := fun _ hx => nomatch hx

/-- A run that begins changes nothing if the delivery is finished. -/
theorem opens_of_finished (hd : o.store.findDelivery d₀.id = some d)
    (hfinished : d.state.isFinished = true) (now : Instant) :
    o.turn h d₀.id (.opens now) = o := by
  rcases o.store.beginDelivery_cases d₀.id now with ⟨result, he⟩ | ⟨d', hf, hopen, -⟩
  · simp only [turn, he]
  · cases hd.symm.trans hf
    cases hfinished.symm.trans hopen

/-- A run that ends stores its outcome and counts it. -/
theorem Shows.closes (hs : Shows s d₀ o d) {run : Nat} {f : Delivery}
    (hf : o.flights[run]? = some f) (outcome : Outcome) (now : Instant) :
    Shows s d₀ (o.turn h d₀.id (.closes run outcome now)) (f.finish outcome now) := by
  have hmem : f ∈ o.flights := List.mem_of_getElem? hf
  have hroute : f.route = d.route := (hs.flights f hmem).trans hs.route.symm
  have hroute' : (f.finish outcome now).route = d.route := (f.route_finish outcome now).trans hroute
  have hd : d ∈ o.store.deliveries.rows := List.mem_of_find?_eq_some hs.found
  have hwebhook : f.webhook = d₀.webhook :=
    congrArg (fun r => r.2.1) (hs.flights f hmem)
  obtain ⟨webhooks, hend⟩ := Store.endDelivery_eq h hd hroute outcome now
  simp only [turn, hf]
  constructor
  · rw [hend]
    exact Store.findDelivery_put hs.found hroute'
  · exact hroute'.trans hs.route
  · intro g hg
    exact hs.flights g (List.mem_of_mem_eraseIdx hg)
  · have hkey : ((o.store.delinquency f.webhook).record outcome now).webhook = f.webhook := by
      rw [DelinquencyTracker.webhook_record, Store.webhook_delinquency]
    rw [Store.delinquency_of_put (s := o.store) (congrArg Store.trackers hend :), hkey,
      if_pos hwebhook, hwebhook, hs.counted, count_append]
  · intro x hx
    rw [List.getLast?_concat] at hx
    cases hx
    exact ⟨f.verdict_finish outcome now, f.isFinished_finish outcome now⟩

/-- A run that begins closes the delivery without a request, or is under way from then on. -/
theorem Shows.opens (hs : Shows s d₀ o d) (now : Instant) :
    ∃ d', Shows s d₀ (o.turn h d₀.id (.opens now)) d' := by
  rcases o.store.beginDelivery_cases d₀.id now with
    ⟨result, he⟩ | ⟨d', hf, hopen, he | ⟨request, he⟩⟩
  · simp only [turn, he]
    exact ⟨d, hs⟩
  all_goals
    cases hs.found.symm.trans hf
    have hlatest : ∀ x, o.ended.getLast? = some x → False := by
      intro x hx
      cases (hs.latest x hx).2.symm.trans hopen
    simp only [turn, he]
  · refine ⟨d.skip Handlers.inactiveText now, Store.findDelivery_put hs.found rfl, hs.route,
      hs.flights, hs.counted, fun x hx => (hlatest x hx).elim⟩
  · refine ⟨d.start now, Store.findDelivery_put hs.found rfl, hs.route, fun f hm => ?_,
      hs.counted, fun x hx => (hlatest x hx).elim⟩
    rcases List.mem_append.1 hm with hm | hm
    · exact hs.flights f hm
    · cases List.mem_singleton.1 hm
      exact hs.route

theorem Shows.turn (hs : Shows s d₀ o d) (t : Turn) :
    ∃ d', Shows s d₀ (o.turn h d₀.id t) d' := by
  cases t with
  | opens now => exact hs.opens now
  | closes run outcome now =>
      cases hf : o.flights[run]? with
      | none =>
          simp only [Overlap.turn, hf]
          exact ⟨d, hs⟩
      | some f => exact ⟨_, hs.closes hf outcome now⟩

theorem Shows.run (hs : Shows s d₀ o d) (turns : List Turn) :
    ∃ d', Shows s d₀ (o.run h d₀.id turns) d' := by
  induction turns generalizing o d with
  | nil => exact ⟨d, hs⟩
  | cons t turns ih =>
      obtain ⟨d', hs'⟩ := hs.turn (h := h) t
      exact ih hs'

/-- Once the delivery is finished, nothing changes but by the ends of runs under way, each of which
leaves one run less. -/
theorem Shows.run_of_finished (hs : Shows s d₀ o d) (hfinished : d.state.isFinished = true)
    (turns : List Turn) :
    ∃ late, (o.run h d₀.id turns).ended = o.ended ++ late ∧
      (o.run h d₀.id turns).flights.length + late.length = o.flights.length ∧
      (late = [] → o.run h d₀.id turns = o) := by
  induction turns generalizing o d with
  | nil => exact ⟨[], (List.append_nil _).symm, rfl, fun _ => rfl⟩
  | cons t turns ih =>
      change ∃ late, ((o.turn h d₀.id t).run h d₀.id turns).ended = _ ∧
        ((o.turn h d₀.id t).run h d₀.id turns).flights.length + _ = _ ∧
        (_ → (o.turn h d₀.id t).run h d₀.id turns = o)
      cases t with
      | opens now =>
          rw [opens_of_finished hs.found hfinished]
          exact ih hs hfinished
      | closes run outcome now =>
          cases hf : o.flights[run]? with
          | none =>
              have hsame : o.turn h d₀.id (.closes run outcome now) = o := by
                simp only [Overlap.turn, hf]
              rw [hsame]
              exact ih hs hfinished
          | some f =>
              -- The delivery is finished after an end as well, so the rest is as before.
              have hnext := hs.closes (h := h) hf outcome now
              obtain ⟨late, hended, hflights, -⟩ := ih hnext (f.isFinished_finish outcome now)
              have hless : (o.flights.eraseIdx run).length + 1 = o.flights.length := by
                have hlt : run < o.flights.length := (List.getElem?_eq_some_iff.1 hf).choose
                rw [List.length_eraseIdx_of_lt hlt]
                omega
              simp only [Overlap.turn, hf] at hended hflights ⊢
              refine ⟨(outcome, now) :: late, ?_, ?_, fun hnone => nomatch hnone⟩
              · rw [hended, List.append_assoc]
                rfl
              · rw [List.length_cons]
                omega

/-- A run under way can always end, and is counted then. -/
theorem exists_run_ne (h : Handlers) (id : Ident) (hf : o.flights ≠ []) :
    ∃ turns, o.run h id turns ≠ o := by
  obtain ⟨f, flights, hcons⟩ := List.exists_cons_of_ne_nil hf
  have hfirst : o.flights[0]? = some f := by rw [hcons]; rfl
  refine ⟨[.closes 0 (.responded 200) ⟨0, 0⟩], fun hsame => ?_⟩
  have hended := congrArg (fun o => o.ended.length) hsame
  simp only [run, List.foldl_cons, List.foldl_nil, Overlap.turn, hfirst, List.length_append,
    List.length_singleton] at hended
  omega

end Overlap

namespace Handlers

open Overlap (start Shows)

/-- A run that nobody comes in between takes its turns one right after the other. -/
theorem deliver_eq_run (h : Handlers) (sys : System) (id : Ident) (now : Instant) :
    ∃ turns : List Turn,
      (turns = [.opens now] ∨ ∃ outcome, turns = [.opens now, .closes 0 outcome now]) ∧
      (h.deliver sys id now).2.store = ((start sys.store).run h id turns).store := by
  cases hb : beginDelivery sys.store id now with
  | mk begun s =>
      rcases begun with result | ⟨d, request⟩
      · refine ⟨[.opens now], .inl rfl, ?_⟩
        simp only [deliver, hb, Overlap.run, List.foldl_cons, List.foldl_nil, Overlap.turn, start]
      · cases hsend : sys.transport.send request with
        | none =>
            refine ⟨[.opens now], .inl rfl, ?_⟩
            simp only [deliver, hb, hsend, Overlap.run, List.foldl_cons, List.foldl_nil,
              Overlap.turn, start]
        | some answer =>
            refine ⟨[.opens now, .closes 0 answer.1 now], .inr ⟨answer.1, rfl⟩, ?_⟩
            simp only [deliver, hb, hsend, Overlap.run, List.foldl_cons, List.foldl_nil,
              Overlap.turn, start, List.nil_append, List.getElem?_cons_zero]

/-- Runs of one delivery, in any number, with any outcomes and with their halves in any order: the
failures of the webhook are counted once for each run that has ended, and the outcome of the run
that ended last is what is stored. A finished delivery stays finished, and runs that begin then
change nothing; but each of the runs still under way can end, and replaces what is stored. So the
delivery is final if and only if no run is under way. -/
theorem overlapping_runs (h : Handlers) {s : Store} {d₀ : Delivery}
    (hd : s.findDelivery d₀.id = some d₀) (before after : List Turn) :
    let o := (start s).run h d₀.id before
    let o' := o.run h d₀.id after
    ∃ d d', Shows s d₀ o d ∧ Shows s d₀ o' d' ∧ (d.state.isFinished = true →
      d'.state.isFinished = true ∧
      (∃ late, o'.ended = o.ended ++ late ∧
        o'.flights.length + late.length = o.flights.length ∧ (late = [] → o' = o ∧ d' = d) ∧
        ∀ x, late.getLast? = some x → d'.verdict = x.1.verdict) ∧
      ((∀ turns, o.run h d₀.id turns = o) ↔ o.flights = [])) := by
  intro o o'
  obtain ⟨d, hs⟩ := (Shows.start hd).run (h := h) before
  obtain ⟨d', hs'⟩ := hs.run (h := h) after
  refine ⟨d, d', hs, hs', fun hfinished => ?_⟩
  obtain ⟨late, hended, hflights, hnone⟩ := hs.run_of_finished (h := h) hfinished after
  have hsame : late = [] → o' = o ∧ d' = d := by
    intro hl
    have heq : o' = o := hnone hl
    refine ⟨heq, Option.some.inj (hs'.found.symm.trans (Eq.trans ?_ hs.found))⟩
    exact congrArg (fun o : Overlap => o.store.findDelivery d₀.id) heq
  have hlate : ∀ x, late.getLast? = some x → d'.verdict = x.1.verdict ∧
      d'.state.isFinished = true := by
    intro x hx
    apply hs'.latest x
    rw [hended, List.getLast?_append, hx]
    rfl
  refine ⟨?_, ⟨late, hended, hflights, hsame, fun x hx => (hlate x hx).1⟩, ?_⟩
  · cases hl : late.getLast? with
    | none =>
        rw [(hsame (List.getLast?_eq_none_iff.1 hl)).2]
        exact hfinished
    | some x => exact (hlate x hl).2
  · constructor
    · intro hfinal
      by_contra hf
      obtain ⟨turns, hne⟩ := Overlap.exists_run_ne h d₀.id hf
      exact hne (hfinal turns)
    · intro hf turns
      obtain ⟨later, -, hlength, hno⟩ := hs.run_of_finished (h := h) hfinished turns
      have hzero : (o.run h d₀.id turns).flights.length + later.length = 0 := by
        rw [hlength]
        exact congrArg List.length hf
      exact hno (List.eq_nil_of_length_eq_zero (Nat.eq_zero_of_add_eq_zero hzero).2)

/-- Two runs of a delivery are under way at once. The first is answered with success, the second
with failure: the delivery that had succeeded has failed, and is counted twice. -/
theorem overlapping_runs_of_two :
    let now : Instant := ⟨0, 0⟩
    let webhook : Webhook := ⟨⟨3⟩, ⟨9⟩, ⟨2⟩, "hook", "https://example.com", true,
      .ofList ["card_published"], now⟩
    let e : Event := ⟨⟨11⟩, ⟨9⟩, ⟨2⟩, ⟨1⟩, .card ⟨10⟩, Action.cardPublished, [], now⟩
    let d₀ := Delivery.create ⟨14⟩ ⟨3⟩ ⟨11⟩ now
    let s : Store := { (Store.empty 20).saveWebhook webhook with
      events := .ofList [e]
      deliveries := .ofList [d₀] }
    let h := Handlers.ofConfig .standard
    let o := (start s).run h d₀.id [.opens now, .opens now, .closes 0 (.responded 200) now]
    let o' := o.run h d₀.id [.closes 0 (.responded 500) now]
    s.findDelivery d₀.id = some d₀ ∧
      (∃ d, o.store.findDelivery d₀.id = some d ∧ d.verdict = (.succeeded, some 200, none)) ∧
      (∃ d, o'.store.findDelivery d₀.id = some d ∧ d.verdict = (.failed, some 500, none)) ∧
      o.ended = [(.responded 200, now)] ∧
      o'.ended = [(.responded 200, now), (.responded 500, now)] ∧
      o'.store.delinquency ⟨3⟩ = ⟨⟨3⟩, 1, some now⟩ := by
  intro now webhook e d₀ s h o o'
  have hd : s.findDelivery d₀.id = some d₀ := by decide +kernel
  have hended : o.ended = [(.responded 200, now)] := by decide +kernel
  have hended' : o'.ended = [(.responded 200, now), (.responded 500, now)] := by decide +kernel
  obtain ⟨d, d', hfirst, hsecond, -⟩ := overlapping_runs h hd
    [.opens now, .opens now, .closes 0 (.responded 200) now] [.closes 0 (.responded 500) now]
  have hs : Shows s d₀ o d := hfirst
  have hs' : Shows s d₀ o' d' := hsecond
  have hverdict : d.verdict = (.succeeded, some 200, none) :=
    (hs.latest (.responded 200, now) (by rw [hended]; rfl)).1
  have hverdict' : d'.verdict = (.failed, some 500, none) :=
    (hs'.latest (.responded 500, now) (by rw [hended']; rfl)).1
  have hcounted := hs'.counted
  rw [hended'] at hcounted
  exact ⟨hd, ⟨d, hs.found, hverdict⟩, ⟨d', hs'.found, hverdict'⟩, hended, hended', hcounted⟩

end Handlers

end BoardActivity
