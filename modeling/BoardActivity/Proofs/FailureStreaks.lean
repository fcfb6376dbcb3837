import BoardActivity.Proofs.CallFrames
import BoardActivity.Proofs.InstantOrder
import Mathlib.Data.List.DropRight

/-!
# Failures in a row

A webhook is given up after enough failures in a row, over a long enough time. Many requests can be
under way at once, and what comes of them is stored, counted and ruled on in any order, between
calls of all other kinds: `Traffic` takes each of these steps by itself. The second half of sending
is three of them, one right after the other (`Traffic.endDelivery_eq_run`).

However the steps fall, the count of a webhook is the number of its own failures since its last
success, with the time of the first of them; and whoever counts an outcome rules by the count that
includes it, and by no other (`Traffic.ruled_by_streaks`). Counts are 32-bit words, so fewer than
`2 ^ 32` outcomes are supposed; clocks may jump.
-/

namespace BoardActivity

structure CountedOutcome where
  webhook : Ident
  outcome : Outcome
  time : Instant
deriving Repr, DecidableEq

/-- The failures of a webhook since its last success, the earliest first. -/
def failureStreak (webhook : Ident) (log : List CountedOutcome) : List CountedOutcome :=
  (log.filter fun x => x.webhook == webhook).rtakeWhile fun x => !x.outcome.isSuccess

/-- A streak is long enough, in number and in time, to give up the webhook. -/
def DelinquencyPolicy.Reached (policy : DelinquencyPolicy) (streak : List CountedOutcome)
    (now : Instant) : Prop :=
  policy.threshold ≤ streak.length ∧
    ∃ x, streak.head? = some x ∧ policy.window.nanoseconds ≤ now.since x.time

/-- The tracker that counts a log, as far as a 32-bit word can. -/
def DelinquencyTracker.tally (webhook : Ident) (log : List CountedOutcome) : DelinquencyTracker :=
  ⟨webhook, (failureStreak webhook log).length % pow2 32,
    (failureStreak webhook log).head?.map CountedOutcome.time⟩

section Streaks

variable {webhook : Ident} {log : List CountedOutcome} {x : CountedOutcome}

theorem failureStreak_of_other (h : x.webhook ≠ webhook) :
    failureStreak webhook (log ++ [x]) = failureStreak webhook log := by
  have hother : (x.webhook == webhook) = false := beq_eq_false_iff_ne.2 h
  simp only [failureStreak, List.filter_append, List.filter_singleton, hother, cond_false,
    List.append_nil]

theorem failureStreak_of_success (h : x.webhook = webhook) (hs : x.outcome.isSuccess = true) :
    failureStreak webhook (log ++ [x]) = [] := by
  have hown : (x.webhook == webhook) = true := beq_iff_eq.2 h
  simp only [failureStreak, List.filter_append, List.filter_singleton, hown, cond_true,
    List.rtakeWhile_concat, hs, Bool.not_true, Bool.false_eq_true, if_false]

theorem failureStreak_of_failure (h : x.webhook = webhook) (hs : x.outcome.isSuccess = false) :
    failureStreak webhook (log ++ [x]) = failureStreak webhook log ++ [x] := by
  have hown : (x.webhook == webhook) = true := beq_iff_eq.2 h
  simp only [failureStreak, List.filter_append, List.filter_singleton, hown, cond_true,
    List.rtakeWhile_concat, hs, Bool.not_false, if_true]

theorem length_failureStreak_le (webhook : Ident) (log : List CountedOutcome) :
    (failureStreak webhook log).length ≤ log.length :=
  (List.rtakeWhile_suffix _ _).length_le.trans (List.length_filter_le _ _)

namespace DelinquencyTracker

theorem isDelinquent_iff {t : DelinquencyTracker} {policy : DelinquencyPolicy} {now : Instant} :
    t.isDelinquent policy now = true ↔ ∃ first, t.firstFailureAt = some first ∧
      policy.threshold ≤ t.failures ∧ policy.window.toOffset ≤ now.since first := by
  unfold isDelinquent
  cases t.firstFailureAt with
  | none => simp
  | some first => simp

theorem tally_of_other (h : x.webhook ≠ webhook) :
    tally webhook (log ++ [x]) = tally webhook log := by
  rw [tally, failureStreak_of_other h]
  rfl

/-- Counting an outcome is what `record` does. -/
theorem tally_concat (h : x.webhook = webhook) :
    tally webhook (log ++ [x]) = (tally webhook log).record x.outcome x.time := by
  cases hs : x.outcome.isSuccess with
  | true => simp only [tally, record, failureStreak_of_success h hs, hs, if_true]; rfl
  | false =>
      simp only [tally, record, failureStreak_of_failure h hs, hs, List.length_append,
        List.length_singleton, Nat.mod_add_mod, Bool.false_eq_true, if_false]
      cases failureStreak webhook log with
      | nil => rfl
      | cons y ys => rfl

/-- As long as the count is no longer than a word, it is the streak that makes a webhook
delinquent. -/
theorem isDelinquent_tally {policy : DelinquencyPolicy}
    (hw : policy.window.nanoseconds ≤ Span.offsetLimit) (hlog : log.length < pow2 32)
    (now : Instant) :
    (tally webhook log).isDelinquent policy now = true ↔
      policy.Reached (failureStreak webhook log) now := by
  have hlt := (length_failureStreak_le webhook log).trans_lt hlog
  rw [isDelinquent_iff, Span.toOffset_of_le hw]
  simp only [tally, DelinquencyPolicy.Reached, Nat.mod_eq_of_lt hlt]
  cases failureStreak webhook log with
  | nil => simp
  | cons y ys => simp

end DelinquencyTracker

end Streaks

namespace Store

/-- A webhook is deactivated, if it is there, and no other changes. -/
def Deactivates (s s' : Store) (webhook : Ident) : Prop :=
  ∀ id, s'.webhooks.find? id =
    (s.webhooks.find? id).map fun w => if id = webhook then { w with active := false } else w

variable {s : Store}

theorem deactivates_carryOut (s : Store) (webhook : Ident) :
    s.Deactivates (s.carryOut ⟨webhook, true⟩) webhook := by
  intro id
  simp only [carryOut, if_true, deactivateWebhook]
  cases hf : s.webhooks.find? webhook with
  | none =>
      by_cases hid : id = webhook
      · simp [hid, hf]
      · simp [hid]
  | some w =>
      have hkey : w.id = webhook := (Table.find?_eq_some_iff.1 hf).2
      have hput : (s.saveWebhook { w with active := false }).webhooks.find? id =
          if w.id = id then some { w with active := false } else s.webhooks.find? id :=
        Table.find?_put s.webhooks { w with active := false } id
      refine hput.trans ?_
      by_cases hid : id = webhook
      · rw [if_pos (hkey.trans hid.symm), hid, hf]
        simp
      · rw [if_neg fun he => hid (he.symm.trans hkey)]
        simp [hid]

theorem updateDelivery_eq (s : Store) (d : Delivery) :
    ∃ deliveries, (s.updateDelivery d).2 = { s with deliveries := deliveries } := by
  unfold updateDelivery
  split_ifs
  · exact ⟨_, rfl⟩
  · exact ⟨s.deliveries, rfl⟩

/-- A ruling is about webhooks only. -/
theorem webhooks_carryOut {s' : Store} (h : s'.webhooks = s.webhooks) (r : Ruling) :
    (s'.carryOut r).webhooks = (s.carryOut r).webhooks := by
  unfold carryOut
  split_ifs
  · unfold deactivateWebhook
    rw [h]
    cases s.webhooks.find? r.webhook with
    | none => exact h
    | some w => exact congrArg (fun t : Table Webhook => t.put { w with active := false }) h
  · exact h

/-- What is counted of every webhook is what a log has of it. -/
def Counts (s : Store) (log : List CountedOutcome) : Prop :=
  ∀ webhook, s.delinquency webhook = .tally webhook log

theorem Counts.frame {s' : Store} {log : List CountedOutcome} (h : s.Counts log)
    (htrackers : s'.trackers = s.trackers) : s'.Counts log := by
  intro webhook
  rw [delinquency, htrackers]
  exact h webhook

theorem Counts.concat {s' : Store} {log : List CountedOutcome} (h : s.Counts log)
    {x : CountedOutcome}
    (htrackers : s'.trackers =
      s.trackers.put ((s.delinquency x.webhook).record x.outcome x.time)) :
    s'.Counts (log ++ [x]) := by
  intro webhook
  have hkey : ((s.delinquency x.webhook).record x.outcome x.time).webhook = x.webhook := by
    rw [DelinquencyTracker.webhook_record, webhook_delinquency]
  rw [delinquency_of_put htrackers, hkey]
  split_ifs with hx
  · subst hx
    rw [h, DelinquencyTracker.tally_concat rfl]
  · rw [h, DelinquencyTracker.tally_of_other hx]

end Store

namespace System

variable {sys : System}

/-- The outcome that a run which sends a delivery counts, if its request is answered. -/
def answered (sys : System) (delivery : Ident) (now : Instant) : List CountedOutcome :=
  match Handlers.beginDelivery sys.store delivery now with
  | (.over _, _) => []
  | (.sending d request, _) =>
    match sys.transport.send request with
    | none => []
    | some (outcome, _) => [⟨d.webhook, outcome, now⟩]

/-- A run that sends a delivery leaves webhooks and counts alone, or counts an outcome and rules
on it. -/
theorem deliver_answered (h : Handlers) (sys : System) (delivery : Ident) (now : Instant) :
    (sys.answered delivery now = [] ∧
      (h.deliver sys delivery now).2.store.endpoints = sys.store.endpoints) ∨
    ∃ x, sys.answered delivery now = [x] ∧ x.time = now ∧
      (h.deliver sys delivery now).2.store.trackers =
        sys.store.trackers.put ((sys.store.delinquency x.webhook).record x.outcome now) ∧
      (h.deliver sys delivery now).2.store.webhooks = (sys.store.carryOut ⟨x.webhook,
        ((sys.store.delinquency x.webhook).record x.outcome now).isDelinquent h.delinquency
          now⟩).webhooks := by
  rcases sys.store.beginDelivery_cases delivery now with
    ⟨result, he⟩ | ⟨d, hf, -, he | ⟨request, he⟩⟩
  · left
    simp only [answered, Handlers.deliver, he, and_self]
  · left
    simp only [answered, Handlers.deliver, he, true_and]
    rfl
  · cases hsend : sys.transport.send request with
    | none =>
        left
        simp only [answered, Handlers.deliver, he, hsend, true_and]
        rfl
    | some answer =>
        right
        have hrow : (sys.store.deliveries.put (d.start now)).contains
            ((d.start now).webhook, (d.start now).event) = true :=
          Table.contains_iff.2 ⟨d.start now, Table.find?_put_self _ _⟩
        have hend := Store.endDelivery_of_present (s := { sys.store with
          deliveries := sys.store.deliveries.put (d.start now) }) h hrow answer.1 now
        refine ⟨⟨d.webhook, answer.1, now⟩, ?_, rfl, ?_, ?_⟩
        · simp only [answered, he, hsend]
          rfl
        · simp only [Handlers.deliver, he, hsend]
          rw [hend]
          obtain ⟨webhooks, hcarry⟩ := Store.carryOut_eq _ _
          rw [hcarry]
          rfl
        · simp only [Handlers.deliver, he, hsend]
          rw [hend]
          apply Store.webhooks_carryOut
          rfl

def counted (sys : System) (now : Instant) (c : SystemCall) : List CountedOutcome :=
  match c.delivers? with
  | none => []
  | some delivery => sys.answered delivery now

theorem call_counted (sys : System) (g : Setup) (now : Instant) (c : SystemCall) :
    (sys.counted now c = [] ∧ (sys.call g now c).store.trackers = sys.store.trackers ∧
      (c.changesWebhook = false → (sys.call g now c).store.webhooks = sys.store.webhooks)) ∨
    ∃ x, sys.counted now c = [x] ∧ x.time = now ∧
      (sys.call g now c).store.trackers =
        sys.store.trackers.put ((sys.store.delinquency x.webhook).record x.outcome now) ∧
      (sys.call g now c).store.webhooks = (sys.store.carryOut ⟨x.webhook,
        ((sys.store.delinquency x.webhook).record x.outcome now).isDelinquent
          g.handlers.delinquency now⟩).webhooks := by
  unfold counted
  cases hc : c.delivers? with
  | none => exact .inl ⟨rfl, (sys.call_of_silent g now hc).2⟩
  | some delivery =>
      obtain ⟨outbox, heq⟩ := sys.call_of_sending g now hc
      rw [heq]
      rcases deliver_answered g.handlers sys delivery now with ⟨hnone, hsame⟩ | hone
      · obtain ⟨hwebhooks, htrackers⟩ := Prod.mk.inj hsame
        exact .inl ⟨hnone, htrackers, fun _ => hwebhooks⟩
      · exact .inr hone

end System

/-- The steps of handlers at work, and calls of all other kinds in between. -/
inductive TrafficStep where
  /-- A request for a delivery is made, if there is anything to send. -/
  | sends (delivery : Ident)
  /-- A request is answered, and the outcome is stored with the delivery if it is still there. -/
  | answers (request : Nat) (outcome : Outcome)
  /-- An outcome that was stored is counted, and the count is judged. -/
  | counts (answer : Nat)
  /-- A ruling is carried out. -/
  | rules (ruling : Nat)
  | calls (call : SystemCall)

/-- The program with handlers at work: the requests that are under way, the outcomes stored and not
yet counted, the rulings not yet carried out, and all outcomes counted so far. -/
structure Traffic where
  system : System
  requests : List Delivery
  answers : List (Delivery × Outcome)
  rulings : List Ruling
  log : List CountedOutcome

namespace Traffic

def start (sys : System) : Traffic := ⟨sys, [], [], [], []⟩

def withStore (t : Traffic) (s : Store) : Traffic :=
  { t with system := { t.system with store := s } }

def step (g : Setup) (t : Traffic) (now : Instant) : TrafficStep → Traffic
  | .sends delivery =>
    match Handlers.beginDelivery t.system.store delivery now with
    | (.over _, s) => t.withStore s
    | (.sending d _, s) => { t.withStore s with requests := t.requests ++ [d] }
  | .answers request outcome =>
    match t.requests[request]? with
    | none => t
    | some d =>
      match t.system.store.updateDelivery (d.finish outcome now) with
      | (.error _, s) => { t.withStore s with requests := t.requests.eraseIdx request }
      | (.ok (), s) =>
        { t.withStore s with
          requests := t.requests.eraseIdx request
          answers := t.answers ++ [(d, outcome)] }
  | .counts answer =>
    match t.answers[answer]? with
    | none => t
    | some (d, outcome) =>
      let (tracker, s) := t.system.store.recordOutcome d.webhook outcome now
      { t.withStore s with
        answers := t.answers.eraseIdx answer
        rulings := t.rulings ++ [⟨d.webhook, tracker.isDelinquent g.handlers.delinquency now⟩]
        log := t.log ++ [⟨d.webhook, outcome, now⟩] }
  | .rules ruling =>
    match t.rulings[ruling]? with
    | none => t
    | some r =>
      { t.withStore (t.system.store.carryOut r) with rulings := t.rulings.eraseIdx ruling }
  | .calls c =>
    { t with system := t.system.call g now c, log := t.log ++ t.system.counted now c }

def run (g : Setup) (t : Traffic) (steps : List (Instant × TrafficStep)) : Traffic :=
  steps.foldl (fun t a => t.step g a.1 a.2) t

theorem run_concat (g : Setup) (t : Traffic) (steps : List (Instant × TrafficStep))
    (a : Instant × TrafficStep) : t.run g (steps ++ [a]) = (t.run g steps).step g a.1 a.2 :=
  List.foldl_append

/-- The second half of sending is an answer, a count and a ruling, one right after the other. -/
theorem endDelivery_eq_run (g : Setup) (sys : System) (d : Delivery) (outcome : Outcome)
    (now : Instant) :
    (run g ⟨sys, [d], [], [], []⟩
        [(now, .answers 0 outcome), (now, .counts 0), (now, .rules 0)]).system.store =
      (g.handlers.endDelivery sys.store d outcome now).2 := by
  obtain ⟨-, hkey⟩ := Prod.mk.inj (d.route_finish outcome now)
  cases hd : sys.store.deliveries.contains (d.webhook, d.event) with
  | true =>
      have hu : sys.store.updateDelivery (d.finish outcome now) = (.ok (), { sys.store with
          deliveries := sys.store.deliveries.put (d.finish outcome now) }) :=
        if_pos (hkey ▸ hd)
      rw [Store.endDelivery_of_present g.handlers hd]
      simp only [run, List.foldl_cons, List.foldl_nil, step, List.getElem?_cons_zero, hu]
      rfl
  | false =>
      have hu : sys.store.updateDelivery (d.finish outcome now) =
          (.error (.notFound "delivery" (d.finish outcome now).id), sys.store) := by
        refine if_neg ?_
        rw [hkey, hd]
        exact Bool.false_ne_true
      simp only [run, List.foldl_cons, List.foldl_nil, step, List.getElem?_cons_zero, hu,
        Handlers.endDelivery]
      rfl

/-- Whoever counts an outcome rules by the streak that includes it; a ruling is carried out as it
stands; and a call that counts an outcome does both at once. -/
def Follows (policy : DelinquencyPolicy) (t t' : Traffic) (now : Instant) : TrafficStep → Prop
  | .sends _ | .answers .. =>
    t'.log = t.log ∧ t'.rulings = t.rulings ∧
      t'.system.store.webhooks = t.system.store.webhooks
  | .counts _ =>
    t' = t ∨ ∃ x delinquent, x.time = now ∧ t'.log = t.log ++ [x] ∧
      t'.rulings = t.rulings ++ [⟨x.webhook, delinquent⟩] ∧
      (delinquent = true ↔ policy.Reached (failureStreak x.webhook t'.log) now) ∧
      t'.system.store.webhooks = t.system.store.webhooks
  | .rules ruling =>
    t'.log = t.log ∧ t'.rulings = t.rulings.eraseIdx ruling ∧
      (t.rulings[ruling]? = none → t' = t) ∧
      ∀ r, t.rulings[ruling]? = some r →
        (r.delinquent = true → t.system.store.Deactivates t'.system.store r.webhook) ∧
        (r.delinquent = false → t'.system.store.webhooks = t.system.store.webhooks)
  | .calls c =>
    t'.rulings = t.rulings ∧
      (t'.log = t.log ∧
        (c.changesWebhook = false → t'.system.store.webhooks = t.system.store.webhooks) ∨
      ∃ x, x.time = now ∧ t'.log = t.log ++ [x] ∧
        (policy.Reached (failureStreak x.webhook t'.log) now →
          t.system.store.Deactivates t'.system.store x.webhook) ∧
        (¬policy.Reached (failureStreak x.webhook t'.log) now →
          t'.system.store.webhooks = t.system.store.webhooks))

/-- Each ruling that is still to be carried out was made on an outcome of the log, by the streak up
to and including it. -/
def Deserved (policy : DelinquencyPolicy) (t : Traffic) : Prop :=
  ∀ r ∈ t.rulings, ∃ earlier x later, t.log = earlier ++ x :: later ∧ x.webhook = r.webhook ∧
    (r.delinquent = true ↔
      policy.Reached (failureStreak x.webhook (earlier ++ [x])) x.time)

variable {g : Setup} {t : Traffic}

theorem log_step (g : Setup) (t : Traffic) (now : Instant) (a : TrafficStep) :
    ∃ counted, (t.step g now a).log = t.log ++ counted := by
  cases a with
  | sends delivery =>
      simp only [step]
      split
      all_goals exact ⟨[], (List.append_nil _).symm⟩
  | answers request outcome =>
      simp only [step]
      split
      · exact ⟨[], (List.append_nil _).symm⟩
      · split
        all_goals exact ⟨[], (List.append_nil _).symm⟩
  | counts answer =>
      simp only [step]
      split
      · exact ⟨[], (List.append_nil _).symm⟩
      · exact ⟨_, rfl⟩
  | rules ruling =>
      simp only [step]
      split
      all_goals exact ⟨[], (List.append_nil _).symm⟩
  | calls c => exact ⟨_, rfl⟩

/-- Every step keeps the counts of the store and the log together. -/
theorem counts_step (h : t.system.store.Counts t.log) (g : Setup) (now : Instant)
    (a : TrafficStep) : (t.step g now a).system.store.Counts (t.step g now a).log := by
  cases a with
  | sends delivery =>
      rcases t.system.store.beginDelivery_cases delivery now with
        ⟨result, he⟩ | ⟨d, -, -, he | ⟨request, he⟩⟩
      all_goals
        simp only [step, he]
        exact h.frame rfl
  | answers request outcome =>
      simp only [step]
      split
      · exact h
      · next d _ =>
          obtain ⟨deliveries, heq⟩ := t.system.store.updateDelivery_eq (d.finish outcome now)
          split
          all_goals
            next hu =>
              rw [hu] at heq
              exact h.frame (congrArg Store.trackers heq :)
  | counts answer =>
      simp only [step]
      split
      · exact h
      · next d outcome _ => exact h.concat (x := ⟨d.webhook, outcome, now⟩) rfl
  | rules ruling =>
      simp only [step]
      split
      · exact h
      · next r _ =>
          obtain ⟨webhooks, hcarry⟩ := t.system.store.carryOut_eq r
          exact h.frame (congrArg Store.trackers hcarry :)
  | calls c =>
      rcases t.system.call_counted g now c with ⟨hnone, htrackers, -⟩ | ⟨x, hone, rfl, htrackers, -⟩
      · simp only [step, hnone, List.append_nil]
        exact h.frame htrackers
      · simp only [step, hone]
        exact h.concat htrackers

/-- The count that includes an outcome judges by the streak that does. -/
theorem judged {policy : DelinquencyPolicy} (h : t.system.store.Counts t.log)
    (hw : policy.window.nanoseconds ≤ Span.offsetLimit) {x : CountedOutcome}
    (hlog : (t.log ++ [x]).length < pow2 32) (now : Instant) :
    ((t.system.store.delinquency x.webhook).record x.outcome x.time).isDelinquent policy now =
        true ↔ policy.Reached (failureStreak x.webhook (t.log ++ [x])) now := by
  rw [h, ← DelinquencyTracker.tally_concat rfl]
  exact DelinquencyTracker.isDelinquent_tally hw hlog now

theorem follows_rules (g : Setup) (t : Traffic) (now : Instant) (ruling : Nat) :
    Follows g.handlers.delinquency t (t.step g now (.rules ruling)) now (.rules ruling) := by
  simp only [Follows, step]
  split
  · next hnone =>
      have hout : t.rulings.length ≤ ruling := List.getElem?_eq_none_iff.1 hnone
      refine ⟨rfl, (List.eraseIdx_of_length_le hout).symm, fun _ => rfl, fun r hr => ?_⟩
      cases hnone.symm.trans hr
  · next r hr =>
      refine ⟨rfl, rfl, fun hnone => ?_, fun r' hr' => ?_⟩
      · cases hr.symm.trans hnone
      · cases hr.symm.trans hr'
        obtain ⟨webhook, delinquent⟩ := r
        refine ⟨?_, ?_⟩
        · rintro rfl
          exact t.system.store.deactivates_carryOut webhook
        · rintro rfl
          rfl

theorem follows_calls (h : t.system.store.Counts t.log)
    (hw : g.handlers.delinquency.window.nanoseconds ≤ Span.offsetLimit) {now : Instant}
    {c : SystemCall} (hlog : (t.step g now (.calls c)).log.length < pow2 32) :
    Follows g.handlers.delinquency t (t.step g now (.calls c)) now (.calls c) := by
  simp only [Follows, step, true_and] at hlog ⊢
  rcases t.system.call_counted g now c with
    ⟨hnone, -, hwebhooks⟩ | ⟨x, hone, rfl, -, hwebhooks⟩
  · rw [hnone, List.append_nil]
    exact .inl ⟨rfl, hwebhooks⟩
  · rw [hone] at hlog ⊢
    have hjudged := judged h hw hlog x.time
    refine .inr ⟨x, rfl, rfl, fun hreached => ?_, fun hnot => ?_⟩
    · rw [hjudged.2 hreached] at hwebhooks
      intro id
      rw [hwebhooks]
      exact t.system.store.deactivates_carryOut x.webhook id
    · rw [Bool.eq_false_iff.2 fun hd => hnot (hjudged.1 hd)] at hwebhooks
      exact hwebhooks

theorem follows_step (h : t.system.store.Counts t.log)
    (hw : g.handlers.delinquency.window.nanoseconds ≤ Span.offsetLimit) {now : Instant}
    {a : TrafficStep} (hlog : (t.step g now a).log.length < pow2 32) :
    Follows g.handlers.delinquency t (t.step g now a) now a := by
  cases a with
  | sends delivery =>
      rcases t.system.store.beginDelivery_cases delivery now with
        ⟨result, he⟩ | ⟨d, -, -, he | ⟨request, he⟩⟩
      all_goals
        simp only [Follows, step, he]
        exact ⟨rfl, rfl, rfl⟩
  | answers request outcome =>
      simp only [Follows, step]
      split
      · exact ⟨rfl, rfl, rfl⟩
      · next d _ =>
          obtain ⟨deliveries, heq⟩ := t.system.store.updateDelivery_eq (d.finish outcome now)
          split
          all_goals
            next hu =>
              rw [hu] at heq
              exact ⟨rfl, rfl, (congrArg Store.webhooks heq :)⟩
  | counts answer =>
      simp only [Follows, step] at hlog ⊢
      split
      · exact .inl rfl
      · next d outcome ha =>
          simp only [ha] at hlog
          let x : CountedOutcome := ⟨d.webhook, outcome, now⟩
          have hjudged := judged (x := x) h hw hlog now
          exact .inr ⟨x, _, rfl, rfl, rfl, hjudged, rfl⟩
  | rules ruling => exact follows_rules g t now ruling
  | calls c => exact follows_calls h hw hlog

theorem deserved_step {policy : DelinquencyPolicy} (h : Deserved policy t) {t' : Traffic}
    {now : Instant} {a : TrafficStep} (hlog : ∃ counted, t'.log = t.log ++ counted)
    (hf : Follows policy t t' now a) : Deserved policy t' := by
  obtain ⟨counted, hlog⟩ := hlog
  -- A ruling that was there before was made on the log as it was then.
  have hold : ∀ r ∈ t.rulings, ∃ earlier x later, t'.log = earlier ++ x :: later ∧
      x.webhook = r.webhook ∧ (r.delinquent = true ↔
        policy.Reached (failureStreak x.webhook (earlier ++ [x])) x.time) := by
    intro r hr
    obtain ⟨earlier, x, later, hsplit, hx⟩ := h r hr
    exact ⟨earlier, x, later ++ counted, by simp [hlog, hsplit], hx⟩
  intro r hr
  cases a with
  | sends | answers => exact hold r (hf.2.1 ▸ hr)
  | counts answer =>
      rcases hf with rfl | ⟨x, delinquent, rfl, hone, hrulings, hreached, -⟩
      · exact h r hr
      · rcases List.mem_append.1 (hrulings ▸ hr) with hr | hr
        · exact hold r hr
        · cases List.mem_singleton.1 hr
          rw [hone] at hreached
          exact ⟨t.log, x, [], hone, rfl, hreached⟩
  | rules ruling => exact hold r (List.mem_of_mem_eraseIdx (hf.2.1 ▸ hr))
  | calls c => exact hold r (hf.1 ▸ hr)

structure RuledByStreaks (g : Setup) (t : Traffic) : Prop where
  failures : ∀ webhook, (t.system.store.delinquency webhook).failures =
    (failureStreak webhook t.log).length
  first : ∀ webhook, (t.system.store.delinquency webhook).firstFailureAt =
    (failureStreak webhook t.log).head?.map CountedOutcome.time
  none_iff : ∀ webhook, (t.system.store.delinquency webhook).firstFailureAt = none ↔
    (t.system.store.delinquency webhook).failures = 0
  deserved : Deserved g.handlers.delinquency t
  follows : ∀ now a, (t.step g now a).log.length < pow2 32 →
    Follows g.handlers.delinquency t (t.step g now a) now a
  /-- No streak is long enough right after a success. -/
  spared : ∀ x, x.outcome.isSuccess = true → ∀ now,
    ¬g.handlers.delinquency.Reached (failureStreak x.webhook (t.log ++ [x])) now

/-- Requests under way at once, their outcomes counted in any order, between calls of all kinds and
with clocks that jump, from fresh trackers on: the count of each webhook is the number of its own
failures since its last success, with the time of the first of them; and a webhook is deactivated
for an outcome exactly if the streak that ends with it has then reached the policy's threshold and
window. -/
theorem ruled_by_streaks {sys : System}
    (h : ∀ webhook, sys.store.delinquency webhook = .fresh webhook) {g : Setup}
    (hw : g.handlers.delinquency.window.nanoseconds ≤ Span.offsetLimit)
    (steps : List (Instant × TrafficStep))
    (hlog : ((start sys).run g steps).log.length < pow2 32) :
    ((start sys).run g steps).RuledByStreaks g := by
  have hinv : ((start sys).run g steps).system.store.Counts ((start sys).run g steps).log ∧
      Deserved g.handlers.delinquency ((start sys).run g steps) := by
    induction steps using List.reverseRecOn with
    | nil => exact ⟨h, fun r hr => (List.not_mem_nil hr).elim⟩
    | append_singleton steps a ih =>
        rw [run_concat] at hlog ⊢
        obtain ⟨counted, hmore⟩ := log_step g ((start sys).run g steps) a.1 a.2
        have hbefore : ((start sys).run g steps).log.length < pow2 32 := by
          have hlength := congrArg List.length hmore
          rw [List.length_append] at hlength
          omega
        obtain ⟨hcounts, hdeserved⟩ := ih hbefore
        exact ⟨counts_step hcounts g a.1 a.2,
          deserved_step hdeserved ⟨counted, hmore⟩ (follows_step hcounts hw hlog)⟩
  obtain ⟨hcounts, hdeserved⟩ := hinv
  have hfits : ∀ webhook, (failureStreak webhook ((start sys).run g steps).log).length < pow2 32 :=
    fun webhook => (length_failureStreak_le webhook _).trans_lt hlog
  refine ⟨fun webhook => ?_, fun webhook => ?_, fun webhook => ?_, hdeserved,
    fun now a => follows_step hcounts hw, fun x hx now hreached => ?_⟩
  · rw [hcounts]
    exact Nat.mod_eq_of_lt (hfits webhook)
  · rw [hcounts]
    rfl
  · rw [hcounts]
    simp [DelinquencyTracker.tally, Nat.mod_eq_of_lt (hfits webhook)]
  · rw [failureStreak_of_success rfl hx] at hreached
    obtain ⟨-, y, hy, -⟩ := hreached
    cases hy

/-- Two failing requests are under way at once, and the later one is counted first. The second
count makes two in a row, and the webhook is deactivated. -/
theorem ruled_by_streaks_of_two :
    let now : Instant := ⟨0, 0⟩
    let later : Instant := ⟨60, 0⟩
    let webhook : Webhook := ⟨⟨3⟩, ⟨9⟩, ⟨2⟩, "hook", "https://example.com", true,
      .ofList ["card_published"], now⟩
    let seed := ((Store.empty 10).addUser ⟨⟨1⟩, ⟨9⟩, "ada", .member⟩).addBoard
      ⟨⟨2⟩, ⟨9⟩, "ops", []⟩
    let sys : System := ⟨seed.saveWebhook webhook, .standard⟩
    let g : Setup := ⟨.standard, ⟨.standard, .standard, ⟨2, .ofSeconds 60⟩⟩, .standard⟩
    let begun : List (Instant × TrafficStep) :=
      [(now, .calls (.createDraft ⟨2⟩ ⟨1⟩ "plan")), (now, .calls (.changeCard ⟨10⟩ ⟨1⟩ .publish)),
       (now, .calls (.dispatch ⟨11⟩)), (now, .calls (.createDraft ⟨2⟩ ⟨1⟩ "report")),
       (now, .calls (.changeCard ⟨16⟩ ⟨1⟩ .publish)), (now, .calls (.dispatch ⟨17⟩)),
       (now, .sends ⟨14⟩), (now, .sends ⟨20⟩), (now, .answers 0 (.responded 500)),
       (now, .answers 0 (.errored "timeout")), (now, .counts 1)]
    let t := (start sys).run g begun
    let t' := (start sys).run g (begun ++ [(later, .counts 0), (later, .rules 1)])
    (∀ w, sys.store.delinquency w = .fresh w) ∧
      t.system.store.delinquency ⟨3⟩ = ⟨⟨3⟩, 1, some now⟩ ∧ t.RuledByStreaks g ∧
      t'.system.store.delinquency ⟨3⟩ = ⟨⟨3⟩, 2, some now⟩ ∧ t'.RuledByStreaks g ∧
      (t'.system.store.webhooks.find? ⟨3⟩).map Webhook.active = some false := by
  intro now later webhook seed sys g begun t t'
  have hfresh : ∀ w, sys.store.delinquency w = .fresh w := fun _ => rfl
  have hw : g.handlers.delinquency.window.nanoseconds ≤ Span.offsetLimit := by decide +kernel
  have hlog : t.log.length < pow2 32 := by decide +kernel
  have hlog' : t'.log.length < pow2 32 := by decide +kernel
  exact ⟨hfresh, by decide +kernel, ruled_by_streaks hfresh hw begun hlog, by decide +kernel,
    ruled_by_streaks hfresh hw _ hlog', by decide +kernel⟩

end Traffic

end BoardActivity
