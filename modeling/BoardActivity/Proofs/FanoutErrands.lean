import BoardActivity.Proofs.NotificationFanout

/-!
# Handlers one call at a time

Between two calls of a handler on the store, other workers and users may come in. Here the handlers
that write down what follows from an event are taken apart, from the moment when they have found
the event. An `Inquiry` looks things up one after the other; it comes to the `Chores` of the
handler, which are the users to tell or the webhooks to send to; and `Course.step` makes one call,
at a time of its own. A handler that nobody comes in between does all of that at once
(`Course.run_errand`).
-/

namespace BoardActivity

/-- Look-ups one after the other, and what they come to. -/
inductive Inquiry (α : Type) where
  | answer (a : α)
  | look (next : Store → Inquiry α)

namespace Inquiry

variable {α β : Type}

def bind : Inquiry α → (α → Inquiry β) → Inquiry β
  | answer a, f => f a
  | look next, f => look fun s => (next s).bind f

instance : Monad Inquiry where
  pure := answer
  bind := bind

/-- What the look-ups come to if the store stays as it is. -/
def eval (s : Store) : Inquiry α → α
  | answer a => a
  | look next => (next s).eval s

/-- Whatever is found, the look-ups come to something with the property. -/
def All (P : α → Prop) : Inquiry α → Prop
  | answer a => P a
  | look next => ∀ s, (next s).All P

/-- A question to the store about its audience. -/
def ask (question : Audience → Except Error α) : ExceptT Error Inquiry α :=
  .mk (look fun s => answer (question s.audience))

variable {s : Store}

theorem eval_bind (q : Inquiry α) (f : α → Inquiry β) :
    (q >>= f).eval s = (f (q.eval s)).eval s := by
  induction q with
  | answer a => rfl
  | look next ih => exact ih s

theorem eval_run_bind (q : ExceptT Error Inquiry α) (f : α → ExceptT Error Inquiry β) :
    (q >>= f).run.eval s = q.run.eval s >>= fun a => (f a).run.eval s := by
  rw [ExceptT.run_bind, eval_bind]
  cases q.run.eval s with
  | ok a => rfl
  | error e => rfl

theorem All.bind {P : β → Prop} (q : Inquiry α) {f : α → Inquiry β} (h : ∀ a, (f a).All P) :
    (q >>= f).All P := by
  induction q with
  | answer a => exact h a
  | look next ih => exact fun s => ih s

theorem All.imp {P Q : α → Prop} {q : Inquiry α} (h : q.All P) (himp : ∀ a, P a → Q a) :
    q.All Q := by
  induction q with
  | answer a => exact himp a h
  | look next ih => exact fun s => ih s (h s)

end Inquiry

open Inquiry (ask)

/-- The candidates of a strategy, asked for one question at a time. -/
def Strategy.inquire (st : Strategy) (e : Event) : ExceptT Error Inquiry (List Ident) :=
  match st with
  | boardWatchers => ask fun a => a.boardWatchers e.board
  | assignment => return e.assignees
  | publication => do
    let mentioned ← ask fun a => a.mentionees e.eventable
    let watchers ← ask fun a => a.boardWatchers e.board
    let assignees ← ask fun a => a.cardAssignees e.eventable.id
    return watchers.filter (fun u => u ∉ mentioned) ++ assignees
  | comment => do
    match ← ask fun a => a.commentCard e.eventable.id with
    | none => return []
    | some card =>
      let mentioned ← ask fun a => a.mentionees (.comment e.eventable.id)
      let watchers ← ask fun a => a.cardWatchers card
      return watchers.filter fun u => u ∉ mentioned
  | quiet => return []

/-- The users to tell of an event, asked for one question at a time. -/
def Registry.inquire (r : Registry) (e : Event) : ExceptT Error Inquiry (List Ident) := do
  let st := r.strategyFor e
  let creator ← ask fun a => a.findUser e.creator
  if st.shouldNotify creator then
    let users ← st.inquire e
    return Ident.sortDistinct (users.filter fun u => u != e.creator)
  else return []

theorem Strategy.eval_inquire (st : Strategy) (e : Event) (s : Store) :
    (st.inquire e).run.eval s = st.candidates e s.audience := by
  cases st with
  | boardWatchers | assignment | publication | quiet => rfl
  | comment =>
      simp only [inquire, candidates, Inquiry.eval_run_bind]
      cases h : s.comments.find? e.eventable.id with
      | none => simp only [ask, ExceptT.run_mk, Inquiry.eval, Store.audience, h]; rfl
      | some c => simp only [ask, ExceptT.run_mk, Inquiry.eval, Store.audience, h]; rfl

theorem Registry.eval_inquire (r : Registry) (e : Event) (s : Store) :
    (r.inquire e).run.eval s = r.recipients e s.audience := by
  have hcreator : (ask fun a => a.findUser e.creator).run.eval s = s.audience.findUser e.creator :=
    rfl
  simp only [inquire, recipients, Inquiry.eval_run_bind, hcreator]
  congr 1
  funext creator
  split_ifs
  · rw [Inquiry.eval_run_bind, Strategy.eval_inquire]
    rfl
  · rfl

inductive Chores where
  | tell (users : List Ident)
  | send (webhooks : List Ident)
  /-- A delivery has been made sure of, and its task comes next. -/
  | schedule (delivery : Ident) (webhooks : List Ident)

/-- What a handler has still to do. -/
abbrev Errand := Inquiry Chores

/-- The handlers that write down what follows from an event. -/
inductive Fanout where
  | notify
  | dispatch

namespace Handlers

/-- What is to be done for an event that has been found. -/
def errand (h : Handlers) (e : Event) : Fanout → Errand
  | .notify => do
    match ← (h.registry.inquire e).run with
    | .ok users => return .tell users
    | .error _ => return .tell []
  | .dispatch =>
    if h.dispatcher.permits e.action then
      .look fun s =>
        let webhooks := (s.activeWebhooks e.board).filter fun w => h.dispatcher.concerns w e
        .answer (.send (webhooks.map Webhook.id))
    else .answer (.send [])

/-- The store after a handler for an event that is there. -/
def fanOut (h : Handlers) (s : Store) (e : Event) (now : Instant) : Fanout → Store
  | .notify => (h.notify s e.id now).2
  | .dispatch => (h.dispatch s e.id now).2

end Handlers

/-- An errand under way, the store, and whom and what the errand has written so far: the users whom
it has told, the webhooks that it has a delivery for, the deliveries that it has a task for. -/
structure Course where
  errand : Errand
  store : Store
  told : List Ident
  sent : List Ident
  scheduled : List Ident

namespace Course

def start (q : Errand) (s : Store) : Course := ⟨q, s, [], [], []⟩

/-- Nothing is left to do. -/
def isOver (c : Course) : Bool :=
  match c.errand with
  | .answer (.tell []) | .answer (.send []) => true
  | .look _ | .answer (.tell (_ :: _)) | .answer (.send (_ :: _)) | .answer (.schedule ..) => false

/-- One call of an errand for an event. The first notification that fails ends the errand. -/
def step (e : Event) (maxAttempts : Nat) (c : Course) (now : Instant) : Course :=
  match c.errand with
  | .look next => { c with errand := next c.store }
  | .answer (.tell []) | .answer (.send []) => c
  | .answer (.tell (user :: users)) =>
    match c.store.ensureNotification user e.id e.creator now with
    | (.ok _, s) => { c with errand := .answer (.tell users), store := s, told := c.told ++ [user] }
    | (.error _, s) => { c with errand := .answer (.tell []), store := s }
  | .answer (.send (webhook :: webhooks)) =>
    let (d, s) := c.store.ensureDelivery webhook e.id now
    { c with
      errand := .answer (.schedule d.id webhooks), store := s, sent := c.sent ++ [webhook] }
  | .answer (.schedule delivery webhooks) =>
    let t := (NewTask.create .deliverWebhook delivery).withMaxAttempts maxAttempts
    let (_, s) := c.store.enqueue t now
    { c with
      errand := .answer (.send webhooks), store := s, scheduled := c.scheduled ++ [delivery] }

def run (e : Event) (maxAttempts : Nat) (c : Course) (times : List Instant) : Course :=
  times.foldl (step e maxAttempts) c

variable {e : Event} {maxAttempts : Nat} {now : Instant}

theorem run_append (c : Course) (times later : List Instant) :
    c.run e maxAttempts (times ++ later) = (c.run e maxAttempts times).run e maxAttempts later :=
  List.foldl_append

theorem step_of_over {c : Course} (h : c.isOver = true) : c.step e maxAttempts now = c := by
  unfold isOver at h
  unfold step
  split at h
  · next he => simp only [he]
  · next he => simp only [he]
  all_goals cases h

theorem run_of_over {c : Course} (h : c.isOver = true) (times : List Instant) :
    c.run e maxAttempts times = c := by
  induction times with
  | nil => rfl
  | cons now times ih =>
      change (c.step e maxAttempts now).run e maxAttempts times = c
      rw [step_of_over h, ih]

/-! ### Without anybody in between -/

/-- The second course is what the first comes to, if all its calls are made at one time. -/
def ComesTo (e : Event) (maxAttempts : Nat) (now : Instant) (c c' : Course) : Prop :=
  ∃ n, c.run e maxAttempts (List.replicate n now) = c'

theorem ComesTo.refl (c : Course) : ComesTo e maxAttempts now c c :=
  ⟨0, rfl⟩

theorem ComesTo.trans {c c' c'' : Course} (h : ComesTo e maxAttempts now c c')
    (h' : ComesTo e maxAttempts now c' c'') : ComesTo e maxAttempts now c c'' := by
  obtain ⟨n, hn⟩ := h
  obtain ⟨m, hm⟩ := h'
  refine ⟨n + m, ?_⟩
  rw [← List.replicate_append_replicate, run_append, hn, hm]

theorem ComesTo.step {c c' : Course} (h : c.step e maxAttempts now = c') :
    ComesTo e maxAttempts now c c' :=
  ⟨1, h⟩

theorem comesTo_eval (c : Course) :
    ComesTo e maxAttempts now c { c with errand := .answer (c.errand.eval c.store) } := by
  obtain ⟨q, s, told, sent, scheduled⟩ := c
  induction q with
  | answer chores => exact .refl _
  | look next ih => exact (ComesTo.step rfl).trans (ih s)

theorem comesTo_tell (users : List Ident) (c : Course) (h : c.errand = .answer (.tell users)) :
    ∃ c', ComesTo e maxAttempts now c c' ∧ c'.errand = .answer (.tell []) ∧
      c'.store = (c.store.notifyAll e.id e.creator now users).2 := by
  induction users generalizing c with
  | nil => exact ⟨c, .refl c, h, rfl⟩
  | cons user users ih =>
      cases hn : c.store.ensureNotification user e.id e.creator now with
      | mk r s =>
          have hstep : ComesTo e maxAttempts now c (c.step e maxAttempts now) := .step rfl
          cases r with
          | error err =>
              simp only [Course.step, h, hn] at hstep
              refine ⟨_, hstep, rfl, ?_⟩
              simp only [Store.notifyAll, hn]
          | ok n =>
              simp only [Course.step, h, hn] at hstep
              obtain ⟨c', hrest, hover, hstore⟩ := ih { c with
                errand := .answer (.tell users), store := s, told := c.told ++ [user] } rfl
              refine ⟨c', hstep.trans hrest, hover, ?_⟩
              rw [hstore, Store.notifyAll_cons hn]

theorem comesTo_send (webhooks : List Webhook) (c : Course)
    (h : c.errand = .answer (.send (webhooks.map Webhook.id))) :
    ∃ c', ComesTo e maxAttempts now c c' ∧ c'.errand = .answer (.send []) ∧
      c'.store = (c.store.deliverToAll maxAttempts e.id now webhooks).2 := by
  induction webhooks generalizing c with
  | nil => exact ⟨c, .refl c, h, rfl⟩
  | cons w webhooks ih =>
      let d := (c.store.ensureDelivery w.id e.id now).1
      let c₁ : Course := { c with
        errand := .answer (.schedule d.id (webhooks.map Webhook.id))
        store := (c.store.ensureDelivery w.id e.id now).2
        sent := c.sent ++ [w.id] }
      have hsend : ComesTo e maxAttempts now c c₁ := .step (by rw [Course.step, h]; rfl)
      obtain ⟨c', hrest, hover, hstore⟩ := ih (c₁.step e maxAttempts now) rfl
      exact ⟨c', (hsend.trans (.step rfl)).trans hrest, hover, hstore⟩

/-- An errand whose calls are all made at once does what its handler does. -/
theorem run_errand (h : Handlers) {s : Store} (he : s.events.find? e.id = some e) (f : Fanout)
    (now : Instant) : ∃ c, ComesTo e h.dispatcher.maxAttempts now (start (h.errand e f) s) c ∧
      c.isOver = true ∧ c.store = h.fanOut s e now f := by
  have heval : ComesTo e h.dispatcher.maxAttempts now (start (h.errand e f) s) _ :=
    comesTo_eval (start (h.errand e f) s)
  cases f with
  | notify =>
      obtain ⟨-, users, -, hr, -⟩ := h.registry.recipients_audience e s
      have hchores : (h.errand e .notify).eval s = .tell users := by
        simp only [Handlers.errand, Inquiry.eval_bind, Registry.eval_inquire, hr]
        rfl
      obtain ⟨c, htell, hover, hstore⟩ :=
        comesTo_tell users (start (.answer (.tell users)) s) rfl
      rw [start, hchores] at heval
      refine ⟨c, heval.trans htell, by rw [isOver, hover], ?_⟩
      rw [hstore, Handlers.fanOut, Handlers.notify_eq he hr]
      rfl
  | dispatch =>
      let webhooks := s.concernedWebhooks h.dispatcher e
      have hchores : (h.errand e .dispatch).eval s = .send (webhooks.map Webhook.id) := by
        unfold webhooks Handlers.errand Store.concernedWebhooks
        split_ifs
        · rfl
        · rfl
      obtain ⟨c, hsend, hover, hstore⟩ :=
        comesTo_send webhooks (start (.answer (.send (webhooks.map Webhook.id))) s) rfl
      rw [start, hchores] at heval
      refine ⟨c, heval.trans hsend, by rw [isOver, hover], ?_⟩
      rw [hstore]
      simp only [Handlers.fanOut, Handlers.dispatch, he]
      rfl

/-! ### Getting to the end -/

/-- So many calls, whenever they are made, are enough to get to the end. -/
def OverWithin (e : Event) (maxAttempts : Nat) (c : Course) (n : Nat) : Prop :=
  ∀ times : List Instant, n ≤ times.length → (c.run e maxAttempts times).isOver = true

theorem OverWithin.of_over {c : Course} (h : c.isOver = true) (n : Nat) :
    OverWithin e maxAttempts c n := by
  intro times _
  rw [run_of_over h, h]

theorem OverWithin.of_step {c : Course} {n : Nat}
    (h : ∀ now, OverWithin e maxAttempts (c.step e maxAttempts now) n) :
    OverWithin e maxAttempts c (n + 1) := by
  intro times hlength
  cases times with
  | nil => exact (Nat.not_succ_le_zero n hlength).elim
  | cons now times => exact h now times (Nat.le_of_succ_le_succ hlength)

theorem overWithin_tell (users : List Ident) (c : Course) (h : c.errand = .answer (.tell users)) :
    OverWithin e maxAttempts c users.length := by
  induction users generalizing c with
  | nil => exact .of_over (by rw [isOver, h]) 0
  | cons user users ih =>
      apply OverWithin.of_step
      intro now
      simp only [step, h]
      split
      · exact ih _ rfl
      · exact .of_over rfl _

theorem overWithin_send (webhooks : List Ident) (c : Course)
    (h : c.errand = .answer (.send webhooks)) :
    OverWithin e maxAttempts c (2 * webhooks.length) := by
  induction webhooks generalizing c with
  | nil => exact .of_over (by rw [isOver, h]) 0
  | cons webhook webhooks ih =>
      apply OverWithin.of_step
      intro now
      simp only [step, h]
      apply OverWithin.of_step
      intro later
      exact ih _ rfl

/-- Every errand gets to its end, whenever its calls are made. -/
theorem exists_overWithin (c : Course) : ∃ n, OverWithin e maxAttempts c n := by
  obtain ⟨q, s, told, sent, scheduled⟩ := c
  induction q with
  | answer chores =>
      cases chores with
      | tell users => exact ⟨_, overWithin_tell users _ rfl⟩
      | send webhooks => exact ⟨_, overWithin_send webhooks _ rfl⟩
      | schedule delivery webhooks =>
          exact ⟨_, .of_step fun _ => overWithin_send webhooks _ rfl⟩
  | look next ih =>
      obtain ⟨n, hn⟩ := ih s
      exact ⟨n + 1, .of_step fun _ => hn⟩

end Course

end BoardActivity
