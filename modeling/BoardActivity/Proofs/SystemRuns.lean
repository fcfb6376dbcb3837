import BoardActivity.Activity.Cards
import BoardActivity.Activity.Comments
import BoardActivity.Worker.Execution

/-!
# Runs of the whole program

Users change cards and comments, webhooks are saved and changed, workers claim, settle and run
tasks: a `SystemCall` is any of these, carried out as one step at a time of its own. A run is a list
of calls in the order in which they take effect, by whomever they are made and with any arguments;
clocks may jump. Tasks are inserted by the program alone.

Whatever every call preserves, every run preserves (`System.run_induction`).
-/

namespace BoardActivity

structure Setup where
  tracker : Tracker
  handlers : Handlers
  config : FanoutConfig

inductive SystemCall where
  | createDraft (board creator : Ident) (title : String)
  | changeCard (card creator : Ident) (operation : CardOperation)
  | destroyCard (card : Ident)
  | comment (card creator : Ident) (body : String) (mentionees : List Ident)
  | saveWebhook (webhook : Webhook)
  | resubscribe (webhook : Ident) (actions : List String)
  | deactivate (webhook : Ident)
  | markRead (notification : Ident)
  | failNotificationsAfter (count : Nat)
  | claim (worker : String) (kinds : List TaskKind) (max : Nat)
  | complete (task : Task)
  | fail (task : Task) (error : String) (delay : Span)
  | reclaim (threshold : Span)
  | notify (event : Ident)
  | dispatch (event : Ident)
  | deliver (delivery : Ident)
  | execute (task : Task) (draw : Draw)

namespace Store

/-- Gives a webhook other actions, if it is there and all of them are permitted. -/
def resubscribe (s : Store) (webhook : Ident) (actions : List String) : Store :=
  match s.webhooks.find? webhook with
  | none => s
  | some w =>
    match w.resubscribe actions with
    | .ok w => s.saveWebhook w
    | .error _ => s

/-- The store after a call that needs the records only. -/
def answer (s : Store) (g : Setup) (now : Instant) : SystemCall → Store
  | .createDraft board creator title => (Cards.createDraft s now board creator title).2
  | .changeCard card creator o => (Cards.perform g.tracker s now card creator o).2
  | .destroyCard card => (Cards.destroy s now card).2
  | .comment card creator body mentionees =>
    (Comments.create g.tracker s now card creator body mentionees).2
  | .saveWebhook w => s.saveWebhook w
  | .resubscribe webhook actions => s.resubscribe webhook actions
  | .deactivate webhook => (s.deactivateWebhook webhook).2
  | .markRead notification => (s.markRead notification now).2
  | .failNotificationsAfter n => s.failNotificationsAfter n
  | .claim worker kinds max => (s.claim worker kinds max now).2
  | .complete t => (s.complete t).2
  | .fail t error delay => (s.fail t error delay now).2
  | .reclaim threshold =>
    match s.reclaim threshold now with
    | some (_, s') => s'
    | none => s
  | .notify event => (g.handlers.notify s event now).2
  | .dispatch event => (g.handlers.dispatch s event now).2
  | .deliver _ | .execute .. => s

end Store

namespace System

/-- The system after a call; one that breaks off leaves behind what it did before. -/
def call (sys : System) (g : Setup) (now : Instant) : SystemCall → System
  | .deliver delivery => (g.handlers.deliver sys delivery now).2
  | .execute t draw => (sys.execute g.handlers g.config t draw now).2
  | c => { sys with store := sys.store.answer g now c }

/-- The system after calls one after the other. -/
def run (sys : System) (g : Setup) : List (Instant × SystemCall) → System
  | [] => sys
  | (now, c) :: rest => (sys.call g now c).run g rest

theorem run_append (sys : System) (g : Setup) (calls calls' : List (Instant × SystemCall)) :
    sys.run g (calls ++ calls') = (sys.run g calls).run g calls' := by
  induction calls generalizing sys with
  | nil => rfl
  | cons c calls ih => exact ih (sys.call g c.1 c.2)

/-- What every call preserves holds after every run. -/
theorem run_induction {P : System → Prop} {g : Setup}
    (step : ∀ sys now c, P sys → P (sys.call g now c)) {sys : System} (start : P sys)
    (calls : List (Instant × SystemCall)) : P (sys.run g calls) := by
  induction calls generalizing sys with
  | nil => exact start
  | cons c calls ih => exact ih (step sys c.1 c.2 start)

end System

end BoardActivity
