import BoardActivity.Store.Basic

/-!
# Stored notifications

A notification is inserted once for an event and a user; asking for it again gives the one that is
there, read or not. An armed fault lets one new insertion fail.
-/

namespace BoardActivity.Store

/-- The notification of a user about an event, inserted if there is none. -/
def ensureNotification (s : Store) (user event creator : Ident) (now : Instant) :
    Except Error Notification × Store :=
  match s.notifications.find? (event, user) with
  | some n => (.ok n, s)
  | none =>
    match s.notificationFault with
    | some 0 =>
      (.error (.store .injectedNotificationFailure), { s with notificationFault := none })
    | fault =>
      let (id, s) := s.mint
      let n : Notification := ⟨id, user, event, creator, now, none⟩
      (.ok n,
        { s with
          notifications := s.notifications.put n
          notificationFault := fault.map (· - 1) })

section Ensuring

variable {s : Store} {user event : Ident} (creator : Ident) (now : Instant)

theorem ensureNotification_of_some {n : Notification}
    (h : s.notifications.find? (event, user) = some n) :
    s.ensureNotification user event creator now = (.ok n, s) := by
  simp only [ensureNotification, h]

theorem ensureNotification_of_fault (h : s.notifications.find? (event, user) = none)
    (hf : s.notificationFault = some 0) :
    s.ensureNotification user event creator now =
      (.error (.store .injectedNotificationFailure), { s with notificationFault := none }) := by
  simp only [ensureNotification, h, hf]

theorem ensureNotification_of_none (h : s.notifications.find? (event, user) = none)
    (hf : s.notificationFault ≠ some 0) :
    s.ensureNotification user event creator now =
      (.ok ⟨⟨s.supply.next⟩, user, event, creator, now, none⟩,
        { s with
          notifications := s.notifications.put ⟨⟨s.supply.next⟩, user, event, creator, now, none⟩
          notificationFault := s.notificationFault.map (· - 1)
          supply := ⟨s.supply.next + 1⟩ }) := by
  simp only [ensureNotification, h]
  rfl

end Ensuring

/-- The notifications about an event, by user. -/
def notificationsForEvent (s : Store) (event : Ident) : List Notification :=
  (s.notifications.rows.filter fun n => n.event == event).mergeSort fun a b =>
    decide (a.user ≤ b.user)

/-- The notifications of a user, the latest first. -/
def notificationsForUser (s : Store) (user : Ident) : List Notification :=
  (s.notifications.rows.filter fun n => n.user == user).mergeSort fun a b =>
    b.createdAt.before a.createdAt || (a.createdAt == b.createdAt && decide (b.id ≤ a.id))

def markRead (s : Store) (id : Ident) (now : Instant) : Except Error Notification × Store :=
  match s.notifications.rows.find? fun n => n.id == id with
  | none => (.error (.notFound "notification" id), s)
  | some n => (.ok (n.read now), { s with notifications := s.notifications.put (n.read now) })

/-- Inserts the notifications of the users in turn, up to the first failure. -/
def notifyAll (s : Store) (event creator : Ident) (now : Instant) :
    List Ident → Except Error (List Notification) × Store
  | [] => (.ok [], s)
  | user :: rest =>
    match s.ensureNotification user event creator now with
    | (.error e, s) => (.error e, s)
    | (.ok n, s) =>
      match s.notifyAll event creator now rest with
      | (.error e, s) => (.error e, s)
      | (.ok ns, s) => (.ok (n :: ns), s)

/-- Tells the recipients of an event, up to the first failure. -/
def notifyRecipients (s : Store) (registry : Registry) (e : Event) (now : Instant) :
    Except Error (List Notification) × Store :=
  match registry.recipients e s.audience with
  | .error err => (.error err, s)
  | .ok users => s.notifyAll e.id e.creator now users

end BoardActivity.Store
