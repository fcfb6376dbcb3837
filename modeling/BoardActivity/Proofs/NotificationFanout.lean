import BoardActivity.Proofs.OperationEffects
import BoardActivity.Worker.Handlers

/-!
# Telling the recipients of an event

The recipients of an event are told one after the other, in the order of their identifiers; whoever
has a notification already is passed over, and the first insertion that fails ends the run.
`Store.noticed` is the store with the notifications of some users added; every run leads to such a
store (`notifyAll_ok`, `notifyAll_error`), for all who were missing or for the first of them.

`Handlers.notify_converges` puts runs together: one that an armed fault breaks off, a second after
it, and one without any fault. What was read in between stays read.
-/

namespace BoardActivity

namespace Registry

/-- What a strategy asks of the store is always answered. -/
theorem candidates_audience (st : Strategy) (e : Event) (s : Store) :
    ∃ users, st.candidates e s.audience = .ok users := by
  cases st with
  | comment =>
      simp only [Strategy.candidates, Store.audience]
      cases s.comments.find? e.eventable.id with
      | none => exact ⟨_, rfl⟩
      | some c => exact ⟨_, rfl⟩
  | boardWatchers | assignment | publication | quiet => exact ⟨_, rfl⟩

/-- The recipients of an event are known to the store. They are candidates of the event's strategy,
in order, each once. -/
theorem recipients_audience (r : Registry) (e : Event) (s : Store) :
    ∃ candidates users, (r.strategyFor e).candidates e s.audience = .ok candidates ∧
      r.recipients e s.audience = .ok users ∧ (∀ u ∈ users, u ∈ candidates) ∧
      users.Pairwise (· < ·) := by
  obtain ⟨candidates, hc⟩ := candidates_audience (r.strategyFor e) e s
  have hcreator : s.audience.findUser e.creator = .ok (s.users.find? e.creator) := rfl
  have hbind {α β : Type} (a : α) (f : α → Except Error β) : (Except.ok a >>= f) = f a := rfl
  unfold recipients
  rw [hcreator, hbind, hc, hbind]
  split_ifs
  · refine ⟨candidates, _, rfl, rfl, fun u hu => ?_, Ident.pairwise_sortDistinct _⟩
    exact (List.mem_filter.1 (Ident.mem_sortDistinct.1 hu)).1
  · exact ⟨candidates, [], rfl, rfl, fun _ hu => (List.not_mem_nil hu).elim, .nil⟩

end Registry

namespace Store

/-- The members of a list that a record has, where the record may be missing. -/
theorem mem_getD_map {α : Type} {found : Option α} {f : α → List Ident} {u : Ident} :
    u ∈ (found.map f).getD [] ↔ ∃ x, found = some x ∧ u ∈ f x := by
  cases found with
  | none => simp
  | some x => simp

def notificationKeys (s : Store) : List (Ident × Ident) :=
  s.notifications.rows.map fun n => (n.event, n.user)

/-- The users of a list who have no notification about an event. -/
def missing (s : Store) (event : Ident) (users : List Ident) : List Ident :=
  users.filter fun u => (event, u) ∉ s.notificationKeys

/-- New notifications of an event for users in turn, from an identifier on. -/
def notices (e : Event) (now : Instant) : Nat → List Ident → List Notification
  | _, [] => []
  | next, u :: users => ⟨⟨next⟩, u, e.id, e.creator, now, none⟩ :: notices e now (next + 1) users

/-- The store with notifications of an event added for users in turn. -/
def noticed (s : Store) (e : Event) (now : Instant) (users : List Ident) (fault : Option Nat) :
    Store :=
  { s with
    notifications := s.notifications.putAll (notices e now s.supply.next users)
    notificationFault := fault
    supply := ⟨s.supply.next + users.length⟩ }

variable {s : Store} {e : Event} {now : Instant} {users : List Ident} {fault : Option Nat}

theorem find?_notification_eq_none_iff {k : Ident × Ident} :
    s.notifications.find? k = none ↔ k ∉ s.notificationKeys := by
  rw [Table.find?_eq_none_iff, notificationKeys, List.mem_map]
  exact ⟨fun h ⟨n, hn, hk⟩ => h n hn hk, fun h n hn hk => h ⟨n, hn, hk⟩⟩

theorem mem_notificationKeys {k : Ident × Ident} {n : Notification}
    (h : s.notifications.find? k = some n) : k ∈ s.notificationKeys := by
  obtain ⟨hrow, hk⟩ := Table.find?_eq_some_iff.1 h
  exact List.mem_map.2 ⟨n, hrow, hk⟩

theorem mem_missing {event u : Ident} :
    u ∈ s.missing event users ↔ u ∈ users ∧ (event, u) ∉ s.notificationKeys := by
  rw [missing, List.mem_filter, decide_eq_true_eq]

theorem map_key_notices (e : Event) (now : Instant) (next : Nat) (users : List Ident) :
    (notices e now next users).map (fun n => (n.event, n.user)) = users.map fun u => (e.id, u) := by
  induction users generalizing next with
  | nil => rfl
  | cons u users ih => rw [notices, List.map_cons, List.map_cons, ih]

/-- Users who were missing, each once, are told in new rows at the end. -/
theorem rows_noticed (hd : users.Nodup) (hm : ∀ u ∈ users, (e.id, u) ∉ s.notificationKeys) :
    (s.noticed e now users fault).notifications.rows =
      s.notifications.rows ++ notices e now s.supply.next users := by
  have hkeys := map_key_notices e now s.supply.next users
  refine Table.rows_putAll_of_absent (fun n hn => ?_) ?_
  · have hin : (n.event, n.user) ∈ users.map fun u => (e.id, u) :=
      hkeys ▸ List.mem_map_of_mem (f := fun n : Notification => (n.event, n.user)) hn
    obtain ⟨u, hu, he⟩ := List.mem_map.1 hin
    have hnot : (n.event, n.user) ∉ s.notificationKeys := he ▸ hm u hu
    exact find?_notification_eq_none_iff.2 hnot
  · refine hkeys.symm ▸ hd.map fun u v he => ?_
    exact (Prod.mk.inj he).2

theorem notificationKeys_noticed (hd : users.Nodup)
    (hm : ∀ u ∈ users, (e.id, u) ∉ s.notificationKeys) :
    (s.noticed e now users fault).notificationKeys =
      s.notificationKeys ++ users.map fun u => (e.id, u) := by
  rw [notificationKeys, rows_noticed hd hm, List.map_append, map_key_notices]
  rfl

/-- Telling one user and then others is telling all of them. -/
theorem noticed_cons (s : Store) (e : Event) (now : Instant) (u : Ident) (users : List Ident)
    (before fault : Option Nat) :
    (s.noticed e now [u] before).noticed e now users fault =
      s.noticed e now (u :: users) fault := by
  simp only [noticed, notices, Table.putAll, List.foldl_cons, List.foldl_nil, List.length_cons,
    List.length_nil, Nat.zero_add, Nat.add_assoc, Nat.add_comm 1]

theorem missing_of_keys {s' : Store} {event : Ident} {added : List Ident}
    (hk : s'.notificationKeys = s.notificationKeys ++ added.map fun u => (event, u))
    (users : List Ident) :
    s'.missing event users = (s.missing event users).filter fun u => u ∉ added := by
  unfold missing
  rw [hk, List.filter_filter]
  refine List.filter_congr fun u _ => ?_
  have hin : (event, u) ∈ added.map (fun u => (event, u)) ↔ u ∈ added := by simp
  simp only [List.mem_append, hin, not_or, Bool.decide_and, Bool.and_comm]

theorem missing_cons_of_mem {event u : Ident} (h : (event, u) ∈ s.notificationKeys) :
    s.missing event (u :: users) = s.missing event users :=
  List.filter_cons_of_neg (by simpa using h)

theorem missing_cons_of_not_mem {event u : Ident} (h : (event, u) ∉ s.notificationKeys) :
    s.missing event (u :: users) = u :: s.missing event users :=
  List.filter_cons_of_pos (by simpa using h)

theorem find?_noticed (hd : users.Nodup) (hm : ∀ u ∈ users, (e.id, u) ∉ s.notificationKeys)
    {k : Ident × Ident} {n : Notification} (hn : s.notifications.find? k = some n) :
    (s.noticed e now users fault).notifications.find? k = some n := by
  obtain ⟨hrow, hk⟩ := Table.find?_eq_some_iff.1 hn
  refine Table.find?_eq_some_iff.2 ⟨?_, hk⟩
  rw [rows_noticed hd hm]
  exact List.mem_append_left _ hrow

/-! ### One run -/

theorem notifyAll_cons {s' : Store} {user event creator : Ident} {n : Notification}
    (h : s.ensureNotification user event creator now = (.ok n, s')) (users : List Ident) :
    s.notifyAll event creator now (user :: users) =
      ((s'.notifyAll event creator now users).1.map (n :: ·),
        (s'.notifyAll event creator now users).2) := by
  simp only [notifyAll, h]
  cases s'.notifyAll event creator now users with
  | mk r s'' => cases r <;> rfl

theorem missing_noticed_one {u : Ident} {before : Option Nat} (hu : u ∉ users)
    (hkey : (e.id, u) ∉ s.notificationKeys) :
    (s.noticed e now [u] before).missing e.id users = s.missing e.id users := by
  rw [missing_of_keys (notificationKeys_noticed (List.nodup_singleton u)
    fun v hv => List.mem_singleton.1 hv ▸ hkey)]
  refine List.filter_eq_self.2 fun v hv => decide_eq_true fun hvu => hu ?_
  exact List.mem_singleton.1 hvu ▸ (mem_missing.1 hv).1

theorem ensureNotification_missing {u : Ident} (hu : (e.id, u) ∉ s.notificationKeys)
    (hf : s.notificationFault ≠ some 0) :
    s.ensureNotification u e.id e.creator now =
      (.ok ⟨⟨s.supply.next⟩, u, e.id, e.creator, now, none⟩,
        s.noticed e now [u] (s.notificationFault.map (· - 1))) :=
  ensureNotification_of_none e.creator now (find?_notification_eq_none_iff.2 hu) hf

theorem map_sub_one_sub (fault : Option Nat) (n : Nat) :
    (fault.map (· - 1)).map (· - n) = fault.map (· - (n + 1)) := by
  cases fault with
  | none => rfl
  | some k =>
      have hsub : k - 1 - n = k - (n + 1) := by omega
      exact congrArg some hsub

/-- A run with no fault in its way tells all who are missing, and gives the notifications of all
users of the list. -/
theorem notifyAll_ok (hd : users.Nodup)
    (hf : ∀ k, s.notificationFault = some k → (s.missing e.id users).length ≤ k) (now : Instant) :
    let s' := s.noticed e now (s.missing e.id users)
      (s.notificationFault.map (· - (s.missing e.id users).length))
    ∃ ns, s.notifyAll e.id e.creator now users = (.ok ns, s') ∧
      ns.map some = users.map fun u => s'.notifications.find? (e.id, u) := by
  induction users generalizing s with
  | nil =>
      refine ⟨[], ?_, rfl⟩
      have hfault : s.notificationFault.map (· - 0) = s.notificationFault := by simp
      simp only [missing, List.filter_nil, List.length_nil, hfault]
      rfl
  | cons u users ih =>
      obtain ⟨hu, hd⟩ := List.nodup_cons.1 hd
      have hnodup : (s.missing e.id users).Nodup := hd.sublist List.filter_sublist
      have hmissing : ∀ v ∈ s.missing e.id users, (e.id, v) ∉ s.notificationKeys :=
        fun v hv => (mem_missing.1 hv).2
      cases hn : s.notifications.find? (e.id, u) with
      | some n =>
          have hkey := mem_notificationKeys hn
          rw [missing_cons_of_mem hkey] at hf ⊢
          obtain ⟨ns, hrun, hrows⟩ := ih hd hf
          refine ⟨n :: ns, ?_, ?_⟩
          · rw [notifyAll_cons (ensureNotification_of_some e.creator now hn), hrun]
            rfl
          · rw [List.map_cons, List.map_cons, find?_noticed hnodup hmissing hn, hrows]
      | none =>
          have hkey := find?_notification_eq_none_iff.1 hn
          rw [missing_cons_of_not_mem hkey] at hf ⊢
          have hzero : s.notificationFault ≠ some 0 := fun h0 => Nat.not_succ_le_zero _ (hf 0 h0)
          -- Once the user is told, one less is missing, and the fault is one insertion closer.
          let s₁ := s.noticed e now [u] (s.notificationFault.map (· - 1))
          have hrest : s₁.missing e.id users = s.missing e.id users := missing_noticed_one hu hkey
          have hf₁ : ∀ k, s₁.notificationFault = some k →
              (s₁.missing e.id users).length ≤ k := by
            intro k hk
            obtain ⟨k', hk', rfl⟩ := Option.map_eq_some_iff.1 hk
            rw [hrest]
            exact Nat.le_sub_one_of_lt (hf k' hk')
          obtain ⟨ns, hrun, hrows⟩ := ih hd hf₁
          have hfault : s₁.notificationFault.map (· - (s.missing e.id users).length) =
              s.notificationFault.map (· - (u :: s.missing e.id users).length) :=
            map_sub_one_sub s.notificationFault _
          have hfound : s₁.notifications.find? (e.id, u) =
              some ⟨⟨s.supply.next⟩, u, e.id, e.creator, now, none⟩ := Table.find?_put_self _ _
          have hmissing₁ : ∀ v ∈ s.missing e.id users, (e.id, v) ∉ s₁.notificationKeys :=
            fun v hv => (mem_missing.1 (hrest.symm ▸ hv)).2
          have hkept : (s₁.noticed e now (s.missing e.id users)
              (s.notificationFault.map (· - (u :: s.missing e.id users).length))).notifications.find?
                (e.id, u) = some ⟨⟨s.supply.next⟩, u, e.id, e.creator, now, none⟩ :=
            find?_noticed hnodup hmissing₁ hfound
          rw [noticed_cons] at hkept
          rw [hrest, hfault, noticed_cons] at hrun hrows
          refine ⟨⟨⟨s.supply.next⟩, u, e.id, e.creator, now, none⟩ :: ns, ?_, ?_⟩
          · rw [notifyAll_cons (ensureNotification_missing hkey hzero), hrun]
            rfl
          · rw [List.map_cons, List.map_cons, hrows, hkept]

/-- A run that an armed fault breaks off has told the first of those who are missing. -/
theorem notifyAll_error {k : Nat} (hd : users.Nodup) (hk : s.notificationFault = some k)
    (hlt : k < (s.missing e.id users).length) :
    s.notifyAll e.id e.creator now users = (.error (.store .injectedNotificationFailure),
      s.noticed e now ((s.missing e.id users).take k) none) := by
  induction users generalizing s k with
  | nil => exact (Nat.not_lt_zero k hlt).elim
  | cons u users ih =>
      obtain ⟨hu, hd⟩ := List.nodup_cons.1 hd
      cases hn : s.notifications.find? (e.id, u) with
      | some n =>
          have hkey := mem_notificationKeys hn
          rw [missing_cons_of_mem hkey] at hlt ⊢
          rw [notifyAll_cons (ensureNotification_of_some e.creator now hn), ih hd hk hlt]
          rfl
      | none =>
          have hkey := find?_notification_eq_none_iff.1 hn
          rw [missing_cons_of_not_mem hkey] at hlt ⊢
          cases k with
          | zero =>
              simp only [notifyAll, ensureNotification_of_fault e.creator now hn hk]
              rfl
          | succ k =>
              have hzero : s.notificationFault ≠ some 0 := by simp [hk]
              have hfault : s.notificationFault.map (· - 1) = some k := by simp [hk]
              rw [notifyAll_cons (ensureNotification_missing hkey hzero), hfault]
              have hrest : (s.noticed e now [u] (some k)).missing e.id users =
                  s.missing e.id users := missing_noticed_one hu hkey
              rw [ih hd rfl (by rw [hrest]; exact Nat.lt_of_succ_lt_succ hlt), hrest, noticed_cons]
              rfl

/-! ### Between runs -/

def disarm (s : Store) : Store := { s with notificationFault := none }

def readAll (s : Store) (readings : List (Ident × Instant)) : Store :=
  readings.foldl (fun s r => (s.markRead r.1 r.2).2) s

/-- Reading changes nothing but the table of notifications, and none of its keys. -/
theorem markRead_frame (s : Store) (id : Ident) (now : Instant) :
    ∃ t, (s.markRead id now).2 = { s with notifications := t } ∧
      (s.markRead id now).2.notificationKeys = s.notificationKeys := by
  unfold markRead
  split
  · exact ⟨s.notifications, rfl, rfl⟩
  · next n hf =>
      have hrow : s.notifications.find? ((n.read now).event, (n.read now).user) = some n :=
        Table.mem_rows_iff.1 (List.mem_of_find?_eq_some hf)
      have hkeys := Table.map_put_of_present (fun n => (n.event, n.user)) hrow rfl
      exact ⟨_, rfl, hkeys⟩

theorem readAll_frame (s : Store) (readings : List (Ident × Instant)) :
    ∃ t, s.readAll readings = { s with notifications := t } ∧
      (s.readAll readings).notificationKeys = s.notificationKeys := by
  induction readings generalizing s with
  | nil => exact ⟨s.notifications, rfl, rfl⟩
  | cons r readings ih =>
      obtain ⟨t₁, hs₁, hk₁⟩ := s.markRead_frame r.1 r.2
      obtain ⟨t, hs, hk⟩ := ih (s.markRead r.1 r.2).2
      refine ⟨t, hs.trans ?_, hk.trans hk₁⟩
      rw [hs₁]

theorem missing_of_take {s' : Store} {event : Ident} {k : Nat} (hd : users.Nodup)
    (hk : s'.notificationKeys =
      s.notificationKeys ++ ((s.missing event users).take k).map fun u => (event, u)) :
    s'.missing event users = (s.missing event users).drop k := by
  have hnodup : (s.missing event users).Nodup := hd.sublist List.filter_sublist
  have hdisjoint := List.disjoint_take_drop hnodup (le_refl k)
  rw [missing_of_keys hk]
  generalize s.missing event users = missing at hdisjoint
  calc missing.filter (fun u => u ∉ missing.take k)
    _ = (missing.take k ++ missing.drop k).filter fun u => u ∉ missing.take k := by
        rw [List.take_append_drop]
    _ = [] ++ missing.drop k := by
        rw [List.filter_append]
        congr 1
        · exact List.filter_eq_nil_iff.2 fun u hu => by simpa using hu
        · exact List.filter_eq_self.2 fun u hu => decide_eq_true fun ht => hdisjoint ht hu

end Store

namespace Handlers

variable {h : Handlers} {s : Store} {id : Ident} {e : Event} {now : Instant} {users : List Ident}

theorem notify_eq (he : s.events.find? id = some e)
    (hr : h.registry.recipients e s.audience = .ok users) :
    h.notify s id now = ((s.notifyAll e.id e.creator now users).1.map fun ns => .notified ns.length,
      (s.notifyAll e.id e.creator now users).2) := by
  simp only [notify, he, Store.notifyRecipients, hr]
  cases s.notifyAll e.id e.creator now users with
  | mk r s' => cases r <;> rfl

theorem notify_ok (he : s.events.find? id = some e)
    (hr : h.registry.recipients e s.audience = .ok users) (hd : users.Nodup)
    (hf : ∀ k, s.notificationFault = some k → (s.missing e.id users).length ≤ k) (now : Instant) :
    h.notify s id now = (.ok (.notified users.length), s.noticed e now (s.missing e.id users)
      (s.notificationFault.map (· - (s.missing e.id users).length))) := by
  obtain ⟨ns, hrun, hrows⟩ := Store.notifyAll_ok hd hf now
  have hlength : ns.length = users.length := by simpa using congrArg List.length hrows
  rw [notify_eq he hr, hrun, ← hlength]
  rfl

/-- Without a fault every run succeeds, and tells all who are missing if the event is there. -/
theorem notify_unarmed (h : Handlers) (s : Store) (id : Ident) (now : Instant)
    (hf : s.notificationFault = none) :
    (s.events.find? id = none ∧ h.notify s id now = (.ok .skipped, s)) ∨
      ∃ e users, s.events.find? id = some e ∧ h.registry.recipients e s.audience = .ok users ∧
        users.Nodup ∧ h.notify s id now =
          (.ok (.notified users.length), s.noticed e now (s.missing e.id users) none) := by
  cases he : s.events.find? id with
  | none => exact .inl ⟨rfl, by simp only [notify, he]⟩
  | some e =>
      obtain ⟨-, users, -, hr, -, hsorted⟩ := h.registry.recipients_audience e s
      have hd : users.Nodup := Ident.nodup_of_pairwise hsorted
      have hunarmed : ∀ k, s.notificationFault = some k → (s.missing e.id users).length ≤ k := by
        intro k hk
        cases hf.symm.trans hk
      refine .inr ⟨e, users, rfl, hr, hd, (notify_ok he hr hd hunarmed now).trans ?_⟩
      rw [hf]
      rfl

theorem notify_error (he : s.events.find? id = some e)
    (hr : h.registry.recipients e s.audience = .ok users) (hd : users.Nodup) {k : Nat}
    (hk : s.notificationFault = some k) (hlt : k < (s.missing e.id users).length) :
    h.notify s id now = (.error (.store .injectedNotificationFailure),
      s.noticed e now ((s.missing e.id users).take k) none) := by
  rw [notify_eq he hr, Store.notifyAll_error hd hk hlt]
  rfl

/-- When nobody is missing, a run changes nothing and finds what is stored. -/
theorem notify_settled (he : s.events.find? id = some e)
    (hr : h.registry.recipients e s.audience = .ok users) (hd : users.Nodup)
    (hm : s.missing e.id users = []) (now : Instant) :
    h.notify s id now = (.ok (.notified users.length), s) ∧
      ∃ ns, s.notifyRecipients h.registry e now = (.ok ns, s) ∧
        ns.map some = users.map fun u => s.notifications.find? (e.id, u) := by
  have hf : ∀ k, s.notificationFault = some k → (s.missing e.id users).length ≤ k :=
    fun k _ => hm ▸ Nat.zero_le k
  have hsame : s.noticed e now [] (s.notificationFault.map (· - 0)) = s := by
    simp only [Nat.sub_zero, Option.map_id']
    rfl
  obtain ⟨ns, hrun, hrows⟩ := Store.notifyAll_ok hd hf now
  have hnotify := notify_ok he hr hd hf now
  simp only [hm, List.length_nil, hsame] at hrun hrows hnotify
  refine ⟨hnotify, ns, ?_, hrows⟩
  simp only [Store.notifyRecipients, hr, hrun]

/-- The first run, with the fault armed. -/
theorem notify_armed (he : s.events.find? id = some e)
    (hr : h.registry.recipients e s.audience = .ok users) (hd : users.Nodup) (k : Nat)
    (now : Instant) :
    let missing := s.missing e.id users
    let first := h.notify (s.failNotificationsAfter k) id now
    (missing.length ≤ k → first = (.ok (.notified users.length),
      s.noticed e now missing (some (k - missing.length)))) ∧
    (k < missing.length → first = (.error (.store .injectedNotificationFailure),
      s.noticed e now (missing.take k) none)) ∧
    ∃ fault, first.2 = s.noticed e now (missing.take k) fault := by
  intro missing first
  have hok : missing.length ≤ k → first = (.ok (.notified users.length),
      s.noticed e now missing (some (k - missing.length))) := by
    intro hle
    refine notify_ok (s := s.failNotificationsAfter k) he hr hd (fun k' hk' => ?_) now
    cases hk'
    exact hle
  have herror : k < missing.length → first = (.error (.store .injectedNotificationFailure),
      s.noticed e now (missing.take k) none) :=
    notify_error (s := s.failNotificationsAfter k) he hr hd rfl
  refine ⟨hok, herror, ?_⟩
  rcases Nat.lt_or_ge k missing.length with hlt | hle
  · exact ⟨none, congrArg Prod.snd (herror hlt)⟩
  · rw [List.take_of_length_le hle]
    exact ⟨_, congrArg Prod.snd (hok hle)⟩

/-- A second run, after the first of the missing were told. -/
theorem notify_again {s' : Store} {k : Nat} (he : s.events.find? id = some e)
    (hr : h.registry.recipients e s.audience = .ok users) (hd : users.Nodup)
    (hkeys : s'.notificationKeys =
      s.notificationKeys ++ ((s.missing e.id users).take k).map fun u => (e.id, u))
    (hevents : s'.events = s.events) (haudience : s'.audience = s.audience)
    (hfault : s'.notificationFault = none) (now : Instant) :
    ∃ s'', h.notify s' id now = (.ok (.notified users.length), s'') ∧
      s''.events = s.events ∧ s''.audience = s.audience ∧
      s''.notificationKeys =
        s.notificationKeys ++ (s.missing e.id users).map (fun u => (e.id, u)) ∧
      s'.notifications.rows <+: s''.notifications.rows := by
  have hleft : s'.missing e.id users = (s.missing e.id users).drop k :=
    Store.missing_of_take hd hkeys
  have hrun := notify_ok (hevents ▸ he) (haudience ▸ hr) hd
    (fun k hk => nomatch hfault.symm.trans hk) now
  have hnodup : (s'.missing e.id users).Nodup := hd.sublist List.filter_sublist
  have hmissing : ∀ u ∈ s'.missing e.id users, (e.id, u) ∉ s'.notificationKeys :=
    fun u hu => (Store.mem_missing.1 hu).2
  refine ⟨_, hrun, hevents, haudience, ?_, ?_⟩
  · rw [Store.notificationKeys_noticed hnodup hmissing, hkeys, hleft, List.append_assoc,
      ← List.map_append, List.take_append_drop]
  · rw [Store.rows_noticed hnodup hmissing]
    exact List.prefix_append _ _

/-- A run that is cut short after `k` insertions is made good by the next one. The first run tells
all who are missing, or, if there are more than `k`, the first `k` of them, and ends in the error of
the store. After that, with the fault disarmed and whatever was read in between, a second run adds
what is left at the end of the table: there are notifications for the same events and users as after
one run without a fault, those of before and those of all who were missing. Any further run changes
nothing and gives the stored notifications of the recipients, who are the same every time. -/
theorem notify_converges (h : Handlers) {s : Store} {id : Ident} {e : Event}
    (he : s.events.find? id = some e) (k : Nat) (now later last : Instant)
    (readings : List (Ident × Instant)) :
    ∃ users, h.registry.recipients e s.audience = .ok users ∧ users.Pairwise (· < ·) ∧
      let missing := s.missing e.id users
      let first := h.notify (s.failNotificationsAfter k) id now
      let between := first.2.disarm.readAll readings
      let second := h.notify between id later
      let whole := h.notify s.disarm id now
      (missing.length ≤ k → first = (.ok (.notified users.length),
        s.noticed e now missing (some (k - missing.length)))) ∧
      (k < missing.length → first = (.error (.store .injectedNotificationFailure),
        s.noticed e now (missing.take k) none)) ∧
      first.2.notificationKeys = s.notificationKeys ++ (missing.take k).map (fun u => (e.id, u)) ∧
      whole.2.notificationKeys = s.notificationKeys ++ missing.map (fun u => (e.id, u)) ∧
      second.1 = .ok (.notified users.length) ∧
      second.2.notificationKeys = whole.2.notificationKeys ∧
      s.notifications.rows <+: first.2.notifications.rows ∧
      between.notifications.rows <+: second.2.notifications.rows ∧
      h.notify second.2 id last = (.ok (.notified users.length), second.2) ∧
      ∃ ns, second.2.notifyRecipients h.registry e last = (.ok ns, second.2) ∧
        ns.map some = users.map fun u => second.2.notifications.find? (e.id, u) := by
  obtain ⟨-, users, -, hr, -, hsorted⟩ := h.registry.recipients_audience e s
  have hd : users.Nodup := Ident.nodup_of_pairwise hsorted
  refine ⟨users, hr, hsorted, ?_⟩
  intro missing first between second whole
  obtain ⟨hok, herror, fault, hfirst⟩ := notify_armed he hr hd k now
  change first.2 = s.noticed e now (missing.take k) fault at hfirst
  have htake : (missing.take k).Nodup :=
    (hd.sublist List.filter_sublist).sublist (List.take_sublist k missing)
  have htold : ∀ u ∈ missing.take k, (e.id, u) ∉ s.notificationKeys :=
    fun u hu => (Store.mem_missing.1 (List.mem_of_mem_take hu)).2
  have hkeys : first.2.notificationKeys =
      s.notificationKeys ++ (missing.take k).map fun u => (e.id, u) := by
    rw [hfirst, Store.notificationKeys_noticed htake htold]
  have hprefix : s.notifications.rows <+: first.2.notifications.rows := by
    rw [hfirst, Store.rows_noticed htake htold]
    exact List.prefix_append _ _
  -- Reading touches neither what recipients are computed from nor who has been told.
  obtain ⟨t, hbetween, hread⟩ := first.2.disarm.readAll_frame readings
  change between = _ at hbetween
  have hevents : between.events = s.events := by rw [hbetween, hfirst]; rfl
  have haudience : between.audience = s.audience := by rw [hbetween, hfirst]; rfl
  have hdisarmed : between.notificationFault = none := by rw [hbetween]; rfl
  obtain ⟨s₂, hsecond, hevents₂, haudience₂, hkeys₂, hprefix₂⟩ :=
    notify_again he hr hd (hread.trans hkeys) hevents haudience hdisarmed later
  change second = _ at hsecond
  -- The whole run is a second run after nobody was told.
  have hnobody : s.disarm.notificationKeys =
      s.notificationKeys ++ (missing.take 0).map fun u => (e.id, u) := (List.append_nil _).symm
  obtain ⟨s₃, hwhole, -, -, hkeys₃, -⟩ := notify_again he hr hd hnobody rfl rfl rfl now
  change whole = _ at hwhole
  have hnone : s₂.missing e.id users = [] := by
    rw [Store.missing_of_keys hkeys₂]
    exact List.filter_eq_nil_iff.2 fun u hu => by simpa using hu
  obtain ⟨hagain, hstored⟩ :=
    notify_settled (hevents₂ ▸ he) (haudience₂ ▸ hr) hd hnone last
  rw [hsecond, hwhole]
  exact ⟨hok, herror, hkeys, hkeys₃, rfl, hkeys₂.trans hkeys₃.symm, hprefix, hprefix₂, hagain,
    hstored⟩

/-- Three users watch a board besides the creator, one of them has been told. The first run ends
after one insertion, the second tells the third user, and the next changes nothing. -/
theorem notify_converges_after_one :
    let now : Instant := ⟨0, 0⟩
    let e : Event := ⟨⟨6⟩, ⟨9⟩, ⟨5⟩, ⟨1⟩, .card ⟨7⟩, Action.cardClosed, [], now⟩
    let s : Store := { (Store.empty 10).addBoard ⟨⟨5⟩, ⟨9⟩, "ops", [⟨4⟩, ⟨2⟩, ⟨3⟩, ⟨1⟩]⟩ with
      events := .ofList [e]
      notifications := .ofList [⟨⟨8⟩, ⟨3⟩, ⟨6⟩, ⟨1⟩, now, none⟩] }
    let h := Handlers.ofConfig .standard
    let first := h.notify (s.failNotificationsAfter 1) ⟨6⟩ now
    let second := h.notify (first.2.disarm.readAll [(⟨8⟩, now)]) ⟨6⟩ now
    s.events.find? ⟨6⟩ = some e ∧
      first.1 = .error (.store .injectedNotificationFailure) ∧
      first.2.notificationKeys = [(⟨6⟩, ⟨3⟩), (⟨6⟩, ⟨2⟩)] ∧
      second.1 = .ok (.notified 3) ∧
      second.2.notificationKeys = [(⟨6⟩, ⟨3⟩), (⟨6⟩, ⟨2⟩), (⟨6⟩, ⟨4⟩)] ∧
      h.notify second.2 ⟨6⟩ now = (.ok (.notified 3), second.2) := by
  intro now e s h first second
  have he : s.events.find? ⟨6⟩ = some e := rfl
  have hsorted : Ident.sortDistinct [⟨4⟩, ⟨2⟩, ⟨3⟩] = [⟨2⟩, ⟨3⟩, ⟨4⟩] := by
    refine Ident.sortDistinct_eq (by decide) fun u => ?_
    simp only [List.mem_cons, List.not_mem_nil, or_false]
    tauto
  have hr : h.registry.recipients e s.audience = .ok [⟨2⟩, ⟨3⟩, ⟨4⟩] := by
    rw [← hsorted]
    rfl
  have hm : s.missing e.id [⟨2⟩, ⟨3⟩, ⟨4⟩] = [⟨2⟩, ⟨4⟩] := by decide
  have hkeys : s.notificationKeys = [(⟨6⟩, ⟨3⟩)] := rfl
  obtain ⟨users, hu, -, hruns⟩ := notify_converges h he 1 now now now [(⟨8⟩, now)]
  cases hr.symm.trans hu
  obtain ⟨-, herror, hfirst, hwhole, hsecond, hsame, -, -, hagain, -⟩ := hruns
  rw [hm] at herror hfirst hwhole
  rw [hkeys] at hfirst hwhole
  exact ⟨he, congrArg Prod.fst (herror (by decide)), hfirst, hsecond, hsame.trans hwhole, hagain⟩

end Handlers

end BoardActivity
