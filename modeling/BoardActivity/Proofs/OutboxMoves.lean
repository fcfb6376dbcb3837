import BoardActivity.Proofs.TableRows
import BoardActivity.Store.Outbox
import Mathlib.Data.List.Perm.Basic

/-!
# Moves of the outbox

Whatever is done to the outbox is made of five moves: identifiers are taken from the supply, a task
is inserted under one of them, rows are settled in place, rows are claimed, and the rows of some
subjects are removed. Each operation is shown here to be such a move, with all guards that it
checks; what every move preserves is then preserved by any history of operations.

A move is labelled with the claims that it hands out. Which tasks may be inserted is a parameter.
-/

namespace BoardActivity

namespace TaskRow

/-- What of a row never changes. -/
def face (r : TaskRow) : Ident × TaskKind × Ident × Nat × Nat :=
  (r.id, r.kind, r.subject, r.maxAttempts, r.seq)

/-- What can become of a row in place without a new attempt. -/
inductive Step : TaskRow → TaskRow → Prop
  | rest (r : TaskRow) : Step r r
  | complete {r : TaskRow} : r.status = .claimed → Step r r.complete
  | postpone {r : TaskRow} (error : String) (visibleAt : Instant) : r.status = .claimed →
      r.attempt < r.maxAttempts → Step r (r.postpone error visibleAt)
  | bury {r : TaskRow} (error : String) : r.status = .claimed → r.maxAttempts ≤ r.attempt →
      Step r (r.bury error)
  | revive {r : TaskRow} (now : Instant) : r.status = .claimed → r.attempt < r.maxAttempts →
      Step r { r with status := .pending, visibleAt := now, claimedBy := none, claimedAt := none }

theorem Step.release {r : TaskRow} (now : Instant) (h : r.status = .claimed) :
    Step r (r.release now) := by
  unfold TaskRow.release
  split_ifs with hm
  · exact .bury lostText h hm
  · exact .revive now h (by omega)

theorem Step.face_eq {r r' : TaskRow} (h : Step r r') : r'.face = r.face := by
  cases h <;> rfl

theorem Step.attempt_eq {r r' : TaskRow} (h : Step r r') : r'.attempt = r.attempt := by
  cases h <;> rfl

/-- Only a claimed row changes without a new attempt, and it is not claimed afterwards. -/
theorem Step.eq_or {r r' : TaskRow} (h : Step r r') :
    r' = r ∨ (r.status = .claimed ∧ r'.status ≠ .claimed) := by
  cases h with
  | rest => exact .inl rfl
  | complete hc => exact .inr ⟨hc, by simp [TaskRow.complete]⟩
  | postpone _ _ hc _ => exact .inr ⟨hc, by simp [TaskRow.postpone]⟩
  | bury _ hc _ => exact .inr ⟨hc, by simp [TaskRow.bury]⟩
  | revive _ hc _ => exact .inr ⟨hc, by simp⟩

theorem face_claim (r : TaskRow) (worker : String) (now : Instant) :
    (r.claim worker now).face = r.face := rfl

theorem id_of_face_eq {r r' : TaskRow} (h : r'.face = r.face) : r'.id = r.id :=
  congrArg Prod.fst h

theorem isClaimable_iff {r : TaskRow} {kinds : List TaskKind} {now : Instant} :
    r.isClaimable kinds now = true ↔ r.status = .pending ∧ r.visibleAt ≤ now ∧ r.kind ∈ kinds := by
  simp [isClaimable, and_assoc]

theorem isHeldBy_iff {r : TaskRow} {t : Task} : r.isHeldBy t = true ↔
    r.status = .claimed ∧ r.attempt = t.attempt ∧ r.claimedBy = some t.claimedBy := by
  simp [isHeldBy, and_assoc]

theorem status_of_isStale {r : TaskRow} {cutoff : Instant} (h : r.isStale cutoff = true) :
    r.status = .claimed := by
  simp only [isStale, Bool.and_eq_true, beq_iff_eq] at h
  exact h.1

end TaskRow

namespace Outbox

theorem find?_id {o : Outbox} {id : Ident} {r : TaskRow} (h : o.rows.find? id = some r) :
    r ∈ o.rows.rows ∧ r.id = id :=
  Table.find?_eq_some_iff.1 h

def update (o : Outbox) (f : TaskRow → TaskRow) (hf : ∀ r, (f r).id = r.id) : Outbox :=
  { o with rows := o.rows.mapRows f hf }

theorem find?_update (o : Outbox) (f : TaskRow → TaskRow) (hf : ∀ r, (f r).id = r.id) (id : Ident) :
    (o.update f hf).rows.find? id = (o.rows.find? id).map f :=
  Table.find?_mapRows o.rows f hf id

theorem ext {o o' : Outbox} (hr : o.rows.rows = o'.rows.rows) (hi : o.index = o'.index)
    (hs : o.seq = o'.seq) : o = o' := by
  obtain ⟨rows, index, seq⟩ := o
  obtain ⟨rows', index', seq'⟩ := o'
  cases Table.ext_rows hr
  cases hi
  cases hs
  rfl

theorem update_id (o : Outbox) : o.update (fun r => r) (fun _ => rfl) = o :=
  ext (List.map_id' o.rows.rows) rfl rfl

/-- The outbox after its rows were settled in place. -/
def Settled (o o' : Outbox) : Prop :=
  ∃ f hf, (∀ r ∈ o.rows.rows, r.Step (f r)) ∧ o' = o.update f hf

theorem Settled.refl (o : Outbox) : o.Settled o :=
  ⟨fun r => r, fun _ => rfl, fun r _ => .rest r, (update_id o).symm⟩

/-- Writing back one changed row changes this row and no other. -/
theorem putRow_eq_update {o : Outbox} {r : TaskRow} (g : TaskRow → TaskRow)
    (hg : ∀ x, (g x).id = x.id) (h : o.rows.find? r.id = some r) :
    o.putRow (g r) = o.update (fun x => if x.id = r.id then g x else x)
      (fun x => by split_ifs <;> simp [hg]) := by
  have hk : o.rows.find? (Keyed.key (g r)) = some r := (congrArg o.rows.find? (hg r)).trans h
  refine ext ?_ rfl rfl
  change (o.rows.put (g r)).rows = o.rows.rows.map fun x => if x.id = r.id then g x else x
  rw [Table.rows_put_of_present hk]
  apply List.map_congr_left
  intro x hx
  have hxr : (Keyed.key x = Keyed.key (g r)) = (x.id = r.id) := congrArg (x.id = ·) (hg r)
  simp only [hxr]
  split_ifs with he
  · rw [Table.eq_of_key_eq hx (find?_id h).1 he]
  · rfl

theorem settled_putRow {o : Outbox} {r : TaskRow} (g : TaskRow → TaskRow)
    (hg : ∀ x, (g x).id = x.id) (h : o.rows.find? r.id = some r) (hs : r.Step (g r)) :
    o.Settled (o.putRow (g r)) := by
  refine ⟨_, _, ?_, putRow_eq_update g hg h⟩
  intro x hx
  split_ifs with he
  · rw [Table.eq_of_key_eq hx (find?_id h).1 he]
    exact hs
  · exact .rest x

/-- The row that a claim holds is the stored one, with the status, attempt and worker of the
claim. -/
theorem held_eq_ok_iff {o : Outbox} {t : Task} {r : TaskRow} :
    o.held t = .ok r ↔ o.rows.find? t.id = some r ∧ r.isHeldBy t = true := by
  unfold held
  cases h : o.rows.find? t.id with
  | none => simp
  | some x =>
    simp only [Option.some.injEq]
    split_ifs with hx
    · constructor
      · intro he
        cases he
        exact ⟨rfl, hx⟩
      · rintro ⟨rfl, -⟩
        rfl
    · constructor
      · intro he
        cases he
      · rintro ⟨rfl, hr⟩
        exact (hx hr).elim

theorem held_eq_error {o : Outbox} {t : Task} {e : Error} (h : o.held t = .error e) :
    (o.rows.find? t.id = none ∧ e = .notFound "task" t.id) ∨
      (∃ r, o.rows.find? t.id = some r ∧ r.isHeldBy t = false ∧ e = .claimLost t.id) := by
  unfold held at h
  cases hr : o.rows.find? t.id with
  | none =>
    rw [hr] at h
    exact .inl ⟨rfl, (Except.error.inj h).symm⟩
  | some r =>
    simp only [hr] at h
    split_ifs at h with hx
    exact .inr ⟨r, rfl, by simpa using hx, (Except.error.inj h).symm⟩

theorem complete_of_held {o : Outbox} {t : Task} {r : TaskRow} (h : o.held t = .ok r) :
    o.complete t = (.ok (), o.putRow r.complete) := by
  simp [complete, h]

theorem complete_of_error {o : Outbox} {t : Task} {e : Error} (h : o.held t = .error e) :
    o.complete t = (.error e, o) := by
  simp [complete, h]

theorem fail_of_error {o : Outbox} {t : Task} {e : Error} (h : o.held t = .error e)
    (error : String) (delay : Span) (now : Instant) :
    o.fail t error delay now = (some (.error e), o) := by
  simp [fail, h]

/-- What a failure does to a claim that is held: the task waits, or is stranded as waiting because
its next attempt lies beyond the calendar, or is dead. -/
theorem fail_of_held {o : Outbox} {t : Task} {r : TaskRow} (h : o.held t = .ok r)
    (error : String) (delay : Span) (now : Instant) :
    (∃ v, r.attempt < r.maxAttempts ∧ now.shift? delay.toOffset = some v ∧
      o.fail t error delay now =
        (some (.ok (.willRetry (r.attempt + 1) delay)), o.putRow (r.postpone error v))) ∨
    (r.attempt < r.maxAttempts ∧ now.shift? delay.toOffset = none ∧
      o.fail t error delay now = (none, o.putRow (r.postpone error r.visibleAt))) ∨
    (r.maxAttempts ≤ r.attempt ∧
      o.fail t error delay now = (some (.ok .dead), o.putRow (r.bury error))) := by
  by_cases hm : r.attempt < r.maxAttempts
  · cases hv : now.shift? delay.toOffset with
    | some v => exact .inl ⟨v, hm, rfl, by simp [fail, h, hm, hv]⟩
    | none => exact .inr (.inl ⟨hm, rfl, by simp [fail, h, hm, hv]⟩)
  · exact .inr (.inr ⟨by omega, by simp [fail, h, hm]⟩)

theorem held_find? {o : Outbox} {t : Task} {r : TaskRow} (h : o.held t = .ok r) :
    o.rows.find? r.id = some r ∧ r.id = t.id ∧ r.status = .claimed := by
  obtain ⟨hf, hh⟩ := held_eq_ok_iff.1 h
  have hid := (find?_id hf).2
  exact ⟨hid ▸ hf, hid, (TaskRow.isHeldBy_iff.1 hh).1⟩

/-- The outbox after a row gave up its claim. -/
def Yields (o : Outbox) (r : TaskRow) (o' : Outbox) : Prop :=
  ∃ g : TaskRow → TaskRow, (∀ x, (g x).id = x.id) ∧ r.Step (g r) ∧ (g r).status ≠ .claimed ∧
    o' = o.putRow (g r)

theorem Yields.settled {o o' : Outbox} {r : TaskRow} (h : o.Yields r o')
    (hf : o.rows.find? r.id = some r) : o.Settled o' := by
  obtain ⟨g, hg, hs, -, rfl⟩ := h
  exact settled_putRow g hg hf hs

theorem Yields.find?_self {o o' : Outbox} {r : TaskRow} (h : o.Yields r o') :
    ∃ r', r.Step r' ∧ r'.status ≠ .claimed ∧ o'.rows.find? r.id = some r' := by
  obtain ⟨g, hg, hs, hn, rfl⟩ := h
  exact ⟨g r, hs, hn, (Table.find?_put o.rows (g r) r.id).trans (if_pos (hg r))⟩

theorem Yields.find?_of_ne {o o' : Outbox} {r : TaskRow} (h : o.Yields r o') {id : Ident}
    (hne : r.id ≠ id) : o'.rows.find? id = o.rows.find? id := by
  obtain ⟨g, hg, -, -, rfl⟩ := h
  have hid : (g r).id ≠ id := (hg r).symm ▸ hne
  exact (Table.find?_put o.rows (g r) id).trans (if_neg hid)

theorem yields_complete {o : Outbox} {t : Task} {r : TaskRow} (h : o.held t = .ok r) :
    o.Yields r (o.complete t).2 := by
  obtain ⟨-, -, hc⟩ := held_find? h
  rw [complete_of_held h]
  exact ⟨TaskRow.complete, fun _ => rfl, .complete hc, by simp [TaskRow.complete], rfl⟩

theorem yields_fail {o : Outbox} {t : Task} {r : TaskRow} (h : o.held t = .ok r) (error : String)
    (delay : Span) (now : Instant) : o.Yields r (o.fail t error delay now).2 := by
  obtain ⟨-, -, hc⟩ := held_find? h
  rcases fail_of_held h error delay now with ⟨v, hm, -, he⟩ | ⟨hm, -, he⟩ | ⟨hm, he⟩
  · rw [he]
    exact ⟨fun x => x.postpone error v, fun _ => rfl, .postpone error v hc hm,
      by simp [TaskRow.postpone], rfl⟩
  · rw [he]
    exact ⟨fun x => x.postpone error r.visibleAt, fun _ => rfl,
      .postpone error r.visibleAt hc hm, by simp [TaskRow.postpone], rfl⟩
  · rw [he]
    exact ⟨fun x => x.bury error, fun _ => rfl, .bury error hc hm, by simp [TaskRow.bury], rfl⟩

theorem complete_settled (o : Outbox) (t : Task) : o.Settled (o.complete t).2 := by
  cases h : o.held t with
  | error e =>
    rw [complete_of_error h]
    exact .refl o
  | ok r => exact (yields_complete h).settled (held_find? h).1

theorem fail_settled (o : Outbox) (t : Task) (error : String) (delay : Span) (now : Instant) :
    o.Settled (o.fail t error delay now).2 := by
  cases h : o.held t with
  | error e =>
    rw [fail_of_error h]
    exact .refl o
  | ok r => exact (yields_fail h error delay now).settled (held_find? h).1

theorem id_release (r : TaskRow) (now : Instant) : (r.release now).id = r.id := by
  unfold TaskRow.release
  split_ifs <;> rfl

/-- Taking back claims releases every stale row, and no other. -/
theorem reclaim_eq_some {o o' : Outbox} {threshold : Span} {now : Instant} {n : Nat}
    (h : o.reclaim threshold now = some (n, o')) :
    ∃ cutoff, now.shift? (-threshold.toOffset) = some cutoff ∧
      o' = o.update (fun r => if r.isStale cutoff then r.release now else r)
        (fun r => by split_ifs <;> simp [id_release]) := by
  unfold reclaim at h
  obtain ⟨cutoff, hc, he⟩ := Option.map_eq_some_iff.1 h
  exact ⟨cutoff, hc, (congrArg Prod.snd he).symm⟩

theorem reclaim_settled {o o' : Outbox} {threshold : Span} {now : Instant} {n : Nat}
    (h : o.reclaim threshold now = some (n, o')) : o.Settled o' := by
  obtain ⟨cutoff, -, rfl⟩ := reclaim_eq_some h
  refine ⟨_, _, ?_, rfl⟩
  intro r _
  split_ifs with hs
  · exact .release now (TaskRow.status_of_isStale hs)
  · exact .rest r

theorem mem_of_mem_claimable {o : Outbox} {kinds : List TaskKind} {now : Instant} {max : Nat}
    {r : TaskRow} (h : r ∈ o.claimable kinds now max) :
    r ∈ o.rows.rows ∧ r.isClaimable kinds now = true :=
  List.mem_filter.1 (List.mem_mergeSort.1 (List.mem_of_mem_take h))

theorem find?_of_mem_claimable {o : Outbox} {kinds : List TaskKind} {now : Instant} {max : Nat}
    {r : TaskRow} (h : r ∈ o.claimable kinds now max) :
    o.rows.find? r.id = some r ∧ r.status = .pending := by
  obtain ⟨hin, hclaimable⟩ := mem_of_mem_claimable h
  exact ⟨Table.mem_rows_iff.1 hin, (TaskRow.isClaimable_iff.1 hclaimable).1⟩

theorem nodup_claimable (o : Outbox) (kinds : List TaskKind) (now : Instant) (max : Nat) :
    ((o.claimable kinds now max).map TaskRow.id).Nodup := by
  have hf : ((o.rows.rows.filter fun r => r.isClaimable kinds now).map TaskRow.id).Nodup :=
    (List.filter_sublist.map TaskRow.id).nodup o.rows.distinct
  have hp := (List.mergeSort_perm (o.rows.rows.filter fun r => r.isClaimable kinds now)
    fun a b => decide (a.seq ≤ b.seq)).map TaskRow.id
  exact ((List.take_sublist max _).map TaskRow.id).nodup (hp.nodup_iff.2 hf)

/-- What claiming makes of a row. -/
def claimed (o : Outbox) (worker : String) (kinds : List TaskKind) (max : Nat) (now : Instant)
    (r : TaskRow) : TaskRow :=
  if r ∈ o.claimable kinds now max then r.claim worker now else r

theorem face_claimed (o : Outbox) (worker : String) (kinds : List TaskKind) (max : Nat)
    (now : Instant) (r : TaskRow) : (o.claimed worker kinds max now r).face = r.face := by
  unfold claimed
  split_ifs <;> rfl

theorem claim_eq_update (o : Outbox) (worker : String) (kinds : List TaskKind) (max : Nat)
    (now : Instant) : (o.claim worker kinds max now).2 =
      o.update (o.claimed worker kinds max now)
        (fun r => TaskRow.id_of_face_eq (o.face_claimed worker kinds max now r)) :=
  ext (Table.rows_putAll_map o.rows (o.claimable kinds now max) (fun r => r.claim worker now)
    (fun _ => rfl) (fun _ hr => (mem_of_mem_claimable hr).1)
    (o.nodup_claimable kinds now max)) rfl rfl

theorem find?_claim (o : Outbox) (worker : String) (kinds : List TaskKind) (max : Nat)
    (now : Instant) (id : Ident) : (o.claim worker kinds max now).2.rows.find? id =
      (o.rows.find? id).map (o.claimed worker kinds max now) := by
  rw [claim_eq_update, find?_update]

theorem claim_fst (o : Outbox) (worker : String) (kinds : List TaskKind) (max : Nat)
    (now : Instant) : (o.claim worker kinds max now).1 =
      (o.claimable kinds now max).map fun r => (r.claim worker now).toTask worker := by
  simp [claim, List.map_map]

/-- The rows of an outbox after an insertion under a new identifier. -/
theorem insert_rows {o : Outbox} {id : Ident} (h : o.rows.find? id = none) (t : NewTask)
    (now : Instant) :
    (o.insert t id now).rows.rows = o.rows.rows ++ [.ofNew t id (o.seq + 1) now] :=
  Table.rows_put_of_absent h

theorem index_rows_insert {o : Outbox} {t : NewTask} (h : o.has t.kind t.subject = false)
    (id : Ident) (now : Instant) :
    (o.insert t id now).index.rows = o.index.rows ++ [⟨t.kind, t.subject, id⟩] := by
  have hnone : o.index.find? (t.kind, t.subject) = none := by simpa [has, Table.contains] using h
  exact Table.rows_put_of_absent hnone

theorem find?_insert (o : Outbox) (t : NewTask) (id : Ident) (now : Instant) (i : Ident) :
    (o.insert t id now).rows.find? i =
      if id = i then some (.ofNew t id (o.seq + 1) now) else o.rows.find? i :=
  Table.find?_put o.rows _ i

theorem index_insert (o : Outbox) (t : NewTask) (id : Ident) (now : Instant)
    (k : TaskKind × Ident) : (o.insert t id now).index.find? k =
      if (t.kind, t.subject) = k then some ⟨t.kind, t.subject, id⟩ else o.index.find? k :=
  Table.find?_put o.index _ k

theorem has_iff {o : Outbox} {kind : TaskKind} {subject : Ident} :
    o.has kind subject = true ↔ ∃ e, o.index.find? (kind, subject) = some e :=
  Table.contains_iff

theorem has_insert (o : Outbox) (t : NewTask) (id : Ident) (now : Instant) (kind : TaskKind)
    (subject : Ident) : (o.insert t id now).has kind subject = true ↔
      (t.kind = kind ∧ t.subject = subject) ∨ o.has kind subject = true := by
  simp only [has_iff, index_insert, Prod.mk.injEq]
  split_ifs with h <;> simp [h]

/-- A task of one kind does not stand for another kind. -/
theorem has_insert_of_ne {o : Outbox} {t : NewTask} {kind : TaskKind} (h : t.kind ≠ kind)
    (id : Ident) (now : Instant) (subject : Ident) :
    (o.insert t id now).has kind subject = o.has kind subject := by
  have hk : (t.kind, t.subject) ≠ (kind, subject) := fun he => h (congrArg Prod.fst he)
  simp only [has, Table.contains, index_insert, if_neg hk]

theorem find?_removeSubjects (o : Outbox) (subjects : List Ident) (id : Ident) :
    (o.removeSubjects subjects).rows.find? id =
      (o.rows.find? id).filter fun r => r.subject ∉ subjects :=
  Table.find?_keep _ o.rows id

theorem index_removeSubjects (o : Outbox) (subjects : List Ident) (k : TaskKind × Ident) :
    (o.removeSubjects subjects).index.find? k =
      (o.index.find? k).filter fun e => e.subject ∉ subjects :=
  Table.find?_keep _ o.index k

theorem has_removeSubjects (o : Outbox) (subjects : List Ident) (kind : TaskKind)
    (subject : Ident) : (o.removeSubjects subjects).has kind subject = true ↔
      o.has kind subject = true ∧ subject ∉ subjects := by
  simp only [has_iff, index_removeSubjects, Option.filter_eq_some_iff, decide_eq_true_eq]
  constructor
  · rintro ⟨e, he, hs⟩
    have hk : e.subject = subject := congrArg Prod.snd (Table.find?_eq_some_iff.1 he).2
    exact ⟨⟨e, he⟩, hk ▸ hs⟩
  · rintro ⟨⟨e, he⟩, hs⟩
    have hk : e.subject = subject := congrArg Prod.snd (Table.find?_eq_some_iff.1 he).2
    exact ⟨e, he, hk.symm ▸ hs⟩

theorem removeSubjects_nil (o : Outbox) : o.removeSubjects [] = o :=
  ext (List.filter_eq_self.2 (by simp))
    (Table.ext_rows (List.filter_eq_self.2 (by simp))) rfl

end Outbox

end BoardActivity
