import BoardActivity.Proofs.OutboxMoves
import Mathlib.Order.Nat

/-!
# Histories of the outbox

A history is a sequence of moves. Every claim handed out in it is remembered, and the invariant
`Chronicle` ties the rows to these claims: a row has been attempted as often as it was claimed, no
attempt of a row is handed out twice, and no identifier is used twice. `Outbox.Sound` is the
invariant of the rows and their index, without the history; it needs tasks of at least one attempt.
That rows and index name the same tasks (`Outbox.Indexed`) does not need it.
-/

namespace BoardActivity

/-- Status, attempts and claimant of a row agree. -/
def TaskRow.Sound (r : TaskRow) : Prop :=
  match r.status with
  | .pending => r.attempt < r.maxAttempts ∧ r.claimedBy = none
  | .claimed => 1 ≤ r.attempt ∧ r.attempt ≤ r.maxAttempts ∧ r.claimedBy.isSome ∧ r.claimedAt.isSome
  | .completed => 1 ≤ r.attempt ∧ r.attempt ≤ r.maxAttempts ∧ r.claimedBy = none
  | .dead => r.attempt = r.maxAttempts ∧ r.claimedBy = none

namespace TaskRow

theorem sound_ofNew {t : NewTask} (h : 1 ≤ t.maxAttempts) (id : Ident) (seq : Nat) (now : Instant) :
    (TaskRow.ofNew t id seq now).Sound :=
  ⟨h, rfl⟩

theorem Step.sound {r r' : TaskRow} (h : Step r r') (hr : r.Sound) : r'.Sound := by
  cases h with
  | rest => exact hr
  | complete hc =>
      simp only [Sound, hc] at hr
      exact ⟨hr.1, hr.2.1, rfl⟩
  | postpone _ _ _ hm => exact ⟨hm, rfl⟩
  | bury _ hc hm =>
      simp only [Sound, hc] at hr
      exact ⟨Nat.le_antisymm hr.2.1 hm, rfl⟩
  | revive _ _ hm => exact ⟨hm, rfl⟩

theorem sound_claim {r : TaskRow} (hp : r.status = .pending) (hr : r.Sound) (worker : String)
    (now : Instant) : (r.claim worker now).Sound := by
  simp only [Sound, hp] at hr
  exact ⟨Nat.succ_pos _, hr.1, rfl, rfl⟩

theorem Sound.attempt_le {r : TaskRow} (hr : r.Sound) : r.attempt ≤ r.maxAttempts := by
  unfold Sound at hr
  split at hr
  · exact hr.1.le
  · exact hr.2.1
  · exact hr.2.1
  · exact hr.1.le

end TaskRow

/-- A table whose rows have identifiers in use has no row under one that is not. -/
theorem Table.find?_eq_none_of_below {α : Type} [Keyed α Ident] {rows : Table α} {n : Nat}
    (h : ∀ r ∈ rows.rows, (Keyed.key r).value < n) {id : Ident} (hid : n ≤ id.value) :
    rows.find? id = none := by
  refine Table.find?_eq_none_iff.2 fun r hr he => ?_
  have hlt := h r hr
  rw [he] at hlt
  omega

namespace Outbox

/-- One move of an outbox, with the claims that it hands out. Identifiers below the number given are
in use already. -/
inductive Move (allowed : NewTask → Prop) : Outbox → Nat → List Task → Outbox → Nat → Prop
  | mint (o : Outbox) {n n' : Nat} : n ≤ n' → Move allowed o n [] o n'
  | insert {o : Outbox} {n n' : Nat} (t : NewTask) {id : Ident} (now : Instant) : allowed t →
      o.has t.kind t.subject = false → n ≤ id.value → id.value < n' →
      Move allowed o n [] (o.insert t id now) n'
  | settle {o o' : Outbox} (n : Nat) : o.Settled o' → Move allowed o n [] o' n
  | claim (o : Outbox) (n : Nat) (worker : String) (kinds : List TaskKind) (max : Nat)
      (now : Instant) :
      Move allowed o n (o.claim worker kinds max now).1 (o.claim worker kinds max now).2 n
  | remove (o : Outbox) (n : Nat) (subjects : List Ident) :
      Move allowed o n [] (o.removeSubjects subjects) n

inductive Moves (allowed : NewTask → Prop) : Outbox → Nat → List Task → Outbox → Nat → Prop
  | done (o : Outbox) (n : Nat) : Moves allowed o n [] o n
  | snoc {o o' o'' : Outbox} {n n' n'' : Nat} {ts us : List Task} : Moves allowed o n ts o' n' →
      Move allowed o' n' us o'' n'' → Moves allowed o n (ts ++ us) o'' n''

variable {allowed : NewTask → Prop} {o o' o'' : Outbox} {n n' n'' : Nat} {ts us claims : List Task}

theorem Move.single (h : Move allowed o n ts o' n') : Moves allowed o n ts o' n' :=
  .snoc (.done o n) h

theorem Moves.trans (h : Moves allowed o n ts o' n') (k : Moves allowed o' n' us o'' n'') :
    Moves allowed o n (ts ++ us) o'' n'' := by
  induction k with
  | done => simpa using h
  | snoc _ hm ih => simpa only [List.append_assoc] using (ih h).snoc hm

theorem Move.next_le (h : Move allowed o n ts o' n') : n ≤ n' := by
  cases h with
  | mint hn => exact hn
  | insert _ _ _ _ hn hn' => omega
  | settle => exact le_rfl
  | claim => exact le_rfl
  | remove => exact le_rfl

theorem Moves.next_le (h : Moves allowed o n ts o' n') : n ≤ n' := by
  induction h with
  | done => exact le_rfl
  | snoc _ hm ih => exact ih.trans hm.next_le

/-- All rows have identifiers in use. -/
def Below (o : Outbox) (n : Nat) : Prop := ∀ r ∈ o.rows.rows, r.id.value < n

theorem Below.find?_eq_none (h : o.Below n) {id : Ident} (hid : n ≤ id.value) :
    o.rows.find? id = none :=
  Table.find?_eq_none_of_below h hid

/-- What a move does to a row: it goes with its subject, is settled, or is claimed if it waited, and
then the claim is handed out. -/
theorem Move.fate_claim (h : Move allowed o n ts o' n') {id : Ident} {r : TaskRow}
    (hr : o.rows.find? id = some r) (hid : id.value < n) :
    o'.rows.find? id = none ∨ ∃ r', o'.rows.find? id = some r' ∧
      (r.Step r' ∨ (r.status = .pending ∧ ∃ worker now, r' = r.claim worker now ∧
        r'.toTask worker ∈ ts)) := by
  cases h with
  | mint => exact .inr ⟨r, hr, .inl (.rest r)⟩
  | insert t now _ _ hn _ =>
      have hne : ∀ i : Ident, n ≤ i.value → i ≠ id := by
        rintro i hi rfl
        omega
      exact .inr ⟨r, by rw [find?_insert, if_neg (hne _ hn), hr], .inl (.rest r)⟩
  | settle _ hs =>
      obtain ⟨f, hf, hstep, rfl⟩ := hs
      exact .inr ⟨f r, by rw [find?_update, hr]; rfl, .inl (hstep r (find?_id hr).1)⟩
  | claim _ worker kinds max now =>
      refine .inr ⟨o.claimed worker kinds max now r, ?_, ?_⟩
      · rw [find?_claim, hr]
        rfl
      · unfold claimed
        split_ifs with hc
        · have hp := (find?_of_mem_claimable hc).2
          refine .inr ⟨hp, worker, now, rfl, ?_⟩
          rw [claim_fst]
          exact List.mem_map_of_mem (f := fun r => (r.claim worker now).toTask worker) hc
        · exact .inl (.rest r)
  | remove _ subjects =>
      rw [find?_removeSubjects, hr]
      by_cases hs : r.subject ∈ subjects
      · exact .inl (by simp [hs])
      · exact .inr ⟨r, by simp [hs], .inl (.rest r)⟩

/-- What a move does to a row, whoever claims it. -/
theorem Move.fate (h : Move allowed o n ts o' n') {id : Ident} {r : TaskRow}
    (hr : o.rows.find? id = some r) (hid : id.value < n) :
    o'.rows.find? id = none ∨ ∃ r', o'.rows.find? id = some r' ∧
      (r.Step r' ∨ (r.status = .pending ∧ ∃ worker now, r' = r.claim worker now)) := by
  rcases h.fate_claim hr hid with hn | ⟨r', hr', hs | ⟨hp, worker, now, heq, -⟩⟩
  · exact .inl hn
  · exact .inr ⟨r', hr', .inl hs⟩
  · exact .inr ⟨r', hr', .inr ⟨hp, worker, now, heq⟩⟩

/-- An identifier that was in use and is gone is never used again. -/
theorem Move.absent (h : Move allowed o n ts o' n') {id : Ident} (hr : o.rows.find? id = none)
    (hid : id.value < n) : o'.rows.find? id = none := by
  cases h with
  | mint => exact hr
  | insert t now _ _ hn _ =>
      rw [find?_insert, if_neg, hr]
      rintro rfl
      omega
  | settle _ hs =>
      obtain ⟨f, hf, -, rfl⟩ := hs
      rw [find?_update, hr]
      rfl
  | claim _ worker kinds max now =>
      rw [find?_claim, hr]
      rfl
  | remove _ subjects =>
      rw [find?_removeSubjects, hr]
      rfl

theorem Move.rows_below (h : Move allowed o n ts o' n') (hb : o.Below n) : o'.Below n' := by
  intro r' hr'
  by_cases hlt : r'.id.value < n
  · exact lt_of_lt_of_le hlt h.next_le
  · cases h with
    | mint hn => exact lt_of_lt_of_le (hb r' hr') hn
    | insert t now _ _ hn hn' =>
        rw [insert_rows (hb.find?_eq_none hn)] at hr'
        rcases List.mem_append.1 hr' with hr | hr
        · exact (hlt (hb r' hr)).elim
        · cases List.mem_singleton.1 hr
          exact hn'
    | settle _ hs =>
        obtain ⟨f, hf, -, rfl⟩ := hs
        obtain ⟨r, hr, rfl⟩ := List.mem_map.1 hr'
        exact (hlt (hf r ▸ hb r hr)).elim
    | claim _ worker kinds max now =>
        rw [claim_eq_update] at hr'
        obtain ⟨r, hr, rfl⟩ := List.mem_map.1 hr'
        have hid := TaskRow.id_of_face_eq (o.face_claimed worker kinds max now r)
        exact (hlt (hid ▸ hb r hr)).elim
    | remove _ subjects => exact (hlt (hb r' (List.mem_filter.1 hr').1)).elim

def claimCount (claims : List Task) (id : Ident) : Nat := claims.countP fun t => t.id == id

theorem claimCount_append (ts us : List Task) (id : Ident) :
    claimCount (ts ++ us) id = claimCount ts id + claimCount us id :=
  List.countP_append

theorem claimCount_eq_zero {id : Ident} (h : ∀ t ∈ ts, t.id ≠ id) : claimCount ts id = 0 := by
  apply List.countP_eq_zero.2
  intro t ht
  simpa using h t ht

/-- A claim takes each task at most once. -/
theorem claimCount_claim (o : Outbox) (worker : String) (kinds : List TaskKind) (max : Nat)
    (now : Instant) {r : TaskRow} (hr : r ∈ o.rows.rows) :
    claimCount (o.claim worker kinds max now).1 r.id =
      if r ∈ o.claimable kinds now max then 1 else 0 := by
  have hc : claimCount (o.claim worker kinds max now).1 r.id =
      ((o.claimable kinds now max).map TaskRow.id).count r.id := by
    rw [claimCount, claim_fst, List.countP_map, List.count, List.countP_map]
    rfl
  have hm : r.id ∈ (o.claimable kinds now max).map TaskRow.id ↔ r ∈ o.claimable kinds now max := by
    constructor
    · intro h
      obtain ⟨x, hx, he⟩ := List.mem_map.1 h
      rwa [← Table.eq_of_key_eq (mem_of_mem_claimable hx).1 hr he]
    · exact List.mem_map_of_mem
  rw [hc, (o.nodup_claimable kinds now max).count]
  simp only [hm]

theorem mem_claim {worker : String} {kinds : List TaskKind} {max : Nat} {now : Instant} {t : Task}
    (h : t ∈ (o.claim worker kinds max now).1) :
    ∃ r ∈ o.claimable kinds now max, t = (r.claim worker now).toTask worker := by
  rw [claim_fst] at h
  obtain ⟨r, hr, rfl⟩ := List.mem_map.1 h
  exact ⟨r, hr, rfl⟩

structure Chronicle (o : Outbox) (n : Nat) (claims : List Task) : Prop where
  below : o.Below n
  claims_below : ∀ t ∈ claims, t.id.value < n
  attempts : ∀ r ∈ o.rows.rows, r.attempt = claimCount claims r.id
  reached : ∀ t ∈ claims, ∀ r, o.rows.find? t.id = some r → t.attempt ≤ r.attempt
  distinct : (claims.map fun t => (t.id, t.attempt)).Nodup

theorem chronicle_empty (n : Nat) : empty.Chronicle n [] :=
  ⟨by simp [Below, empty, Table.empty], by simp, by simp [empty, Table.empty], by simp, by simp⟩

theorem Chronicle.settle (h : o.Chronicle n claims) (hs : o.Settled o') :
    o'.Chronicle n claims := by
  have hb : o'.Below n := Move.rows_below (.settle n hs : Move (fun _ => True) o n [] o' n) h.below
  obtain ⟨f, hf, hstep, rfl⟩ := hs
  refine ⟨hb, h.claims_below, ?_, ?_, h.distinct⟩
  · intro r' hr'
    obtain ⟨r, hr, rfl⟩ := List.mem_map.1 hr'
    rw [hf, (hstep r hr).attempt_eq]
    exact h.attempts r hr
  · intro t ht r' hr'
    rw [find?_update] at hr'
    obtain ⟨r, hr, rfl⟩ := Option.map_eq_some_iff.1 hr'
    rw [(hstep r (find?_id hr).1).attempt_eq]
    exact h.reached t ht r hr

theorem Chronicle.insert (h : o.Chronicle n claims) (t : NewTask) {id : Ident} (now : Instant)
    (hn : n ≤ id.value) (hn' : id.value < n') : (o.insert t id now).Chronicle n' claims := by
  have hrows := insert_rows (h.below.find?_eq_none hn) t now
  refine ⟨?_, fun c hc => (h.claims_below c hc).trans (by omega), ?_, ?_, h.distinct⟩
  · intro r hr
    rw [hrows] at hr
    rcases List.mem_append.1 hr with hr | hr
    · exact (h.below r hr).trans (by omega)
    · cases List.mem_singleton.1 hr
      exact hn'
  · intro r hr
    rw [hrows] at hr
    rcases List.mem_append.1 hr with hr | hr
    · exact h.attempts r hr
    · cases List.mem_singleton.1 hr
      refine (claimCount_eq_zero ?_).symm
      intro c hc he
      have hv := h.claims_below c hc
      rw [he] at hv
      exact absurd hv (not_lt.2 hn)
  · intro c hc r hr
    have hv := h.claims_below c hc
    rw [find?_insert, if_neg] at hr
    · exact h.reached c hc r hr
    · rintro rfl
      omega

theorem attempt_claimed {worker : String} {kinds : List TaskKind} {max : Nat} {now : Instant}
    {r : TaskRow} (hr : r ∈ o.rows.rows) : (o.claimed worker kinds max now r).attempt =
      r.attempt + claimCount (o.claim worker kinds max now).1 r.id := by
  rw [claimCount_claim o worker kinds max now hr]
  unfold claimed
  split_ifs <;> rfl

theorem Chronicle.claim (h : o.Chronicle n claims) (worker : String) (kinds : List TaskKind)
    (max : Nat) (now : Instant) : (o.claim worker kinds max now).2.Chronicle n
      (claims ++ (o.claim worker kinds max now).1) := by
  have hm : Move (fun _ => True) o n (o.claim worker kinds max now).1
      (o.claim worker kinds max now).2 n := .claim o n worker kinds max now
  refine ⟨hm.rows_below h.below, ?_, ?_, ?_, ?_⟩
  · intro t ht
    rcases List.mem_append.1 ht with ht | ht
    · exact h.claims_below t ht
    · obtain ⟨r, hr, rfl⟩ := mem_claim ht
      exact h.below r (mem_of_mem_claimable hr).1
  · intro r' hr'
    rw [claim_eq_update] at hr'
    obtain ⟨r, hr, rfl⟩ := List.mem_map.1 hr'
    rw [TaskRow.id_of_face_eq (o.face_claimed worker kinds max now r), attempt_claimed hr,
      claimCount_append, h.attempts r hr]
  · intro t ht r' hr'
    rw [find?_claim] at hr'
    obtain ⟨r, hr, rfl⟩ := Option.map_eq_some_iff.1 hr'
    rcases List.mem_append.1 ht with ht | ht
    · rw [attempt_claimed (find?_id hr).1]
      exact (h.reached t ht r hr).trans (Nat.le_add_right _ _)
    · obtain ⟨x, hx, rfl⟩ := mem_claim ht
      have he : x = r :=
        Table.eq_of_key_eq (mem_of_mem_claimable hx).1 (find?_id hr).1 (find?_id hr).2.symm
      subst he
      simp [claimed, hx, TaskRow.toTask]
  · rw [List.map_append, List.nodup_append']
    refine ⟨h.distinct, ?_, ?_⟩
    · rw [claim_fst, List.map_map]
      refine List.Nodup.of_map Prod.fst ?_
      rw [List.map_map]
      exact o.nodup_claimable kinds now max
    · intro p hp hp'
      obtain ⟨t, ht, rfl⟩ := List.mem_map.1 hp
      obtain ⟨u, hu, he⟩ := List.mem_map.1 hp'
      obtain ⟨r, hr, rfl⟩ := mem_claim hu
      have hid : r.id = t.id := congrArg Prod.fst he
      have hat : r.attempt + 1 = t.attempt := congrArg Prod.snd he
      have hle := h.reached t ht r (hid ▸ Table.mem_rows_iff.1 (mem_of_mem_claimable hr).1)
      omega

theorem Chronicle.remove (h : o.Chronicle n claims) (subjects : List Ident) :
    (o.removeSubjects subjects).Chronicle n claims := by
  refine ⟨fun r hr => h.below r (List.mem_filter.1 hr).1, h.claims_below,
    fun r hr => h.attempts r (List.mem_filter.1 hr).1, ?_, h.distinct⟩
  intro t ht r hr
  rw [find?_removeSubjects] at hr
  exact h.reached t ht r (Option.filter_eq_some_iff.1 hr).1

theorem Move.chronicle (h : Move allowed o n ts o' n') (hc : o.Chronicle n claims) :
    o'.Chronicle n' (claims ++ ts) := by
  cases h with
  | mint hn =>
      rw [List.append_nil]
      exact ⟨fun r hr => lt_of_lt_of_le (hc.below r hr) hn,
        fun t ht => lt_of_lt_of_le (hc.claims_below t ht) hn, hc.attempts, hc.reached, hc.distinct⟩
  | insert t now _ _ hn hn' =>
      rw [List.append_nil]
      exact hc.insert t now hn hn'
  | settle _ hs =>
      rw [List.append_nil]
      exact hc.settle hs
  | claim _ worker kinds max now => exact hc.claim worker kinds max now
  | remove _ subjects =>
      rw [List.append_nil]
      exact hc.remove subjects

theorem Moves.chronicle (h : Moves allowed o n ts o' n') (hc : o.Chronicle n claims) :
    o'.Chronicle n' (claims ++ ts) := by
  induction h with
  | done => simpa using hc
  | snoc _ hm ih => simpa only [List.append_assoc] using hm.chronicle (ih hc)

/-- Rows and index name the same tasks. -/
def Indexed (o : Outbox) : Prop :=
  ∀ kind subject id, (∃ e, o.index.find? (kind, subject) = some e ∧ e.task = id) ↔
    ∃ r, o.rows.find? id = some r ∧ r.kind = kind ∧ r.subject = subject

theorem indexed_empty : empty.Indexed := by simp [Indexed, empty]

theorem Indexed.update (h : o.Indexed) {f : TaskRow → TaskRow} (hf : ∀ r, (f r).id = r.id)
    (hface : ∀ r ∈ o.rows.rows, (f r).face = r.face) : (o.update f hf).Indexed := by
  intro kind subject id
  refine (h kind subject id).trans ?_
  rw [find?_update]
  cases hr : o.rows.find? id with
  | none => simp
  | some r =>
      have hr := hface r (find?_id hr).1
      simp only [TaskRow.face, Prod.mk.injEq] at hr
      simp [hr.2.1, hr.2.2.1]

theorem Indexed.settle (h : o.Indexed) (hs : o.Settled o') : o'.Indexed := by
  obtain ⟨f, hf, hstep, rfl⟩ := hs
  exact h.update hf fun r hr => (hstep r hr).face_eq

theorem Indexed.claim (h : o.Indexed) (worker : String) (kinds : List TaskKind) (max : Nat)
    (now : Instant) : (o.claim worker kinds max now).2.Indexed := by
  rw [claim_eq_update]
  exact h.update _ fun r _ => o.face_claimed worker kinds max now r

theorem Indexed.insert (h : o.Indexed) {t : NewTask} {id : Ident}
    (hk : o.has t.kind t.subject = false) (hid : o.rows.find? id = none) (now : Instant) :
    (o.insert t id now).Indexed := by
  intro kind subject i
  have hnone : o.index.find? (t.kind, t.subject) = none := by
    simpa [has, Table.contains] using hk
  have hold := h kind subject i
  rw [index_insert, find?_insert]
  by_cases hkey : (t.kind, t.subject) = (kind, subject)
  · have hno : ¬ ∃ r, o.rows.find? i = some r ∧ r.kind = kind ∧ r.subject = subject := by
      rw [← hold, ← hkey, hnone]
      rintro ⟨e, he, -⟩
      cases he
    obtain ⟨rfl, rfl⟩ := Prod.mk.inj hkey
    split_ifs with hi
    · simp [hi, TaskRow.ofNew]
    · simp [hi, hno]
  · rw [if_neg hkey, hold]
    split_ifs with hi
    · subst hi
      simp only [hid, Option.some.injEq, exists_eq_left']
      constructor
      · rintro ⟨r, hr, -⟩
        cases hr
      · rintro ⟨rfl, rfl⟩
        exact (hkey rfl).elim
    · rfl

theorem Indexed.remove (h : o.Indexed) (subjects : List Ident) :
    (o.removeSubjects subjects).Indexed := by
  intro kind subject id
  have hold := h kind subject id
  rw [index_removeSubjects, find?_removeSubjects]
  constructor
  · rintro ⟨e, he, ht⟩
    obtain ⟨he, hs⟩ := Option.filter_eq_some_iff.1 he
    obtain ⟨r, hr, hk, hsub⟩ := hold.1 ⟨e, he, ht⟩
    have hes : e.subject = subject := congrArg Prod.snd (Table.find?_eq_some_iff.1 he).2
    refine ⟨r, Option.filter_eq_some_iff.2 ⟨hr, ?_⟩, hk, hsub⟩
    simpa [hsub, hes] using hs
  · rintro ⟨r, hr, hk, hsub⟩
    obtain ⟨hr, hs⟩ := Option.filter_eq_some_iff.1 hr
    obtain ⟨e, he, ht⟩ := hold.2 ⟨r, hr, hk, hsub⟩
    have hes : e.subject = subject := congrArg Prod.snd (Table.find?_eq_some_iff.1 he).2
    refine ⟨e, Option.filter_eq_some_iff.2 ⟨he, ?_⟩, ht⟩
    simpa [hsub, hes] using hs

theorem Move.indexed (h : Move allowed o n ts o' n') (hb : o.Below n) (hi : o.Indexed) :
    o'.Indexed := by
  cases h with
  | mint => exact hi
  | insert t now _ hk hn _ => exact hi.insert hk (hb.find?_eq_none hn) now
  | settle _ hset => exact hi.settle hset
  | claim _ worker kinds max now => exact hi.claim worker kinds max now
  | remove _ subjects => exact hi.remove subjects

/-- Listing the tasks and looking them up tell the same. -/
theorem Indexed.exists_row_iff (h : o.Indexed) (kind : TaskKind) (subject : Ident) :
    (∃ r ∈ o.rows.rows, r.kind = kind ∧ r.subject = subject) ↔ o.has kind subject = true := by
  constructor
  · rintro ⟨r, hr, hkind, hsubject⟩
    obtain ⟨e, he, -⟩ := (h kind subject r.id).2 ⟨r, Table.mem_rows_iff.1 hr, hkind, hsubject⟩
    exact has_iff.2 ⟨e, he⟩
  · intro hhas
    obtain ⟨e, he⟩ := has_iff.1 hhas
    obtain ⟨r, hf, hkind, hsubject⟩ := (h kind subject e.task).1 ⟨e, he, rfl⟩
    exact ⟨r, (Table.find?_eq_some_iff.1 hf).1, hkind, hsubject⟩

/-- No two tasks have the kind and the subject in common. -/
theorem Indexed.nodup_tasks (h : o.Indexed) :
    (o.rows.rows.map fun r => (r.kind, r.subject)).Nodup := by
  refine List.Nodup.map_on ?_ (List.Nodup.of_map _ o.rows.distinct)
  intro r hr r' hr' he
  obtain ⟨hkind, hsubject⟩ := Prod.mk.inj he
  obtain ⟨e, hf, hid⟩ := (h r.kind r.subject r.id).2 ⟨r, Table.mem_rows_iff.1 hr, rfl, rfl⟩
  obtain ⟨e', hf', hid'⟩ :=
    (h r'.kind r'.subject r'.id).2 ⟨r', Table.mem_rows_iff.1 hr', rfl, rfl⟩
  rw [← hkind, ← hsubject, hf] at hf'
  cases hf'
  exact Table.eq_of_key_eq hr hr' (hid.symm.trans hid')

structure Sound (o : Outbox) : Prop where
  row : ∀ r ∈ o.rows.rows, r.Sound
  index : ∀ kind subject id, (∃ e, o.index.find? (kind, subject) = some e ∧ e.task = id) ↔
    ∃ r, o.rows.find? id = some r ∧ r.kind = kind ∧ r.subject = subject
  seqs : (o.rows.rows.map TaskRow.seq).Nodup
  seq_le : ∀ r ∈ o.rows.rows, r.seq ≤ o.seq

theorem sound_empty : empty.Sound :=
  ⟨by simp [empty, Table.empty], indexed_empty, by simp [empty, Table.empty],
    by simp [empty, Table.empty]⟩

theorem Sound.indexed (h : o.Sound) : o.Indexed := h.index

theorem Sound.update (h : o.Sound) {f : TaskRow → TaskRow} (hf : ∀ r, (f r).id = r.id)
    (hface : ∀ r ∈ o.rows.rows, (f r).face = r.face) (hs : ∀ r ∈ o.rows.rows, (f r).Sound) :
    (o.update f hf).Sound := by
  have hseq : ∀ r ∈ o.rows.rows, (f r).seq = r.seq := by
    intro r hr
    have hr := hface r hr
    simp only [TaskRow.face, Prod.mk.injEq] at hr
    exact hr.2.2.2.2
  have hmap : (o.rows.rows.map f).map TaskRow.seq = o.rows.rows.map TaskRow.seq := by
    rw [List.map_map]
    exact List.map_congr_left hseq
  refine ⟨?_, h.indexed.update hf hface, ?_, ?_⟩
  · intro r' hr'
    obtain ⟨r, hr, rfl⟩ := List.mem_map.1 hr'
    exact hs r hr
  · change ((o.rows.rows.map f).map TaskRow.seq).Nodup
    rw [hmap]
    exact h.seqs
  · intro r' hr'
    obtain ⟨r, hr, rfl⟩ := List.mem_map.1 hr'
    exact hseq r hr ▸ h.seq_le r hr

theorem Sound.settle (h : o.Sound) (hs : o.Settled o') : o'.Sound := by
  obtain ⟨f, hf, hstep, rfl⟩ := hs
  exact h.update hf (fun r hr => (hstep r hr).face_eq) fun r hr => (hstep r hr).sound (h.row r hr)

theorem Sound.claim (h : o.Sound) (worker : String) (kinds : List TaskKind) (max : Nat)
    (now : Instant) : (o.claim worker kinds max now).2.Sound := by
  rw [claim_eq_update]
  refine h.update _ (fun r _ => o.face_claimed worker kinds max now r) ?_
  intro r hr
  unfold claimed
  split_ifs with hc
  · have hp := (find?_of_mem_claimable hc).2
    exact TaskRow.sound_claim hp (h.row r hr) worker now
  · exact h.row r hr

theorem Sound.insert (h : o.Sound) {t : NewTask} {id : Ident} (hm : 1 ≤ t.maxAttempts)
    (hk : o.has t.kind t.subject = false) (hid : o.rows.find? id = none) (now : Instant) :
    (o.insert t id now).Sound := by
  have hrows := insert_rows hid t now
  refine ⟨?_, h.indexed.insert hk hid now, ?_, ?_⟩
  · intro r hr
    rw [hrows] at hr
    rcases List.mem_append.1 hr with hr | hr
    · exact h.row r hr
    · cases List.mem_singleton.1 hr
      exact TaskRow.sound_ofNew hm id _ now
  · rw [hrows, List.map_append, List.nodup_append']
    refine ⟨h.seqs, by simp, ?_⟩
    intro q hq hq'
    obtain ⟨r, hr, rfl⟩ := List.mem_map.1 hq
    have hle := h.seq_le r hr
    have he : r.seq = o.seq + 1 := by simpa [TaskRow.ofNew] using hq'
    omega
  · intro r hr
    rw [hrows] at hr
    rcases List.mem_append.1 hr with hr | hr
    · exact (h.seq_le r hr).trans (Nat.le_succ o.seq)
    · cases List.mem_singleton.1 hr
      exact le_rfl

theorem Sound.remove (h : o.Sound) (subjects : List Ident) : (o.removeSubjects subjects).Sound :=
  ⟨fun r hr => h.row r (List.mem_filter.1 hr).1, h.indexed.remove subjects,
    (List.filter_sublist.map TaskRow.seq).nodup h.seqs,
    fun r hr => h.seq_le r (List.mem_filter.1 hr).1⟩

theorem Move.sound (h : Move allowed o n ts o' n') (ha : ∀ t, allowed t → 1 ≤ t.maxAttempts)
    (hb : o.Below n) (hs : o.Sound) : o'.Sound := by
  cases h with
  | mint => exact hs
  | insert t now hok hk hn _ => exact hs.insert (ha t hok) hk (hb.find?_eq_none hn) now
  | settle _ hset => exact hs.settle hset
  | claim _ worker kinds max now => exact hs.claim worker kinds max now
  | remove _ subjects => exact hs.remove subjects

theorem Moves.rows_below (h : Moves allowed o n ts o' n') (hb : o.Below n) : o'.Below n' := by
  induction h with
  | done => exact hb
  | snoc _ hm ih => exact hm.rows_below (ih hb)

theorem Moves.sound (h : Moves allowed o n ts o' n') (ha : ∀ t, allowed t → 1 ≤ t.maxAttempts)
    (hb : o.Below n) (hs : o.Sound) : o'.Sound := by
  induction h with
  | done => exact hs
  | snoc hms hm ih => exact hm.sound ha (hms.rows_below hb) (ih hb)

theorem Moves.indexed (h : Moves allowed o n ts o' n') (hb : o.Below n) (hi : o.Indexed) :
    o'.Indexed := by
  induction h with
  | done => exact hi
  | snoc hms hm ih => exact hm.indexed (hms.rows_below hb) (ih hb)

end Outbox

end BoardActivity
