/-!
# Tables

A table is a list of rows, each known by a key that is part of it; no two rows have the same key.
`put` inserts a row or replaces the one with its key, in place; `keep` drops the rows that fail a
test; `find?` looks a row up. What they do is said through `find?`: a lookup after `put` gives the
new row at its key and the old answer elsewhere.
-/

namespace BoardActivity

/-- Rows that carry their key. -/
class Keyed (α : Type) (κ : outParam Type) where
  key : α → κ

/-- Rows with distinct keys. -/
structure Table (α : Type) {κ : Type} [Keyed α κ] where
  rows : List α
  distinct : (rows.map Keyed.key).Nodup

namespace Table

variable {α κ : Type} [Keyed α κ] [DecidableEq κ]

instance [DecidableEq α] : DecidableEq (Table α) := fun s t =>
  decidable_of_iff (s.rows = t.rows) ⟨fun h => by cases s; cases t; simp_all, fun h => by rw [h]⟩

instance [Repr α] : Repr (Table α) := ⟨fun t n => reprPrec t.rows n⟩

def empty : Table α := ⟨[], by simp⟩

instance : Inhabited (Table α) := ⟨empty⟩

def find? (t : Table α) (k : κ) : Option α := t.rows.find? fun r => decide (Keyed.key r = k)

def contains (t : Table α) (k : κ) : Bool := (t.find? k).isSome

/-- The rows with one replaced, or added at the end. -/
def putRow (row : α) : List α → List α
  | [] => [row]
  | r :: rs => if Keyed.key r = Keyed.key row then row :: rs else r :: putRow row rs

theorem key_mem_putRow {row : α} {rs : List α} {k : κ} :
    k ∈ (putRow row rs).map Keyed.key ↔ k = Keyed.key row ∨ k ∈ rs.map Keyed.key := by
  induction rs with
  | nil => simp [putRow]
  | cons r rs ih =>
    unfold putRow
    split
    next h => simp [h]
    next h =>
      simp only [List.map_cons, List.mem_cons, ih]
      grind

theorem nodup_putRow {row : α} {rs : List α} (h : (rs.map Keyed.key).Nodup) :
    ((putRow row rs).map Keyed.key).Nodup := by
  induction rs with
  | nil => simp [putRow]
  | cons r rs ih =>
    simp only [List.map_cons, List.nodup_cons] at h
    unfold putRow
    split
    next he =>
      rw [List.map_cons, List.nodup_cons, ← he]
      exact h
    next hne =>
      simp only [List.map_cons, List.nodup_cons]
      refine ⟨fun hm => ?_, ih h.2⟩
      rcases key_mem_putRow.1 hm with hk | hk
      · exact hne hk
      · exact h.1 hk

/-- Inserts a row, or replaces the one with its key. -/
def put (t : Table α) (row : α) : Table α := ⟨putRow row t.rows, nodup_putRow t.distinct⟩

def putAll (t : Table α) (rows : List α) : Table α := rows.foldl put t

def ofList (rows : List α) : Table α := putAll empty rows

def keep (p : α → Bool) (t : Table α) : Table α :=
  ⟨t.rows.filter p, (List.filter_sublist.map Keyed.key).nodup t.distinct⟩

/-- Each row changed, its key kept. -/
def mapRows (f : α → α) (h : ∀ r, Keyed.key (f r) = Keyed.key r) (t : Table α) : Table α :=
  ⟨t.rows.map f, by
    have : (t.rows.map f).map Keyed.key = t.rows.map Keyed.key := by simp [h]
    rw [this]; exact t.distinct⟩

def size (t : Table α) : Nat := t.rows.length

@[simp] theorem find?_empty (k : κ) : (empty : Table α).find? k = none := rfl

/-- A lookup finds exactly the rows of the table. -/
theorem find?_eq_some_iff {t : Table α} {k : κ} {r : α} :
    t.find? k = some r ↔ r ∈ t.rows ∧ Keyed.key r = k := by
  obtain ⟨rs, hd⟩ := t
  unfold find?
  induction rs with
  | nil => simp
  | cons s rs ih =>
    simp only [List.map_cons, List.nodup_cons] at hd
    by_cases hs : Keyed.key s = k
    · simp only [List.find?_cons, hs, decide_true, Option.some.injEq, List.mem_cons]
      constructor
      · rintro rfl; exact ⟨.inl rfl, hs⟩
      · rintro ⟨rfl | hr, hk⟩
        · rfl
        · exact absurd (List.mem_map.2 ⟨r, hr, hk.trans hs.symm⟩) hd.1
    · simp only [List.find?_cons, hs, decide_false, ih hd.2, List.mem_cons]
      grind

theorem find?_putRow (row : α) (rs : List α) (k : κ) :
    (putRow row rs).find? (fun r => decide (Keyed.key r = k)) =
      if Keyed.key row = k then some row else rs.find? fun r => decide (Keyed.key r = k) := by
  induction rs with
  | nil => by_cases h : Keyed.key row = k <;> simp [putRow, h]
  | cons r rs ih =>
    unfold putRow
    split
    next h => by_cases hk : Keyed.key row = k <;> simp [hk, h]
    next h =>
      by_cases hr : Keyed.key r = k
      · have hne : Keyed.key row ≠ k := fun e => h (hr.trans e.symm)
        simp [hr, hne]
      · simp [hr, ih]

theorem find?_put (t : Table α) (row : α) (k : κ) :
    (t.put row).find? k = if Keyed.key row = k then some row else t.find? k :=
  find?_putRow row t.rows k

@[simp] theorem find?_put_self (t : Table α) (row : α) :
    (t.put row).find? (Keyed.key row) = some row := by simp [find?_put]

theorem mem_rows_put {t : Table α} {row r : α} :
    r ∈ (t.put row).rows ↔ r = row ∨ (r ∈ t.rows ∧ Keyed.key r ≠ Keyed.key row) := by
  have h : ∀ (u : Table α), r ∈ u.rows ↔ u.find? (Keyed.key r) = some r := fun u =>
    ⟨fun hm => find?_eq_some_iff.2 ⟨hm, rfl⟩, fun hf => (find?_eq_some_iff.1 hf).1⟩
  rw [h, find?_put, h]
  grind

/-- A lookup in the rows kept. -/
theorem find?_keep (p : α → Bool) (t : Table α) (k : κ) :
    (t.keep p).find? k = (t.find? k).filter p := by
  cases h : t.find? k with
  | some r =>
    obtain ⟨hr, hk⟩ := find?_eq_some_iff.1 h
    by_cases hp : p r
    · rw [Option.filter_some_pos hp]
      exact find?_eq_some_iff.2 ⟨List.mem_filter.2 ⟨hr, hp⟩, hk⟩
    · rw [Option.filter_some_neg (by simpa using hp)]
      cases h' : (t.keep p).find? k with
      | none => rfl
      | some r' =>
        obtain ⟨hr', hk'⟩ := find?_eq_some_iff.1 h'
        obtain ⟨hm, hp'⟩ := List.mem_filter.1 hr'
        rw [find?_eq_some_iff.2 ⟨hm, hk'⟩] at h
        grind
  | none =>
    cases h' : (t.keep p).find? k with
    | none => rfl
    | some r' =>
      obtain ⟨hr', hk'⟩ := find?_eq_some_iff.1 h'
      rw [find?_eq_some_iff.2 ⟨(List.mem_filter.1 hr').1, hk'⟩] at h
      cases h

end Table

end BoardActivity
